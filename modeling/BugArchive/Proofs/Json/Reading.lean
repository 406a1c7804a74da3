import BugArchive.Proofs.Json.RoundTrip
import Mathlib.Data.List.TakeWhile

/-! No integer in a value that was read is longer than the limit. -/

namespace BugArchive.Json

variable {limit : Nat} {cs rest : List Char} {v : Value} {n : Int}

section Numbers

lemma digitsValue_lt {ds : List Char} (h : ∀ c ∈ ds, isDigit c = true) :
    digitsValue ds < Nat.pow 10 ds.length := by
  have hd : ∀ d ∈ ds.map (fun c => c.toNat - '0'.toNat), d < 10 := by
    intro d hd
    obtain ⟨c, hc, rfl⟩ := List.mem_map.mp hd
    obtain ⟨-, hh⟩ := Text.isDigit_bounds (h c hc)
    change c.toNat - 48 < 10
    omega
  have hv := Text.Numeral.foldl_digits_lt hd 0
  rwa [Nat.zero_add, Nat.one_mul, List.length_map] at hv

lemma digits_eq_some {ds : List Char} (h : digits cs = some (ds, rest)) :
    ds ≠ [] ∧ ∀ c ∈ ds, isDigit c = true := by
  rw [digits] at h
  split at h
  · cases h
  · rename_i hne
    obtain ⟨rfl, rfl⟩ := Prod.mk.inj (Option.some.inj h)
    exact ⟨hne, fun c => List.mem_takeWhile_imp⟩

lemma length_toDigits_digitsValue {ds : List Char} (h : digits cs = some (ds, rest)) :
    (Nat.toDigits 10 (digitsValue ds)).length ≤ ds.length := by
  obtain ⟨hne, hdigits⟩ := digits_eq_some h
  exact Text.Numeral.length_toDigits_le (List.length_pos_of_ne_nil hne) (digitsValue_lt hdigits)

lemma holds_magnitude {negative : Bool} (h : magnitude limit negative cs = some (v, rest))
    (hn : v.Holds n) : (Nat.toDigits 10 n.natAbs).length ≤ limit := by
  simp only [magnitude, Option.bind_eq_bind, Option.bind_eq_some_iff,
    Option.guard_eq_some'] at h
  obtain ⟨⟨whole, _⟩, hwhole, -, -, _, hshort, ⟨part, _⟩, -, ⟨power, _⟩, -, h⟩ := h
  split at h
  · cases h
    cases hn
    have hvalue : (Int.natAbs ((if negative then -1 else 1) * (digitsValue whole : Int))) =
        digitsValue whole := by
      split <;> simp
    rw [hvalue]
    exact Nat.le_trans (length_toDigits_digitsValue hwhole) hshort
  · cases h
    exact absurd hn Value.not_holds_decimal

lemma holds_scalar (h : scalar limit cs = some (v, rest)) (hn : v.Holds n) :
    (Nat.toDigits 10 n.natAbs).length ≤ limit := by
  have hword {w : String} {u : Value} {cs : List Char} (hu : ¬ u.Holds n)
      (h : word w u cs = some (v, rest)) : (Nat.toDigits 10 n.natAbs).length ≤ limit := by
    rw [word] at h
    split at h
    · cases h
      exact absurd hn hu
    · cases h
  rw [scalar.eq_def] at h
  split at h
  · obtain ⟨_, -, h⟩ := Option.map_eq_some_iff.mp h
    cases h
    cases hn
  iterate 6
    · exact hword (by simp) h
  · exact holds_magnitude h hn
  · exact holds_magnitude h hn

end Numbers

section Items

variable {α : Type} {read : Reader α} {close : Char} {as : List α}

lemma exists_of_items {fuel : Nat} (h : items read close fuel cs = some (as, rest)) {a : α}
    (ha : a ∈ as) : ∃ front back, read front = some (a, back) := by
  induction fuel generalizing cs as rest with
  | zero => cases h
  | succ fuel ih =>
    simp only [items, Option.bind_eq_bind, Option.bind_eq_some_iff] at h
    obtain ⟨⟨b, _⟩, hb, h⟩ := h
    split at h
    · cases h
    split at h
    · cases h
      obtain rfl := List.mem_singleton.mp ha
      exact ⟨_, _, hb⟩
    split at h
    · obtain ⟨⟨bs, _⟩, hbs, h⟩ := Option.bind_eq_some_iff.mp h
      cases h
      rcases List.mem_cons.mp ha with rfl | ha
      · exact ⟨_, _, hb⟩
      · exact ih hbs ha
    · cases h

lemma exists_of_listOf (h : listOf read close cs = some (as, rest)) {a : α} (ha : a ∈ as) :
    ∃ front back, read front = some (a, back) := by
  rw [listOf] at h
  split at h
  · cases h
  split at h
  · cases h
    cases ha
  · exact exists_of_items h ha

lemma exists_of_field {read : Reader Value} {f : String × Value}
    (h : field read cs = some (f, rest)) : ∃ front back, read front = some (f.2, back) := by
  unfold field at h
  split at h
  · simp only [Option.bind_eq_bind, Option.bind_eq_some_iff] at h
    obtain ⟨_, -, h⟩ := h
    split at h
    · obtain ⟨_, hv, h⟩ := Option.bind_eq_some_iff.mp h
      cases h
      exact ⟨_, _, hv⟩
    · cases h
  · cases h

lemma exists_of_mergeFields {fs : List (String × Value)} {f : String × Value}
    (h : f ∈ mergeFields fs) : f.2 = .null ∨ ∃ g ∈ fs, g.2 = f.2 := by
  obtain ⟨name, -, rfl⟩ := List.mem_map.mp h
  cases hv : Value.field? name fs with
  | none => exact .inl rfl
  | some v => exact .inr ⟨_, Value.mem_of_field? hv, rfl⟩

end Items

lemma value_cases {k : Nat} (h : value limit k cs = some (v, rest)) :
    v = .list [] ∨ v = .object [] ∨
    (∃ j cs' vs, k = j + 1 ∧ listOf (value limit j) ']' cs' = some (vs, rest) ∧ v = .list vs) ∨
    (∃ j cs' fs, k = j + 1 ∧ listOf (field (value limit j)) '}' cs' = some (fs, rest) ∧
      v = .object (mergeFields fs)) ∨
    scalar limit cs = some (v, rest) := by
  rw [value.eq_def] at h
  split at h
  · obtain ⟨_, -, h⟩ := Option.map_eq_some_iff.mp h
    exact .inl (congrArg Prod.fst h).symm
  · obtain ⟨_, -, h⟩ := Option.map_eq_some_iff.mp h
    exact .inr (.inl (congrArg Prod.fst h).symm)
  · obtain ⟨⟨vs, _⟩, hvs, h⟩ := Option.map_eq_some_iff.mp h
    cases h
    exact .inr (.inr (.inl ⟨_, _, vs, rfl, hvs, rfl⟩))
  · obtain ⟨⟨fs, _⟩, hfs, h⟩ := Option.map_eq_some_iff.mp h
    cases h
    exact .inr (.inr (.inr (.inl ⟨_, _, fs, rfl, hfs, rfl⟩)))
  · exact .inr (.inr (.inr (.inr h)))

lemma holds_value {k : Nat} (h : value limit k cs = some (v, rest)) (hn : v.Holds n) :
    (Nat.toDigits 10 n.natAbs).length ≤ limit := by
  induction k using Nat.strongRecOn generalizing cs v rest with
  | ind k ih =>
    rcases value_cases h with rfl | rfl | ⟨j, _, vs, rfl, hvs, rfl⟩ | ⟨j, _, fs, rfl, hfs, rfl⟩ | h
    · simp at hn
    · simp at hn
    · obtain ⟨u, hu, hn⟩ := Value.holds_list.mp hn
      obtain ⟨_, _, hread⟩ := exists_of_listOf hvs hu
      exact ih j (Nat.lt_succ_self j) hread hn
    · obtain ⟨f, hf, hn⟩ := Value.holds_object.mp hn
      rcases exists_of_mergeFields hf with hnull | ⟨g, hg, hgf⟩
      · simp [hnull] at hn
      · obtain ⟨_, _, hfield⟩ := exists_of_listOf hfs hg
        obtain ⟨_, _, hread⟩ := exists_of_field hfield
        exact ih j (Nat.lt_succ_self j) hread (hgf ▸ hn)
    · exact holds_scalar h hn

lemma holds_read {limits : Limits} {s : String} (h : read limits s = some v) (hn : v.Holds n) :
    (Nat.toDigits 10 n.natAbs).length ≤ limits.digits := by
  simp only [read, Option.bind_eq_bind, Option.bind_eq_some_iff] at h
  obtain ⟨⟨u, _⟩, hu, _, -, h⟩ := h
  cases h
  exact holds_value hu hn

end BugArchive.Json
