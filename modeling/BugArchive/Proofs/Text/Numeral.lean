import BugArchive.Proofs.Text.Blank
import BugArchive.Proofs.Text.Span
import BugArchive.Text.Numeral

namespace BugArchive.Text

lemma decimalValue?_of_isDigit {c : Char} (h : c.isDigit = true) :
    decimalValue? c = some (c.toNat - 48) := by
  obtain ⟨hl, hh⟩ := isDigit_bounds h
  have hf : decimalZeros.find? (fun z => z ≤ c.toNat && c.toNat ≤ z + 9) = some 0x30 := by
    rw [decimalZeros, List.find?_cons_of_pos]
    simp only [Bool.and_eq_true, decide_eq_true_eq]
    omega
  rw [decimalValue?, hf, Option.map_some]

lemma decimalValue?_lt {c : Char} {d : Nat} (h : decimalValue? c = some d) : d < 10 := by
  obtain ⟨z, hz, rfl⟩ := Option.map_eq_some_iff.mp h
  have hp := List.find?_some hz
  simp only [Bool.and_eq_true, decide_eq_true_eq] at hp
  omega

lemma isDecimal_of_isDigit {c : Char} (h : c.isDigit = true) : isDecimal c = true := by
  rw [isDecimal, decimalValue?_of_isDigit h, Option.isSome_some]

namespace Numeral

def IsShort (n : Int) : Prop := n.natAbs < Nat.pow 10 maxDigits

instance (n : Int) : Decidable (IsShort n) := inferInstanceAs (Decidable (_ < _))

lemma lt_pow_of_lt_ten {n k : Nat} (h : n < 10) (hk : k ≠ 0) : n < Nat.pow 10 k :=
  Nat.lt_of_lt_of_le h (Nat.le_self_pow hk 10)

lemma isShort_of_lt_ten {n : Int} (h : n.natAbs < 10) : IsShort n :=
  lt_pow_of_lt_ten h (by decide)

lemma isDigit_of_mem {n : Nat} {c : Char} (h : c ∈ Nat.toDigits 10 n) : c.isDigit = true :=
  Nat.isDigit_of_mem_toDigits (by decide) (by decide) h

lemma value_digits {cs : List Char} (h : ∀ c ∈ cs, c.isDigit = true) :
    value (cs.filterMap decimalValue?) = Nat.ofDigitChars 10 cs 0 := by
  rw [value, Nat.ofDigitChars_eq_foldl]
  generalize 0 = acc
  induction cs generalizing acc with
  | nil => rfl
  | cons c cs ih =>
    rw [List.filterMap_cons_some (decimalValue?_of_isDigit (h c List.mem_cons_self)),
      List.foldl_cons, List.foldl_cons, ih fun d hd => h d (List.mem_cons_of_mem c hd)]
    rfl

lemma length_decimals {cs : List Char} (h : ∀ c ∈ cs, isDecimal c = true) :
    (cs.filterMap decimalValue?).length = cs.length := by
  rw [List.length_filterMap_eq_countP, List.countP_eq_length]
  exact h

lemma length_toDigits_le {n k : Nat} (hk : 0 < k) (h : n < Nat.pow 10 k) :
    (Nat.toDigits 10 n).length ≤ k :=
  (Nat.length_toDigits_le_iff (by decide) hk).mpr h

lemma isShort_iff_length {n : Int} : IsShort n ↔ (Nat.toDigits 10 n.natAbs).length ≤ maxDigits := by
  have hk : 0 < maxDigits := by decide
  rw [IsShort]
  generalize maxDigits = k at hk ⊢
  exact (Nat.length_toDigits_le_iff (by decide) hk).symm

lemma isGrouped_of_not_mem {cs : List Char} (h : '_' ∉ cs) : isGrouped cs = !cs.isEmpty := by
  simp [isGrouped, List.splitOn_eq_singleton h]

lemma readUnsigned_plain {cs : List Char} (h : '_' ∉ cs) :
    readUnsigned cs =
      let run := cs.takeWhile isDecimal
      if run = [] then .error .malformed
      else if maxDigits < run.length then .error (.tooLong run.length)
      else if run.length < cs.length then .error .malformed
      else .ok (value (run.filterMap decimalValue?)) := by
  have hrun : cs.takeWhile (fun c => isDecimal c || c == '_') = cs.takeWhile isDecimal := by
    induction cs with
    | nil => rfl
    | cons c cs ih =>
      have hc : (c == '_') = false :=
        beq_eq_false_iff_ne.mpr (Ne.symm (List.ne_of_not_mem_cons h))
      rw [List.takeWhile_cons, List.takeWhile_cons, hc, Bool.or_false,
        ih (List.not_mem_of_not_mem_cons h)]
  have hplain : '_' ∉ cs.takeWhile isDecimal := fun hm => h (List.takeWhile_subset _ hm)
  have hlength := length_decimals (List.all_eq_true.mp (List.all_takeWhile (p := isDecimal) (l := cs)))
  simp only [readUnsigned, hrun, isGrouped_of_not_mem hplain, hlength, Bool.not_not,
    List.isEmpty_iff]

lemma readUnsigned_toDigits {n : Nat} (h : n < Nat.pow 10 maxDigits) :
    readUnsigned (Nat.toDigits 10 n) = .ok n := by
  have hm : ∀ c ∈ Nat.toDigits 10 n, c.isDigit = true := fun c => isDigit_of_mem
  have hr : (Nat.toDigits 10 n).takeWhile isDecimal = Nat.toDigits 10 n :=
    takeWhile_all fun c hc => isDecimal_of_isDigit (hm c hc)
  have hl : (Nat.toDigits 10 n).length ≤ maxDigits := length_toDigits_le (by decide) h
  rw [readUnsigned_plain Nat.underscore_not_in_toDigits]
  simp only [hr, value_digits hm, Nat.ofDigitChars_ten_toDigits]
  rw [if_neg Nat.toDigits_ne_nil, if_neg (Nat.not_lt.mpr hl), if_neg (Nat.lt_irrefl _)]

lemma strip_write (n : Int) : strip (write n) = write n := by
  have hd : ∀ c ∈ Nat.toDigits 10 n.natAbs, isBlank c = false := fun c hc =>
    isBlank_of_isDigit (isDigit_of_mem hc)
  have hw : ∀ c ∈ write n, isBlank c = false := by
    intro c hc
    rcases List.mem_append.mp hc with hs | hc
    · split at hs
      · obtain rfl := List.mem_singleton.mp hs
        decide
      · exact absurd hs List.not_mem_nil
    · exact hd c hc
  exact strip_of_ends (fun c hc => hw c (List.mem_of_mem_head? hc))
    fun c hc => hw c (List.mem_of_getLast? hc)

lemma splitSign_of_unsigned {cs : List Char} (h : ∀ c ∈ cs.head?, c ≠ '-' ∧ c ≠ '+') :
    splitSign cs = (false, cs) :=
  splitSign.eq_3 cs (fun _ hc => (h '-' (hc ▸ rfl)).1 rfl) fun _ hc => (h '+' (hc ▸ rfl)).2 rfl

lemma read_of_unsigned {cs : List Char} (hs : strip cs = cs) (h : ∀ c ∈ cs, c ≠ '-' ∧ c ≠ '+') :
    read cs = (readUnsigned cs).map fun (n : Nat) => (n : Int) := by
  rw [read, hs, splitSign_of_unsigned fun c hc => h c (List.mem_of_mem_head? hc)]
  rfl

lemma splitSign_write (n : Int) : splitSign (write n) = (decide (n < 0), Nat.toDigits 10 n.natAbs) := by
  by_cases h : n < 0
  · simp [write, h, splitSign]
  · simp only [write, h, if_false, List.nil_append, decide_false]
    refine splitSign_of_unsigned fun c hc => ?_
    have hd : c.isDigit = true := isDigit_of_mem (List.mem_of_mem_head? hc)
    exact ⟨fun he => absurd (he ▸ hd) (by decide), fun he => absurd (he ▸ hd) (by decide)⟩

theorem read_write {n : Int} (h : IsShort n) : read (write n) = .ok n := by
  rw [read, strip_write, splitSign_write]
  simp only [readUnsigned_toDigits h, Except.map]
  congr 1
  by_cases hn : n < 0
  · simp only [hn, decide_true, if_true]
    omega
  · simp only [hn, decide_false, Bool.false_eq_true, if_false]
    omega

lemma write?_of_isShort {n : Int} (h : IsShort n) : write? n = some (write n) := by
  rw [write?]
  exact if_pos h

lemma foldl_digits_lt {ds : List Nat} (h : ∀ d ∈ ds, d < 10) (acc : Nat) :
    ds.foldl (fun n d => 10 * n + d) acc < (acc + 1) * Nat.pow 10 ds.length := by
  induction ds generalizing acc with
  | nil => simp
  | cons d ds ih =>
    have hd := h d List.mem_cons_self
    have hi := ih (fun x hx => h x (List.mem_cons_of_mem d hx)) (10 * acc + d)
    have hm : (10 * acc + d + 1) * Nat.pow 10 ds.length ≤ (acc + 1) * 10 * Nat.pow 10 ds.length :=
      Nat.mul_le_mul_right _ (by omega)
    calc
      _ < (10 * acc + d + 1) * Nat.pow 10 ds.length := hi
      _ ≤ (acc + 1) * 10 * Nat.pow 10 ds.length := hm
      _ = (acc + 1) * Nat.pow 10 (d :: ds).length := by
        rw [List.length_cons, Nat.mul_assoc]
        congr 1
        exact (Nat.pow_succ').symm

lemma readUnsigned_lt {cs : List Char} {n : Nat} (h : readUnsigned cs = .ok n) :
    n < Nat.pow 10 maxDigits := by
  simp only [readUnsigned] at h
  split at h
  · cases h
  split at h
  · cases h
  rename_i hl
  split at h
  · cases h
  obtain rfl := Except.ok.inj h
  have hd : ∀ d ∈ (cs.takeWhile fun c => isDecimal c || c == '_').filterMap decimalValue?, d < 10 := by
    intro d hd
    obtain ⟨c, -, hc⟩ := List.mem_filterMap.mp hd
    exact decimalValue?_lt hc
  have hv := foldl_digits_lt hd 0
  rw [Nat.zero_add, Nat.one_mul] at hv
  generalize maxDigits = k at hl ⊢
  exact Nat.lt_of_lt_of_le hv (Nat.pow_le_pow_right (by decide) (Nat.not_lt.mp hl))

theorem isShort_of_read {cs : List Char} {n : Int} (h : read cs = .ok n) : IsShort n := by
  simp only [read] at h
  cases hu : readUnsigned (splitSign (strip cs)).2 with
  | error e => simp [hu, Except.map] at h
  | ok m =>
    have hm := readUnsigned_lt hu
    simp only [hu, Except.map, Except.ok.injEq] at h
    subst h
    unfold IsShort
    split
    · rwa [Int.natAbs_neg, Int.natAbs_natCast]
    · rwa [Int.natAbs_natCast]

end Numeral

end BugArchive.Text
