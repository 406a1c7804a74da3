import BugArchive.Proofs.Text.Utf8
import Mathlib.Tactic.SplitIfs
import Mathlib.Tactic.Lemma

/-! Octets below 0x80 stand for themselves wherever they are: no broken character before them takes
them along, and no other octets give the characters that they stand for. -/

namespace BugArchive.Text.Utf8

lemma toNat_ofNat {n : Nat} (h : n < 0x80) : (Char.ofNat n).toNat = n := by
  have hv : n.isValidChar := .inl (Nat.lt_trans h (by decide))
  have hchar : Char.ofNat n = Char.ofNatAux n hv := dif_pos hv
  rw [hchar]
  rfl

lemma toNat_ofNat_cases (n : Nat) : (Char.ofNat n).toNat = n ∨ (Char.ofNat n).toNat = 0 := by
  by_cases hv : n.isValidChar
  · have hchar : Char.ofNat n = Char.ofNatAux n hv := dif_pos hv
    exact .inl (congrArg Char.toNat hchar)
  · exact .inr (congrArg Char.toNat (dif_neg hv))

lemma low_of_lead? {n : Nat} {l : Lead} (h : lead? n = some l) : 0x80 ≤ l.low := by
  unfold lead? at h
  split_ifs at h <;> cases h <;> dsimp only <;> omega

section Split

variable {b : UInt8} (hb : b.toNat < 0x80) (ys : List UInt8)

include hb

lemma complete_append {l : Lead} (hl : 0x80 ≤ l.low) (xs : List UInt8) :
    complete l (xs ++ b :: ys) = ((complete l xs).1, (complete l xs).2 ++ b :: ys) := by
  induction xs generalizing l with
  | nil =>
    have hlow : ¬ (l.low ≤ b.toNat ∧ b.toNat ≤ l.high) := fun h => by omega
    rw [List.nil_append, complete, complete, if_neg hlow]
    split <;> rfl
  | cons x xs ih =>
    rw [List.cons_append, complete, complete]
    split
    · rfl
    split
    · exact ih (Nat.le_refl _)
    · rfl

lemma next_append (x : UInt8) (xs : List UInt8) :
    next x (xs ++ b :: ys) = ((next x xs).1, (next x xs).2 ++ b :: ys) := by
  unfold next
  cases hl : lead? x.toNat with
  | none => rfl
  | some l => exact complete_append hb ys (low_of_lead? hl) xs

lemma next_ascii : next b ys = (some (Char.ofNat b.toNat), ys) := by
  have h := next_one (v := b.toNat) ys (by omega)
  rwa [UInt8.ofNat_toNat] at h

end Split

lemma complete_suffix (l : Lead) (bs : List UInt8) : (complete l bs).2 <:+ bs := by
  induction bs generalizing l with
  | nil => exact List.suffix_refl []
  | cons b bs ih =>
    rw [complete]
    split
    · exact List.suffix_refl _
    split
    · exact (ih _).trans (List.suffix_cons b bs)
    · exact List.suffix_refl _

lemma next_suffix (b : UInt8) (bs : List UInt8) : (next b bs).2 <:+ bs := by
  unfold next
  split
  · exact List.suffix_refl bs
  · exact complete_suffix _ bs

lemma decodeLossy_nil : decodeLossy [] = [] := by
  rw [decodeLossy, scan]
  rfl

lemma decodeLossy_cons (x : UInt8) (xs : List UInt8) :
    decodeLossy (x :: xs) = (next x xs).1.getD '\uFFFD' :: decodeLossy (next x xs).2 := by
  rw [decodeLossy, scan, scan_acc]
  rfl

lemma eq_nil_of_decodeLossy {xs : List UInt8} (h : decodeLossy xs = []) : xs = [] := by
  cases xs with
  | nil => rfl
  | cons x xs =>
    rw [decodeLossy_cons] at h
    cases h

lemma decodeLossy_split {b : UInt8} (hb : b.toNat < 0x80) (xs ys : List UInt8) :
    decodeLossy (xs ++ b :: ys) = decodeLossy xs ++ Char.ofNat b.toNat :: decodeLossy ys := by
  induction h : xs.length using Nat.strongRecOn generalizing xs with
  | _ n ih =>
    subst h
    cases xs with
    | nil =>
      rw [List.nil_append, decodeLossy_cons, next_ascii hb, decodeLossy_nil]
      rfl
    | cons x xs =>
      have hlt : (next x xs).2.length < (x :: xs).length := Nat.lt_succ_of_le (length_next_le x xs)
      rw [List.cons_append, decodeLossy_cons, next_append hb, decodeLossy_cons, ih _ hlt _ rfl]
      rfl

def Lead.IsHigh (l : Lead) : Prop :=
  (l.more = 0 → 0x80 ≤ l.bits) ∧ (l.more = 1 → 2 ≤ l.bits) ∧
    (2 ≤ l.more → 1 ≤ l.bits ∨ 0x82 ≤ l.low)

lemma isHigh_of_lead? {n : Nat} {l : Lead} (h : lead? n = some l) (hn : 0x80 ≤ n) : l.IsHigh := by
  unfold lead? at h
  split_ifs at h <;> cases h <;> simp only [Lead.IsHigh] <;> omega

lemma exists_of_complete {l : Lead} (hl : l.IsHigh) {xs rest : List UInt8} {c : Char}
    (h : complete l xs = (some c, rest)) : ∃ v, 0x80 ≤ v ∧ c = Char.ofNat v := by
  induction xs generalizing l with
  | nil =>
    unfold complete at h
    split at h
    · rename_i hm
      exact ⟨l.bits, hl.1 hm, (Option.some.inj (Prod.mk.inj h).1).symm⟩
    · cases (Prod.mk.inj h).1
  | cons x xs ih =>
    unfold complete at h
    split at h
    · rename_i hm
      exact ⟨l.bits, hl.1 hm, (Option.some.inj (Prod.mk.inj h).1).symm⟩
    split at h
    · rename_i hm hx
      refine ih ?_ h
      obtain ⟨-, hone, hmore⟩ := hl
      simp only [Lead.IsHigh]
      omega
    · cases (Prod.mk.inj h).1

def IsPlain (c : Char) : Prop :=
  0 < c.toNat ∧ c.toNat < 0x80

lemma next_plain {c : Char} (hc : IsPlain c) {x : UInt8} {xs : List UInt8}
    (h : (next x xs).1 = some c) : x = UInt8.ofNat c.toNat := by
  by_cases hx : x.toNat < 0x80
  · rw [next_ascii hx] at h
    obtain rfl := Option.some.inj h
    rw [toNat_ofNat hx, UInt8.ofNat_toNat]
  · unfold next at h
    cases hl : lead? x.toNat with
    | none =>
      rw [hl] at h
      cases h
    | some l =>
      rw [hl] at h
      obtain ⟨v, hv, rfl⟩ := exists_of_complete (isHigh_of_lead? hl (by omega)) (Prod.ext h rfl)
      obtain ⟨h0, h1⟩ := hc
      rcases toNat_ofNat_cases v with h | h <;> omega

lemma encode_plain {c : Char} (hc : IsPlain c) : String.utf8EncodeChar c = [UInt8.ofNat c.toNat] := by
  have h : c.val.toNat ≤ 127 := Nat.le_of_lt_succ hc.2
  unfold String.utf8EncodeChar
  dsimp only
  rw [if_pos h]
  rfl

lemma ofNat_plain {c : Char} (hc : IsPlain c) :
    (UInt8.ofNat c.toNat).toNat < 0x80 ∧ Char.ofNat (UInt8.ofNat c.toNat).toNat = c := by
  have h : (UInt8.ofNat c.toNat).toNat = c.toNat := toNat_octet (Nat.lt_trans hc.2 (by decide))
  rw [h]
  exact ⟨hc.2, c.ofNat_toNat⟩

/-- Where a plain character is decoded, its octet stands. -/
lemma decodeLossy_eq_append {c : Char} (hc : IsPlain c) {bs : List UInt8} {front back : List Char}
    (h : decodeLossy bs = front ++ c :: back) :
    ∃ xs ys, bs = xs ++ UInt8.ofNat c.toNat :: ys ∧ decodeLossy xs = front ∧
      decodeLossy ys = back := by
  obtain ⟨hlt, hofNat⟩ := ofNat_plain hc
  suffices hs : ∃ xs ys, bs = xs ++ UInt8.ofNat c.toNat :: ys ∧ decodeLossy ys = back by
    obtain ⟨xs, ys, rfl, rfl⟩ := hs
    rw [decodeLossy_split hlt, hofNat] at h
    exact ⟨xs, ys, rfl, List.append_cancel_right h, rfl⟩
  induction front generalizing bs with
  | nil =>
    cases bs with
    | nil =>
      rw [decodeLossy_nil] at h
      cases h
    | cons x xs =>
      rw [decodeLossy_cons] at h
      obtain ⟨hx, hrest⟩ := List.cons.inj h
      have hnext : (next x xs).1 = some c := by
        cases hn : (next x xs).1 with
        | none =>
          rw [hn] at hx
          exact absurd hc.2 (hx ▸ by decide)
        | some d =>
          rw [hn] at hx
          exact congrArg some hx
      obtain rfl := next_plain hc hnext
      rw [next_ascii hlt] at hrest
      exact ⟨[], xs, rfl, hrest⟩
  | cons d front ih =>
    cases bs with
    | nil =>
      rw [decodeLossy_nil] at h
      cases h
    | cons x xs =>
      rw [decodeLossy_cons] at h
      obtain ⟨ws, ys, hws, hys⟩ := ih (List.cons.inj h).2
      obtain ⟨taken, htaken⟩ := next_suffix x xs
      refine ⟨x :: (taken ++ ws), ys, ?_, hys⟩
      rw [List.cons_append, List.append_assoc, ← hws, htaken]

lemma encode_cons (c : Char) (cs : List Char) :
    encode (c :: cs) = String.utf8EncodeChar c ++ encode cs :=
  List.flatMap_cons

lemma decodeLossy_eq_plain_append {cs back : List Char} (hc : ∀ c ∈ cs, IsPlain c) {bs : List UInt8}
    (h : decodeLossy bs = cs ++ back) : ∃ ys, bs = encode cs ++ ys ∧ decodeLossy ys = back := by
  induction cs generalizing bs with
  | nil => exact ⟨bs, rfl, h⟩
  | cons c cs ih =>
    obtain ⟨hhead, htail⟩ := List.forall_mem_cons.mp hc
    have hstart : decodeLossy bs = [] ++ c :: (cs ++ back) := h
    obtain ⟨xs, ys, rfl, hxs, hys⟩ := decodeLossy_eq_append hhead hstart
    obtain rfl := eq_nil_of_decodeLossy hxs
    obtain ⟨zs, rfl, hzs⟩ := ih htail hys
    refine ⟨zs, ?_, hzs⟩
    rw [encode_cons, encode_plain hhead]
    rfl

end BugArchive.Text.Utf8
