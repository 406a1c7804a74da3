import BugArchive.Collection
import Mathlib.Tactic.Lemma

namespace BugArchive

namespace Finding.Key

variable {a b c : Key}

lemma precedes_iff : a.precedes b = true ↔
    a.className < b.className ∨ a.className = b.className ∧
      (a.type < b.type ∨ a.type = b.type ∧ a.priority < b.priority) := by
  simp [precedes]

@[simp]
lemma precedes_self (a : Key) : a.precedes a = false := by
  rw [← Bool.not_eq_true, precedes_iff]
  rintro (h | ⟨-, h | ⟨-, h⟩⟩)
  · exact String.lt_irrefl _ h
  · exact String.lt_irrefl _ h
  · exact Int.lt_irrefl _ h

lemma precedes_trans (hab : a.precedes b = true) (hbc : b.precedes c = true) :
    a.precedes c = true := by
  rw [precedes_iff] at hab hbc ⊢
  rcases hab with hab | ⟨hab, h⟩
  · rcases hbc with hbc | ⟨hbc, -⟩
    · exact .inl (String.lt_trans hab hbc)
    · exact .inl (hbc ▸ hab)
  rcases hbc with hbc | ⟨hbc, k⟩
  · exact .inl (hab ▸ hbc)
  refine .inr ⟨hab.trans hbc, ?_⟩
  rcases h with h | ⟨h, hn⟩
  · rcases k with k | ⟨k, -⟩
    · exact .inl (String.lt_trans h k)
    · exact .inl (k ▸ h)
  rcases k with k | ⟨k, kn⟩
  · exact .inl (h ▸ k)
  · exact .inr ⟨h.trans k, Int.lt_trans hn kn⟩

lemma precedes_asymm (h : a.precedes b = true) : b.precedes a = false := by
  rw [← Bool.not_eq_true]
  intro k
  have ha := precedes_trans h k
  rw [precedes_self] at ha
  cases ha

lemma eq_of_not_precedes (hab : a.precedes b = false) (hba : b.precedes a = false) : a = b := by
  rw [← Bool.not_eq_true, precedes_iff] at hab hba
  have hc : a.className = b.className := by
    rcases Std.lt_trichotomy a.className b.className with h | h | h
    · exact absurd (.inl h) hab
    · exact h
    · exact absurd (.inl h) hba
  have ht : a.type = b.type := by
    rcases Std.lt_trichotomy a.type b.type with h | h | h
    · exact absurd (.inr ⟨hc, .inl h⟩) hab
    · exact h
    · exact absurd (.inr ⟨hc.symm, .inl h⟩) hba
  have hp : a.priority = b.priority := by
    rcases Int.lt_trichotomy a.priority b.priority with h | h | h
    · exact absurd (.inr ⟨hc, .inr ⟨ht, h⟩⟩) hab
    · exact h
    · exact absurd (.inr ⟨hc.symm, .inr ⟨ht.symm, h⟩⟩) hba
  cases a
  cases b
  subst hc ht hp
  rfl

lemma not_precedes_trans (hba : b.precedes a = false) (hcb : c.precedes b = false) :
    c.precedes a = false := by
  rw [← Bool.not_eq_true]
  intro hca
  cases hab : a.precedes b with
  | true =>
    rw [precedes_trans hca hab] at hcb
    cases hcb
  | false =>
    obtain rfl := eq_of_not_precedes hab hba
    rw [hca] at hcb
    cases hcb

end Finding.Key

namespace Collection

lemma insertionPoint_spec (k : Finding.Key) (keys : Array Finding.Key) {lo hi : Nat} (h : lo ≤ hi) :
    (lo ≤ insertionPoint k keys lo hi ∧ insertionPoint k keys lo hi ≤ hi) ∧
      (∀ i, i + 1 = insertionPoint k keys lo hi → lo ≤ i → (keys[i]?).any k.precedes = false) ∧
      (insertionPoint k keys lo hi < hi →
        (keys[insertionPoint k keys lo hi]?).any k.precedes = true) := by
  fun_induction insertionPoint k keys lo hi with
  | case1 lo hi hlt mid hm ih =>
    obtain ⟨⟨hl, hh⟩, hbefore, hat⟩ := ih (by omega)
    refine ⟨⟨hl, by omega⟩, hbefore, fun hi' => ?_⟩
    by_cases hk : insertionPoint k keys lo mid < mid
    · exact hat hk
    · have he : insertionPoint k keys lo mid = mid := by omega
      rw [he]
      exact hm
  | case2 lo hi hlt mid hm ih =>
    obtain ⟨⟨hl, hh⟩, hbefore, hat⟩ := ih (by omega)
    refine ⟨⟨by omega, hh⟩, fun i hi' hlo => ?_, hat⟩
    by_cases hk : mid + 1 ≤ i
    · exact hbefore i hi' hk
    · obtain rfl : i = mid := by omega
      simpa using hm
  | case3 lo hi hlt =>
    exact ⟨⟨Nat.le_refl lo, h⟩, fun i hi' hlo => by omega, fun hi' => absurd hi' hlt⟩

end Collection

end BugArchive
