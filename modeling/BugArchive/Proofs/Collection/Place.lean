import BugArchive.Proofs.Collection.Order

namespace BugArchive.Collection

open Finding

variable {fs front back : List Finding} {f : Finding}

/-- Whether a finding fits at a place: the one in front of it does not come later, and the one that
stood there does. -/
structure Fits (fs : List Finding) (f : Finding) (k : ℕ) : Prop where
  within : k ≤ fs.length
  front : ∀ g, 0 < k → fs[k - 1]? = some g → g.rank ≤ f.rank
  back : ∀ g, fs[k]? = some g → f.rank < g.rank

lemma fits_append (hf : ∀ g ∈ front.getLast?, f.key.precedes g.key = false)
    (hb : ∀ g ∈ back.head?, f.key.precedes g.key = true) :
    Fits (front ++ back) f front.length where
  within := by
    rw [List.length_append]
    exact Nat.le_add_right _ _
  front g hk hg := by
    rw [List.getElem?_append_left (by omega), ← List.getLast?_eq_getElem?] at hg
    exact rank_le_iff.mpr (hf g hg)
  back g hg := by
    rw [List.getElem?_append_right (Nat.le_refl _), Nat.sub_self, ← List.head?_eq_getElem?] at hg
    exact rank_lt_iff.mpr (hb g hg)

lemma exists_insert_eq (h : f ∉ fs) :
    ∃ k, Fits fs f k ∧ insert fs f = fs.take k ++ f :: fs.drop k := by
  obtain ⟨front, back, rfl, hi, hf, hb⟩ := insert_split h
  refine ⟨front.length, fits_append hf hb, ?_⟩
  rw [hi, List.take_left, List.drop_left]

variable {c : Collection}

lemma tryAdd_of_mem (h : f ∈ c.findings) : c.tryAdd f = (false, c) := by
  have hc : c.contains f = true := List.contains_iff_mem.mpr h
  rw [tryAdd, add, if_pos hc, hc]
  rfl

lemma tryAdd_of_not_mem (h : f ∉ c.findings) :
    c.tryAdd f = (true, { c with findings := insert c.findings f }) := by
  have hc : c.contains f = false := Bool.eq_false_iff.mpr fun hc => h (List.contains_iff_mem.mp hc)
  rw [tryAdd, add_eq, hc]
  rfl

/-- A finding that is there already, wherever it stands, changes nothing. Any other is put in at one
place where it fits, and all others stay in the order that they have. -/
theorem tryAdd_fits (c : Collection) (f : Finding) :
    if f ∈ c.findings then c.tryAdd f = (false, c)
    else ∃ k, Fits c.findings f k ∧ c.tryAdd f =
      (true, { c with findings := c.findings.take k ++ f :: c.findings.drop k }) := by
  split
  · rename_i h
    exact tryAdd_of_mem h
  · rename_i h
    obtain ⟨k, hk, hi⟩ := exists_insert_eq h
    refine ⟨k, hk, ?_⟩
    rw [tryAdd_of_not_mem h, hi]

def shuffled : Collection :=
  Collection.addDetail ⟨[⟨"A", 2, []⟩, ⟨"B", 2, []⟩, ⟨"C", 2, []⟩], [], [], []⟩ 0 (.inClass "Z")

theorem tryAdd_fits_shuffled : ¬ IsSorted shuffled.findings ∧
    shuffled.tryAdd ⟨"A", 2, [.inClass "Z"]⟩ = (false, shuffled) ∧
    ∃ k, Fits shuffled.findings ⟨"B", 1, []⟩ k ∧ shuffled.tryAdd ⟨"B", 1, []⟩ =
      (true, { shuffled with findings :=
        shuffled.findings.take k ++ ⟨"B", 1, []⟩ :: shuffled.findings.drop k }) := by
  have hthere : (⟨"A", 2, [.inClass "Z"]⟩ : Finding) ∈ shuffled.findings := by decide
  have hnew : (⟨"B", 1, []⟩ : Finding) ∉ shuffled.findings := by decide
  refine ⟨?_, ?_, ?_⟩
  · intro h
    exact absurd ((List.pairwise_cons.mp h).1 ⟨"B", 2, []⟩ (by decide)) (by decide)
  · have h := tryAdd_fits shuffled ⟨"A", 2, [.inClass "Z"]⟩
    rwa [if_pos hthere] at h
  · have h := tryAdd_fits shuffled ⟨"B", 1, []⟩
    rwa [if_neg hnew] at h

end BugArchive.Collection
