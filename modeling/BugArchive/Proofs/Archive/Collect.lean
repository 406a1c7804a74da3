import BugArchive.Proofs.Archive.Reader
import BugArchive.Proofs.Collection.Insert
import BugArchive.Proofs.SourceMap
import Mathlib.Data.List.Nodup

/-! What taking over sections makes of the findings: they stay sorted, and they stay distinct unless
the source map makes two of them equal. -/

namespace BugArchive

/-- Whether a source map makes one of the stored findings equal to another one that is stored or
staged. -/
def SourceMap.Merges (m : SourceMap) (stored staged : List Finding) : Prop :=
  ∃ f ∈ stored, ∃ g ∈ stored ++ staged, f ≠ g ∧ m.fill f = m.fill g

namespace Archive

variable {sections : List Section} {c : Collection}

lemma fill_staged {f : Finding} (h : f ∈ staged sections) : (sourceMap sections).fill f = f := by
  obtain ⟨g, -, rfl⟩ := List.mem_map.mp h
  exact SourceMap.fill_fill _ g

lemma nodup_collect_iff (h : c.findings.Nodup) :
    (collect sections c).findings.Nodup ↔
      ¬ (sourceMap sections).Merges c.findings (staged sections) := by
  have hn := Collection.nodup_foldl_insert (staged sections) h
  rw [collect, List.nodup_map_iff_inj_on hn]
  simp only [Collection.mem_foldl_insert]
  constructor
  · rintro hinj ⟨f, hf, g, hg, hne, he⟩
    exact hne (hinj f (.inl hf) g (List.mem_append.mp hg) he)
  · intro hm f hf g hg he
    by_contra hne
    rcases hf with hf | hf
    · exact hm ⟨f, hf, g, List.mem_append.mpr hg, hne, he⟩
    rcases hg with hg | hg
    · exact hm ⟨g, hg, f, List.mem_append_right _ hf, Ne.symm hne, he.symm⟩
    · rw [fill_staged hf, fill_staged hg] at he
      exact hne he

lemma isSorted_collect (h : Collection.IsSorted c.findings) :
    Collection.IsSorted (collect sections c).findings := by
  refine List.pairwise_map.mpr ?_
  simp only [SourceMap.key_fill]
  exact Collection.isSorted_foldl_insert _ h

end Archive

end BugArchive
