import BugArchive.Proofs.Collection.Insert
import BugArchive.Proofs.SourceMap
import Mathlib.Data.Char
import Mathlib.Data.List.Lex
import Mathlib.Data.Prod.Lex
import Mathlib.Data.String.Basic

namespace BugArchive

def codePoints (s : String) : List ℕ := s.toList.map Char.toNat

lemma codePoints_lt_iff {s t : String} : codePoints s < codePoints t ↔ s < t := by
  have hlt {s t : String} (h : s < t) : codePoints s < codePoints t :=
    List.map_lt (fun _ _ => id) (String.lt_iff_toList_lt.mp h)
  refine ⟨fun h => ?_, hlt⟩
  rcases lt_trichotomy s t with hs | rfl | hs
  · exact hs
  · exact absurd h (lt_irrefl _)
  · exact absurd h (lt_asymm (hlt hs))

lemma codePoints_inj {s t : String} : codePoints s = codePoints t ↔ s = t := by
  refine ⟨fun h => ?_, congrArg codePoints⟩
  rcases lt_trichotomy s t with hs | rfl | hs
  · exact absurd h (codePoints_lt_iff.mpr hs).ne
  · rfl
  · exact absurd h.symm (codePoints_lt_iff.mpr hs).ne

namespace Finding

def rank (f : Finding) : List ℕ ×ₗ List ℕ ×ₗ ℤ :=
  toLex (codePoints (f.primaryClass.getD ""), toLex (codePoints f.type, f.priority))

lemma rank_lt_iff {f g : Finding} : f.rank < g.rank ↔ f.key.precedes g.key = true := by
  simp only [rank, Prod.Lex.toLex_lt_toLex, codePoints_lt_iff, codePoints_inj, Key.precedes_iff, key]

lemma rank_le_iff {f g : Finding} : f.rank ≤ g.rank ↔ g.key.precedes f.key = false := by
  rw [← not_lt, rank_lt_iff, Bool.not_eq_true]

end Finding

namespace Collection

open Finding

/-- The findings in the order of their ranks; those of one rank stay as they were. -/
def inOrder (fs : List Finding) : List Finding :=
  fs.mergeSort fun f g => f.rank ≤ g.rank

/-- Whether findings are those of a history in the order of their keys, and those of one key as in the
history. -/
structure Arranges (fs history : List Finding) : Prop where
  sorted : IsSorted fs
  ties : ∀ k, fs.filter (·.key = k) = history.filter (·.key = k)

section Filter

variable {fs : List Finding} {f : Finding}

lemma filter_key_self (f : Finding) (fs : List Finding) :
    (f :: fs).filter (·.key = f.key) = f :: fs.filter (·.key = f.key) :=
  List.filter_cons_of_pos (by simp)

lemma mem_filter_key_self (h : f ∈ fs) : f ∈ fs.filter (·.key = f.key) :=
  List.mem_filter.mpr ⟨h, by simp⟩

end Filter

variable {fs gs history : List Finding} {f : Finding}

lemma Arranges.nil : Arranges [] [] := ⟨.nil, fun _ => rfl⟩

lemma Arranges.mem_iff (h : Arranges fs history) : f ∈ fs ↔ f ∈ history := by
  constructor
  · intro hf
    have hm := mem_filter_key_self hf
    rw [h.ties] at hm
    exact List.mem_of_mem_filter hm
  · intro hf
    have hm := mem_filter_key_self hf
    rw [← h.ties] at hm
    exact List.mem_of_mem_filter hm

lemma Arranges.unique (hf : Arranges fs history) (hg : Arranges gs history) : fs = gs := by
  induction fs generalizing gs history with
  | nil =>
    cases gs with
    | nil => rfl
    | cons g gs => exact absurd (hf.mem_iff.mpr (hg.mem_iff.mp List.mem_cons_self)) List.not_mem_nil
  | cons f fs ih =>
    cases gs with
    | nil => exact absurd (hg.mem_iff.mpr (hf.mem_iff.mp List.mem_cons_self)) List.not_mem_nil
    | cons g gs =>
      obtain ⟨hf', hfs⟩ := List.pairwise_cons.mp hf.sorted
      obtain ⟨hg', hgs⟩ := List.pairwise_cons.mp hg.sorted
      have hties (k : Key) : (f :: fs).filter (·.key = k) = (g :: gs).filter (·.key = k) :=
        (hf.ties k).trans (hg.ties k).symm
      have hle : g.key.precedes f.key = false := by
        rcases List.mem_cons.mp (hf.mem_iff.mpr (hg.mem_iff.mp List.mem_cons_self)) with rfl | h
        · exact Key.precedes_self _
        · exact hf' g h
      have hge : f.key.precedes g.key = false := by
        rcases List.mem_cons.mp (hg.mem_iff.mpr (hf.mem_iff.mp List.mem_cons_self)) with rfl | h
        · exact Key.precedes_self _
        · exact hg' f h
      have hkey := Key.eq_of_not_precedes hge hle
      have hhead := hties f.key
      rw [filter_key_self, hkey, filter_key_self] at hhead
      obtain ⟨rfl, -⟩ := List.cons.inj hhead
      refine congrArg (f :: ·) (ih ⟨hfs, fun _ => rfl⟩ ⟨hgs, fun k => ?_⟩)
      have hk := hties k
      rw [List.filter_cons, List.filter_cons] at hk
      split at hk
      · exact (List.cons.inj hk).2.symm
      · exact hk.symm

lemma arranges_inOrder (history : List Finding) : Arranges (inOrder history) history := by
  have htrans : ∀ f g h : Finding, decide (f.rank ≤ g.rank) = true →
      decide (g.rank ≤ h.rank) = true → decide (f.rank ≤ h.rank) = true := by
    simp only [decide_eq_true_eq]
    exact fun f g h => le_trans
  have htotal : ∀ f g : Finding, (decide (f.rank ≤ g.rank) || decide (g.rank ≤ f.rank)) = true := by
    simp only [Bool.or_eq_true, decide_eq_true_eq]
    exact fun f g => le_total _ _
  have hs := List.pairwise_mergeSort htrans htotal history
  refine ⟨hs.imp fun h => rank_le_iff.mp (of_decide_eq_true h), fun k => ?_⟩
  -- Findings of one key are in order as they are, so that sorting does not move them.
  have hone : (history.filter (·.key = k)).Pairwise fun f g => decide (f.rank ≤ g.rank) = true := by
    refine List.pairwise_of_forall_mem_list fun f hf g hg => ?_
    have hf := of_decide_eq_true (List.mem_filter.mp hf).2
    have hg := of_decide_eq_true (List.mem_filter.mp hg).2
    rw [decide_eq_true_eq, rank_le_iff, hf, hg, Key.precedes_self]
  have hsub := (List.sublist_mergeSort htrans htotal hone List.filter_sublist).filter (·.key = k)
  rw [List.filter_filter, List.filter_congr (q := (·.key = k)) (by simp)] at hsub
  exact (hsub.eq_of_length ((List.mergeSort_perm history _).filter _).length_eq.symm).symm

lemma precedes_of_mem_back {front back : List Finding} {g : Finding} (h : IsSorted (front ++ back))
    (hb : ∀ g ∈ back.head?, f.key.precedes g.key = true) (hg : g ∈ back) :
    f.key.precedes g.key = true := by
  cases back with
  | nil => cases hg
  | cons l back =>
    have hl := hb l rfl
    rcases List.mem_cons.mp hg with rfl | hg
    · exact hl
    · have hp := (List.pairwise_cons.mp (List.pairwise_append.mp h).2.1).1 g hg
      exact rank_lt_iff.mp (lt_of_lt_of_le (rank_lt_iff.mpr hl) (rank_le_iff.mpr hp))

lemma Arranges.insert (h : Arranges fs history) (hf : f ∉ fs) :
    Arranges (insert fs f) (history ++ [f]) := by
  refine ⟨isSorted_insert h.sorted f, fun k => ?_⟩
  obtain ⟨front, back, rfl, hi, -, hback⟩ := insert_split hf
  rw [hi, List.filter_append, List.filter_append, ← h.ties, List.filter_append]
  by_cases hk : f.key = k
  · have hnone : back.filter (·.key = k) = [] := by
      refine List.filter_eq_nil_iff.mpr fun g hg => ?_
      have hlt := precedes_of_mem_back h.sorted hback hg
      rw [decide_eq_true_eq]
      rintro rfl
      rw [hk, Key.precedes_self] at hlt
      cases hlt
    simp [hk, hnone]
  · simp [hk]

lemma Arranges.fill (h : Arranges fs history) (m : SourceMap) :
    Arranges (fs.map m.fill) (history.map m.fill) := by
  refine ⟨List.pairwise_map.mpr ?_, fun k => ?_⟩
  · simp only [SourceMap.key_fill]
    exact h.sorted
  · simp only [List.filter_map, Function.comp_def, SourceMap.key_fill, h.ties]

def accepted (c : Collection) : List Finding → List Finding
  | [] => []
  | f :: fs => if c.contains f then c.accepted fs else f :: (c.add f).accepted fs

lemma Arranges.foldl_add {c : Collection} (h : Arranges c.findings history) (gs : List Finding) :
    Arranges (gs.foldl add c).findings (history ++ c.accepted gs) := by
  induction gs generalizing c history with
  | nil => simpa [accepted] using h
  | cons g gs ih =>
    rw [List.foldl_cons, accepted]
    by_cases hg : g ∈ c.findings
    · have hc : c.contains g = true := List.contains_iff_mem.mpr hg
      have ha : c.add g = c := if_pos hc
      rw [if_pos hc, ha]
      exact ih h
    · have hc : ¬ c.contains g = true := fun hc => hg (List.contains_iff_mem.mp hc)
      rw [if_neg hc, List.append_cons]
      refine ih ?_
      rw [add_eq]
      exact h.insert hg

end Collection

end BugArchive
