import BugArchive.Proofs.Archive.Run
import BugArchive.Proofs.Collection.Order

namespace BugArchive.Archive

open Collection Finding

def Step.extend [Machine] (a : Archive) (history : List Finding) : Step → List Finding
  | add f => history ++ a.collection.accepted [f]
  | read r d source =>
    match decodeFrom r d source with
    | .ok sections =>
      (history ++ a.collection.accepted (staged sections)).map (sourceMap sections).fill
    | .error _ => history

def historyFrom [Machine] (a : Archive) (history : List Finding) : List Step → List Finding
  | [] => history
  | step :: steps => historyFrom (step.run a) (step.extend a history) steps

/-- The findings that a run from an empty collection accepts, in the order in which it does, with
the source files that were filled in since. -/
def history [Machine] (p : Project) (steps : List Step) : List Finding :=
  historyFrom ⟨.empty, p⟩ [] steps

lemma arranges_step [Machine] {a : Archive} {history : List Finding}
    (h : Arranges a.collection.findings history) (step : Step) :
    Arranges (step.run a).collection.findings (step.extend a history) := by
  cases step with
  | add f => exact h.foldl_add [f]
  | read r d source =>
    rw [Step.run, archive_readFrom, Step.extend]
    cases decodeFrom r d source with
    | error err => exact h
    | ok sections =>
      have hadd := h.foldl_add (staged sections)
      rw [foldl_add] at hadd
      exact hadd.fill (sourceMap sections)

lemma arranges_run [Machine] {a : Archive} {history : List Finding}
    (h : Arranges a.collection.findings history) (steps : List Step) :
    Arranges (run a steps).collection.findings (historyFrom a history steps) := by
  induction steps generalizing a history with
  | nil => exact h
  | cons step steps ih => exact ih (arranges_step h step)

lemma map_rank_reconcile (m : SourceMap) (fs : List Finding) :
    (m.reconcile fs).1.map rank = fs.map rank := by
  have hrank (f : Finding) : (m.fill f).rank = f.rank :=
    le_antisymm (rank_le_iff.mpr (by simp)) (rank_le_iff.mpr (by simp))
  simp only [SourceMap.reconcile, List.map_map]
  exact List.map_congr_left fun f _ => hrank f

/-- After every step of every run the collection is the stable sort of what was accepted, and filling
in source files moves nothing. -/
theorem findings_run [Machine] (p : Project) (steps : List Step) :
    (run ⟨.empty, p⟩ steps).collection.findings = inOrder (history p steps) ∧
      ((run ⟨.empty, p⟩ steps).collection.findings.Pairwise fun f g => f.rank ≤ g.rank) ∧
      (∀ k, (run ⟨.empty, p⟩ steps).collection.findings.filter (·.key = k) =
        (history p steps).filter (·.key = k)) ∧
      ∀ (m : SourceMap) (fs : List Finding), (m.reconcile fs).1.map rank = fs.map rank := by
  have h := arranges_run (a := ⟨.empty, p⟩) .nil steps
  exact ⟨h.unique (arranges_inOrder _), h.sorted.imp rank_le_iff.mpr, h.ties, map_rank_reconcile⟩

end BugArchive.Archive
