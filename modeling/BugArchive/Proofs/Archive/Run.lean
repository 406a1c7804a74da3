import BugArchive.Proofs.Archive.Collect
import BugArchive.Proofs.Finding.Grammar
import BugArchive.Proofs.Finding.Layout
import Mathlib.Data.List.Induction

namespace BugArchive

open Xml (Element)

namespace Archive

inductive Step where
  | add (f : Finding)
  | read (r : Registry) (d : Disk) (source : Source)

def Step.run [Machine] (a : Archive) : Step → Archive
  | add f => { a with collection := a.collection.add f }
  | read r d source => ((readFrom r d source).apply a).2

def run [Machine] (a : Archive) (steps : List Step) : Archive :=
  steps.foldl Step.run a

def Step.Merges [Machine] (a : Archive) : Step → Prop
  | add _ => False
  | read r d source => ∃ sections, decodeFrom r d source = .ok sections ∧
      (sourceMap sections).Merges a.collection.findings (staged sections)

lemma nodup_step_iff [Machine] {a : Archive} (h : a.collection.findings.Nodup) (step : Step) :
    (step.run a).collection.findings.Nodup ↔ ¬ step.Merges a := by
  cases step with
  | add f =>
    simp only [Step.run, Collection.add_eq, Step.Merges, not_false_eq_true, iff_true]
    exact Collection.nodup_insert h f
  | read r d source =>
    rw [Step.run, archive_readFrom]
    cases hd : decodeFrom r d source with
    | error err => simpa [Step.Merges, hd, after] using h
    | ok sections =>
      simp only [Step.Merges, hd, Except.ok.injEq, exists_eq_left']
      exact nodup_collect_iff h

/-- No finding is stored twice at any point of a run from an empty collection unless a read makes
one that was stored equal to another one, and from then on it is. -/
theorem nodup_run_iff [Machine] (p : Project) (steps : List Step) :
    (∀ front, front <+: steps → (run ⟨.empty, p⟩ front).collection.findings.Nodup) ↔
      ∀ front step, front ++ [step] <+: steps → ¬ step.Merges (run ⟨.empty, p⟩ front) := by
  have hrun (front : List Step) (step : Step) :
      run ⟨.empty, p⟩ (front ++ [step]) = step.run (run ⟨.empty, p⟩ front) := by
    rw [run, List.foldl_append]
    rfl
  constructor
  · intro h front step hp
    have hfront := h front ((List.prefix_append front [step]).trans hp)
    have hnext := h (front ++ [step]) hp
    rw [hrun] at hnext
    exact (nodup_step_iff hfront step).mp hnext
  · intro h front
    induction front using List.reverseRecOn with
    | nil => exact fun _ => List.nodup_nil
    | append_singleton front step ih =>
      intro hp
      have hfront := ih ((List.prefix_append front [step]).trans hp)
      rw [hrun]
      exact (nodup_step_iff hfront step).mpr (h front step hp)

def unplaced : Finding :=
  ⟨"NP", 2, [.atLine (.ofClass "A")]⟩

def placed : Finding :=
  ⟨"NP", 2, [.atLine { SourceLine.ofClass "A" with sourceFile := some "A.java" }]⟩

def unplacedWithMap : Element :=
  ⟨"BugCollection", [], "", [
    ⟨"BugInstance", [("type", "NP")], "", [.leaf "SourceLine" [("classname", "A")]]⟩,
    .leaf "SrcMap" [("classname", "A"), ("srcfile", "A.java")]]⟩

lemma topLevel_unplaced [Machine] : Decode.topLevel .builtin ⟨"BugInstance", [("type", "NP")], "",
    [.leaf "SourceLine" [("classname", "A")]]⟩ = .ok unplaced := by
  have hk : Registry.builtin.get? "SourceLine" = some .atLine := by decide
  have hline : Decode.detail .builtin 1 (.leaf "SourceLine" [("classname", "A")]) =
      .ok (.atLine (.ofClass "A")) := by
    simp only [Decode.detail, Element.leaf, hk, Decode.not_room_lt, if_false]
    rfl
  have hfinding : Decode.finding .builtin 0 ⟨"BugInstance", [("type", "NP")], "",
      [.leaf "SourceLine" [("classname", "A")]]⟩ = .ok unplaced := by
    rw [Decode.finding]
    simp only [Nat.zero_add, Decode.details, hline]
    rfl
  have hk : Registry.builtin.get? "BugInstance" = some .finding := by decide
  simp only [Decode.topLevel, hk, Decode.item, hfinding]
  rfl

lemma mapM_unplacedWithMap [Machine] :
    (unplacedWithMap.children.map (·.spaced (.indented 2) 1)).mapM (Section.ofElement .builtin) =
      .ok [.finding unplaced, .sourceMap (some ("A", "A.java"))] := by
  simp only [unplacedWithMap, List.map_cons, List.mapM_cons, Section.ofElement,
    Decode.topLevel_spaced, Element.spaced_tag, topLevel_unplaced]
  rfl

section Usual

attribute [local instance] Machine.usual

theorem run_unplacedWithMap :
    (run ⟨.empty, .empty⟩ [.add unplaced,
      .read .builtin .empty (.stream (.ofContent (serialize 2 unplacedWithMap)))]).collection.findings =
      [placed, placed] := by
  have hw : unplacedWithMap.IsWritable := Element.isWritable_of_all (by decide)
  have hl : unplacedWithMap.IsLegal := Element.isLegal_of_all (by decide)
  have hd : decodeFrom .builtin .empty (.stream (.ofContent (serialize 2 unplacedWithMap))) =
      .ok [.finding unplaced, .sourceMap (some ("A", "A.java"))] :=
    (decode_serialize (s := .ofContent (serialize 2 unplacedWithMap)) .builtin rfl (by decide) hw hl rfl).trans
      mapM_unplacedWithMap
  have hfirst : Collection.insert [] unplaced = [unplaced] :=
    Collection.insert_last (by decide) (by decide)
  have hsecond : Collection.insert [unplaced] placed = [unplaced, placed] :=
    Collection.insert_last (by decide) (by decide)
  have hs : staged [.finding unplaced, .sourceMap (some ("A", "A.java"))] = [placed] := by decide
  simp only [run, List.foldl_cons, List.foldl_nil, Step.run, archive_readFrom, hd, after, absorb,
    collect, Collection.add_eq, Collection.empty, hs, hfirst, hsecond]
  decide

end Usual

end Archive

end BugArchive
