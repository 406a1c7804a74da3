import BugArchive.Proofs.Archive.Contents
import BugArchive.Proofs.Archive.Run
import BugArchive.Proofs.Collection.Names

namespace BugArchive

open Xml (Element)

namespace Contents

/-- Whether `b` is `a` with the contents of a document added. Findings that were there stay in their
order, at most with source files that were unknown and that the document names. -/
structure IsAdded (c : Contents) (a b : Archive) : Prop where
  findings : ∃ kept new, List.Forall₂ c.sourceMap.Fills a.collection.findings kept ∧
    kept.Sublist b.collection.findings ∧ new.Sublist (c.findings.map c.sourceMap.fill) ∧
    b.collection.findings.Perm (kept ++ new)
  present : ∀ f ∈ c.findings, c.sourceMap.fill f ∈ b.collection.findings
  errors : b.collection.errors = a.collection.errors ++ c.errors
  missing : ∀ n, n ∈ b.collection.missing ↔ n ∈ a.collection.missing ∨ n ∈ c.missing
  ascending : a.collection.missing.Pairwise (· < ·) → b.collection.missing.Pairwise (· < ·)
  names : b.collection.classes.map Prod.fst = a.collection.classes.map Prod.fst ++
    ((c.classes.map Prod.fst).filter (· ∉ a.collection.classes.map Prod.fst)).eraseDups
  flags : ∀ n, b.collection.classes.lookup n =
    (c.classes.reverse.lookup n).or (a.collection.classes.lookup n)
  paths : ∀ k, b.project.paths k =
    a.project.paths k ++ ((c.paths k).filter (· ∉ a.project.paths k)).eraseDups
  filename : b.project.filename = c.filenames.getLast?.or a.project.filename
  modified : b.project.modified = false

variable (c : Contents) (a : Archive)

lemma fill_staged {f : Finding} (h : f ∈ c.staged) : c.sourceMap.fill f = f := by
  obtain ⟨g, -, rfl⟩ := List.mem_map.mp h
  exact SourceMap.fill_fill _ g

lemma map_fill_staged {fs : List Finding} (h : fs.Sublist c.staged) :
    fs.map c.sourceMap.fill = fs :=
  (List.map_congr_left fun _ hf => c.fill_staged (h.subset hf)).trans fs.map_id

lemma mem_addTo_of_staged {f : Finding} (h : f ∈ c.staged) :
    f ∈ (c.addTo a).collection.findings :=
  List.mem_map.mpr ⟨f, Collection.mem_foldl_insert.mpr (.inr h), c.fill_staged h⟩

lemma isAdded_addTo : c.IsAdded a (c.addTo a) where
  findings := by
    obtain ⟨hkept, new, hnew, hperm⟩ :=
      Collection.foldl_insert_keeps a.collection.findings c.staged
    refine ⟨a.collection.findings.map c.sourceMap.fill, new, ?_, hkept.map _, hnew, ?_⟩
    · rw [List.forall₂_map_right_iff]
      exact List.forall₂_same.mpr fun f _ => c.sourceMap.fills_fill f
    · have hm := hperm.map c.sourceMap.fill
      rwa [List.map_append, c.map_fill_staged hnew] at hm
  present f hf := c.mem_addTo_of_staged a (List.mem_map_of_mem hf)
  errors := rfl
  missing n := Collection.mem_insertNames
  ascending := Collection.ascending_insertNames c.missing
  names := (Collection.names_setFlags _ _).trans (Project.extend_eq _ _)
  flags := Collection.lookup_setFlags _ _
  paths k := (c.paths_addTo a k).trans (Project.extend_eq _ _)
  filename := rfl
  modified := rfl

end Contents

namespace Archive

/-- A document that is read adds all that it says, and takes nothing away, whatever the archive was
before. -/
theorem readFrom_isAdded [Machine] {r : Registry} {d : Disk} {source : Source} {a : Archive}
    (h : ((readFrom r d source).apply a).1.result = .ok ()) :
    ∃ root, rootFrom d source = .ok root ∧
      (∀ e ∈ root.children, ∃ s, Section.ofElement r e = .ok s) ∧
      (Contents.ofElements r root.children).IsAdded a ((readFrom r d source).apply a).2 := by
  obtain ⟨root, hr, hs⟩ := readFrom_eq_ok.mp h
  refine ⟨root, hr, hs, ?_⟩
  rw [readFrom_eq_addTo hr hs]
  exact Contents.isAdded_addTo _ a

def report : Element :=
  ⟨"BugCollection", [], "", unplacedWithMap.children ++ [
    ⟨"Project", [("filename", "app.fbp")], "", [.ofText "Jar" "b.jar", .ofText "Jar" "b.jar"]⟩,
    ⟨"Errors", [], "", [.ofText "AnalysisError" "timeout", .ofText "MissingClass" "M"]⟩,
    ⟨"AppClass", [("interface", "true")], "A", []⟩]⟩

def reportSource : Source :=
  .stream (.ofContent (serialize 2 report))

def disordered : Archive :=
  ⟨⟨[⟨"XX", 1, []⟩, unplaced, unplaced], ["broken"], ["N", "M"], [("B", false), ("A", false)]⟩,
    ⟨none, ["a.jar"], [], [], true⟩⟩

section Usual

attribute [local instance] Machine.usual

lemma result_report (a : Archive) :
    ((readFrom .builtin .empty reportSource).apply a).1.result = .ok () := by
  have hw : report.IsWritable := Element.isWritable_of_all (by decide)
  have hl : report.IsLegal := Element.isLegal_of_all (by decide)
  have hr : rootFrom .empty reportSource = .ok (report.spaced (.indented 2) 0) :=
    rootOf_serialize (s := .ofContent (serialize 2 report)) rfl (by decide) hw hl rfl
  have hs : ∃ sections,
      (report.spaced (.indented 2) 0).children.mapM (Section.ofElement .builtin) = .ok sections := by
    rw [Element.spaced_children, report, List.map_append, List.mapM_append, mapM_unplacedWithMap]
    exact ⟨_, rfl⟩
  exact readFrom_eq_ok.mpr ⟨_, hr, mapM_succeeds_iff.mp hs⟩

theorem readFrom_isAdded_report :
    ((readFrom .builtin .empty reportSource).apply disordered).1.result = .ok () ∧
      ∃ root, rootFrom .empty reportSource = .ok root ∧
        (∀ e ∈ root.children, ∃ s, Section.ofElement .builtin e = .ok s) ∧
        (Contents.ofElements .builtin root.children).IsAdded disordered
          ((readFrom .builtin .empty reportSource).apply disordered).2 :=
  ⟨result_report disordered, readFrom_isAdded (result_report disordered)⟩

end Usual

end Archive

end BugArchive
