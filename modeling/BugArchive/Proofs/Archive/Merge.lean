import BugArchive.Proofs.Archive.Contents
import BugArchive.Proofs.Archive.Grammar
import BugArchive.Proofs.Archive.Shown

namespace BugArchive

open Xml (Element)

namespace Project

def stranger? (es : List Element) : Option Element :=
  es.find? fun e => e.tag ∉ ["Jar", "AuxClasspathEntry", "SrcDir"]

lemma validate_eq (es : List Element) : validate es = match stranger? es with
    | some e => .error (.unknownElement e.tag)
    | none => .ok () := by
  have hfirst : (Section.strangers ["Jar", "AuxClasspathEntry", "SrcDir"] es).head? =
      (stranger? es).map fun e => .unknownElement e.tag := by
    rw [Section.strangers, List.head?_map, List.head?_filter, stranger?]
  have ht := Section.tellsFirst_validate es
  cases hv : validate es with
  | ok u =>
    rw [hv] at ht
    rw [show Section.strangers _ es = [] from ht] at hfirst
    rw [Option.map_eq_none_iff.mp hfirst.symm]
  | error err =>
    rw [hv] at ht
    rw [show (Section.strangers _ es).head? = some err from ht] at hfirst
    obtain ⟨e, he, rfl⟩ := Option.map_eq_some_iff.mp hfirst.symm
    rw [he]

lemma absorb_absorb (p : Project) (e : Element) : (p.absorb e).absorb e = p.absorb e := by
  refine ext_paths ?_ (fun k => ?_) ?_
  · rw [filename_absorb, filename_absorb]
    cases e.get? "filename" <;> rfl
  · rw [paths_absorb, paths_absorb, extend_extend]
  · rw [modified_absorb]

lemma stranger?_toElement (p : Project) : stranger? p.toElement.children = none := by
  refine List.find?_eq_none.mpr fun e he => ?_
  obtain ⟨k, s, -, rfl⟩ := mem_toElement_children.mp he
  rw [show (Element.ofText k.tag s).tag = k.tag from rfl]
  cases k <;> decide

end Project

namespace Archive

open Edit

lemma apply_readProject (e : Element) (a : Archive) :
    (readProject e).apply a = match Project.stranger? e.children with
      | some d => (.error (.unknownElement d.tag), a)
      | none => (.ok (), ⟨a.collection, a.project.absorb e⟩) := by
  have hv := Project.validate_eq e.children
  rw [apply_eq]
  split at hv
  · rw [readProject, eval_bind, hv]
    rfl
  · rw [eval_readProject hv]
    rfl

/-- A project element with a child that a project cannot hold is refused for the first of these and
changes nothing. Any other is taken over: each list goes on with the texts under its tag that it lacks,
each once and in the order in which they come first, and a file name replaces the one before. Reading
an element again changes nothing more, and what was written of a project is read as that project. -/
theorem readProject_merges (e : Element) (a : Archive) :
    (match Project.stranger? e.children with
      | some d => (readProject e).apply a = (.error (.unknownElement d.tag), a)
      | none => ∃ p : Project, (readProject e).apply a = (.ok (), ⟨a.collection, p⟩) ∧
          (∀ k, p.paths k = a.project.paths k ++
            ((Element.texts k.tag e.children).filter (· ∉ a.project.paths k)).eraseDups) ∧
          p.filename = (e.get? "filename").or a.project.filename ∧
          p.modified = a.project.modified) ∧
    (readProject e).apply ((readProject e).apply a).2 = (readProject e).apply a ∧
    ∀ p : Project, (∀ k, (p.paths k).Nodup) →
      (readProject p.toElement).apply ⟨a.collection, .empty⟩ =
        (.ok (), ⟨a.collection, { p with modified := false }⟩) := by
  refine ⟨?_, ?_, fun p hp => ?_⟩
  · split
    · rename_i d hd
      rw [apply_readProject, hd]
    · rename_i hnone
      refine ⟨a.project.absorb e, by rw [apply_readProject, hnone], fun k => ?_,
        Project.filename_absorb _ _, Project.modified_absorb _ _⟩
      rw [Project.paths_absorb, Project.pathsOf_eq_texts, Project.extend_eq]
  · rw [apply_readProject, apply_readProject]
    cases Project.stranger? e.children with
    | some d => rfl
    | none => rw [Project.absorb_absorb]
  · rw [apply_readProject, Project.stranger?_toElement, Project.absorb_toElement hp]

def listed : Project :=
  ⟨some "demo.fb", ["a.jar", "b.jar"], [], ["src", ""], false⟩

theorem readProject_merges_listed :
    (∀ k, (listed.paths k).Nodup) ∧
      (readProject listed.toElement).apply .empty = (.ok (), ⟨.empty, listed⟩) := by
  have h : ∀ k, (listed.paths k).Nodup := fun k => by cases k <;> decide
  exact ⟨h, (readProject_merges listed.toElement .empty).2.2 listed h⟩

end Archive

end BugArchive
