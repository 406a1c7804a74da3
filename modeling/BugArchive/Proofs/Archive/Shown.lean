import BugArchive.Archive.Section
import BugArchive.Proofs.Archive.Check
import BugArchive.Proofs.Collection.Insert
import BugArchive.Proofs.Finding.Encode
import BugArchive.Proofs.Finding.Layout
import BugArchive.Proofs.Project

/-! The document of an archive: it can be written, and its elements are decoded as the sections of
the archive. -/

namespace BugArchive

open Text (Spelled)
open Xml (Element IsLegalText isLegalText_of_all areNames Layout)

section Elements

variable {σ : Type} [Spelled σ]

namespace Project

lemma mem_toElement_children {p : Project σ} {e : Element σ} :
    e ∈ p.toElement.children ↔ ∃ k, ∃ s ∈ p.paths k, e = Element.ofText k.tag s := by
  simp only [toElement, List.mem_flatMap, List.mem_map, PathKind.mem_all, true_and, eq_comm]

lemma isWritable_toElement (p : Project σ) : p.toElement.IsWritable := by
  have hc : ∀ c ∈ p.toElement.children, c.IsWritable := by
    intro c hc
    obtain ⟨k, s, -, rfl⟩ := mem_toElement_children.mp hc
    exact Element.isWritable_ofText s (by cases k <;> decide)
  cases h : p.filename with
  | none =>
    exact Element.isWritable_of_names [] (by simp [toElement, h])
      (show areNames "Project" _ = true by decide) hc
  | some f =>
    exact Element.isWritable_of_names ["filename"] (by simp [toElement, h])
      (show areNames "Project" _ = true by decide) hc

end Project

namespace Collection

lemma isWritable_classElement (name : σ) (isInterface : Bool) :
    (classElement name isInterface).IsWritable := by
  cases isInterface with
  | false =>
    exact Element.isWritable_of_names [] rfl (show areNames "AppClass" _ = true by decide)
      fun c hc => by cases hc
  | true =>
    exact Element.isWritable_of_names ["interface"] rfl (show areNames "AppClass" _ = true by decide)
      fun c hc => by cases hc

lemma mem_errorsElement_children {c : Collection σ} {e : Element σ} :
    e ∈ c.errorsElement.children ↔ (∃ s ∈ c.errors, Element.ofText "AnalysisError" s = e) ∨
      ∃ s ∈ c.missing, Element.ofText "MissingClass" s = e := by
  simp only [errorsElement, List.mem_append, List.mem_map]

lemma isWritable_errorsElement (c : Collection σ) : c.errorsElement.IsWritable := by
  refine Element.isWritable_of_names [] rfl (show areNames "Errors" _ = true by decide) fun e he => ?_
  rcases mem_errorsElement_children.mp he with ⟨s, -, rfl⟩ | ⟨s, -, rfl⟩
  · exact Element.isWritable_ofText s (by decide)
  · exact Element.isWritable_ofText s (by decide)

end Collection

end Elements

namespace Project

structure IsSavable (p : Project) : Prop where
  filename : ∀ s ∈ p.filename, IsLegalText s
  paths : ∀ k, ∀ s ∈ p.paths k, IsLegalText s
  nodup : ∀ k, (p.paths k).Nodup

lemma isLegal_toElement {p : Project} (h : p.IsSavable) : p.toElement.IsLegal := by
  refine Element.isLegal_iff.mpr ⟨⟨fun a ha => ?_, isLegalText_of_all rfl⟩, fun c hc => ?_⟩
  · obtain ⟨s, hs, rfl⟩ := Option.map_eq_some_iff.mp (Option.mem_toList.mp ha)
    exact h.filename s hs
  · obtain ⟨k, s, hs, rfl⟩ := mem_toElement_children.mp hc
    exact Element.isLegal_ofText k.tag (h.paths k s hs)

lemma get?_toElement (p : Project) : p.toElement.get? "filename" = p.filename := by
  cases h : p.filename with
  | none => simp [Element.get?, toElement, h]
  | some f => simp [Element.get?, toElement, h]

lemma spaced_toElement_children (p : Project) (layout : Layout) (level : Nat) :
    (p.toElement.spaced layout level).children = p.toElement.children := by
  rw [Element.spaced_children]
  refine (List.map_congr_left fun e he => ?_).trans (List.map_id _)
  obtain ⟨k, s, -, rfl⟩ := mem_toElement_children.mp he
  exact Element.spaced_ofText layout (level + 1) k.tag s

lemma pathsOf_map (k j : PathKind) (ps : List String) :
    pathsOf k (ps.map (Element.ofText j.tag)) = if j = k then ps else [] := by
  simp only [pathsOf, List.filterMap_map, Function.comp_def, Element.ofText, PathKind.ofTag?_tag,
    Option.some.injEq]
  split
  · exact List.filterMap_some
  · exact List.filterMap_eq_nil_iff.mpr fun _ _ => rfl

lemma pathsOf_toElement (p : Project) (k : PathKind) : pathsOf k p.toElement.children = p.paths k := by
  have ha (es fs : List Element) : pathsOf k (es ++ fs) = pathsOf k es ++ pathsOf k fs :=
    List.filterMap_append
  simp only [toElement, PathKind.all, List.flatMap_cons, List.flatMap_nil, ha, pathsOf_map]
  cases k <;> simp [pathsOf]

lemma absorb_toElement {p : Project} (h : ∀ k, (p.paths k).Nodup) :
    empty.absorb p.toElement = { p with modified := false } := by
  refine ext_paths ?_ (fun k => ?_) ?_
  · rw [filename_absorb, get?_toElement, empty, Option.or_none]
  · have hk : empty.paths k = [] := by cases k <;> rfl
    rw [paths_absorb, pathsOf_toElement, hk, extend_new (by simpa using h k), List.nil_append]
    cases k <;> rfl
  · rw [modified_absorb]
    rfl

lemma absorb_spaced_toElement (p q : Project) (layout : Layout) (level : Nat) :
    p.absorb (q.toElement.spaced layout level) = p.absorb q.toElement := by
  rw [absorb, absorb, spaced_toElement_children, Decode.get?_spaced]

end Project

namespace Collection

structure IsSavable (c : Collection) : Prop where
  findings : ∀ f ∈ c.findings, f.IsSavable
  errors : ∀ s ∈ c.errors, IsLegalText s
  missing : ∀ s ∈ c.missing, IsLegalText s
  classes : ∀ k ∈ c.classes, IsLegalText k.1

structure IsProper (c : Collection) : Prop where
  sorted : IsSorted c.findings
  distinct : c.findings.Nodup
  missing : c.missing.Pairwise (· < ·)
  classes : (c.classes.map Prod.fst).Nodup

lemma isLegal_classElement {name : String} (h : IsLegalText name) (isInterface : Bool) :
    (classElement name isInterface).IsLegal := by
  refine Element.isLegal_iff.mpr ⟨⟨fun a ha => ?_, h⟩, fun c hc => by cases hc⟩
  cases isInterface with
  | false => cases ha
  | true =>
    obtain rfl := List.mem_singleton.mp ha
    exact isLegalText_of_all (by decide)

lemma isLegal_errorsElement {c : Collection} (h : c.IsSavable) : c.errorsElement.IsLegal := by
  refine Element.isLegal_iff.mpr ⟨⟨(fun a ha => by cases ha), isLegalText_of_all rfl⟩, fun e he => ?_⟩
  rcases mem_errorsElement_children.mp he with ⟨s, hs, rfl⟩ | ⟨s, hs, rfl⟩
  · exact Element.isLegal_ofText _ (h.errors s hs)
  · exact Element.isLegal_ofText _ (h.missing s hs)

lemma errorLists_errorsElement (c : Collection) :
    Section.errorLists c.errorsElement.children = .ok (c.errors, c.missing) := by
  have hm (ns : List String) :
      Section.errorLists (ns.map (Element.ofText "MissingClass")) = .ok ([], ns) := by
    induction ns with
    | nil => rfl
    | cons n ns ih => simp [Section.errorLists, Element.ofText, Except.map, ih]
  have he (ms ns : List String) :
      Section.errorLists (ms.map (Element.ofText "AnalysisError") ++
        ns.map (Element.ofText "MissingClass")) = .ok (ms, ns) := by
    induction ms with
    | nil => exact hm ns
    | cons m ms ih => simp [Section.errorLists, Element.ofText, Except.map, ih]
  exact he c.errors c.missing

end Collection

namespace Section

variable [Machine] (r : Registry) (layout : Layout) (level : Nat)

lemma ofElement_project (p : Project) :
    ofElement r (p.toElement.spaced layout level) = .ok (.project (p.toElement.spaced layout level)) := by
  have hv : Project.validate (p.toElement.spaced layout level).children = .ok () := by
    rw [Project.spaced_toElement_children]
    refine Project.validate_eq_ok.mpr fun e he => ?_
    obtain ⟨k, s, -, rfl⟩ := Project.mem_toElement_children.mp he
    exact Option.isSome_iff_exists.mpr ⟨k, PathKind.ofTag?_tag k⟩
  have ht : p.toElement.tag = "Project" := rfl
  rw [Element.spaced_children] at hv
  simp [ofElement, ht, hv, Except.map]

lemma ofElement_class (name : String) (isInterface : Bool) :
    ofElement r ((Collection.classElement name isInterface).spaced layout level) =
      .ok (.appClass name isInterface) := by
  have hi : Decode.isTrue (Collection.classElement name isInterface) "interface" = isInterface := by
    cases isInterface <;> rfl
  have ht : (Collection.classElement name isInterface).tag = "AppClass" := rfl
  have hs : ((Collection.classElement name isInterface).spaced layout level).text = name := by
    simp [Collection.classElement, Element.spaced_text, Element.shownText]
  simp [ofElement, ht, hs, hi]

lemma ofElement_finding {f : Finding} (h : f.IsSavable) :
    ofElement .builtin (f.shown.spaced layout level) = .ok (.finding f) := by
  have ht : f.shown.tag = "BugInstance" := rfl
  simp [ofElement, ht, Decode.topLevel_spaced, Finding.decode_shown h, Except.map]

lemma ofElement_errors (c : Collection) :
    ofElement r (c.errorsElement.spaced layout level) = .ok (.errors c.errors c.missing) := by
  have ht : c.errorsElement.tag = "Errors" := rfl
  have hc : c.errorsElement.children.map (·.spaced layout (level + 1)) = c.errorsElement.children := by
    refine (List.map_congr_left fun e he => ?_).trans (List.map_id _)
    rcases Collection.mem_errorsElement_children.mp he with ⟨s, -, rfl⟩ | ⟨s, -, rfl⟩
    · exact Element.spaced_ofText layout (level + 1) _ s
    · exact Element.spaced_ofText layout (level + 1) _ s
  simp [ofElement, ht, hc, Collection.errorLists_errorsElement, Except.map]

end Section

namespace Archive

/-- Whether documents can hold an archive, and whether it is in the order that reading gives. -/
structure IsSavable (a : Archive) : Prop where
  collection : a.collection.IsSavable
  project : a.project.IsSavable
  proper : a.collection.IsProper

def sections (a : Archive) (layout : Layout) : List Section :=
  [.project (a.project.toElement.spaced layout 1)] ++
    a.collection.classes.map (fun c => .appClass c.1 c.2) ++
    a.collection.findings.map .finding ++ [.errors a.collection.errors a.collection.missing]

section Shown

variable {σ : Type}

def HasShortNumbers (a : Archive σ) : Prop :=
  ∀ f ∈ a.collection.findings, ∀ n ∈ f.numbers, Text.Numeral.IsShort n

def HasBare (a : Archive σ) : Prop :=
  ∃ f ∈ a.collection.findings, ∃ d ∈ f.details, d.isBare = true

lemma not_hasBare {a : Archive σ} : ¬ a.HasBare ↔
    ∀ f ∈ a.collection.findings, ∀ d ∈ f.details, d.isBare = false := by
  simp only [HasBare, not_exists, not_and, Bool.not_eq_true]

variable [Spelled σ]

def shown (a : Archive σ) : Element σ :=
  ⟨"BugCollection", [], Spelled.ofString "", a.project.toElement ::
    a.collection.classes.map (fun c => Collection.classElement c.1 c.2) ++
    a.collection.findings.map Finding.shown ++ [a.collection.errorsElement]⟩

variable {a : Archive σ}

lemma shown_children {P : Element σ → Prop} (hp : P a.project.toElement)
    (hc : ∀ k ∈ a.collection.classes, P (Collection.classElement k.1 k.2))
    (hf : ∀ f ∈ a.collection.findings, P f.shown) (he : P a.collection.errorsElement) :
    ∀ e ∈ a.shown.children, P e := by
  intro e hm
  simp only [shown, List.mem_append, List.mem_cons, List.mem_map, List.not_mem_nil, or_false] at hm
  rcases hm with ((rfl | ⟨k, hk, rfl⟩) | ⟨f, hm, rfl⟩) | rfl
  · exact hp
  · exact hc k hk
  · exact hf f hm
  · exact he

lemma isShown_of_toElement {root : Element σ} (h : a.toElement = .ok root) :
    ¬ a.HasBare ∧ a.HasShortNumbers := by
  obtain ⟨es, hes, -⟩ := bind_eq_ok.mp h
  have hfindings : ∀ f ∈ a.collection.findings,
      (∀ d ∈ f.details, d.isBare = false) ∧ ∀ n ∈ f.numbers, Text.Numeral.IsShort n := by
    intro f hf
    obtain ⟨e, he⟩ := mapM_succeeds_iff.mp ⟨es, hes⟩ f hf
    exact Finding.isShort_of_toElement he
  exact ⟨not_hasBare.mpr fun f hf => (hfindings f hf).1, fun f hf => (hfindings f hf).2⟩

section Named

variable (hb : ¬ a.HasBare)

include hb

lemma toElement_eq (hn : a.HasShortNumbers) : a.toElement = .ok a.shown := by
  have hf : a.collection.findings.mapM Finding.toElement =
      .ok (a.collection.findings.map Finding.shown) :=
    mapM_eq_ok fun f hf => Finding.toElement_eq (not_hasBare.mp hb f hf) (hn f hf)
  rw [toElement, hf]
  rfl

lemma isWritable_shown : a.shown.IsWritable :=
  Element.isWritable_of_names [] rfl (show areNames "BugCollection" _ = true by decide)
    (shown_children a.project.isWritable_toElement
      (fun k _ => Collection.isWritable_classElement k.1 k.2)
      (fun f hf => Finding.isWritable_shown (not_hasBare.mp hb f hf))
      a.collection.isWritable_errorsElement)

variable [Machine]

lemma write_eq_check (hn : a.HasShortNumbers) (width : Nat) : a.write width = do
    checkDocument a.shown
    checkWidth width a.shown
    return (serialize width a.shown, .archiveWritten a.shown.children.length) := by
  rw [write, document, toElement_eq hb hn]
  simp only [bind, Except.bind]
  cases checkDocument a.shown <;> rfl

section Legal

variable (hn : a.HasShortNumbers) (hl : ¬ a.shown.HasIllegal) {width : Nat}

include hn hl

lemma write_legal (hw : HasRoom width a.shown) :
    a.write width = .ok (serialize width a.shown, .archiveWritten a.shown.children.length) := by
  rw [write_eq_check hb hn, checkDocument_eq_ok.mpr hl, checkWidth_eq_ok hw]
  rfl

lemma write_too_wide (hw : ¬ HasRoom width a.shown) : a.write width =
    .error (if Error.indexLimit ≤ width then .indexOverflow else .outOfMemory) := by
  rw [write_eq_check hb hn, checkDocument_eq_ok.mpr hl, checkWidth_eq_error hw]
  rfl

end Legal

end Named

end Shown

variable {a : Archive} (h : a.IsSavable)

include h

lemma IsSavable.hasShortNumbers : a.HasShortNumbers :=
  fun f hf => (h.collection.findings f hf).numbers

lemma IsSavable.not_hasBare : ¬ a.HasBare :=
  Archive.not_hasBare.mpr fun f hf => (h.collection.findings f hf).details

lemma isLegal_shown : a.shown.IsLegal :=
  Element.isLegal_iff.mpr ⟨⟨(fun _ hm => by cases hm), isLegalText_of_all rfl⟩,
    shown_children (Project.isLegal_toElement h.project)
      (fun k hk => Collection.isLegal_classElement (h.collection.classes k hk) k.2)
      (fun f hf => Finding.isLegal_shown (h.collection.findings f hf))
      (Collection.isLegal_errorsElement h.collection)⟩

lemma not_hasIllegal_shown : ¬ a.shown.HasIllegal :=
  Element.isLegal_iff_not_hasIllegal.mp (isLegal_shown h)

lemma write_eq [Machine] {width : Nat} (hw : HasRoom width a.shown) :
    a.write width =
      .ok (serialize width a.shown, .archiveWritten a.shown.children.length) :=
  write_legal h.not_hasBare h.hasShortNumbers (not_hasIllegal_shown h) hw

lemma mapM_shown [Machine] (layout : Layout) :
    (a.shown.children.map (·.spaced layout 1)).mapM (Section.ofElement .builtin) =
      .ok (a.sections layout) := by
  have hc : (a.collection.classes.map fun c => (Collection.classElement c.1 c.2).spaced layout 1).mapM
      (Section.ofElement .builtin) = .ok (a.collection.classes.map fun c => .appClass c.1 c.2) := by
    rw [List.mapM_map]
    exact mapM_eq_ok fun c _ => Section.ofElement_class .builtin layout 1 c.1 c.2
  have hf : (a.collection.findings.map (·.shown.spaced layout 1)).mapM
      (Section.ofElement .builtin) = .ok (a.collection.findings.map .finding) := by
    rw [List.mapM_map]
    exact mapM_eq_ok fun f hf => Section.ofElement_finding layout 1 (h.collection.findings f hf)
  have hs : a.shown.children.map (·.spaced layout 1) = [a.project.toElement.spaced layout 1] ++
      a.collection.classes.map (fun c => (Collection.classElement c.1 c.2).spaced layout 1) ++
      a.collection.findings.map (·.shown.spaced layout 1) ++
      [a.collection.errorsElement.spaced layout 1] := by
    simp [shown, Function.comp_def]
  simp only [hs, List.mapM_append, List.mapM_cons, List.mapM_nil, hc, hf, Section.ofElement_project,
    Section.ofElement_errors]
  rfl

end Archive

end BugArchive
