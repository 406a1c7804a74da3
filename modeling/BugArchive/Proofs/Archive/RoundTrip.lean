import BugArchive.Proofs.Archive.Outlet
import BugArchive.Proofs.Archive.Reader
import BugArchive.Proofs.Archive.Shown
import BugArchive.Proofs.Collection.Names
import BugArchive.Proofs.SourceMap
import BugArchive.Settings
import Mathlib.Data.List.Basic

namespace BugArchive

open Xml (Element IsLegalText isLegalText_of_all Layout)

namespace Archive

lemma filterMap_sections {α : Type} (f : Section → Option α) (a : Archive) (layout : Layout) :
    (a.sections layout).filterMap f =
      (f (.project (a.project.toElement.spaced layout 1))).toList ++
      a.collection.classes.filterMap (fun c => f (.appClass c.1 c.2)) ++
      a.collection.findings.filterMap (fun g => f (.finding g)) ++
      (f (.errors a.collection.errors a.collection.missing)).toList := by
  have h1 (s : Section) : [s].filterMap f = (f s).toList := by
    cases h : f s <;> simp [h]
  simp only [sections, List.filterMap_append, List.filterMap_map, Function.comp_def, h1]

lemma flatMap_sections {α : Type} (f : Section → List α) (a : Archive) (layout : Layout) :
    (a.sections layout).flatMap f =
      f (.project (a.project.toElement.spaced layout 1)) ++
      a.collection.classes.flatMap (fun c => f (.appClass c.1 c.2)) ++
      a.collection.findings.flatMap (fun g => f (.finding g)) ++
      f (.errors a.collection.errors a.collection.missing) := by
  simp only [sections, List.flatMap_append, List.flatMap_map, List.flatMap_singleton]

lemma flatMap_of_nil {α β : Type} (xs : List α) : xs.flatMap (fun _ => ([] : List β)) = [] :=
  List.flatMap_eq_nil_iff.mpr fun _ _ => rfl

section Savable

variable {a : Archive} (h : a.IsSavable)

include h

lemma absorb_sections (layout : Layout) :
    absorb (a.sections layout) empty = { a with project.modified := false } := by
  have hm : sourceMap (a.sections layout) = ⟨[]⟩ := by
    simp only [sourceMap, filterMap_sections, Section.entry?, List.filterMap_none]
    rfl
  have hf : (a.sections layout).filterMap Section.finding? = a.collection.findings := by
    simp [filterMap_sections, Section.finding?]
  have hp : (a.sections layout).filterMap Section.project? = [a.project.toElement.spaced layout 1] := by
    simp [filterMap_sections, Section.project?]
  have hc : (a.sections layout).filterMap Section.appClass? = a.collection.classes := by
    simp [filterMap_sections, Section.appClass?]
  have he : (a.sections layout).flatMap Section.messages = a.collection.errors := by
    simp [flatMap_sections, Section.messages, flatMap_of_nil]
  have hn : (a.sections layout).flatMap Section.missing = a.collection.missing := by
    simp [flatMap_sections, Section.missing, flatMap_of_nil]
  have hid : a.collection.findings.map (SourceMap.fill ⟨[]⟩) = a.collection.findings :=
    (List.map_congr_left fun f _ => SourceMap.fill_empty f).trans (List.map_id _)
  have hsorted : a.collection.findings.foldl Collection.insert [] = a.collection.findings :=
    Collection.foldl_insert_sorted h.proper.sorted h.proper.distinct
  have hmissing : Collection.insertNames [] a.collection.missing = a.collection.missing :=
    Collection.insertNames_ascending h.proper.missing
  have hclasses : Collection.setFlags [] a.collection.classes = a.collection.classes :=
    Collection.setFlags_new h.proper.classes
  have hcollection : collect (a.sections layout) empty.collection = a.collection := by
    simp only [collect, staged, hm, hf, hc, he, hn, hid, empty, Collection.empty, hsorted, hmissing,
      hclasses, List.nil_append]
  simp only [absorb, hcollection, hp, List.foldl_cons, List.foldl_nil]
  rw [show empty.project = Project.empty from rfl, Project.absorb_spaced_toElement,
    Project.absorb_toElement h.project.nodup]

variable [Machine]

lemma decode_shown {s : Stream} {width : Nat} (hs : s.access = .seekable) (hl : s.limit ≠ some 0)
    (hc : s.remaining = serialize width a.shown) :
    decode .builtin s = .ok (a.sections (.indented width)) :=
  (decode_serialize .builtin hs hl (isWritable_shown h.not_hasBare) (isLegal_shown h) hc).trans
    (mapM_shown h _)

lemma read_shown {s : Stream} {width : Nat} (hs : s.access = .seekable) (hl : s.limit ≠ some 0)
    (hc : s.remaining = serialize width a.shown) :
    (read .builtin s empty).result = .ok { a with project.modified := false } := by
  rw [result_read, decode_shown h hs hl hc]
  exact congrArg Except.ok (absorb_sections h _)

lemma apply_writeTo_too_wide {width : Nat} (hw : ¬ HasRoom width a.shown) (sink : Sink)
    (o : Outlet) : (a.writeTo width sink).apply o =
      (.error (if Error.indexLimit ≤ width then .indexOverflow else .outOfMemory), o) :=
  apply_writeTo_error (write_too_wide h.not_hasBare h.hasShortNumbers (not_hasIllegal_shown h) hw)

lemma write_wide {width : Nat} (hw : Error.indexLimit ≤ width) :
    a.write width = .error .indexOverflow := by
  have hroom : ¬ HasRoom width a.shown := fun hr => absurd hr.1 (Nat.not_lt.mpr hw)
  rw [write_too_wide h.not_hasBare h.hasShortNumbers (not_hasIllegal_shown h) hroom, if_pos hw]

end Savable

/-- Saving an archive that documents can hold and reading it again gives the archive back, with
nothing modified. Where there is no room for the document, nothing is written anywhere. -/
theorem read_written [Machine] {a : Archive} (h : a.IsSavable) (raw : Option String) :
    let width := Settings.indent raw
    ∃ root, a.toElement = .ok root ∧
      (HasRoom width root → ∃ content note, a.write width = .ok (content, note) ∧
        ∀ s : Stream, s.access = .seekable → s.limit ≠ some 0 → s.remaining = content →
          (read .builtin s empty).result = .ok { a with project.modified := false }) ∧
      (¬ HasRoom width root → ∀ (sink : Sink) (o : Outlet), (a.writeTo width sink).apply o =
        (.error (if Error.indexLimit ≤ width then .indexOverflow else .outOfMemory), o)) :=
  ⟨a.shown, toElement_eq h.not_hasBare h.hasShortNumbers,
    fun hw => ⟨_, _, write_eq h hw, fun _ hs hl hc => read_shown h hs hl hc⟩,
    apply_writeTo_too_wide h⟩

def small : Archive where
  collection := ⟨[⟨"NP", 2, [.inClass "A"]⟩], ["a < b\r"], ["B"], [("A", true)]⟩
  project := ⟨some "p.fbp", ["a.jar"], [], [], false⟩

lemma isSavable_small : small.IsSavable := by
  have ht {ss : List String} (h : ss.all (fun s => s.toList.all Xml.isLegal) = true) :
      ∀ s ∈ ss, IsLegalText s := fun s hs => isLegalText_of_all (List.all_eq_true.mp h s hs)
  refine ⟨⟨fun f hf => ?_, ht (by decide), ht (by decide), fun k hk => ?_⟩, ⟨?_, fun k => ?_, ?_⟩,
    ⟨List.pairwise_singleton _ _, by decide, List.pairwise_singleton _ _, by decide⟩⟩
  · obtain rfl := List.mem_singleton.mp hf
    refine ⟨fun n hn => ?_, ht (by decide), by decide⟩
    obtain rfl := List.mem_singleton.mp hn
    exact Text.Numeral.isShort_of_lt_ten (by decide)
  · obtain rfl := List.mem_singleton.mp hk
    exact isLegalText_of_all (by decide)
  · intro s hs
    obtain rfl := Option.some.inj hs
    exact isLegalText_of_all (by decide)
  · cases k <;> exact ht (by decide)
  · intro k
    cases k <;> decide

section Usual

attribute [local instance] Machine.usual

theorem read_written_small : small.IsSavable ∧
    ∃ content note, small.write (Settings.indent (some "4")) = .ok (content, note) ∧
      ∀ s : Stream, s.access = .seekable → s.limit ≠ some 0 → s.remaining = content →
        (read .builtin s empty).result = .ok { small with project.modified := false } := by
  obtain ⟨root, -, hread, -⟩ := read_written isSavable_small (some "4")
  exact ⟨isSavable_small, hread ⟨by decide, rfl⟩⟩

theorem write_small_wide : small.IsSavable ∧
    small.write (Settings.indent (some "9223372036854775808")) = .error .indexOverflow :=
  ⟨isSavable_small, write_wide isSavable_small (by decide)⟩

end Usual

end Archive

end BugArchive
