import BugArchive.Proofs.Archive.Collect
import BugArchive.Proofs.Archive.RoundTrip
import BugArchive.Proofs.Finding.Decode
import BugArchive.Proofs.Xml.LegalDocument

namespace BugArchive

open Xml (Element IsLegalText)

def Section.IsSavable : Section → Prop
  | .sourceMap entry => ∀ p ∈ entry, IsLegalText p.2
  | .project e => e.IsLegal
  | .errors messages missing => (∀ s ∈ messages, IsLegalText s) ∧ ∀ s ∈ missing, IsLegalText s
  | .appClass name _ => IsLegalText name
  | .finding f => f.IsSavable

namespace Section

lemma isLegal_errorLists {es : List Element} {l : List String × List String}
    (h : errorLists es = .ok l) (he : ∀ e ∈ es, e.IsLegal) :
    (∀ s ∈ l.1, IsLegalText s) ∧ ∀ s ∈ l.2, IsLegalText s := by
  induction es generalizing l with
  | nil =>
    obtain rfl := Except.ok.inj h
    exact ⟨(fun s hs => by cases hs), fun s hs => by cases hs⟩
  | cons e es ih =>
    obtain ⟨hh, hs⟩ := List.forall_mem_cons.mp he
    have ht := (Element.isLegal_iff.mp hh).1.2
    unfold errorLists at h
    split at h
    · obtain ⟨k, hk, rfl⟩ := map_eq_ok.mp h
      obtain ⟨hm, hn⟩ := ih hk hs
      exact ⟨List.forall_mem_cons.mpr ⟨ht, hm⟩, hn⟩
    split at h
    · obtain ⟨k, hk, rfl⟩ := map_eq_ok.mp h
      obtain ⟨hm, hn⟩ := ih hk hs
      exact ⟨hm, List.forall_mem_cons.mpr ⟨ht, hn⟩⟩
    · cases h

lemma isSavable_ofElement [Machine] {r : Registry} {e : Element} {s : Section} (h : ofElement r e = .ok s)
    (hl : e.IsLegal) : s.IsSavable := by
  obtain ⟨-, rfl⟩ | ⟨-, -, rfl⟩ | ⟨-, l, hlists, rfl⟩ | ⟨-, rfl⟩ | ⟨-, f, hf, rfl⟩ :=
    ofElement_cases h
  · intro p hp
    obtain ⟨c, -, hp⟩ := Option.bind_eq_some_iff.mp hp
    obtain ⟨f, hf, hp⟩ := Option.bind_eq_some_iff.mp hp
    obtain rfl := Option.some.inj hp
    exact Decode.isLegalText_get? hl hf
  · exact hl
  · exact isLegal_errorLists hlists (Element.isLegal_iff.mp hl).2
  · exact (Element.isLegal_iff.mp hl).1.2
  · exact Decode.isSavable_topLevel hf hl

end Section

namespace Project

lemma isSavable_absorb {p : Project} {e : Element} (h : p.IsSavable) (he : e.IsLegal) :
    (p.absorb e).IsSavable := by
  refine ⟨fun s hs => ?_, fun k s hs => ?_, fun k => ?_⟩
  · rw [filename_absorb] at hs
    rcases Option.or_eq_some_iff.mp hs with hs | ⟨-, hs⟩
    · exact Decode.isLegalText_get? he hs
    · exact h.filename s hs
  · rw [paths_absorb, mem_extend] at hs
    rcases hs with hs | hs
    · exact h.paths k s hs
    · obtain ⟨c, hc, hs⟩ := List.mem_filterMap.mp hs
      split at hs
      · obtain rfl := Option.some.inj hs
        exact (Element.isLegal_iff.mp ((Element.isLegal_iff.mp he).2 c hc)).1.2
      · cases hs
  · rw [paths_absorb]
    exact nodup_extend _ (h.nodup k)

lemma isSavable_foldl_absorb {p : Project} {es : List Element} (h : p.IsSavable)
    (he : ∀ e ∈ es, e.IsLegal) : (es.foldl absorb p).IsSavable := by
  induction es generalizing p with
  | nil => exact h
  | cons e es ih =>
    obtain ⟨hh, hs⟩ := List.forall_mem_cons.mp he
    exact ih (isSavable_absorb h hh) hs

lemma isSavable_setModified {p : Project} (h : p.IsSavable) (modified : Bool) :
    IsSavable { p with modified := modified } := by
  have hp (k : PathKind) : paths { p with modified := modified } k = p.paths k := by
    cases k <;> rfl
  exact ⟨h.filename, fun k => hp k ▸ h.paths k, fun k => hp k ▸ h.nodup k⟩

end Project

namespace Archive

section Sections

variable {sections : List Section} (hs : ∀ s ∈ sections, s.IsSavable)

include hs

lemma isLegal_sourceMap : (sourceMap sections).IsLegal := fun p hp =>
  hs _ (Section.mem_entries.mp (List.mem_reverse.mp hp)) p rfl

lemma isSavable_staged : ∀ f ∈ staged sections, f.IsSavable := by
  intro f hf
  obtain ⟨g, hg, rfl⟩ := List.mem_map.mp hf
  exact SourceMap.isSavable_fill (isLegal_sourceMap hs) (hs _ (Section.mem_findings.mp hg))

lemma isSavable_collect {c : Collection} (h : c.IsSavable) : (collect sections c).IsSavable := by
  refine ⟨fun f hf => ?_, fun s hm => ?_, fun s hm => ?_, fun k hk => ?_⟩
  · obtain ⟨g, hg, rfl⟩ := List.mem_map.mp hf
    refine SourceMap.isSavable_fill (isLegal_sourceMap hs) ?_
    rcases Collection.mem_foldl_insert.mp hg with hg | hg
    · exact h.findings g hg
    · exact isSavable_staged hs g hg
  · rcases List.mem_append.mp hm with hm | hm
    · exact h.errors s hm
    · obtain ⟨ms, ns, he, hm⟩ := Section.mem_messages.mp hm
      exact (hs _ he).1 s hm
  · rcases Collection.mem_insertNames.mp hm with hm | hm
    · exact h.missing s hm
    · obtain ⟨ms, ns, he, hm⟩ := Section.mem_missing.mp hm
      exact (hs _ he).2 s hm
  · rcases Collection.mem_setFlags hk with hk | hk
    · exact h.classes k hk
    · exact hs _ (Section.mem_classes.mp hk)

lemma isSavable_absorb {a : Archive} (h : a.IsSavable)
    (hm : ¬ (sourceMap sections).Merges a.collection.findings (staged sections)) :
    (absorb sections a).IsSavable := by
  refine ⟨isSavable_collect hs h.collection, Project.isSavable_setModified ?_ false, ?_⟩
  · exact Project.isSavable_foldl_absorb h.project fun e he => hs _ (Section.mem_projects.mp he)
  · exact ⟨isSorted_collect h.proper.sorted, (nodup_collect_iff h.proper.distinct).mpr hm,
      Collection.ascending_insertNames _ h.proper.missing,
      Collection.nodup_setFlags _ h.proper.classes⟩

end Sections

lemma isSavable_empty : empty.IsSavable := by
  have hn {α : Type} {P : α → Prop} : ∀ x ∈ ([] : List α), P x := fun x hx => by cases hx
  have hp (k : PathKind) : empty.project.paths k = [] := by cases k <;> rfl
  refine ⟨⟨hn, hn, hn, hn⟩, ⟨(fun s hs => by cases hs), fun k => ?_, fun k => ?_⟩,
    .nil, .nil, .nil, .nil⟩
  · rw [hp]
    exact hn
  · rw [hp]
    exact .nil

section Read

variable {r : Registry} {s : Stream} {a : Archive}

lemma isLegal_parse {root : Element} (h : parse s = .ok root) : root.IsLegal := by
  unfold parse at h
  split at h
  · cases h
  split at h
  · rename_i hread
    obtain rfl := Except.ok.inj h
    exact Xml.Document.isLegal_read hread
  · cases h

variable [Machine]

lemma isSavable_of_decode {sections : List Section} (h : decode r s = .ok sections) :
    ∀ t ∈ sections, t.IsSavable := by
  obtain ⟨-, -, h⟩ := bind_eq_ok.mp h
  obtain ⟨root, hroot, h⟩ := bind_eq_ok.mp h
  have hchildren := (Element.isLegal_iff.mp (isLegal_parse hroot)).2
  intro t ht
  obtain ⟨e, he, hte⟩ := exists_of_mapM_ok h ht
  exact Section.isSavable_ofElement hte (hchildren e he)

lemma isSavable_read (h : (read r s empty).result = .ok a) : a.IsSavable := by
  rw [result_read] at h
  obtain ⟨sections, hd, rfl⟩ := map_eq_ok.mp h
  refine isSavable_absorb (isSavable_of_decode hd) isSavable_empty ?_
  rintro ⟨f, hf, -⟩
  cases hf

lemma modified_read (h : (read r s empty).result = .ok a) : a.project.modified = false := by
  rw [result_read] at h
  obtain ⟨sections, -, rfl⟩ := map_eq_ok.mp h
  rfl

/-- Whatever can be read, under whatever names, can be written where there is room for the
document; and reading what was written gives the same archive, which is written the same. -/
theorem upgrade_idempotent (h : (read r s empty).result = .ok a) (raw : Option String) :
    let width := Settings.indent raw
    ∃ root, a.toElement = .ok root ∧
      (HasRoom width root → ∃ content note, a.write width = .ok (content, note) ∧
        ∀ t : Stream, t.access = .seekable → t.limit ≠ some 0 → t.remaining = content →
          ∃ b, (read .builtin t empty).result = .ok b ∧ b = a ∧
            b.write width = .ok (content, note)) ∧
      (¬ HasRoom width root → ∀ (sink : Sink) (o : Outlet), (a.writeTo width sink).apply o =
        (.error (if Error.indexLimit ≤ width then .indexOverflow else .outOfMemory), o)) := by
  have ha := isSavable_read h
  have hm : { a with project.modified := false } = a := by
    rw [← modified_read h]
  refine ⟨a.shown, toElement_eq ha.not_hasBare ha.hasShortNumbers, fun hw => ?_,
    apply_writeTo_too_wide ha⟩
  refine ⟨_, _, write_eq ha hw, fun t ht hl hc => ⟨a, ?_, rfl, write_eq ha hw⟩⟩
  rw [read_shown ha ht hl hc, hm]

end Read

def foreign : Element :=
  ⟨"BugCollection", [], "", [⟨"Bug", [("type", "NP")], "", []⟩,
    ⟨"Project", [], "", [.ofText "Jar" "a.jar", .ofText "Jar" "a.jar"]⟩]⟩

def foreignNames : Registry :=
  .ofList [("Bug", .finding)]

def adopted : Archive :=
  ⟨⟨[⟨"NP", 2, []⟩], [], [], []⟩, ⟨none, ["a.jar"], [], [], false⟩⟩

section Usual

attribute [local instance] Machine.usual

lemma read_foreign :
    (read foreignNames (.ofContent (serialize 2 foreign)) empty).result = .ok adopted := by
  have hw : foreign.IsWritable := Element.isWritable_of_all (by decide)
  have hl : foreign.IsLegal := Element.isLegal_of_all (by decide)
  have hfinding : Decode.finding foreignNames 0 ⟨"Bug", [("type", "NP")], "", []⟩ =
      .ok ⟨"NP", 2, []⟩ := by
    rw [Decode.finding]
    simp only [Decode.details]
    rfl
  have htop : Decode.topLevel foreignNames ⟨"Bug", [("type", "NP")], "", []⟩ =
      .ok ⟨"NP", 2, []⟩ := by
    have hk : foreignNames.get? "Bug" = some .finding := by decide
    simp only [Decode.topLevel, hk, Decode.item, hfinding]
    rfl
  have hd : decode foreignNames (.ofContent (serialize 2 foreign)) =
      .ok [.finding ⟨"NP", 2, []⟩, .project (foreign.children[1].spaced (.indented 2) 1)] := by
    rw [decode_serialize (s := .ofContent (serialize 2 foreign)) foreignNames rfl (by decide) hw hl rfl]
    simp only [List.map_cons, List.mapM_cons, Section.ofElement, Decode.topLevel_spaced,
      Element.spaced_tag, htop]
    rfl
  have hinsert : Collection.insert [] ⟨"NP", 2, []⟩ = [⟨"NP", 2, []⟩] :=
    Collection.insert_last (by decide) (by decide)
  rw [result_read, hd]
  refine congrArg Except.ok ?_
  simp only [absorb, collect, staged, List.filterMap_cons, Section.finding?, List.filterMap_nil,
    List.map_cons, List.map_nil, List.foldl_cons, List.foldl_nil, empty, Collection.empty,
    show (sourceMap _).fill ⟨"NP", 2, []⟩ = ⟨"NP", 2, []⟩ from rfl, hinsert]
  rfl

theorem upgrade_idempotent_foreign :
    (read foreignNames (.ofContent (serialize 2 foreign)) empty).result = .ok adopted ∧
      ∃ content note, adopted.write (Settings.indent none) = .ok (content, note) ∧
        ∀ t : Stream, t.access = .seekable → t.limit ≠ some 0 → t.remaining = content →
          ∃ b, (read .builtin t empty).result = .ok b ∧ b = adopted ∧
            b.write (Settings.indent none) = .ok (content, note) := by
  obtain ⟨root, -, hwrite, -⟩ := upgrade_idempotent read_foreign none
  exact ⟨read_foreign, hwrite ⟨by decide, rfl⟩⟩

theorem upgrade_foreign_wide :
    (read foreignNames (.ofContent (serialize 2 foreign)) empty).result = .ok adopted ∧
      adopted.write (Settings.indent (some "9223372036854775808")) = .error .indexOverflow :=
  ⟨read_foreign, write_wide (isSavable_read read_foreign) (by decide)⟩

end Usual

end Archive

end BugArchive
