import BugArchive.Proofs.Archive.Collect
import BugArchive.Proofs.Finding.Inscribe

namespace BugArchive

open Xml (Element)

/-- The source files that the elements of a document name apart from the lines. Of several for a
class the last counts. -/
def legacyMap (es : List Element) : SourceMap :=
  .ofPairs ((es.filter (·.tag = "SrcMap")).filterMap Section.sourceMapEntry)

def SourceMap.inscribe (m : SourceMap) (e : Element) : Element :=
  if e.tag = "BugInstance" then m.inscribeFinding e else e

def Xml.Element.modern (root : Element) : Element :=
  { root with children :=
      (root.children.filter (·.tag ≠ "SrcMap")).map (legacyMap root.children).inscribe }

namespace Section

variable (m : SourceMap)

def isSourceMap : Section → Bool
  | sourceMap _ => true
  | _ => false

def fill : Section → Section
  | finding f => finding (m.fill f)
  | s => s

def modern (sections : List Section) : List Section :=
  (sections.filter (!·.isSourceMap)).map (fill m)

variable {r : Registry} {e : Element}

lemma isSourceMap_of_ofElement [Machine] {s : Section} (h : ofElement r e = .ok s) :
    s.isSourceMap = decide (e.tag = "SrcMap") := by
  obtain ⟨ht, rfl⟩ | ⟨ht, -, rfl⟩ | ⟨ht, l, -, rfl⟩ | ⟨ht, rfl⟩ | ⟨ht, f, -, rfl⟩ :=
    ofElement_cases h
  · simp [isSourceMap, ht]
  · simp [isSourceMap, ht]
  · simp [isSourceMap, ht]
  · simp [isSourceMap, ht]
  · simp only [ownTags, List.mem_cons, not_or] at ht
    simp [isSourceMap, ht.1]

lemma topLevel_of_ofElement [Machine] {f : Finding} (h : ofElement r e = .ok (.finding f)) :
    Decode.topLevel r e = .ok f := by
  obtain ⟨-, h⟩ | ⟨-, -, h⟩ | ⟨-, l, -, h⟩ | ⟨-, h⟩ | ⟨-, g, hg, h⟩ := ofElement_cases h
  · cases h
  · cases h
  · cases h
  · cases h
  · obtain rfl := Section.finding.inj h
    exact hg

lemma ofElement_inscribe [Machine] (e : Element) :
    ofElement .builtin (m.inscribe e) = (ofElement .builtin e).map (fill m) := by
  by_cases hf : e.tag = "BugInstance"
  · have htag : (m.inscribeFinding e).tag = e.tag := rfl
    simp only [SourceMap.inscribe, hf, if_true, ofElement, htag, Decode.topLevel_inscribe m hf]
    cases Decode.topLevel .builtin e <;> rfl
  · rw [SourceMap.inscribe, if_neg hf]
    cases hs : ofElement .builtin e with
    | error err => rfl
    | ok s =>
      cases s with
      | finding f => exact absurd (Decode.tag_of_topLevel (topLevel_of_ofElement hs)) hf
      | _ => rfl

lemma mapM_inscribe [Machine] (es : List Element) :
    ((es.filter (·.tag ≠ "SrcMap")).map m.inscribe).mapM (ofElement .builtin) =
      (es.mapM (ofElement .builtin)).map (modern m) := by
  induction es with
  | nil => rfl
  | cons e es ih =>
    rw [List.mapM_cons, map_bind]
    cases hs : ofElement .builtin e with
    | error err =>
      have htag : e.tag ≠ "SrcMap" := by
        intro htag
        rw [ofElement, if_pos htag] at hs
        cases hs
      rw [List.filter_cons_of_pos (by simpa using htag), List.map_cons, List.mapM_cons,
        ofElement_inscribe, hs]
      rfl
    | ok s =>
      have hkind := isSourceMap_of_ofElement hs
      by_cases htag : e.tag = "SrcMap"
      · rw [List.filter_cons_of_neg (by simpa using htag), ih]
        rw [decide_eq_true htag] at hkind
        cases es.mapM (ofElement .builtin) with
        | error err => rfl
        | ok ss => simp [bind, Except.bind, pure, Except.pure, Except.map, modern, hkind]
      · rw [List.filter_cons_of_pos (by simpa using htag), List.map_cons, List.mapM_cons,
          ofElement_inscribe, hs, ih]
        rw [decide_eq_false htag] at hkind
        cases es.mapM (ofElement .builtin) with
        | error err => rfl
        | ok ss => simp [bind, Except.bind, pure, Except.pure, Except.map, modern, hkind]

lemma filterMap_entry? [Machine] {es : List Element} {sections : List Section}
    (h : es.mapM (ofElement r) = .ok sections) :
    sections.filterMap entry? = (es.filter (·.tag = "SrcMap")).filterMap sourceMapEntry := by
  induction es generalizing sections with
  | nil =>
    obtain rfl := Except.ok.inj h
    rfl
  | cons e es ih =>
    obtain ⟨s, ss, hs, hss, rfl⟩ := mapM_cons_ok.mp h
    have hkind := isSourceMap_of_ofElement hs
    by_cases htag : e.tag = "SrcMap"
    · rw [ofElement, if_pos htag] at hs
      obtain rfl := Except.ok.inj hs
      rw [List.filter_cons_of_pos (by simpa using htag), List.filterMap_cons, List.filterMap_cons,
        ih hss]
      rfl
    · rw [decide_eq_false htag] at hkind
      have hnone : s.entry? = none := by
        cases s with
        | sourceMap entry => cases hkind
        | _ => rfl
      rw [List.filter_cons_of_neg (by simpa using htag), List.filterMap_cons_none hnone, ih hss]

section Projections

variable {α : Type} (sections : List Section)

lemma filterMap_modern {f g : Section → Option α}
    (h : ∀ s, s.isSourceMap = false → f (s.fill m) = g s)
    (hn : ∀ entry, g (.sourceMap entry) = none) :
    (modern m sections).filterMap f = sections.filterMap g := by
  induction sections with
  | nil => rfl
  | cons s ss ih =>
    cases s with
    | sourceMap entry => rw [List.filterMap_cons_none (hn entry), ← ih]; rfl
    | _ => rw [List.filterMap_cons, ← ih, ← h _ rfl]; rfl

lemma flatMap_modern {f : Section → List α} (h : ∀ s, f (s.fill m) = f s)
    (hn : ∀ entry, f (.sourceMap entry) = []) :
    (modern m sections).flatMap f = sections.flatMap f := by
  induction sections with
  | nil => rfl
  | cons s ss ih =>
    cases s with
    | sourceMap entry => rw [List.flatMap_cons, hn, List.nil_append, ← ih]; rfl
    | _ => rw [List.flatMap_cons, ← ih, ← h]; rfl

end Projections

end Section

namespace Archive

section Sections

variable (m : SourceMap) (sections : List Section)

lemma sourceMap_modern : sourceMap (Section.modern m sections) = ⟨[]⟩ := by
  have h : (Section.modern m sections).filterMap Section.entry? = sections.filterMap fun _ => none :=
    Section.filterMap_modern m sections (fun s hs => by cases s <;> first | rfl | cases hs)
      fun _ => rfl
  rw [sourceMap, h, List.filterMap_none]
  rfl

lemma staged_modern : staged (Section.modern (sourceMap sections) sections) = staged sections := by
  have h : (Section.modern (sourceMap sections) sections).filterMap Section.finding? =
      staged sections := by
    rw [staged, List.map_filterMap]
    exact Section.filterMap_modern _ sections (fun s _ => by cases s <;> rfl) fun _ => rfl
  rw [staged, sourceMap_modern, h]
  exact (List.map_congr_left fun f _ => SourceMap.fill_empty f).trans (List.map_id _)

lemma absorb_modern (p : Project) :
    absorb (Section.modern (sourceMap sections) sections) ⟨.empty, p⟩ =
      absorb sections ⟨.empty, p⟩ := by
  have hp := Section.filterMap_modern (sourceMap sections) sections (f := Section.project?)
    (g := Section.project?) (fun s _ => by cases s <;> rfl) fun _ => rfl
  have hc := Section.filterMap_modern (sourceMap sections) sections (f := Section.appClass?)
    (g := Section.appClass?) (fun s _ => by cases s <;> rfl) fun _ => rfl
  have he := Section.flatMap_modern (sourceMap sections) sections (f := Section.messages)
    (fun s => by cases s <;> rfl) fun _ => rfl
  have hn := Section.flatMap_modern (sourceMap sections) sections (f := Section.missing)
    (fun s => by cases s <;> rfl) fun _ => rfl
  have hfill : ∀ f ∈ (staged sections).foldl Collection.insert [], (sourceMap sections).fill f =
      SourceMap.fill ⟨[]⟩ f := by
    intro f hf
    rw [SourceMap.fill_empty]
    exact fill_staged ((Collection.mem_foldl_insert.mp hf).resolve_left List.not_mem_nil)
  simp only [absorb, collect, staged_modern, sourceMap_modern, hp, hc, he, hn, Collection.empty,
    List.map_congr_left hfill]

end Sections

lemma result_readElements [Machine] (r : Registry) (es : List Element) (a : Archive) :
    ((readElements r es).outcome a).result =
      (es.mapM (Section.ofElement r)).map fun sections => absorb sections a := by
  obtain ⟨log, h⟩ := eval_readElements r es ⟨a, []⟩
  rw [Edit.outcome_result, h]
  cases es.mapM (Section.ofElement r) <;> rfl

/-- A document and its modern form read the same, be it into an archive or into an error; and every
document that decodes is read. -/
theorem readElements_modern [Machine] (root : Element) :
    ((readElements .builtin root.modern.children).outcome empty).result =
        ((readElements .builtin root.children).outcome empty).result ∧
      ((readElements .builtin root.children).outcome empty).result.isOk =
        (Section.decodeAll .builtin root.children).2.isNone := by
  rw [result_readElements, result_readElements, Element.modern, Section.mapM_inscribe]
  cases h : root.children.mapM (Section.ofElement .builtin) with
  | error err =>
    rw [Section.decodeAll_eq_error h]
    exact ⟨rfl, rfl⟩
  | ok sections =>
    have hm : legacyMap root.children = sourceMap sections := by
      rw [legacyMap, sourceMap, Section.filterMap_entry? h]
    rw [Section.decodeAll_eq_ok h, hm]
    exact ⟨congrArg Except.ok (absorb_modern sections .empty), rfl⟩

end Archive

example : (⟨"BugCollection", [], "", [
      .leaf "SrcMap" [("classname", "A"), ("srcfile", "Old.java")],
      ⟨"BugInstance", [("type", "NP")], "", [
        .leaf "SourceLine" [("classname", "A")],
        .leaf "SourceLine" [("classname", "A"), ("sourcefile", "")],
        ⟨"Method", [("classname", "A"), ("name", "f"), ("signature", "()V")], "",
          [.leaf "SourceLine" [("classname", "A")], .leaf "SourceLine" [("classname", "B")]]⟩]⟩,
      .leaf "SrcMap" [("classname", "A"), ("srcfile", "A.java")],
      .leaf "SrcMap" [("classname", "B")]]⟩ : Element).modern =
    ⟨"BugCollection", [], "", [
      ⟨"BugInstance", [("type", "NP")], "", [
        .leaf "SourceLine" [("classname", "A"), ("sourcefile", "A.java")],
        .leaf "SourceLine" [("classname", "A"), ("sourcefile", "")],
        ⟨"Method", [("classname", "A"), ("name", "f"), ("signature", "()V")], "",
          [.leaf "SourceLine" [("classname", "A"), ("sourcefile", "A.java")],
            .leaf "SourceLine" [("classname", "B")]]⟩]⟩]⟩ := by
  rfl

end BugArchive
