import BugArchive.Finding.Decode
import BugArchive.Proofs.Registry
import BugArchive.SourceMap

/-! A source map can be written into elements, as the source file of every line that has none. To
decode such elements is to decode them without and to fill in the source files then. -/

namespace BugArchive

open Xml (Element)

namespace SourceMap

variable (m : SourceMap)

def inscribeLine (e : Element) : Element :=
  if e.tag = "SourceLine" ∧ e.get? "sourcefile" = none then
    match (e.get? "classname").bind m.get? with
    | some file => { e with attributes := e.attributes ++ [("sourcefile", file)] }
    | none => e
  else e

def inscribeDetail (e : Element) : Element :=
  if e.tag = "Method" then { e with children := e.children.map m.inscribeLine }
  else m.inscribeLine e

def inscribeFinding (e : Element) : Element :=
  { e with children := e.children.map m.inscribeDetail }

@[simp]
lemma inscribeLine_tag (e : Element) : (m.inscribeLine e).tag = e.tag := by
  unfold inscribeLine
  split
  · split <;> rfl
  · rfl

@[simp]
lemma inscribeDetail_tag (e : Element) : (m.inscribeDetail e).tag = e.tag := by
  unfold inscribeDetail
  split
  · rfl
  · exact m.inscribeLine_tag e

lemma inscribeLine_children (e : Element) : (m.inscribeLine e).children = e.children := by
  unfold inscribeLine
  split
  · split <;> rfl
  · rfl

lemma get?_inscribeLine {name : String} (h : name ≠ "sourcefile") (e : Element) :
    (m.inscribeLine e).get? name = e.get? name := by
  have hn : (name == "sourcefile") = false := beq_eq_false_iff_ne.mpr h
  unfold inscribeLine
  split
  · split
    · simp [Element.get?, List.lookup_append, List.lookup_cons, hn]
    · rfl
  · rfl

lemma get?_sourcefile_inscribeLine {e : Element} (h : e.tag = "SourceLine") :
    (m.inscribeLine e).get? "sourcefile" =
      (e.get? "sourcefile").or ((e.get? "classname").bind m.get?) := by
  unfold inscribeLine
  cases hf : e.get? "sourcefile" with
  | some file => simp [hf]
  | none =>
    simp only [h, and_self, if_true, Option.none_or]
    cases (e.get? "classname").bind m.get? with
    | none => exact hf
    | some file =>
      have hl : e.attributes.lookup "sourcefile" = none := hf
      simp [Element.get?, List.lookup_append, hl]

end SourceMap

namespace Decode

open SourceMap

variable (m : SourceMap)

lemma sourceLine_inscribeLine {e : Element} (h : e.tag = "SourceLine") :
    sourceLine (m.inscribeLine e) = (sourceLine e).map m.fillLine := by
  have hreq : required (m.inscribeLine e) "classname" = required e "classname" := by
    simp [required, get?_inscribeLine]
  have hint {name : String} (hn : name ≠ "sourcefile") :
      optionalInt (m.inscribeLine e) name SourceLine.unknown =
        optionalInt e name SourceLine.unknown := by
    simp [optionalInt, integer, get?_inscribeLine m hn]
  unfold sourceLine
  simp only [map_bind, hreq, hint (by decide : "start" ≠ "sourcefile"),
    hint (by decide : "end" ≠ "sourcefile"), hint (by decide : "startBytecode" ≠ "sourcefile"),
    hint (by decide : "endBytecode" ≠ "sourcefile"), get?_sourcefile_inscribeLine m h]
  refine bind_congr_ok fun className hc => bind_congr_ok fun first _ => bind_congr_ok fun last _ =>
    bind_congr_ok fun firstBytecode _ => bind_congr_ok fun lastBytecode _ => ?_
  have hclass : e.get? "classname" = some className := by
    unfold required at hc
    split at hc
    · rename_i hv
      exact hv.trans (congrArg some (Except.ok.inj hc))
    · cases hc
  cases hf : e.get? "sourcefile" with
  | some file => simp [pure, Except.pure, Except.map, fillLine]
  | none => simp [pure, Except.pure, Except.map, fillLine, hclass]

lemma methodLines_inscribe (lines : Option SourceLine) (es : List Element) :
    methodLines (lines.map m.fillLine) (es.map m.inscribeLine) =
      (methodLines lines es).map (Option.map m.fillLine) := by
  induction es generalizing lines with
  | nil => rfl
  | cons e es ih =>
    rw [List.map_cons, methodLines, methodLines, m.inscribeLine_tag]
    by_cases h : e.tag = "SourceLine"
    · have ht : e.tag = Kind.atLine.tag := h
      rw [if_pos ht, if_pos ht, sourceLine_inscribeLine m h]
      cases sourceLine e with
      | error err => rfl
      | ok l => exact ih (some l)
    · have ht : ¬ e.tag = Kind.atLine.tag := h
      rw [if_neg ht, if_neg ht]
      rfl

lemma inMethod_inscribe (e : Element) :
    inMethod { e with children := e.children.map m.inscribeLine } =
      (inMethod e).map m.fillDetail := by
  have hreq (name : String) :
      required { e with children := e.children.map m.inscribeLine } name = required e name := rfl
  have hlines := methodLines_inscribe m none e.children
  rw [Option.map_none] at hlines
  unfold inMethod
  simp only [map_bind, hreq, hlines]
  cases methodLines none e.children with
  | error err => rfl
  | ok lines =>
    exact bind_congr_ok fun className _ => bind_congr_ok fun name _ => bind_congr_ok fun signature _ =>
      rfl

lemma map_fillDetail {r : Except Error Detail} (h : ∀ a, r = .ok a → m.fillDetail a = a) :
    r.map m.fillDetail = r := by
  cases r with
  | error err => rfl
  | ok a => exact congrArg Except.ok (h a rfl)

lemma calls_inscribe (k : Kind) (e : Element) : calls k (m.inscribeDetail e) = calls k e := by
  have hc : (m.inscribeDetail e).children.head?.map (·.tag) = e.children.head?.map (·.tag) := by
    unfold inscribeDetail
    split
    · cases hc : e.children <;> simp
    · rw [m.inscribeLine_children]
  simp only [calls, hc]

section Room

variable [Machine]

lemma map_fillDetail_detail (around : Nat) {e : Element} (hm : e.tag ≠ "Method")
    (hs : e.tag ≠ "SourceLine") :
    (detail .builtin around e).map m.fillDetail = detail .builtin around e := by
  rw [detail]
  cases hk : Registry.builtin.get? e.tag with
  | none => rfl
  | some k =>
    have htag := Registry.eq_tag_of_get?_builtin hk
    dsimp only
    split
    · rfl
    cases k with
    | inMethod => exact absurd htag hm
    | atLine => exact absurd htag hs
    | finding =>
      refine map_fillDetail m fun a ha => ?_
      obtain ⟨f, -, ha⟩ := bind_eq_ok.mp ha
      cases ha
    | inClass =>
      refine map_fillDetail m fun a ha => ?_
      obtain ⟨name, -, ha⟩ := bind_eq_ok.mp ha
      obtain rfl := Except.ok.inj ha
      rfl
    | onField =>
      refine map_fillDetail m fun a ha => ?_
      obtain ⟨className, -, ha⟩ := bind_eq_ok.mp ha
      obtain ⟨name, -, ha⟩ := bind_eq_ok.mp ha
      obtain ⟨signature, -, ha⟩ := bind_eq_ok.mp ha
      obtain rfl := Except.ok.inj ha
      rfl
    | number =>
      refine map_fillDetail m fun a ha => ?_
      obtain ⟨n, -, ha⟩ := bind_eq_ok.mp ha
      obtain rfl := Except.ok.inj ha
      rfl

lemma detail_inscribe (around : Nat) (e : Element) :
    detail .builtin around (m.inscribeDetail e) = (detail .builtin around e).map m.fillDetail := by
  by_cases hm : e.tag = "Method"
  · have hk : Registry.builtin.get? e.tag = some .inMethod := hm ▸ Registry.get?_builtin .inMethod
    rw [detail, detail, m.inscribeDetail_tag, hk]
    simp only [calls_inscribe]
    split
    · rfl
    · rw [inscribeDetail, if_pos hm]
      exact inMethod_inscribe m e
  by_cases hs : e.tag = "SourceLine"
  · have hk : Registry.builtin.get? e.tag = some .atLine := hs ▸ Registry.get?_builtin .atLine
    rw [detail, detail, m.inscribeDetail_tag, hk]
    simp only [calls_inscribe]
    split
    · rfl
    · rw [inscribeDetail, if_neg hm, sourceLine_inscribeLine m hs]
      cases sourceLine e <;> rfl
  · rw [inscribeDetail, if_neg hm, inscribeLine, if_neg fun h => hs h.1, map_fillDetail_detail m around hm hs]

lemma details_inscribe (around : Nat) (es : List Element) :
    details .builtin around (es.map m.inscribeDetail) =
      (details .builtin around es).map (List.map m.fillDetail) := by
  induction es with
  | nil =>
    rw [List.map_nil, details]
    rfl
  | cons e es ih =>
    rw [List.map_cons, details, details, detail_inscribe, ih]
    cases detail .builtin around e with
    | error err => rfl
    | ok a => cases details .builtin around es <;> rfl

lemma finding_inscribe (around : Nat) (e : Element) :
    finding .builtin around (m.inscribeFinding e) = (finding .builtin around e).map m.fill := by
  obtain ⟨tag, attributes, text, children⟩ := e
  rw [inscribeFinding, finding, finding, details_inscribe]
  simp only [map_bind]
  refine bind_congr_ok fun type _ => bind_congr_ok fun priority _ => ?_
  cases details .builtin (around + 1) children <;> rfl

lemma tag_of_topLevel {e : Element} {f : Finding} (h : topLevel .builtin e = .ok f) :
    e.tag = "BugInstance" := by
  unfold topLevel at h
  cases hk : Registry.builtin.get? e.tag with
  | none =>
    rw [hk] at h
    cases h
  | some k =>
    rw [hk] at h
    obtain ⟨i, hi, h⟩ := bind_eq_ok.mp h
    cases k with
    | finding => exact Registry.eq_tag_of_get?_builtin hk
    | _ =>
      obtain ⟨a, -, rfl⟩ := map_eq_ok.mp hi
      cases h

lemma topLevel_inscribe {e : Element} (h : e.tag = "BugInstance") :
    topLevel .builtin (m.inscribeFinding e) = (topLevel .builtin e).map m.fill := by
  have hk : Registry.builtin.get? e.tag = some .finding := h ▸ Registry.get?_builtin .finding
  have htag : (m.inscribeFinding e).tag = e.tag := rfl
  rw [topLevel, topLevel, htag, hk]
  simp only [item, finding_inscribe]
  cases finding .builtin 0 e <;> rfl

end Room

end Decode

end BugArchive
