import BugArchive.Finding.Decode
import BugArchive.Proofs.Xml.Written

/-! Findings are decoded without a look at text, so the layout of a document does not matter. -/

namespace BugArchive.Decode

open Xml (Element Layout)

variable (layout : Layout)

@[simp]
lemma get?_spaced (level : Nat) (e : Element) (name : String) :
    (e.spaced layout level).get? name = e.get? name := by
  simp [Element.get?]

@[simp]
lemma required_spaced (level : Nat) (e : Element) (name : String) :
    required (e.spaced layout level) name = required e name := by
  simp [required]

@[simp]
lemma integer_spaced (level : Nat) (e : Element) (name raw : String) :
    integer (e.spaced layout level) name raw = integer e name raw := by
  simp [integer]

@[simp]
lemma optionalInt_spaced (level : Nat) (e : Element) (name : String) (default : Int) :
    optionalInt (e.spaced layout level) name default = optionalInt e name default := by
  simp [optionalInt]

@[simp]
lemma sourceLine_spaced (level : Nat) (e : Element) :
    sourceLine (e.spaced layout level) = sourceLine e := by
  simp [sourceLine]

lemma methodLines_spaced (level : Nat) (lines : Option SourceLine) (es : List Element) :
    methodLines lines (es.map (·.spaced layout level)) = methodLines lines es := by
  induction es generalizing lines with
  | nil => rfl
  | cons e es ih => simp [methodLines, ih]

@[simp]
lemma inMethod_spaced (level : Nat) (e : Element) :
    inMethod (e.spaced layout level) = inMethod e := by
  simp [inMethod, methodLines_spaced]

@[simp]
lemma isTrue_spaced (level : Nat) (e : Element) (name : String) :
    isTrue (e.spaced layout level) name = isTrue e name := by
  simp [isTrue]

@[simp]
lemma inClass_spaced (level : Nat) (e : Element) : inClass (e.spaced layout level) = inClass e := by
  simp [inClass]

@[simp]
lemma onField_spaced (level : Nat) (e : Element) : onField (e.spaced layout level) = onField e := by
  simp [onField]

@[simp]
lemma number_spaced (level : Nat) (e : Element) : number (e.spaced layout level) = number e := by
  simp [number, requiredInt]

@[simp]
lemma calls_spaced (k : Kind) (level : Nat) (e : Element) :
    calls k (e.spaced layout level) = calls k e := by
  have hc : (e.spaced layout level).children.head?.map (·.tag) = e.children.head?.map (·.tag) := by
    cases hc : e.children <;> simp [hc]
  simp only [calls, hc]

variable [Machine] (r : Registry)

mutual

lemma finding_spaced (around level : Nat) (e : Element) :
    finding r around (e.spaced layout level) = finding r around e := by
  match e with
  | ⟨tag, attributes, text, children⟩ =>
    have hc := details_spaced (around + 1) (level + 1) children
    have ht (name : String) : required ⟨tag, attributes,
        Element.shownText layout level ⟨tag, attributes, text, children⟩,
        Element.spacedAll layout (level + 1) children⟩ name =
        required ⟨tag, attributes, text, children⟩ name := by
      simp [required, Element.get?]
    have hi (name : String) (n : Int) : optionalInt ⟨tag, attributes,
        Element.shownText layout level ⟨tag, attributes, text, children⟩,
        Element.spacedAll layout (level + 1) children⟩ name n =
        optionalInt ⟨tag, attributes, text, children⟩ name n := by
      simp [optionalInt, integer, Element.get?]
    rw [Element.spaced, finding, finding, hc, ht, hi]

lemma details_spaced (around level : Nat) (es : List Element) :
    details r around (Element.spacedAll layout level es) = details r around es := by
  match es with
  | [] => rw [Element.spacedAll]
  | e :: es =>
    rw [Element.spacedAll, details, details, detail_spaced around level e,
      details_spaced around level es]

lemma detail_spaced (around level : Nat) (e : Element) :
    detail r around (e.spaced layout level) = detail r around e := by
  have hf := finding_spaced around level e
  rw [detail, detail, hf]
  simp

end

lemma topLevel_spaced (level : Nat) (e : Element) :
    topLevel r (e.spaced layout level) = topLevel r e := by
  have hi (k : Kind) : item r k (e.spaced layout level) = item r k e := by
    cases k <;> simp [item, finding_spaced]
  simp [topLevel, hi]

end BugArchive.Decode
