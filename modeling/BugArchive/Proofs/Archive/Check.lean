import BugArchive.Archive.Writer
import BugArchive.Proofs.Xml.LegalElement
import BugArchive.Proofs.Xml.Surrogate

namespace BugArchive

open Text (CodePoint Spelled)
open Xml (Element IsLegalText)

namespace Xml

def IsChar (p : CodePoint) : Prop :=
  p.value = 0x9 ∨ p.value = 0xA ∨ p.value = 0xD ∨ (0x20 ≤ p.value ∧ p.value ≤ 0xD7FF) ∨
    (0xE000 ≤ p.value ∧ p.value ≤ 0xFFFD) ∨ (0x10000 ≤ p.value ∧ p.value ≤ 0x10FFFF)

lemma isChar_ofChar {c : Char} : IsChar (.ofChar c) ↔ isLegal c = true := by
  have hc : c.toNat < 0xD800 ∨ 0xDFFF < c.toNat ∧ c.toNat < 0x110000 := c.valid
  simp only [isLegal, IsChar, CodePoint.ofChar, Bool.or_eq_true, Bool.and_eq_true, beq_iff_eq,
    decide_eq_true_eq]
  omega

lemma IsChar.char? {p : CodePoint} (h : IsChar p) : p.char? ≠ none := by
  have hv : p.value.isValidChar := by
    simp only [IsChar] at h
    simp only [Nat.isValidChar]
    omega
  rw [CodePoint.char?, dif_pos hv]
  exact Option.some_ne_none _

end Xml

section Value

variable {σ : Type}

structure Value (σ : Type) where
  tag : String
  place : Place
  text : σ

namespace Xml.Element

def values (e : Element σ) : List (Value σ) :=
  e.attributes.map (fun a => ⟨e.tag, .attribute a.1, a.2⟩) ++ [⟨e.tag, .text, e.text⟩]

def allValues (root : Element σ) : List (Value σ) :=
  root.nodes.flatMap values

lemma forall_allValues {root : Element σ} {P : σ → Prop} : (∀ v ∈ root.allValues, P v.text) ↔
    ∀ n ∈ root.nodes, (∀ a ∈ n.attributes, P a.2) ∧ P n.text := by
  simp only [allValues, values, List.forall_mem_flatMap, List.forall_mem_append,
    List.forall_mem_map, List.forall_mem_singleton]

end Xml.Element

variable [Spelled σ]

def Value.IsLegal (v : Value σ) : Prop :=
  ∀ p ∈ Spelled.points v.text, Xml.IsChar p

namespace Xml

lemma isLegalText_iff {text : String} :
    IsLegalText text ↔ ∀ p ∈ Spelled.points text, IsChar p := by
  simp only [IsLegalText, Text.points_string, List.forall_mem_map, isChar_ofChar]

lemma isLegal_points_iff {text : σ} : (∀ p ∈ Spelled.points text, IsChar p) ↔
    ¬ HasSurrogate text ∧ IsLegalText (characters text) := by
  rw [isLegalText_iff]
  constructor
  · intro h
    have hs : ¬ HasSurrogate text := fun ⟨p, hp, hnone⟩ => (h p hp).char? hnone
    exact ⟨hs, points_characters hs ▸ h⟩
  · rintro ⟨hs, h⟩
    exact points_characters hs ▸ h

namespace Element

def HasIllegal (root : Element σ) : Prop :=
  ∃ v ∈ root.allValues, ¬ v.IsLegal

/-- Whether `p` is the first code point in the values of a document that documents cannot hold, and
where it stands. -/
def FirstIllegal (root : Element σ) (tag : String) (place : Place) (p : CodePoint) : Prop :=
  ∃ front text back, root.allValues = front ++ ⟨tag, place, text⟩ :: back ∧
    (∀ v ∈ front, v.IsLegal) ∧ ∃ before after,
      Spelled.points text = before ++ p :: after ∧ (∀ q ∈ before, IsChar q) ∧ ¬ IsChar p

variable {root : Element σ}

lemma not_hasIllegal_iff : ¬ root.HasIllegal ↔ ∀ v ∈ root.allValues, v.IsLegal := by
  simp only [HasIllegal, not_exists, not_and, Classical.not_not]

lemma isLegal_iff_not_hasIllegal {root : Element} : root.IsLegal ↔ ¬ root.HasIllegal := by
  rw [not_hasIllegal_iff]
  simp only [Value.IsLegal, forall_allValues (P := fun text => ∀ p ∈ Spelled.points text, IsChar p),
    IsLegal, isLegalText_iff]

lemma hasIllegal_iff_characters :
    root.HasIllegal ↔ ¬ (¬ root.HasSurrogate ∧ root.characters.IsLegal) := by
  have hs : ¬ root.HasSurrogate ↔ ∀ v ∈ root.allValues, ¬ Xml.HasSurrogate v.text := by
    rw [forall_allValues (P := fun text => ¬ Xml.HasSurrogate text)]
    simp only [HasSurrogate, not_exists, not_and, not_or]
  have hl : root.characters.IsLegal ↔
      ∀ v ∈ root.allValues, IsLegalText (Xml.characters v.text) := by
    rw [forall_allValues (P := fun text => IsLegalText (Xml.characters text)), IsLegal,
      nodes_characters, List.forall_mem_map]
    refine forall₂_congr fun n _ => ?_
    cases n
    simp only [characters, spelledAttributes, List.forall_mem_map]
  rw [← Classical.not_not (a := root.HasIllegal), not_hasIllegal_iff]
  simp only [Value.IsLegal, isLegal_points_iff, hs, hl, forall_and]

end Element

end Xml

end Value

namespace Archive

section Fault

variable {σ : Type} [Spelled σ]

def faultOf (v : Value σ) : Option Error :=
  ((Spelled.points v.text).find? isIllegal).map (.illegalCharacter v.tag v.place)

lemma isIllegal_iff {p : CodePoint} : isIllegal p = true ↔ ¬ Xml.IsChar p := by
  simp only [isIllegal, Xml.IsChar, Bool.not_eq_true', ← Bool.not_eq_true, Bool.or_eq_true,
    Bool.and_eq_true, beq_iff_eq, decide_eq_true_eq, or_assoc]

lemma not_isIllegal_iff {p : CodePoint} : (!isIllegal p) = true ↔ Xml.IsChar p := by
  rw [Bool.not_eq_true', ← Bool.not_eq_true, isIllegal_iff, Classical.not_not]

lemma faultOf_eq_none {v : Value σ} : faultOf v = none ↔ v.IsLegal := by
  simp only [faultOf, Option.map_eq_none_iff, List.find?_eq_none, isIllegal_iff, Classical.not_not,
    Value.IsLegal]

lemma faultOf_eq_some {v : Value σ} {err : Error} : faultOf v = some err ↔ ∃ p,
    err = .illegalCharacter v.tag v.place p ∧ ∃ before after,
      Spelled.points v.text = before ++ p :: after ∧ (∀ q ∈ before, Xml.IsChar q) ∧
        ¬ Xml.IsChar p := by
  simp only [faultOf, Option.map_eq_some_iff, List.find?_eq_some_iff_append, isIllegal_iff,
    not_isIllegal_iff]
  constructor
  · rintro ⟨c, ⟨hc, before, after, ht, hb⟩, rfl⟩
    exact ⟨c, rfl, before, after, ht, hb, hc⟩
  · rintro ⟨c, rfl, before, after, ht, hb, hc⟩
    exact ⟨c, ⟨hc, before, after, ht, hb⟩, rfl⟩

lemma findSome?_nodes (root : Element σ) :
    root.nodes.findSome? illegalIn = root.allValues.findSome? faultOf := by
  have hnode (e : Element σ) : illegalIn e = (e.values.filterMap faultOf).head? := by
    rw [List.head?_filterMap, Element.values, List.findSome?_append, List.findSome?_map,
      List.findSome?_singleton]
    rfl
  calc root.nodes.findSome? illegalIn
    _ = root.nodes.findSome? fun e => (e.values.filterMap faultOf).head? :=
      congrArg (List.findSome? · root.nodes) (funext hnode)
    _ = (root.allValues.filterMap faultOf).head? := by
      rw [Element.allValues, List.filterMap_flatMap, List.head?_flatMap]
    _ = root.allValues.findSome? faultOf := List.head?_filterMap

variable {root : Element σ}

lemma checkDocument_eq_ok : checkDocument root = .ok () ↔ ¬ root.HasIllegal := by
  have hnone : root.allValues.findSome? faultOf = none ↔ ¬ root.HasIllegal := by
    simp only [List.findSome?_eq_none_iff, faultOf_eq_none, Element.not_hasIllegal_iff]
  rw [checkDocument, findSome?_nodes, ← hnone]
  cases root.allValues.findSome? faultOf with
  | none => exact iff_of_true rfl rfl
  | some err => exact iff_of_false (fun h => by cases h) fun h => by cases h

lemma checkDocument_eq_error {err : Error} :
    checkDocument root = .error err ↔ root.allValues.findSome? faultOf = some err := by
  rw [checkDocument, findSome?_nodes]
  cases root.allValues.findSome? faultOf with
  | none => exact iff_of_false (fun h => by cases h) fun h => by cases h
  | some fault =>
    rw [Option.some.injEq]
    exact Except.error.injEq fault err ▸ Iff.rfl

lemma checkDocument_illegal {tag : String} {place : Place} {p : CodePoint} :
    checkDocument root = .error (.illegalCharacter tag place p) ↔
      root.FirstIllegal tag place p := by
  rw [checkDocument_eq_error, List.findSome?_eq_some_iff]
  constructor
  · rintro ⟨front, v, back, hv, hfault, hfront⟩
    obtain ⟨q, heq, htext⟩ := faultOf_eq_some.mp hfault
    injection heq with htag hplace hchar
    subst htag hplace hchar
    exact ⟨front, v.text, back, hv, fun v hm => faultOf_eq_none.mp (hfront v hm), htext⟩
  · rintro ⟨front, text, back, hv, hfront, htext⟩
    exact ⟨front, ⟨tag, place, text⟩, back, hv, faultOf_eq_some.mpr ⟨p, rfl, htext⟩,
      fun v hm => faultOf_eq_none.mpr (hfront v hm)⟩

lemma checkDocument_of_hasIllegal (h : root.HasIllegal) :
    ∃ tag place p, checkDocument root = .error (.illegalCharacter tag place p) := by
  cases hc : checkDocument root with
  | ok u => exact absurd h (checkDocument_eq_ok.mp hc)
  | error err =>
    obtain ⟨v, -, hv⟩ := List.exists_of_findSome?_eq_some (checkDocument_eq_error.mp hc)
    obtain ⟨p, rfl, -⟩ := faultOf_eq_some.mp hv
    exact ⟨v.tag, v.place, p, rfl⟩

lemma hasIllegal_iff : root.HasIllegal ↔ ∃ tag place p, root.FirstIllegal tag place p := by
  constructor
  · intro h
    obtain ⟨tag, place, p, hp⟩ := checkDocument_of_hasIllegal h
    exact ⟨tag, place, p, checkDocument_illegal.mp hp⟩
  · rintro ⟨tag, place, p, hfirst⟩
    have hp := checkDocument_illegal.mpr hfirst
    refine Classical.not_not.mp fun hl => ?_
    rw [checkDocument_eq_ok.mpr hl] at hp
    cases hp

end Fault

section Room

variable {σ : Type} [Machine] {root : Element σ} {width : Nat}

def HasRoom (width : Nat) (root : Element σ) : Prop :=
  width < Error.indexLimit ∧ Machine.holds width root = true

lemma checkWidth_eq_ok (h : HasRoom width root) : checkWidth width root = .ok () := by
  rw [checkWidth, if_neg (Nat.not_le.mpr h.1), if_pos h.2]

lemma checkWidth_eq_error (h : ¬ HasRoom width root) : checkWidth width root =
    .error (if Error.indexLimit ≤ width then .indexOverflow else .outOfMemory) := by
  unfold checkWidth
  split
  · rfl
  · rename_i hw
    exact if_neg fun hh => h ⟨Nat.not_le.mp hw, hh⟩

end Room

end Archive

end BugArchive
