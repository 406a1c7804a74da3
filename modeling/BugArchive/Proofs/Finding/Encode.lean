import BugArchive.Finding.Encode
import BugArchive.Proofs.Fallible
import BugArchive.Proofs.Finding.Grammar
import BugArchive.Proofs.Registry
import BugArchive.Proofs.Text.Numeral
import BugArchive.Proofs.Xml.LegalElement

namespace BugArchive

open Text (Spelled)
open Text.Numeral
open Xml (Element IsLegalText areNames isLegalText_of_all isLegal_of_bounds)

section Shown

variable {σ : Type} [Spelled σ]

def shownNumeral (n : Int) : σ :=
  Spelled.ofString (String.ofList (write n))

lemma numeral_eq {n : Int} (h : IsShort n) : numeral n = .ok (shownNumeral n : σ) := by
  have hw := write?_of_isShort h
  unfold numeral
  split
  · rename_i cs hcs
    rw [hw] at hcs
    exact congrArg (fun cs => Except.ok (Spelled.ofString (String.ofList cs)))
      (Option.some.inj hcs).symm
  · rename_i hcs
    rw [hw] at hcs
    cases hcs

lemma isShort_of_numeral {n : Int} {s : σ} (h : numeral n = .ok s) : IsShort n := by
  unfold numeral at h
  split at h
  · rename_i cs hcs
    rw [write?] at hcs
    split at hcs
    · assumption
    · cases hcs
  · cases h

end Shown

lemma shownNumeral_string (n : Int) : (shownNumeral n : String) = String.ofList (write n) := rfl

lemma integer_shownNumeral (e : Element) (name : String) {n : Int} (h : IsShort n) :
    Decode.integer e name (shownNumeral n) = .ok n := by
  rw [Decode.integer, shownNumeral_string, String.toList_ofList, read_write h]

lemma isLegalText_shownNumeral (n : Int) : IsLegalText (shownNumeral n) := by
  intro c hc
  rw [shownNumeral_string, String.toList_ofList, Text.Numeral.write] at hc
  rcases List.mem_append.mp hc with hc | hc
  · split at hc
    · obtain rfl := List.mem_singleton.mp hc
      decide
    · cases hc
  · obtain ⟨hl, hh⟩ := Text.isDigit_bounds (isDigit_of_mem hc)
    exact isLegal_of_bounds (by omega) (by omega)

variable {σ : Type}

namespace SourceLine

def numbers (l : SourceLine σ) : List Int :=
  [l.first, l.last, l.firstBytecode, l.lastBytecode]

def texts (l : SourceLine) : List String :=
  l.className :: l.sourceFile.toList

section Shown

variable [Spelled σ]

def shown (l : SourceLine σ) : Element σ :=
  .leaf Kind.atLine.tag ([
    ("classname", l.className),
    ("start", shownNumeral l.first),
    ("end", shownNumeral l.last),
    ("startBytecode", shownNumeral l.firstBytecode),
    ("endBytecode", shownNumeral l.lastBytecode)] ++
    (l.sourceFile.map ("sourcefile", ·)).toList)

lemma toElement_eq {l : SourceLine σ} (h : ∀ n ∈ l.numbers, IsShort n) : l.toElement = .ok l.shown := by
  simp only [numbers, List.forall_mem_cons, List.not_mem_nil, false_implies, implies_true,
    and_true] at h
  obtain ⟨hf, hl, hb, he⟩ := h
  simp only [toElement, numeral_eq hf, numeral_eq hl, numeral_eq hb, numeral_eq he]
  rfl

lemma isShort_of_toElement {l : SourceLine σ} {e : Element σ} (h : l.toElement = .ok e) :
    ∀ n ∈ l.numbers, IsShort n := by
  obtain ⟨_, hf, h⟩ := bind_eq_ok.mp h
  obtain ⟨_, hl, h⟩ := bind_eq_ok.mp h
  obtain ⟨_, hb, h⟩ := bind_eq_ok.mp h
  obtain ⟨_, he, -⟩ := bind_eq_ok.mp h
  simp only [numbers, List.forall_mem_cons, List.not_mem_nil, false_implies, implies_true, and_true]
  exact ⟨isShort_of_numeral hf, isShort_of_numeral hl, isShort_of_numeral hb, isShort_of_numeral he⟩

lemma isWritable_shown (l : SourceLine σ) : l.shown.IsWritable := by
  cases hs : l.sourceFile with
  | none =>
    exact Element.isWritable_leaf ["classname", "start", "end", "startBytecode", "endBytecode"]
      (by simp [hs]) (by decide)
  | some f =>
    exact Element.isWritable_leaf
      ["classname", "start", "end", "startBytecode", "endBytecode", "sourcefile"]
      (by simp [hs]) (by decide)

end Shown

lemma decode_shown {l : SourceLine} (h : ∀ n ∈ l.numbers, IsShort n) :
    Decode.sourceLine l.shown = .ok l := by
  simp only [numbers, List.forall_mem_cons, List.not_mem_nil, false_implies, implies_true,
    and_true] at h
  obtain ⟨hf, hl, hb, he⟩ := h
  have hc : l.shown.get? "classname" = some l.className := rfl
  have h1 : l.shown.get? "start" = some (shownNumeral l.first) := rfl
  have h2 : l.shown.get? "end" = some (shownNumeral l.last) := rfl
  have h3 : l.shown.get? "startBytecode" = some (shownNumeral l.firstBytecode) := rfl
  have h4 : l.shown.get? "endBytecode" = some (shownNumeral l.lastBytecode) := rfl
  have hs : l.shown.get? "sourcefile" = l.sourceFile := by
    cases hs : l.sourceFile with
    | none => simp [shown, Element.get?, Element.leaf, hs, List.lookup_cons]
    | some f => simp [shown, Element.get?, Element.leaf, hs, List.lookup_cons]
  simp only [Decode.sourceLine, Decode.required, Decode.optionalInt, hc, h1, h2, h3, h4, hs,
    integer_shownNumeral _ _ hf, integer_shownNumeral _ _ hl, integer_shownNumeral _ _ hb,
    integer_shownNumeral _ _ he]
  rfl

lemma isLegal_shown {l : SourceLine} (h : ∀ s ∈ l.texts, IsLegalText s) : l.shown.IsLegal := by
  obtain ⟨hc, hf⟩ := List.forall_mem_cons.mp h
  have hn := isLegalText_shownNumeral
  refine Element.isLegal_leaf ?_
  simp only [List.cons_append, List.nil_append, List.forall_mem_cons]
  refine ⟨hc, hn _, hn _, hn _, hn _, ?_⟩
  intro a ha
  obtain ⟨f, hm, rfl⟩ := List.mem_map.mp (Option.toList_map ▸ ha)
  exact hf f hm

end SourceLine

namespace Detail

def numbers : Detail σ → List Int
  | inMethod _ _ _ lines => lines.toList.flatMap SourceLine.numbers
  | atLine l => l.numbers
  | number n => [n]
  | _ => []

def texts : Detail → List String
  | inClass name => [name]
  | inMethod className name signature lines =>
    className :: name :: signature :: lines.toList.flatMap SourceLine.texts
  | onField className name signature _ => [className, name, signature]
  | atLine l => l.texts
  | _ => []

def isBare : Detail σ → Bool
  | bare _ => true
  | _ => false

section Shown

variable [Spelled σ]

def shown : Detail σ → Element σ
  | inClass name => .leaf Kind.inClass.tag [("classname", name)]
  | inMethod className name signature lines =>
    ⟨Kind.inMethod.tag, [("classname", className), ("name", name), ("signature", signature)],
      Spelled.ofString "", lines.toList.map SourceLine.shown⟩
  | onField className name signature isStatic =>
    .leaf Kind.onField.tag [("classname", className), ("name", name), ("signature", signature),
      ("isStatic", flag isStatic)]
  | atLine l => l.shown
  | number n => .leaf Kind.number.tag [("value", shownNumeral n)]
  | bare _ => .leaf "" []

lemma toElement_eq {a : Detail σ} (hb : a.isBare = false) (h : ∀ n ∈ a.numbers, IsShort n) :
    a.toElement = .ok a.shown := by
  cases a with
  | inClass name => rfl
  | inMethod className name signature lines =>
    have hl : lines.toList.mapM SourceLine.toElement = .ok (lines.toList.map SourceLine.shown) :=
      mapM_eq_ok fun l hl =>
        SourceLine.toElement_eq fun n hn => h n (List.mem_flatMap.mpr ⟨l, hl, hn⟩)
    rw [toElement, hl]
    rfl
  | onField className name signature isStatic => rfl
  | atLine l => exact SourceLine.toElement_eq h
  | number n =>
    rw [toElement, numeral_eq (h n List.mem_cons_self)]
    rfl
  | bare identity => cases hb

lemma toElement_bare {a : Detail σ} (hb : a.isBare = true) : a.toElement = .error .bareDetail := by
  cases a with
  | bare identity => rfl
  | _ => cases hb

lemma isShort_of_toElement {a : Detail σ} {e : Element σ} (h : a.toElement = .ok e) :
    a.isBare = false ∧ ∀ n ∈ a.numbers, IsShort n := by
  cases a with
  | inClass name => exact ⟨rfl, nofun⟩
  | inMethod className name signature lines =>
    obtain ⟨es, hes, -⟩ := bind_eq_ok.mp h
    refine ⟨rfl, fun n hn => ?_⟩
    obtain ⟨l, hl, hn⟩ := List.mem_flatMap.mp hn
    obtain ⟨e, he⟩ := mapM_succeeds_iff.mp ⟨es, hes⟩ l hl
    exact SourceLine.isShort_of_toElement he n hn
  | onField className name signature isStatic => exact ⟨rfl, nofun⟩
  | atLine l => exact ⟨rfl, SourceLine.isShort_of_toElement h⟩
  | number n =>
    obtain ⟨s, hs, -⟩ := bind_eq_ok.mp h
    exact ⟨rfl, List.forall_mem_singleton.mpr (isShort_of_numeral hs)⟩
  | bare identity => cases h

lemma isWritable_shown {a : Detail σ} (hb : a.isBare = false) : a.shown.IsWritable := by
  cases a with
  | inClass name => exact Element.isWritable_leaf ["classname"] rfl (by decide)
  | inMethod className name signature lines =>
    refine Element.isWritable_of_names ["classname", "name", "signature"] rfl
      (show areNames "Method" _ = true by decide) fun c hc => ?_
    obtain ⟨l, -, rfl⟩ := List.mem_map.mp hc
    exact l.isWritable_shown
  | onField className name signature isStatic =>
    exact Element.isWritable_leaf ["classname", "name", "signature", "isStatic"] rfl (by decide)
  | atLine l => exact l.isWritable_shown
  | number n => exact Element.isWritable_leaf ["value"] rfl (by decide)
  | bare identity => cases hb

end Shown

lemma isLegalText_flag (b : Bool) : IsLegalText (flag b) := by
  cases b with
  | false => exact isLegalText_of_all (by decide)
  | true => exact isLegalText_of_all (by decide)

lemma isLegal_shown {a : Detail} (h : ∀ s ∈ a.texts, IsLegalText s) : a.shown.IsLegal := by
  cases a with
  | inClass name => exact Element.isLegal_leaf (by simpa [texts] using h)
  | inMethod className name signature lines =>
    simp only [texts, List.forall_mem_cons, List.mem_flatMap] at h
    obtain ⟨hc, hn, hs, hl⟩ := h
    refine Element.isLegal_iff.mpr ⟨⟨?_, isLegalText_of_all rfl⟩, fun e he => ?_⟩
    · simpa [shown] using ⟨hc, hn, hs⟩
    · obtain ⟨l, hm, rfl⟩ := List.mem_map.mp he
      exact SourceLine.isLegal_shown fun s hs => hl s ⟨l, hm, hs⟩
  | onField className name signature isStatic =>
    simp only [texts, List.forall_mem_cons] at h
    exact Element.isLegal_leaf (by simpa using ⟨h.1, h.2.1, h.2.2.1, isLegalText_flag isStatic⟩)
  | atLine l => exact SourceLine.isLegal_shown h
  | number n => exact Element.isLegal_leaf (by simpa using isLegalText_shownNumeral n)
  | bare identity => exact Element.isLegal_leaf (by simp)

lemma isTrue_flag {e : Element} {name : String} {b : Bool} (h : e.get? name = some (flag b)) :
    Decode.isTrue e name = b := by
  rw [Decode.isTrue, h]
  cases b
  · decide
  · decide

lemma decode_shown [Machine] {a : Detail} (hb : a.isBare = false)
    (h : ∀ n ∈ a.numbers, IsShort n) : Decode.detail .builtin 1 a.shown = .ok a := by
  cases a with
  | inClass name =>
    rw [Decode.detail, shown, Element.leaf, Registry.get?_builtin]
    simp only [Decode.not_room_lt, if_false]
    rfl
  | inMethod className name signature lines =>
    have hl : Decode.methodLines none (lines.toList.map SourceLine.shown) = .ok lines := by
      cases lines with
      | none => rfl
      | some l =>
        have ht : l.shown.tag = Kind.atLine.tag := rfl
        simp only [Option.toList_some, List.map_cons, List.map_nil, Decode.methodLines, ht, if_true,
          SourceLine.decode_shown fun n hn => h n (List.mem_flatMap.mpr ⟨l, by simp, hn⟩)]
    rw [Decode.detail, shown, Registry.get?_builtin]
    simp only [Decode.not_room_lt, if_false, Decode.inMethod, hl]
    rfl
  | onField className name signature isStatic =>
    have hs := @isTrue_flag (onField className name signature isStatic).shown "isStatic" isStatic rfl
    rw [Decode.detail]
    simp only [show (onField className name signature isStatic).shown.tag = Kind.onField.tag from rfl,
      Registry.get?_builtin, Decode.not_room_lt, if_false, Decode.onField, hs]
    rfl
  | atLine l =>
    rw [Decode.detail]
    simp only [show (atLine l).shown.tag = Kind.atLine.tag from rfl, Registry.get?_builtin,
      Decode.not_room_lt, if_false]
    rw [shown, SourceLine.decode_shown h]
    rfl
  | number n =>
    have hv : (number n).shown.get? "value" = some (shownNumeral n) := rfl
    rw [Decode.detail]
    simp only [show (number n).shown.tag = Kind.number.tag from rfl, Registry.get?_builtin,
      Decode.not_room_lt, if_false, Decode.number, Decode.requiredInt, Decode.required, hv]
    simp only [bind, Except.bind, integer_shownNumeral _ _ (h n List.mem_cons_self)]
    rfl
  | bare identity => cases hb

end Detail

namespace Finding

def numbers (f : Finding σ) : List Int :=
  f.priority :: f.details.flatMap Detail.numbers

def texts (f : Finding) : List String :=
  f.type :: f.details.flatMap Detail.texts

structure IsSavable (f : Finding) : Prop where
  numbers : ∀ n ∈ f.numbers, IsShort n
  texts : ∀ s ∈ f.texts, IsLegalText s
  details : ∀ a ∈ f.details, a.isBare = false

lemma detail_numbers {f : Finding σ} (hn : ∀ n ∈ f.numbers, IsShort n) {a : Detail σ} (ha : a ∈ f.details) :
    ∀ n ∈ a.numbers, IsShort n :=
  fun n hm => hn n (List.mem_cons_of_mem _ (List.mem_flatMap.mpr ⟨a, ha, hm⟩))

section Shown

variable [Spelled σ]

def shown (f : Finding σ) : Element σ :=
  ⟨Kind.finding.tag, [("type", f.type), ("priority", shownNumeral f.priority)],
    Spelled.ofString "", f.details.map Detail.shown⟩

variable {f : Finding σ}

lemma toElement_bare (hn : ∀ n ∈ f.numbers, IsShort n) (hb : ∃ a ∈ f.details, a.isBare = true) :
    f.toElement = .error .bareDetail := by
  have hp : numeral f.priority = .ok (shownNumeral f.priority : σ) :=
    numeral_eq (hn f.priority List.mem_cons_self)
  have hd : f.details.mapM Detail.toElement = .error .bareDetail := by
    refine mapM_eq_error_of_mem (fun a ha => ?_) ?_
    · cases hbare : a.isBare with
      | true => exact .inr (Detail.toElement_bare hbare)
      | false => exact .inl ⟨_, Detail.toElement_eq hbare (detail_numbers hn ha)⟩
    · obtain ⟨a, ha, hbare⟩ := hb
      exact ⟨a, ha, Detail.toElement_bare hbare⟩
  rw [toElement, hp, hd]
  rfl

lemma isShort_of_toElement {e : Element σ} (h : f.toElement = .ok e) :
    (∀ a ∈ f.details, a.isBare = false) ∧ ∀ n ∈ f.numbers, IsShort n := by
  obtain ⟨s, hs, h⟩ := bind_eq_ok.mp h
  obtain ⟨es, hes, -⟩ := bind_eq_ok.mp h
  have hdetails : ∀ a ∈ f.details, a.isBare = false ∧ ∀ n ∈ a.numbers, IsShort n := by
    intro a ha
    obtain ⟨e, he⟩ := mapM_succeeds_iff.mp ⟨es, hes⟩ a ha
    exact Detail.isShort_of_toElement he
  refine ⟨fun a ha => (hdetails a ha).1, List.forall_mem_cons.mpr ⟨isShort_of_numeral hs, ?_⟩⟩
  intro n hn
  obtain ⟨a, ha, hn⟩ := List.mem_flatMap.mp hn
  exact (hdetails a ha).2 n hn

section Named

variable (hb : ∀ a ∈ f.details, a.isBare = false)

include hb

lemma toElement_eq (hn : ∀ n ∈ f.numbers, IsShort n) : f.toElement = .ok f.shown := by
  have hp : numeral f.priority = .ok (shownNumeral f.priority : σ) :=
    numeral_eq (hn f.priority List.mem_cons_self)
  have hd : f.details.mapM Detail.toElement = .ok (f.details.map Detail.shown) :=
    mapM_eq_ok fun a ha => Detail.toElement_eq (hb a ha) (detail_numbers hn ha)
  rw [toElement, hp, hd]
  rfl

lemma isWritable_shown : f.shown.IsWritable := by
  refine Element.isWritable_of_names ["type", "priority"] rfl
    (show areNames "BugInstance" _ = true by decide) fun c hc => ?_
  obtain ⟨a, ha, rfl⟩ := List.mem_map.mp hc
  exact Detail.isWritable_shown (hb a ha)

end Named

end Shown

variable {f : Finding} (h : f.IsSavable)

include h

lemma isLegal_shown : f.shown.IsLegal := by
  obtain ⟨ht, hd⟩ := List.forall_mem_cons.mp h.texts
  refine Element.isLegal_iff.mpr ⟨⟨?_, isLegalText_of_all rfl⟩, fun e he => ?_⟩
  · simpa [shown] using ⟨ht, isLegalText_shownNumeral f.priority⟩
  · obtain ⟨a, ha, rfl⟩ := List.mem_map.mp he
    exact Detail.isLegal_shown fun s hs => hd s (List.mem_flatMap.mpr ⟨a, ha, hs⟩)

lemma decode_shown [Machine] : Decode.topLevel .builtin f.shown = .ok f := by
  have hd {as : List Detail} (ha : ∀ a ∈ as, a ∈ f.details) :
      Decode.details .builtin 1 (as.map Detail.shown) = .ok as := by
    induction as with
    | nil => rw [List.map_nil, Decode.details]
    | cons a as ih =>
      obtain ⟨hm, hs⟩ := List.forall_mem_cons.mp ha
      rw [List.map_cons, Decode.details, ih hs,
        Detail.decode_shown (h.details a hm) (detail_numbers h.numbers hm)]
      rfl
  have hp := integer_shownNumeral f.shown "priority" (h.numbers f.priority List.mem_cons_self)
  have hget : f.shown.get? "priority" = some (shownNumeral f.priority) := rfl
  have hfinding : Decode.finding .builtin 0 f.shown = .ok f := by
    have ho : Decode.optionalInt f.shown "priority" normalPriority = .ok f.priority := by
      rw [Decode.optionalInt, hget]
      exact hp
    rw [shown] at ho ⊢
    rw [Decode.finding, ho]
    simp only [hd fun a ha => ha]
    rfl
  rw [Decode.topLevel]
  simp only [show f.shown.tag = Kind.finding.tag from rfl, Registry.get?_builtin, Decode.item,
    hfinding]
  rfl

end Finding

end BugArchive
