import BugArchive.Finding.Decode
import Mathlib.Tactic.Lemma

/-! Which elements are findings and details, and all that can be wrong with one, in the order in
which it is looked at. Nothing is wrong exactly with those that are. -/

namespace BugArchive

open Xml (Element)

namespace Decode

def IsInteger (raw : String) : Prop :=
  (Text.Numeral.read raw.toList).isOk = true

instance (raw : String) : Decidable (IsInteger raw) :=
  inferInstanceAs (Decidable (_ = true))

structure IsSourceLine (e : Element) : Prop where
  className : (e.get? "classname").isSome
  positions : ∀ name ∈ ["start", "end", "startBytecode", "endBytecode"],
    ∀ raw ∈ e.get? name, IsInteger raw

def NamesMember (e : Element) : Prop :=
  ∀ name ∈ ["classname", "name", "signature"], (e.get? name).isSome

lemma calls_le (k : Kind) (e : Element) : calls k e ≤ 3 := by
  unfold calls
  split
  · split <;> decide
  · decide

@[simp]
lemma not_room_lt [Machine] (k : Kind) (e : Element) : ¬ Machine.room < 1 + calls k e :=
  Nat.not_lt.mpr (Nat.le_trans (Nat.add_le_add_left (calls_le k e) 1) Machine.enough)

variable (r : Registry)

inductive IsDetail (e : Element) : Prop where
  | inClass (hk : r.get? e.tag = some .inClass) (hc : (e.get? "classname").isSome)
  | onField (hk : r.get? e.tag = some .onField) (hm : NamesMember e)
  | inMethod (hk : r.get? e.tag = some .inMethod) (hm : NamesMember e)
    (hl : ∀ c ∈ e.children, c.tag = "SourceLine" ∧ IsSourceLine c)
  | atLine (hk : r.get? e.tag = some .atLine) (hl : IsSourceLine e)
  | number (hk : r.get? e.tag = some .number) (raw : String) (hv : e.get? "value" = some raw)
    (hi : IsInteger raw)

structure IsFinding (e : Element) : Prop where
  bound : r.get? e.tag = some .finding
  type : (e.get? "type").isSome
  priority : ∀ raw ∈ e.get? "priority", IsInteger raw
  details : ∀ c ∈ e.children, IsDetail r c

section Faults

variable (e : Element) (name : String)

def lacks : List Error :=
  if (e.get? name).isSome then [] else [.missingAttribute e.tag name]

def misreads : List Error :=
  (e.get? name).toList.flatMap fun raw =>
    if IsInteger raw then [] else [.notAnInteger e.tag name raw]

def lineFaults : List Error :=
  lacks e "classname" ++ ["start", "end", "startBytecode", "endBytecode"].flatMap (misreads e)

def memberFaults : List Error :=
  ["classname", "name", "signature"].flatMap (lacks e)

def methodFaults : List Error :=
  (e.children.flatMap fun c =>
    if c.tag = "SourceLine" then lineFaults c else [.unknownElement c.tag]) ++ memberFaults e

mutual

def findingFaults : Element → List Error
  | ⟨tag, attributes, text, children⟩ =>
    lacks ⟨tag, attributes, text, children⟩ "type" ++
      misreads ⟨tag, attributes, text, children⟩ "priority" ++ detailsFaults children

def detailsFaults : List Element → List Error
  | [] => []
  | e :: es => detailFaults e ++ detailsFaults es

/-- A finding that stands for a detail is refused after all that is wrong with it. -/
def detailFaults (e : Element) : List Error :=
  match r.get? e.tag with
  | none => [.unknownElement e.tag]
  | some k => itemFaults k e ++ if k = .finding then [.notADetail e.tag] else []

def itemFaults (k : Kind) (e : Element) : List Error :=
  match k with
  | .finding => findingFaults e
  | .inClass => lacks e "classname"
  | .onField => memberFaults e
  | .inMethod => methodFaults e
  | .atLine => lineFaults e
  | .number => lacks e "value" ++ misreads e "value"

end

def topLevelFaults (e : Element) : List Error :=
  match r.get? e.tag with
  | none => [.unknownElement e.tag]
  | some k => itemFaults r k e ++ if k = .finding then [] else [.notTopLevel e.tag]

end Faults

lemma detailsFaults_eq (es : List Element) : detailsFaults r es = es.flatMap (detailFaults r) := by
  induction es with
  | nil => rw [detailsFaults, List.flatMap_nil]
  | cons e es ih => rw [detailsFaults, ih, List.flatMap_cons]

lemma findingFaults_eq (e : Element) : findingFaults r e =
    lacks e "type" ++ (misreads e "priority" ++ e.children.flatMap (detailFaults r)) := by
  obtain ⟨tag, attributes, text, children⟩ := e
  rw [findingFaults, detailsFaults_eq, List.append_assoc]

variable {r}

lemma detailFaults_finding {e : Element} (hk : r.get? e.tag = some .finding) :
    detailFaults r e = findingFaults r e ++ [.notADetail e.tag] := by
  simp [detailFaults, itemFaults, hk]

lemma topLevelFaults_finding {e : Element} (hk : r.get? e.tag = some .finding) :
    topLevelFaults r e = findingFaults r e := by
  simp [topLevelFaults, itemFaults, hk]

section Faultless

variable {e : Element} {name : String}

lemma lacks_eq_nil : lacks e name = [] ↔ (e.get? name).isSome := by
  simp [lacks, Option.isSome_iff_ne_none]

lemma misreads_eq_nil : misreads e name = [] ↔ ∀ raw ∈ e.get? name, IsInteger raw := by
  simp [misreads]

lemma lineFaults_eq_nil : lineFaults e = [] ↔ IsSourceLine e := by
  rw [lineFaults, List.append_eq_nil_iff, List.flatMap_eq_nil_iff]
  simp only [lacks_eq_nil, misreads_eq_nil]
  exact ⟨fun h => ⟨h.1, h.2⟩, fun h => ⟨h.className, h.positions⟩⟩

lemma memberFaults_eq_nil : memberFaults e = [] ↔ NamesMember e := by
  rw [memberFaults, List.flatMap_eq_nil_iff]
  simp only [lacks_eq_nil, NamesMember]

lemma methodFaults_eq_nil : methodFaults e = [] ↔
    (∀ c ∈ e.children, c.tag = "SourceLine" ∧ IsSourceLine c) ∧ NamesMember e := by
  rw [methodFaults, List.append_eq_nil_iff, List.flatMap_eq_nil_iff, memberFaults_eq_nil]
  refine and_congr_left' (forall₂_congr fun c _ => ?_)
  by_cases h : c.tag = "SourceLine" <;> simp [h, lineFaults_eq_nil]

lemma detailFaults_eq_nil : detailFaults r e = [] ↔ IsDetail r e := by
  rw [detailFaults]
  constructor
  · cases hk : r.get? e.tag with
    | none => exact fun h => by cases h
    | some k =>
      intro h
      obtain ⟨h, hf⟩ := List.append_eq_nil_iff.mp h
      cases k with
      | finding => cases hf
      | inClass => exact .inClass hk (lacks_eq_nil.mp (by simpa [itemFaults] using h))
      | onField => exact .onField hk (memberFaults_eq_nil.mp (by simpa [itemFaults] using h))
      | inMethod =>
        obtain ⟨hl, hm⟩ := methodFaults_eq_nil.mp (by simpa [itemFaults] using h)
        exact .inMethod hk hm hl
      | atLine => exact .atLine hk (lineFaults_eq_nil.mp (by simpa [itemFaults] using h))
      | number =>
        obtain ⟨hl, hm⟩ := List.append_eq_nil_iff.mp (by simpa only [itemFaults] using h)
        obtain ⟨raw, hv⟩ := Option.isSome_iff_exists.mp (lacks_eq_nil.mp hl)
        exact .number hk raw hv (misreads_eq_nil.mp hm raw hv)
  · intro h
    cases h with
    | inClass hk hc => simpa [hk, itemFaults] using lacks_eq_nil.mpr hc
    | onField hk hm => simpa [hk, itemFaults] using memberFaults_eq_nil.mpr hm
    | inMethod hk hm hl => simpa [hk, itemFaults] using methodFaults_eq_nil.mpr ⟨hl, hm⟩
    | atLine hk hl => simpa [hk, itemFaults] using lineFaults_eq_nil.mpr hl
    | number hk raw hv hi => simp [hk, itemFaults, lacks_eq_nil, misreads_eq_nil, hv, hi]

lemma findingFaults_eq_nil : findingFaults r e = [] ↔ (e.get? "type").isSome ∧
    (∀ raw ∈ e.get? "priority", IsInteger raw) ∧ ∀ c ∈ e.children, IsDetail r c := by
  rw [findingFaults_eq, List.append_eq_nil_iff, List.append_eq_nil_iff, List.flatMap_eq_nil_iff]
  simp only [lacks_eq_nil, misreads_eq_nil, detailFaults_eq_nil]

lemma topLevelFaults_eq_nil : topLevelFaults r e = [] ↔ IsFinding r e := by
  by_cases hk : r.get? e.tag = some .finding
  · rw [topLevelFaults_finding hk, findingFaults_eq_nil]
    exact ⟨fun ⟨ht, hp, hd⟩ => ⟨hk, ht, hp, hd⟩, fun h => ⟨h.type, h.priority, h.details⟩⟩
  · refine iff_of_false ?_ fun h => hk h.bound
    rw [topLevelFaults]
    split
    · exact List.cons_ne_nil _ _
    · rename_i k hkind
      have hne : k ≠ .finding := fun h => hk (h ▸ hkind)
      simp [hne]

end Faultless

section Told

lemma lacks_isReported (e : Element) (name : String) : (lacks e name).all Error.isReported := by
  unfold lacks
  split <;> rfl

lemma misreads_isReported (e : Element) (name : String) :
    (misreads e name).all Error.isReported := by
  rw [misreads, List.all_flatMap, List.all_eq_true]
  intro raw _
  split <;> rfl

lemma lineFaults_isReported (e : Element) : (lineFaults e).all Error.isReported := by
  simp [lineFaults, List.all_append, lacks_isReported, misreads_isReported]

lemma memberFaults_isReported (e : Element) : (memberFaults e).all Error.isReported := by
  simp [memberFaults, lacks_isReported]

lemma methodFaults_isReported (e : Element) : (methodFaults e).all Error.isReported := by
  rw [methodFaults, List.all_append, memberFaults_isReported, Bool.and_true, List.all_flatMap,
    List.all_eq_true]
  intro c _
  split
  · exact lineFaults_isReported c
  · rfl

mutual

lemma findingFaults_isReported (e : Element) : (findingFaults r e).all Error.isReported := by
  match e with
  | ⟨tag, attributes, text, children⟩ =>
    have hd := detailsFaults_isReported children
    rw [findingFaults, List.all_append, List.all_append, lacks_isReported, misreads_isReported, hd]
    rfl

lemma detailsFaults_isReported (es : List Element) : (detailsFaults r es).all Error.isReported := by
  match es with
  | [] =>
    rw [detailsFaults]
    rfl
  | e :: es =>
    have hd := detailFaults_isReported e
    have hs := detailsFaults_isReported es
    rw [detailsFaults, List.all_append, hd, hs]
    rfl

lemma detailFaults_isReported (e : Element) : (detailFaults r e).all Error.isReported := by
  have hi (k : Kind) := itemFaults_isReported k e
  rw [detailFaults]
  split
  · rfl
  · rw [List.all_append, hi]
    split <;> rfl

lemma itemFaults_isReported (k : Kind) (e : Element) :
    (itemFaults r k e).all Error.isReported := by
  have hf := findingFaults_isReported e
  cases k with
  | finding => simpa [itemFaults] using hf
  | inClass => simpa [itemFaults] using lacks_isReported e _
  | onField => simpa [itemFaults] using memberFaults_isReported e
  | inMethod => simpa [itemFaults] using methodFaults_isReported e
  | atLine => simpa [itemFaults] using lineFaults_isReported e
  | number => simp [itemFaults, List.all_append, lacks_isReported, misreads_isReported]

end

lemma topLevelFaults_isReported (e : Element) : (topLevelFaults r e).all Error.isReported := by
  rw [topLevelFaults]
  split
  · rfl
  · rw [List.all_append, itemFaults_isReported]
    split <;> rfl

end Told

end Decode

end BugArchive
