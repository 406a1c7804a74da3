import BugArchive.Proofs.Finding.Encode
import BugArchive.Proofs.SourceMap

/-! What is decoded from a legal element can be saved, whatever the names are that its kinds are
registered under. -/

namespace BugArchive

open Xml (Element IsLegalText)
open Text.Numeral

structure SourceLine.IsSavable (l : SourceLine) : Prop where
  numbers : ∀ n ∈ l.numbers, IsShort n
  texts : ∀ s ∈ l.texts, IsLegalText s

structure Detail.IsSavable (a : Detail) : Prop where
  numbers : ∀ n ∈ a.numbers, IsShort n
  texts : ∀ s ∈ a.texts, IsLegalText s
  shown : a.isBare = false

lemma Detail.isSavable_inMethod {className name signature : String} {lines : Option SourceLine}
    (hc : IsLegalText className) (hn : IsLegalText name) (hs : IsLegalText signature)
    (hl : ∀ l ∈ lines, l.IsSavable) : (inMethod className name signature lines).IsSavable := by
  refine ⟨fun n hm => ?_, ?_, rfl⟩
  · obtain ⟨l, hlines, hm⟩ := List.mem_flatMap.mp hm
    exact (hl l (Option.mem_toList.mp hlines)).numbers n hm
  · refine List.forall_mem_cons.mpr ⟨hc, List.forall_mem_cons.mpr ⟨hn, List.forall_mem_cons.mpr
      ⟨hs, fun s hm => ?_⟩⟩⟩
    obtain ⟨l, hlines, hm⟩ := List.mem_flatMap.mp hm
    exact (hl l (Option.mem_toList.mp hlines)).texts s hm

lemma Finding.isSavable_iff {f : Finding} :
    f.IsSavable ↔ IsShort f.priority ∧ IsLegalText f.type ∧ ∀ a ∈ f.details, a.IsSavable := by
  constructor
  · intro h
    refine ⟨h.numbers _ List.mem_cons_self, h.texts _ List.mem_cons_self, fun a ha => ?_⟩
    exact ⟨Finding.detail_numbers h.numbers ha, fun s hs => h.texts s
      (List.mem_cons_of_mem _ (List.mem_flatMap.mpr ⟨a, ha, hs⟩)), h.details a ha⟩
  · rintro ⟨hp, ht, hd⟩
    refine ⟨List.forall_mem_cons.mpr ⟨hp, fun n hn => ?_⟩,
      List.forall_mem_cons.mpr ⟨ht, fun s hs => ?_⟩, fun a ha => (hd a ha).shown⟩
    · obtain ⟨a, ha, hn⟩ := List.mem_flatMap.mp hn
      exact (hd a ha).numbers n hn
    · obtain ⟨a, ha, hs⟩ := List.mem_flatMap.mp hs
      exact (hd a ha).texts s hs

namespace Decode

section Values

variable {e : Element} {name : String}

lemma isShort_integer {raw : String} {n : Int} (h : integer e name raw = .ok n) : IsShort n := by
  unfold integer at h
  split at h
  · rename_i hr
    obtain rfl := Except.ok.inj h
    exact isShort_of_read hr
  · cases h

lemma isShort_requiredInt {n : Int} (h : requiredInt e name = .ok n) : IsShort n := by
  obtain ⟨raw, -, h⟩ := bind_eq_ok.mp h
  exact isShort_integer h

lemma isShort_optionalInt {default n : Int} (h : optionalInt e name default = .ok n)
    (hd : IsShort default) : IsShort n := by
  unfold optionalInt at h
  split at h
  · exact isShort_integer h
  · obtain rfl := Except.ok.inj h
    exact hd

variable (hl : e.IsLegal)

include hl

lemma isLegalText_get? {v : String} (h : e.get? name = some v) : IsLegalText v :=
  (Element.isLegal_iff.mp hl).1.1 _ (mem_of_lookup h)

lemma isLegalText_required {v : String} (h : required e name = .ok v) : IsLegalText v := by
  unfold required at h
  split at h
  · rename_i hg
    obtain rfl := Except.ok.inj h
    exact isLegalText_get? hl hg
  · cases h

end Values

lemma isSavable_sourceLine {e : Element} {l : SourceLine} (h : sourceLine e = .ok l)
    (hl : e.IsLegal) : l.IsSavable := by
  have hu : IsShort SourceLine.unknown := isShort_of_lt_ten (by decide)
  obtain ⟨className, hc, h⟩ := bind_eq_ok.mp h
  obtain ⟨first, h1, h⟩ := bind_eq_ok.mp h
  obtain ⟨last, h2, h⟩ := bind_eq_ok.mp h
  obtain ⟨firstBytecode, h3, h⟩ := bind_eq_ok.mp h
  obtain ⟨lastBytecode, h4, h⟩ := bind_eq_ok.mp h
  obtain rfl := Except.ok.inj h
  refine ⟨?_, List.forall_mem_cons.mpr ⟨isLegalText_required hl hc, fun s hs => ?_⟩⟩
  · simp only [SourceLine.numbers, List.forall_mem_cons]
    exact ⟨isShort_optionalInt h1 hu, isShort_optionalInt h2 hu, isShort_optionalInt h3 hu,
      isShort_optionalInt h4 hu, fun n hn => by cases hn⟩
  · exact isLegalText_get? hl (Option.mem_toList.mp hs)

lemma isSavable_methodLines {es : List Element} {lines lines' : Option SourceLine}
    (h : methodLines lines es = .ok lines') (he : ∀ e ∈ es, e.IsLegal)
    (hl : ∀ l ∈ lines, l.IsSavable) : ∀ l ∈ lines', l.IsSavable := by
  induction es generalizing lines with
  | nil =>
    obtain rfl := Except.ok.inj h
    exact hl
  | cons e es ih =>
    obtain ⟨hh, hs⟩ := List.forall_mem_cons.mp he
    unfold methodLines at h
    split at h
    · split at h
      · rename_i hline
        refine ih h hs fun l hm => ?_
        obtain rfl := Option.some.inj hm
        exact isSavable_sourceLine hline hh
      · cases h
    · cases h

lemma isSavable_inClass {e : Element} {a : Detail} (h : inClass e = .ok a) (hl : e.IsLegal) :
    a.IsSavable := by
  obtain ⟨name, hn, h⟩ := bind_eq_ok.mp h
  obtain rfl := Except.ok.inj h
  exact ⟨(fun n hm => by cases hm), List.forall_mem_singleton.mpr (isLegalText_required hl hn), rfl⟩

lemma isSavable_inMethod {e : Element} {a : Detail} (h : inMethod e = .ok a) (hl : e.IsLegal) :
    a.IsSavable := by
  obtain ⟨lines, hlines, h⟩ := bind_eq_ok.mp h
  obtain ⟨className, hc, h⟩ := bind_eq_ok.mp h
  obtain ⟨name, hn, h⟩ := bind_eq_ok.mp h
  obtain ⟨signature, hs, h⟩ := bind_eq_ok.mp h
  obtain rfl := Except.ok.inj h
  have hall := isSavable_methodLines hlines (Element.isLegal_iff.mp hl).2 fun l hm => by cases hm
  exact Detail.isSavable_inMethod (isLegalText_required hl hc) (isLegalText_required hl hn)
    (isLegalText_required hl hs) hall

lemma isSavable_onField {e : Element} {a : Detail} (h : onField e = .ok a) (hl : e.IsLegal) :
    a.IsSavable := by
  obtain ⟨className, hc, h⟩ := bind_eq_ok.mp h
  obtain ⟨name, hn, h⟩ := bind_eq_ok.mp h
  obtain ⟨signature, hs, h⟩ := bind_eq_ok.mp h
  obtain rfl := Except.ok.inj h
  refine ⟨(fun n hm => by cases hm), ?_, rfl⟩
  simp only [Detail.texts, List.forall_mem_cons]
  exact ⟨isLegalText_required hl hc, isLegalText_required hl hn, isLegalText_required hl hs,
    fun s hm => by cases hm⟩

lemma isSavable_atLine {l : SourceLine} (h : l.IsSavable) : (Detail.atLine l).IsSavable :=
  ⟨h.numbers, h.texts, rfl⟩

lemma isSavable_number {e : Element} {a : Detail} (h : number e = .ok a) : a.IsSavable := by
  obtain ⟨n, hn, h⟩ := bind_eq_ok.mp h
  obtain rfl := Except.ok.inj h
  exact ⟨List.forall_mem_singleton.mpr (isShort_requiredInt hn), (fun s hm => by cases hm), rfl⟩

variable [Machine] {r : Registry}

lemma isSavable_detail {around : Nat} {e : Element} {a : Detail} (h : detail r around e = .ok a)
    (hl : e.IsLegal) : a.IsSavable := by
  rw [detail] at h
  split at h
  · cases h
  split at h
  · cases h
  split at h
  · obtain ⟨f, -, h⟩ := bind_eq_ok.mp h
    cases h
  · exact isSavable_inClass h hl
  · exact isSavable_onField h hl
  · exact isSavable_inMethod h hl
  · obtain ⟨l, hline, h⟩ := bind_eq_ok.mp h
    obtain rfl := Except.ok.inj h
    exact isSavable_atLine (isSavable_sourceLine hline hl)
  · exact isSavable_number h

lemma isSavable_details {around : Nat} {es : List Element} {as : List Detail}
    (h : details r around es = .ok as) (he : ∀ e ∈ es, e.IsLegal) : ∀ a ∈ as, a.IsSavable := by
  induction es generalizing as with
  | nil =>
    rw [details] at h
    obtain rfl := Except.ok.inj h
    exact fun a ha => by cases ha
  | cons e es ih =>
    obtain ⟨hh, hs⟩ := List.forall_mem_cons.mp he
    rw [details] at h
    obtain ⟨a, ha, h⟩ := bind_eq_ok.mp h
    obtain ⟨as, has, h⟩ := bind_eq_ok.mp h
    obtain rfl := Except.ok.inj h
    exact List.forall_mem_cons.mpr ⟨isSavable_detail ha hh, ih has hs⟩

lemma isSavable_finding {around : Nat} {e : Element} {f : Finding}
    (h : finding r around e = .ok f) (hl : e.IsLegal) : f.IsSavable := by
  have hn : IsShort Finding.normalPriority := isShort_of_lt_ten (by decide)
  obtain ⟨tag, attributes, text, children⟩ := e
  rw [finding] at h
  obtain ⟨type, ht, h⟩ := bind_eq_ok.mp h
  obtain ⟨priority, hp, h⟩ := bind_eq_ok.mp h
  obtain ⟨as, has, h⟩ := bind_eq_ok.mp h
  obtain rfl := Except.ok.inj h
  exact Finding.isSavable_iff.mpr ⟨isShort_optionalInt hp hn, isLegalText_required hl ht,
    isSavable_details has (Element.isLegal_iff.mp hl).2⟩

theorem isSavable_topLevel {e : Element} {f : Finding} (h : topLevel r e = .ok f)
    (hl : e.IsLegal) : f.IsSavable := by
  unfold topLevel at h
  split at h
  · cases h
  · rename_i k _
    obtain ⟨i, hi, h⟩ := bind_eq_ok.mp h
    split at h
    · obtain rfl := Except.ok.inj h
      cases k with
      | finding =>
        obtain ⟨g, hg, hi⟩ := map_eq_ok.mp hi
        obtain rfl := Item.finding.inj hi
        exact isSavable_finding hg hl
      | _ =>
        obtain ⟨a, -, hi⟩ := map_eq_ok.mp hi
        cases hi
    · cases h

end Decode

namespace SourceMap

def IsLegal (m : SourceMap) : Prop :=
  ∀ p ∈ m.entries, IsLegalText p.2

variable {m : SourceMap} (hm : m.IsLegal)

include hm

lemma isSavable_fillLine {l : SourceLine} (h : l.IsSavable) : (m.fillLine l).IsSavable := by
  unfold fillLine
  split
  · exact h
  · refine ⟨h.numbers, List.forall_mem_cons.mpr ⟨h.texts _ List.mem_cons_self, fun s hs => ?_⟩⟩
    exact hm _ (mem_of_lookup (Option.mem_toList.mp hs))

lemma isSavable_fillDetail {a : Detail} (h : a.IsSavable) : (m.fillDetail a).IsSavable := by
  cases a with
  | atLine l => exact Decode.isSavable_atLine (isSavable_fillLine hm ⟨h.numbers, h.texts⟩)
  | inMethod className name signature lines =>
    have ht := h.texts
    simp only [Detail.texts, List.forall_mem_cons] at ht
    obtain ⟨hc, hn, hs, hl⟩ := ht
    refine Detail.isSavable_inMethod hc hn hs fun l hmem => ?_
    obtain ⟨l, rfl, rfl⟩ := Option.map_eq_some_iff.mp hmem
    exact isSavable_fillLine hm ⟨fun n hn => h.numbers n (by simpa [Detail.numbers] using hn),
      fun s hs => hl s (by simpa using hs)⟩
  | _ => exact h

lemma isSavable_fill {f : Finding} (h : f.IsSavable) : (m.fill f).IsSavable := by
  obtain ⟨hp, ht, hd⟩ := Finding.isSavable_iff.mp h
  refine Finding.isSavable_iff.mpr ⟨hp, ht, fun a ha => ?_⟩
  obtain ⟨b, hb, rfl⟩ := List.mem_map.mp ha
  exact isSavable_fillDetail hm (hd b hb)

end SourceMap

end BugArchive
