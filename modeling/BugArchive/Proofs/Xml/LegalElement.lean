import BugArchive.Proofs.Xml.Legal
import BugArchive.Proofs.Xml.Written

namespace BugArchive.Xml

def IsLegalText (s : String) : Prop :=
  ∀ c ∈ s.toList, isLegal c = true

def Element.IsLegal (e : Element) : Prop :=
  ∀ n ∈ e.nodes, (∀ a ∈ n.attributes, IsLegalText a.2) ∧ IsLegalText n.text

lemma Element.isLegal_iff {e : Element} :
    e.IsLegal ↔ ((∀ a ∈ e.attributes, IsLegalText a.2) ∧ IsLegalText e.text) ∧
      ∀ c ∈ e.children, c.IsLegal := by
  cases e with
  | mk tag attributes text children =>
    simp only [IsLegal, nodes, List.forall_mem_cons, mem_nodesOf]
    refine and_congr_right fun _ => ⟨fun h c hc n hn => h n ⟨c, hc, hn⟩, ?_⟩
    rintro h n ⟨c, hc, hn⟩
    exact h c hc n hn

lemma isLegalText_of_all {s : String} (h : s.toList.all isLegal = true) : IsLegalText s :=
  List.all_eq_true.mp h

lemma Element.isLegal_of_all {e : Element}
    (h : e.nodes.all (fun n =>
      n.attributes.all (fun a => a.2.toList.all isLegal) && n.text.toList.all isLegal) = true) :
    e.IsLegal := by
  intro n hn
  obtain ⟨ha, ht⟩ := Bool.and_eq_true_iff.mp (List.all_eq_true.mp h n hn)
  exact ⟨fun a hm => isLegalText_of_all (List.all_eq_true.mp ha a hm), isLegalText_of_all ht⟩

lemma Element.isLegal_leaf {tag : String} {as : List (String × String)}
    (h : ∀ a ∈ as, IsLegalText a.2) : (leaf tag as).IsLegal :=
  isLegal_iff.mpr ⟨⟨h, isLegalText_of_all rfl⟩, fun c hc => by cases hc⟩

lemma Element.isLegal_ofText (tag : String) {text : String} (h : IsLegalText text) :
    (ofText tag text).IsLegal :=
  isLegal_iff.mpr ⟨⟨(fun a ha => by cases ha), h⟩, fun c hc => by cases hc⟩

section Written

@[simp]
lemma isLegalRun_cons {c : Char} {cs : List Char} :
    IsLegalRun (c :: cs) ↔ isLegal c = true ∧ IsLegalRun cs :=
  List.forall_mem_cons

@[simp]
lemma isLegalRun_append {cs ds : List Char} :
    IsLegalRun (cs ++ ds) ↔ IsLegalRun cs ∧ IsLegalRun ds :=
  List.forall_mem_append

lemma isLegalRun_name {name : List Char} (h : isPlainName name = true) : IsLegalRun name :=
  fun _ hc => isLegal_of_isNameChar (isNameChar_of_mem h hc)

lemma isLegalRun_escaped {escape : Char → List Char} {s : String}
    (hi : ∀ c, isLegal c = false → escape c = [c])
    (hl : ∀ c d, d ∈ escape c → isLegal c = true → isLegal d = true) :
    IsLegalRun (s.toList.flatMap escape) ↔ IsLegalText s := by
  constructor
  · intro h c hc
    cases hc' : isLegal c with
    | true => rfl
    | false =>
      have hd : c ∈ s.toList.flatMap escape :=
        List.mem_flatMap.mpr ⟨c, hc, hi c hc' ▸ List.mem_singleton_self c⟩
      rw [← hc', h c hd]
  · intro h d hd
    obtain ⟨c, hc, hd⟩ := List.mem_flatMap.mp hd
    exact hl c d hd (h c hc)

lemma isLegalRun_attribute {s : String} :
    IsLegalRun (spellAll escapeAttribute s) ↔ IsLegalText s := by
  rw [spellAll_string]
  exact isLegalRun_escaped (fun _ => escapeAttribute_illegal)
    fun _ _ hd => (mem_escapeAttribute hd).2.2.2

lemma isLegalRun_text {s : String} : IsLegalRun (spellAll escapeReturn s) ↔ IsLegalText s := by
  rw [spellAll_string]
  exact isLegalRun_escaped (fun _ => escapeReturn_illegal) fun _ _ hd => (mem_escapeReturn hd).2

lemma isLegalRun_writeAttributes {as : List (String × String)} {rest : List Char}
    (hn : ∀ a ∈ as, isPlainName a.1.toList = true) :
    IsLegalRun (writeAttributes as rest) ↔ (∀ a ∈ as, IsLegalText a.2) ∧ IsLegalRun rest := by
  induction as with
  | nil => simp [writeAttributes]
  | cons a as ih =>
    obtain ⟨ha, has⟩ := List.forall_mem_cons.mp hn
    have hname := isLegalRun_name ha
    have hmark : isLegal ' ' = true ∧ isLegal '=' = true ∧ isLegal '"' = true := by decide
    simp [writeAttributes, isLegalRun_attribute, ih has, hname, hmark, and_assoc]

lemma isLegalRun_writeEnd {tag : String} {rest : List Char} (ht : isPlainName tag.toList = true) :
    IsLegalRun (writeEnd tag rest) ↔ IsLegalRun rest := by
  have hname := isLegalRun_name ht
  have hmark : isLegal '<' = true ∧ isLegal '/' = true ∧ isLegal '>' = true := by decide
  simp [writeEnd, hname, hmark]

variable {layout : Layout} (hb : layout.IsBlank)

include hb

lemma isLegalRun_layout (level : Nat) : IsLegalRun (layout level) := by
  intro c hc
  rcases hb level c hc with rfl | rfl
  · rfl
  · rfl

lemma isLegalRun_shown (level : Nat) {text : String} :
    IsLegalRun (if (Text.Spelled.points text).isEmpty then layout level
      else spellAll escapeReturn text) ↔ IsLegalText text := by
  rw [Text.points_isEmpty]
  split
  · rename_i he
    rw [String.isEmpty_iff.mp he]
    exact iff_of_true (isLegalRun_layout hb level) (isLegalText_of_all rfl)
  · exact isLegalRun_text

mutual

lemma isLegalRun_write (level : Nat) (e : Element) {rest : List Char} (hw : e.IsWritable) :
    IsLegalRun (write layout escapeReturn level e rest) ↔ e.IsLegal ∧ IsLegalRun rest := by
  obtain ⟨hn, hc⟩ := Element.isWritable_iff.mp hw
  have ha := hn.isPlainName
  have hname := isLegalRun_name hn.tag
  have hmark : isLegal '<' = true ∧ isLegal '>' = true := by decide
  rw [Element.isLegal_iff]
  match e with
  | ⟨tag, as, text, []⟩ =>
    have hbody : IsLegalRun (if (Text.Spelled.points text).isEmpty then ' ' :: '/' :: '>' :: rest
        else '>' :: (spellAll escapeReturn text ++ writeEnd tag rest)) ↔
          IsLegalText text ∧ IsLegalRun rest := by
      rw [Text.points_isEmpty]
      split
      · rename_i he
        have hblank : isLegal ' ' = true ∧ isLegal '/' = true := by decide
        have htext : IsLegalText text := String.isEmpty_iff.mp he ▸ isLegalText_of_all rfl
        simp [hmark, hblank, htext]
      · simp [hmark, isLegalRun_text, isLegalRun_writeEnd hn.tag]
    simp only [write, List.cons_append, isLegalRun_cons, isLegalRun_append, hname, hmark, true_and,
      isLegalRun_writeAttributes ha, hbody, List.not_mem_nil, false_implies, implies_true, and_assoc]
  | ⟨tag, as, text, e :: es⟩ =>
    obtain ⟨he, hes⟩ := List.forall_mem_cons.mp hc
    simp only [write, List.cons_append, isLegalRun_cons, isLegalRun_append, hname, hmark, true_and,
      isLegalRun_writeAttributes ha, isLegalRun_shown hb, isLegalRun_layout hb,
      isLegalRun_write (level + 1) e he, isLegalRun_writeRest (level + 1) es hes,
      isLegalRun_writeEnd hn.tag, List.forall_mem_cons, and_assoc]

lemma isLegalRun_writeRest (level : Nat) (es : List Element) {rest : List Char}
    (hw : ∀ e ∈ es, e.IsWritable) : IsLegalRun (writeRest layout escapeReturn level es rest) ↔
      (∀ e ∈ es, e.IsLegal) ∧ IsLegalRun rest := by
  match es with
  | [] => simp [writeRest]
  | e :: es =>
    obtain ⟨he, hes⟩ := List.forall_mem_cons.mp hw
    simp only [writeRest, isLegalRun_append, isLegalRun_layout hb, true_and,
      isLegalRun_write level e he, isLegalRun_writeRest level es hes, List.forall_mem_cons,
      and_assoc]

end

end Written

end BugArchive.Xml
