import BugArchive.Proofs.Archive.Serialize
import BugArchive.Proofs.Archive.Shown

/-! Carriage returns of a document stand in the texts of its elements and nowhere else, so that to
guard them in the octets is to escape them in the texts. -/

namespace BugArchive

open Text.Utf8 Xml

namespace Xml

def Element.allText (e : Element) : List Char :=
  e.nodes.flatMap fun n => n.text.toList

lemma Element.allText_mk (tag : String) (attributes : List (String × String)) (text : String)
    (children : List Element) : allText ⟨tag, attributes, text, children⟩ =
      text.toList ++ children.flatMap allText := by
  have hn (es : List Element) : nodesOf es = es.flatMap nodes := by
    induction es with
    | nil => rfl
    | cons e es ih => rw [nodesOf, ih, List.flatMap_cons]
  rw [allText, nodes, hn, List.flatMap_cons, List.flatMap_assoc]
  rfl

section Count

lemma count_return_name {name : List Char} (h : isPlainName name = true) : name.count '\r' = 0 :=
  List.count_eq_zero.mpr (not_mem_of_isPlainName h (by decide))

lemma count_return_attribute (value : String) :
    (spellAll escapeAttribute value).count '\r' = 0 :=
  List.count_eq_zero.mpr fun h => (mem_spellAll_attribute h).2.2 rfl

lemma count_return_text (text : String) :
    (spellAll escapeText text).count '\r' = text.toList.count '\r' := by
  rw [spellAll_string]
  generalize text.toList = cs
  have hc (c : Char) : (escapeText c).count '\r' = [c].count '\r' := by
    unfold escapeText
    split <;> rfl
  induction cs with
  | nil => rfl
  | cons c cs ih =>
    rw [List.flatMap_cons, List.count_append, hc, ih, ← List.count_append, List.singleton_append]

lemma count_return_writeAttributes {as : List (String × String)} (rest : List Char)
    (h : ∀ a ∈ as, isPlainName a.1.toList = true) :
    (writeAttributes as rest).count '\r' = rest.count '\r' := by
  induction as with
  | nil => rfl
  | cons a as ih =>
    obtain ⟨ha, hs⟩ := List.forall_mem_cons.mp h
    simp [writeAttributes, count_return_name ha, count_return_attribute, ih hs]

lemma count_return_writeEnd {tag : String} (rest : List Char) (h : isPlainName tag.toList = true) :
    (writeEnd tag rest).count '\r' = rest.count '\r' := by
  simp [writeEnd, count_return_name h]

variable {layout : Layout} (hl : layout.IsBlank)

include hl

lemma count_return_layout (level : Nat) : (layout level).count '\r' = 0 := by
  refine List.count_eq_zero.mpr fun h => ?_
  rcases hl level _ h with h | h
  · cases h
  · cases h

mutual

lemma count_return_write (level : Nat) (e : Element) (rest : List Char) (he : e.IsWritable) :
    (write layout escapeText level e rest).count '\r' = e.allText.count '\r' + rest.count '\r' := by
  obtain ⟨hn, hc⟩ := Element.isWritable_iff.mp he
  have ha := hn.isPlainName
  match e with
  | ⟨tag, as, text, []⟩ =>
    have ht := count_return_name hn.tag
    simp only [write, Element.allText_mk, List.count_append, List.count_cons, ht,
      count_return_writeAttributes _ ha]
    rw [Text.points_isEmpty]
    by_cases h : text.isEmpty
    · rw [if_pos h, String.isEmpty_iff.mp h]
      simp
    · rw [if_neg h]
      simp [count_return_text, count_return_writeEnd _ hn.tag]
  | ⟨tag, as, text, e :: es⟩ =>
    obtain ⟨he, hes⟩ := List.forall_mem_cons.mp hc
    have ht := count_return_name hn.tag
    have hshown : (if (Text.Spelled.points text).isEmpty then layout (level + 1)
        else spellAll escapeText text).count '\r' = text.toList.count '\r' := by
      rw [Text.points_isEmpty]
      by_cases h : text.isEmpty
      · rw [if_pos h, String.isEmpty_iff.mp h]
        exact count_return_layout hl (level + 1)
      · rw [if_neg h, count_return_text]
    simp only [write, Element.allText_mk, List.count_append, List.count_cons, List.flatMap_cons, ht,
      count_return_writeAttributes _ ha, hshown, count_return_write (level + 1) e _ he,
      count_return_writeRest (level + 1) es _ hes, count_return_layout hl,
      count_return_writeEnd _ hn.tag]
    simp [Nat.add_assoc]

lemma count_return_writeRest (level : Nat) (es : List Element) (rest : List Char)
    (he : ∀ e ∈ es, e.IsWritable) : (writeRest layout escapeText level es rest).count '\r' =
      (es.flatMap Element.allText).count '\r' + rest.count '\r' := by
  match es with
  | [] => simp [writeRest]
  | e :: es =>
    obtain ⟨he, hes⟩ := List.forall_mem_cons.mp he
    rw [writeRest, List.count_append, count_return_layout hl, count_return_write level e _ he,
      count_return_writeRest level es rest hes, List.flatMap_cons, List.count_append, Nat.zero_add,
      Nat.add_assoc]

end

end Count

end Xml

namespace Archive

lemma count_return_encode (cs : List Char) : (encode cs).count 0x0D = cs.count '\r' := by
  have hc (c : Char) : (String.utf8EncodeChar c).count 0x0D = [c].count '\r' := by
    by_cases h : c = '\r'
    · subst h
      rfl
    · have hnone : (0x0D : UInt8) ∉ String.utf8EncodeChar c :=
        fun hm => h (eq_of_mem_encodeChar (by decide) rfl hm)
      rw [List.count_eq_zero.mpr hnone, List.count_singleton, if_neg (by simpa using h)]
  induction cs with
  | nil => rfl
  | cons c cs ih =>
    have hs : encode (c :: cs) = String.utf8EncodeChar c ++ encode cs := rfl
    rw [hs, List.count_append, hc, ih, ← List.count_append, List.singleton_append]

def unguarded (width : Nat) (root : Element) : List UInt8 :=
  encode (declaration ++ Xml.write (.indented width) escapeText 0 root [])

variable {a : Archive} {root : Element}

lemma count_return_unguarded (width : Nat) (h : root.IsWritable) :
    (unguarded width root).count 0x0D = root.allText.count '\r' := by
  have hd : declaration.count '\r' = 0 := by decide
  rw [unguarded, count_return_encode, List.count_append, hd,
    count_return_write (Layout.indented_isBlank width) 0 root [] h, List.count_nil, Nat.zero_add,
    Nat.add_zero]

section Write

variable [Machine]

lemma document_eq_ok (h : a.document = .ok root) :
    root.IsWritable ∧ ∀ width, a.write width =
      (checkWidth width root).map fun _ =>
        (serialize width root, .archiveWritten root.children.length) := by
  obtain ⟨e, he, h⟩ := bind_eq_ok.mp h
  obtain ⟨⟨⟩, hcheck, h⟩ := bind_eq_ok.mp h
  obtain rfl := Except.ok.inj h
  obtain ⟨hb, hn⟩ := isShown_of_toElement he
  obtain rfl := Except.ok.inj ((toElement_eq hb hn).symm.trans he)
  refine ⟨isWritable_shown hb, fun width => ?_⟩
  rw [write_eq_check hb hn, hcheck]
  rfl

/-- What is written of a document, at any indentation, is its text with the carriage returns escaped
in the texts of the elements. To guard the octets comes to the same, for as many of them are carriage
returns as there are in those texts. -/
theorem write_escapes_returns (h : a.document = .ok root) (width : Nat) :
    (a.write width = (checkWidth width root).map fun _ =>
      (encode (documentText width root), .archiveWritten root.children.length)) ∧
    (unguarded width root).flatMap guardReturn ++ encode ['\n'] = encode (documentText width root) ∧
    (unguarded width root).count 0x0D = root.allText.count '\r' ∧
    0x0D ∉ encode (documentText width root) := by
  obtain ⟨hw, hwrite⟩ := document_eq_ok h
  have hs := serialize_eq width hw
  refine ⟨?_, hs, count_return_unguarded width hw, ?_⟩
  · rw [hwrite, hs]
  · rw [← List.count_eq_zero, count_return_encode]
    exact List.count_eq_zero.mpr (not_mem_documentText width hw)

end Write

def returning : Archive where
  collection := { Collection.empty with errors := ["<\r\né&#13;"] }
  project := { Project.empty with filename := some "app\r.prj" }

section Usual

attribute [local instance] Machine.usual

theorem write_escapes_returns_returning : returning.document = .ok returning.shown ∧
    returning.write 2 = .ok (encode (documentText 2 returning.shown), .archiveWritten 2) ∧
    (unguarded 2 returning.shown).count 0x0D = 1 ∧
    0x0D ∉ encode (documentText 2 returning.shown) := by
  have h : returning.document = .ok returning.shown := rfl
  obtain ⟨hwrite, -, hcount, hnone⟩ := write_escapes_returns h 2
  exact ⟨h, hwrite, hcount, hnone⟩

end Usual

end Archive

end BugArchive
