import BugArchive.Archive.Signature
import BugArchive.Archive.Writer
import BugArchive.Proofs.Text.Utf8
import BugArchive.Proofs.Xml.LegalElement
import BugArchive.Proofs.Xml.Surrogate
import BugArchive.Xml.Document

namespace BugArchive.Archive

open Text (CodePoint Spelled)
open Text.Utf8 Xml

def guarded : Char → List Char
  | '\r' => "&#13;".toList
  | c => [c]

lemma guarded_of_ne {c : Char} (h : c ≠ '\r') : guarded c = [c] := by
  unfold guarded
  split
  · exact absurd rfl h
  · rfl

lemma guarded_escapeText (c : Char) : (escapeText c).flatMap guarded = escapeReturn c := by
  by_cases h : c = '\r'
  · subst h
    rfl
  have hc := guarded_of_ne h
  unfold escapeReturn
  split
  · exact absurd rfl h
  unfold escapeText
  split
  · rfl
  · rfl
  · rfl
  · rw [List.flatMap_singleton, hc]

lemma guardReturn_encodeChar (c : Char) :
    (String.utf8EncodeChar c).flatMap guardReturn = encode (guarded c) := by
  by_cases h : c = '\r'
  · subst h
    rfl
  · have hb : ∀ b ∈ String.utf8EncodeChar c, guardReturn b = [b] := by
      intro b hb
      refine if_neg ?_
      rintro rfl
      exact h (eq_of_mem_encodeChar (by decide) rfl hb)
    rw [guarded_of_ne h, encode, List.flatMap_singleton]
    generalize String.utf8EncodeChar c = bs at hb
    induction bs with
    | nil => rfl
    | cons b bs ih =>
      rw [List.flatMap_cons, hb b List.mem_cons_self, ih fun d hd => hb d (List.mem_cons_of_mem b hd)]
      rfl

lemma guardReturn_encode (cs : List Char) :
    (encode cs).flatMap guardReturn = encode (cs.flatMap guarded) := by
  induction cs with
  | nil => rfl
  | cons c cs ih =>
    have hs : encode (c :: cs) = String.utf8EncodeChar c ++ encode cs := rfl
    rw [hs, List.flatMap_append, guardReturn_encodeChar, ih, List.flatMap_cons, encode_append]

lemma guarded_of_not_mem {cs : List Char} (h : '\r' ∉ cs) : cs.flatMap guarded = cs := by
  induction cs with
  | nil => rfl
  | cons c cs ih =>
    obtain ⟨hc, hs⟩ := not_or.mp fun hm => h (List.mem_cons.mpr hm)
    rw [List.flatMap_cons, guarded_of_ne (Ne.symm hc), ih hs]
    rfl

lemma guarded_name {name : List Char} (h : isPlainName name = true) : name.flatMap guarded = name :=
  guarded_of_not_mem (not_mem_of_isPlainName h (by decide))

lemma guarded_spell (p : CodePoint) :
    (spell escapeText p).flatMap guarded = spell escapeReturn p := by
  cases hp : p.char? with
  | some c =>
    rw [← CodePoint.ofChar_of_char? hp, spell_ofChar, spell_ofChar, guarded_escapeText]
  | none =>
    rw [spell_none _ hp, spell_none _ hp, ← spell_none escapeAttribute hp]
    exact guarded_of_not_mem fun h => (mem_spell_attribute h).2.2 rfl

lemma not_mem_guarded (cs : List Char) : '\r' ∉ cs.flatMap guarded := by
  intro h
  obtain ⟨c, -, hc⟩ := List.mem_flatMap.mp h
  unfold guarded at hc
  split at hc
  · exact absurd hc (by decide)
  · rename_i hr
    exact hr (List.mem_singleton.mp hc).symm

section Values

variable {σ : Type} [Spelled σ]

lemma guarded_attribute (value : σ) :
    (spellAll escapeAttribute value).flatMap guarded = spellAll escapeAttribute value :=
  guarded_of_not_mem fun h => (mem_spellAll_attribute h).2.2 rfl

lemma guarded_text (text : σ) :
    (spellAll escapeText text).flatMap guarded = spellAll escapeReturn text := by
  rw [spellAll, List.flatMap_assoc]
  simp only [guarded_spell]
  rfl

lemma guarded_writeAttributes {as : List (String × σ)} (rest : List Char)
    (h : ∀ a ∈ as, isPlainName a.1.toList = true) :
    (writeAttributes as rest).flatMap guarded = writeAttributes as (rest.flatMap guarded) := by
  induction as with
  | nil => rfl
  | cons a as ih =>
    obtain ⟨ha, hs⟩ := List.forall_mem_cons.mp h
    simp only [writeAttributes, List.flatMap_append, List.flatMap_cons, guarded_name ha,
      guarded_attribute, ih hs]
    rfl

lemma guarded_writeEnd {tag : String} (rest : List Char) (h : isPlainName tag.toList = true) :
    (writeEnd tag rest).flatMap guarded = writeEnd tag (rest.flatMap guarded) := by
  simp only [writeEnd, List.flatMap_append, List.flatMap_cons, guarded_name h]
  rfl

end Values

section Writing

variable {σ : Type} [Spelled σ] {layout : Layout} (hl : layout.IsBlank)

include hl

lemma guarded_layout (level : Nat) : (layout level).flatMap guarded = layout level := by
  refine guarded_of_not_mem fun h => ?_
  rcases hl level _ h with h | h
  · cases h
  · cases h

mutual

lemma guarded_write (level : Nat) (e : Element σ) (rest : List Char) (he : e.IsWritable) :
    (Xml.write layout escapeText level e rest).flatMap guarded =
      Xml.write layout escapeReturn level e (rest.flatMap guarded) := by
  obtain ⟨hn, hc⟩ := Element.isWritable_iff.mp he
  have ha := hn.isPlainName
  match e with
  | ⟨tag, as, text, []⟩ =>
    have ht := guarded_name hn.tag
    simp only [Xml.write, List.flatMap_append, List.flatMap_cons, guarded_writeAttributes _ ha, ht]
    by_cases h : (Spelled.points text).isEmpty
    · rw [if_pos h, if_pos h]
      rfl
    · rw [if_neg h, if_neg h]
      simp only [List.flatMap_append, List.flatMap_cons, guarded_text, guarded_writeEnd _ hn.tag]
      rfl
  | ⟨tag, as, text, e :: es⟩ =>
    obtain ⟨he, hes⟩ := List.forall_mem_cons.mp hc
    have ht := guarded_name hn.tag
    have hshown : (if (Spelled.points text).isEmpty then layout (level + 1)
          else spellAll escapeText text).flatMap guarded =
        if (Spelled.points text).isEmpty then layout (level + 1)
        else spellAll escapeReturn text := by
      by_cases h : (Spelled.points text).isEmpty
      · rw [if_pos h, if_pos h, guarded_layout hl]
      · rw [if_neg h, if_neg h, guarded_text]
    simp only [Xml.write, List.flatMap_append, List.flatMap_cons, guarded_writeAttributes _ ha, ht,
      hshown, guarded_write (level + 1) e _ he, guarded_writeRest (level + 1) es _ hes,
      guarded_layout hl, guarded_writeEnd _ hn.tag]
    rfl

lemma guarded_writeRest (level : Nat) (es : List (Element σ)) (rest : List Char)
    (he : ∀ e ∈ es, e.IsWritable) :
    (writeRest layout escapeText level es rest).flatMap guarded =
      writeRest layout escapeReturn level es (rest.flatMap guarded) := by
  match es with
  | [] => rfl
  | e :: es =>
    obtain ⟨he, hes⟩ := List.forall_mem_cons.mp he
    rw [writeRest, List.flatMap_append, guarded_layout hl, guarded_write level e _ he,
      guarded_writeRest level es rest hes, writeRest]

end

end Writing

section Text

variable {σ : Type} [Spelled σ]

def documentText (width : Nat) (root : Element σ) : List Char :=
  declaration ++ Xml.write (.indented width) escapeReturn 0 root ['\n']

lemma guarded_declaration : declaration.flatMap guarded = declaration :=
  guarded_of_not_mem (by decide)

variable (width : Nat) {root : Element σ} (h : root.IsWritable)

include h

lemma not_mem_documentText : '\r' ∉ documentText width root := by
  have hg := guarded_write (Layout.indented_isBlank width) 0 root ['\n'] h
  rw [documentText, ← guarded_declaration]
  exact fun hm => (List.mem_append.mp hm).elim (not_mem_guarded _)
    fun hm => not_mem_guarded _ (hg.symm ▸ hm)

lemma serialize_eq : serialize width root = encode (documentText width root) := by
  rw [serialize, guardReturn_encode, List.flatMap_append, guarded_declaration,
    guarded_write (Layout.indented_isBlank width) 0 root [] h, ← encode_append, List.append_assoc,
    List.flatMap_nil, write_append]
  rfl

end Text

section Signed

def opening : List Char :=
  declaration ++ "<BugCollection>\n".toList

lemma documentText_root (width : Nat) (e : Element) (es : List Element) :
    ∃ cs, documentText width ⟨"BugCollection", [], "", e :: es⟩ = opening ++ cs ∧ 5 ≤ cs.length := by
  let rest := writeRest (.indented width) escapeReturn 1 es
    (Layout.indented width 0 ++ writeEnd "BugCollection" ['\n'])
  refine ⟨List.replicate (1 * width) ' ' ++ Xml.write (.indented width) escapeReturn 1 e rest,
    rfl, ?_⟩
  have hr : 5 ≤ rest.length := by
    have h := writeRest_append (.indented width) escapeReturn 1 es []
      (Layout.indented width 0 ++ writeEnd "BugCollection" ['\n'])
    rw [List.nil_append] at h
    rw [show rest = _ from h.symm, List.length_append, List.length_append]
    exact Nat.le_trans (by decide) (Nat.le_trans (Nat.le_add_left _ _) (Nat.le_add_left _ _))
  have h := write_append (.indented width) escapeReturn 1 e [] rest
  rw [List.nil_append] at h
  rw [← h, List.length_append, List.length_append]
  omega

lemma lines_opening (cs : List Char) :
    Signature.lines [] (opening ++ cs) =
      declaration.take 38 :: Signature.line :: Signature.lines [] cs := rfl

lemma judge_serialize (width : Nat) {e : Element} {es : List Element}
    (h : Element.IsWritable ⟨"BugCollection", [], "", e :: es⟩) :
    Signature.judge Signature.window ((serialize width ⟨"BugCollection", [], "", e :: es⟩).take
      Signature.window.toNat) = .ok () := by
  obtain ⟨cs, hcs, hl⟩ := documentText_root width e es
  have ho : (encode opening).length = 55 := by decide
  have hlen : 5 ≤ (encode cs).length := Nat.le_trans hl (length_le_encode cs)
  have ht : (encode (opening ++ cs)).take 60 = encode opening ++ (encode cs).take 5 := by
    rw [encode_append, List.take_append, List.take_of_length_le (by omega), ho]
  have hn : ((encode opening ++ (encode cs).take 5).length : Int) = 60 := by
    rw [List.length_append, ho, List.length_take_of_le hlen]
    rfl
  have hw : Signature.window.toNat = 60 := rfl
  rw [serialize_eq width h, hcs, hw, ht, Signature.judge, hn, if_neg (by decide),
    decodeLossy_append, lines_opening]
  simp

end Signed

section Reading

open Document

lemma ofOctets_declaration (reading : Option Nat) (cs : List Char) :
    ofOctets reading false (encode (declaration ++ cs)) = .ok ⟨.utf8, 38, false, '\n' :: cs⟩ := by
  have hb : encode (declaration ++ cs) = 0x3C :: 0x3F :: ((encode declaration).drop 2 ++ encode cs) := by
    rw [encode_append]
    rfl
  have he : Encoding.detectFrom reading (encode (declaration ++ cs)) = (.utf8, []) := by
    rw [hb, Encoding.detectFrom, if_neg (fun h => by cases h.2)]
    rfl
  have hc : Encoding.utf8.cutBracket (encode (declaration ++ cs)) =
      ((encode declaration).take 38, encode ('\n' :: cs)) := by
    rw [encode_append]
    rfl
  have hd : Declaration.read? (declaration.take 38) = some ⟨some "UTF-8", false⟩ := by decide
  have hl : Encoding.latin1.decode ((encode declaration).take 38) = some (declaration.take 38) := by
    decide
  have ho : Declaration.isOpening (declaration.take 38) = true := by decide
  have hn : Encoding.declared .utf8 "UTF-8" = .ok .utf8 := rfl
  have ht : Encoding.utf8.decode (encode ('\n' :: cs)) = some ('\n' :: cs) := decode?_encode _
  simp only [ofOctets, he, List.length_nil, List.drop_zero, hc, Encoding.isWide,
    Bool.false_eq_true, if_false, hl, ho, if_true, hd, hn, bind,
    Except.bind, ht]
  rfl

section Content

variable {σ : Type} [Spelled σ]

lemma skipBlanks_write (layout : Layout) (escape : Char → List Char) (level : Nat) (e : Element σ)
    (rest : List Char) :
    skipBlanks ('\n' :: Xml.write layout escape level e rest) =
      Xml.write layout escape level e rest := by
  obtain ⟨tag, as, text, children⟩ := e
  cases children with
  | nil => rfl
  | cons e es => rfl

lemma scanProlog_write (layout : Layout) (escape : Char → List Char) (level : Nat) {e : Element σ}
    (rest : List Char) (he : e.IsNamed) (standalone : Bool) :
    Dtd.scanProlog .general standalone ('\n' :: Xml.write layout escape level e rest) =
      some (none, Xml.write layout escape level e rest) := by
  obtain ⟨cs, hw⟩ : ∃ cs, Xml.write layout escape level e rest = '<' :: (e.tag.toList ++ cs) := by
    obtain ⟨tag, as, text, children⟩ := e
    cases children with
    | nil => exact ⟨_, rfl⟩
    | cons e es => exact ⟨_, rfl⟩
  obtain ⟨c, ds, ht, hc, -⟩ := isPlainName_cases he.tag
  have hs := skipBlanks_write layout escape level e rest
  rw [hw, ht, List.cons_append] at hs ⊢
  have ha : Dtd.skipAsides .general (('\n' :: '<' :: c :: (ds ++ cs)).length + 1)
      ('\n' :: '<' :: c :: (ds ++ cs)) = some ('<' :: c :: (ds ++ cs)) := by
    rw [Dtd.skipAsides]
    split
    · rename_i h
      rw [hs] at h
      injection h with _ h
      exact absurd (List.cons.inj h).1 (ne_of_isNameStart hc (by decide))
    · rename_i h
      rw [hs] at h
      injection h with _ h
      exact absurd (List.cons.inj h).1 (ne_of_isNameStart hc (by decide))
    · rw [hs]
  have hd : startsWith "<!DOCTYPE" ('<' :: c :: (ds ++ cs)) = false := by
    have hn : ('!' == c) = false := beq_eq_false_iff_ne.mpr (ne_of_isNameStart hc (by decide)).symm
    simp [startsWith, List.isPrefixOf, hn]
  rw [Dtd.scanProlog, ha]
  simp [hd]

lemma normalizeLines_of_not_mem (acc : List Char) {cs : List Char} (h : '\r' ∉ cs) :
    normalizeLines acc cs = acc.reverse ++ cs := by
  induction cs generalizing acc with
  | nil => simp [normalizeLines]
  | cons c cs ih =>
    obtain ⟨hc, hs⟩ := not_or.mp fun hm => h (List.mem_cons.mpr hm)
    rw [normalizeLines, ih _ hs]
    · simp
    · exact fun _ h _ => hc h.symm
    · exact fun h => hc h.symm

def content? (cs : List Char) : Option Element := do
  let tokens ← Token.scan .general [] cs
  let events ← eventsOf [] tokens
  Tree.ofEvents? events.reverse

lemma read_serialize_eq (reading width : Nat) {root : Element σ} (hw : root.IsWritable) :
    Document.read reading (serialize width root) =
      let cs := Xml.write (.indented width) escapeReturn 0 root ['\n']
      if cs.all isLegal then (content? cs).elim (.error .malformed) .ok else .error .malformed := by
  have hp := scanProlog_write (.indented width) escapeReturn 0 ['\n'] hw.isNamed false
  have hr : '\r' ∉ Xml.write (.indented width) escapeReturn 0 root ['\n'] :=
    fun hm => not_mem_documentText width hw (List.mem_append_right _ hm)
  rw [serialize_eq width hw, Document.read, documentText, ofOctets_declaration]
  generalize Xml.write (.indented width) escapeReturn 0 root ['\n'] = cs at hp hr
  have hn : normalizeLines [] cs = cs := normalizeLines_of_not_mem [] hr
  have hl : ('\n' :: cs).all isLegal = cs.all isLegal := rfl
  simp only [Except.bind, Document.root, hl, Document.alphabet, Encoding.alphabet, hp]
  have hc : ofContent? ⟨.utf8, 38, false, '\n' :: cs⟩ Dtd.empty cs = content? cs := by
    rw [ofContent?, hn]
    rfl
  rw [hc]
  cases content? cs with
  | none => rfl
  | some e => rfl

end Content

lemma content?_of_reads {cs : List Char} {e : Element} (h : Reads cs .empty [] ⟨[], some e⟩) :
    content? cs = some e := by
  obtain ⟨ts, es, hs, he, ht⟩ := h
  have hts : Token.scan .general [] cs = some ts := by
    rw [hs, Token.scan]
    simp
  have hes : eventsOf [] ts = some es.reverse := by
    have hn := he [] []
    rw [List.append_nil, List.append_nil] at hn
    exact hn.trans (by rw [eventsOf, Event.ofTokens])
  have hroot : Tree.ofEvents? es.reverse.reverse = some e := by
    rw [List.reverse_reverse, Tree.ofEvents?, ht]
    rfl
  simp only [content?, hts, hes, Option.bind_eq_bind, Option.bind_some, hroot]

lemma content?_of_refused {cs : List Char} (h : Refused cs) : content? cs = none := by
  rw [content?]
  cases hs : Token.scan .general [] cs with
  | none => rfl
  | some ts =>
    obtain ⟨us, rfl, hnone⟩ := h [] ts hs
    exact congrArg (Option.bind · fun es => Tree.ofEvents? es.reverse) (hnone [])

lemma reads_lineFeed (e : Element) : Reads ['\n'] ⟨[], some e⟩ [] ⟨[], some e⟩ := by
  have hn : Token.next .general '\n' [] = some ([.plain ['\n']], []) := by decide
  exact @Reads.next '\n' [] [] [.plain ['\n']] [.text ['\n'] true] _ _ hn
    (fun acc more => eventsOf_plain _ _ _) rfl

section Legal

variable (reading width : Nat) {root : Element} (hw : root.IsWritable)

include hw

theorem read_serialize (hl : root.IsLegal) :
    Document.read reading (serialize width root) = .ok (root.spaced (.indented width) 0) := by
  have hb := Layout.indented_isBlank width
  have hlegal : IsLegalRun (Xml.write (.indented width) escapeReturn 0 root ['\n']) :=
    (isLegalRun_write hb 0 root hw).mpr ⟨hl, IsLegalRun.nil.cons (by decide)⟩
  have hreads : Reads (Xml.write (.indented width) escapeReturn 0 root ['\n']) .empty []
      ⟨[], some (root.spaced (.indented width) 0)⟩ := by
    have ht : Tree.IsReady .empty := ⟨by simp [Tree.empty], fun _ => rfl⟩
    exact (reads_write hb 0 root ['\n'] hw ht).trans (reads_lineFeed _)
  rw [read_serialize_eq reading width hw]
  simp only [List.all_eq_true.mpr hlegal, if_true, content?_of_reads hreads]
  rfl

lemma read_serialize_illegal (hl : ¬ root.IsLegal) :
    Document.read reading (serialize width root) = .error .malformed := by
  have hb := Layout.indented_isBlank width
  rw [read_serialize_eq reading width hw]
  exact if_neg fun h => hl ((isLegalRun_write hb 0 root hw).mp (List.all_eq_true.mp h)).1

end Legal

lemma read_serialize_malformed {σ : Type} [Spelled σ] (reading width : Nat) {root : Element σ}
    (hw : root.IsWritable) : Document.read reading (serialize width root) = .error .malformed ↔
      ¬ (¬ root.HasSurrogate ∧ root.characters.IsLegal) := by
  have hb := Layout.indented_isBlank width
  by_cases hs : root.HasSurrogate
  · refine iff_of_true ?_ fun h => h.1 hs
    rw [read_serialize_eq reading width hw]
    dsimp only
    rw [content?_of_refused (refused_write hb 0 root ['\n'] hw hs)]
    exact ite_self _
  · have hsame : serialize width root = serialize width root.characters := by
      rw [serialize, ← write_characters _ _ 0 root [] hs, ← serialize]
    rw [hsame]
    constructor
    · rintro h ⟨-, hl⟩
      rw [read_serialize reading width hw.characters hl] at h
      cases h
    · exact fun h => read_serialize_illegal reading width hw.characters fun hl => h ⟨hs, hl⟩

end Reading

end BugArchive.Archive
