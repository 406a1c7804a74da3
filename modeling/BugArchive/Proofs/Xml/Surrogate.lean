import BugArchive.Proofs.Xml.Written

/-! Surrogates are written as references by number, which no reader takes. What is written of an
element with a surrogate is refused, whatever follows. -/

namespace BugArchive.Xml

open Text (CodePoint Spelled)

section References

lemma decimalValue?_of_isDigit {c : Char} (h : c.isDigit = true) :
    decimalValue? c = some (c.toNat - 48) := by
  obtain ⟨hl, hh⟩ := Char.isDigit_iff_toNat.mp h
  exact if_pos ⟨hl, hh⟩

lemma charNumber_toDigits (n : Nat) (rest : List Char) :
    charNumber 10 decimalValue? (Nat.toDigits 10 n ++ ';' :: rest) = (charOf? n).map (·, rest) := by
  have hdigit : ∀ c ∈ Nat.toDigits 10 n, c.isDigit = true :=
    fun c hc => Nat.isDigit_of_mem_toDigits (by decide) (by decide) hc
  have hd : ∀ c ∈ Nat.toDigits 10 n, (decimalValue? c).isSome = true := by
    intro c hc
    rw [decimalValue?_of_isDigit (hdigit c hc)]
    rfl
  have hs : ∀ c ∈ (';' :: rest).head?, (decimalValue? c).isSome = false := by
    intro c hc
    obtain rfl := Option.some.inj hc
    rfl
  have hvalue (cs : List Char) (acc : Nat) (hc : ∀ c ∈ cs, c.isDigit = true) :
      cs.foldl (fun n d => 10 * n + (decimalValue? d).getD 0) acc = Nat.ofDigitChars 10 cs acc := by
    rw [Nat.ofDigitChars_eq_foldl]
    induction cs generalizing acc with
    | nil => rfl
    | cons c cs ih =>
      obtain ⟨hc, hcs⟩ := List.forall_mem_cons.mp hc
      rw [List.foldl_cons, List.foldl_cons, decimalValue?_of_isDigit hc, ih _ hcs]
      rfl
  have hempty : (Nat.toDigits 10 n).isEmpty = false :=
    List.isEmpty_eq_false_iff.mpr Nat.toDigits_ne_nil
  rw [charNumber]
  simp only [Text.takeWhile_run hd hs, Text.dropWhile_run hd hs, hempty, Bool.false_eq_true,
    if_false, hvalue _ 0 hdigit, Nat.ofDigitChars_ten_toDigits]

lemma scan_surrogate {p : CodePoint} (h : p.char? = none) (rest : List Char) :
    Reference.scan .general ('#' :: (Nat.toDigits 10 p.value ++ ';' :: rest)) = none := by
  have hvalid : ¬ p.value.isValidChar := by
    intro hv
    rw [CodePoint.char?, dif_pos hv] at h
    cases h
  have hn := charNumber_toDigits p.value rest
  rw [charOf?, dif_neg hvalid, Option.map_none] at hn
  unfold Reference.scan
  split
  · rename_i cs heq
    obtain ⟨d, ds, hd⟩ := List.exists_cons_of_ne_nil (Nat.toDigits_ne_nil (n := p.value) (b := 10))
    have hx : d.isDigit = true :=
      Nat.isDigit_of_mem_toDigits (by decide) (by decide) (hd ▸ List.mem_cons_self)
    rw [hd, List.cons_append] at heq
    obtain ⟨rfl, -⟩ := List.cons.inj (List.cons.inj heq).2
    cases hx
  · rename_i heq
    obtain ⟨-, rfl⟩ := List.cons.inj heq
    rw [hn, Option.map_none]
  · rename_i h
    exact absurd rfl (h _)

end References

section Texts

variable {σ : Type} [Spelled σ]

def HasSurrogate (text : σ) : Prop :=
  ∃ p ∈ Spelled.points text, p.char? = none

lemma spellAll_surrogate {text : σ} (h : HasSurrogate text) (escape : Char → List Char) :
    ∃ (cs front back : List Char),
      spellAll escape text = cs.flatMap escape ++ '&' :: (front ++ back) ∧
        ∀ rest, Reference.scan .general (front ++ rest) = none := by
  obtain ⟨p, hp, hnone⟩ := h
  rw [spellAll]
  generalize Spelled.points text = ps at hp
  induction ps with
  | nil => cases hp
  | cons q qs ih =>
    rw [List.flatMap_cons]
    cases hq : q.char? with
    | none =>
      refine ⟨[], '#' :: (Nat.toDigits 10 q.value ++ [';']), qs.flatMap (spell escape), ?_, ?_⟩
      · rw [spell_none _ hq]
        rfl
      · intro rest
        simpa using scan_surrogate hq rest
    | some c =>
      have hm : p ∈ qs := (List.mem_cons.mp hp).resolve_left (by rintro rfl; simp [hnone] at hq)
      obtain ⟨cs, front, back, hcs, hfront⟩ := ih hm
      refine ⟨c :: cs, front, back, ?_, hfront⟩
      rw [← CodePoint.ofChar_of_char? hq, spell_ofChar, hcs, List.flatMap_cons, List.append_assoc]

lemma isEmpty_of_hasSurrogate {text : σ} (h : HasSurrogate text) :
    (Spelled.points text).isEmpty = false := by
  obtain ⟨p, hp, -⟩ := h
  exact List.isEmpty_eq_false_iff.mpr (List.ne_nil_of_mem hp)

def characters (text : σ) : String :=
  String.ofList ((Spelled.points text).filterMap CodePoint.char?)

lemma points_characters {text : σ} (h : ¬ HasSurrogate text) :
    Spelled.points (characters text) = Spelled.points text := by
  have hall : ∀ p ∈ Spelled.points text, p.char? ≠ none := fun p hp hn => h ⟨p, hp, hn⟩
  rw [characters, Text.points_string, String.toList_ofList]
  generalize Spelled.points text = ps at hall
  induction ps with
  | nil => rfl
  | cons p ps ih =>
    obtain ⟨hp, hps⟩ := List.forall_mem_cons.mp hall
    obtain ⟨c, hc⟩ := Option.ne_none_iff_exists'.mp hp
    rw [List.filterMap_cons_some hc, List.map_cons, ih hps, CodePoint.ofChar_of_char? hc]

end Texts

section Values

variable (s : EntitySet) (es : Entities) {rest : List Char}
  (hs : Reference.scan .general rest = none)

include hs

lemma value_refused {run : List Char} (hr : ∀ c ∈ run, isRaw c = true) :
    s.value .general es (run ++ '&' :: rest) = none := by
  have ha : ∀ c ∈ run, (c != '&') = true := fun c hc => (Bool.and_eq_true_iff.mp (hr c hc)).1
  have hd : (run ++ '&' :: rest).dropWhile (· != '&') = '&' :: rest :=
    Text.dropWhile_run ha (by simp)
  rw [EntitySet.value]
  split
  · rfl
  split
  · rename_i h
    rw [hd] at h
    cases h
  rename_i h
  obtain ⟨-, rfl⟩ := List.cons.inj (hd.symm.trans h)
  split
  · rfl
  · rename_i h
    rw [hs] at h
    cases h
  · rename_i h
    rw [hs] at h
    cases h

end Values

/-- Whether a text has no events, whatever tokens and events there are already. -/
def Refused (cs : List Char) : Prop :=
  ∀ acc ts, Token.scan .general acc cs = some ts →
    ∃ us, ts = acc.reverse ++ us ∧ ∀ es, eventsOf es us = none

lemma Reads.refused {front rest : List Char} {t u : Tree} (h : Reads front t rest u)
    (hr : Refused rest) : Refused front := by
  obtain ⟨ts, es, hs, he, -⟩ := h
  intro acc all hall
  rw [hs] at hall
  obtain ⟨us, hus, hnone⟩ := hr _ _ hall
  refine ⟨ts ++ us, by simp [hus], fun acc => ?_⟩
  rw [he]
  exact hnone _

lemma scan_append {acc ts : List Token} {cs : List Char}
    (h : Token.scan .general acc cs = some ts) : ∃ us, ts = acc.reverse ++ us := by
  fun_induction Token.scan .general acc cs with
  | case1 acc => exact ⟨[], by simpa using h.symm⟩
  | case2 => cases h
  | case3 acc c cs us r _ ih =>
    obtain ⟨vs, hvs⟩ := ih h
    exact ⟨us ++ vs, by simp [hvs]⟩

lemma Refused.of_next_none {c : Char} {cs : List Char} (h : Token.next .general c cs = none) :
    Refused (c :: cs) := by
  intro acc ts hs
  rw [Token.scan] at hs
  split at hs
  · cases hs
  · rename_i heq
    rw [h] at heq
    cases heq

lemma Refused.of_next {c : Char} {cs rest : List Char} {ts : List Token}
    (h : Token.next .general c cs = some (ts, rest))
    (he : ∀ more es, eventsOf es (ts ++ more) = none) : Refused (c :: cs) := by
  intro acc all hs
  rw [Token.scan] at hs
  split at hs
  · cases hs
  · rename_i heq
    rw [h] at heq
    obtain ⟨rfl, rfl⟩ := Prod.mk.inj (Option.some.inj heq)
    obtain ⟨us, hus⟩ := scan_append hs
    exact ⟨ts ++ us, by simp [hus], he us⟩

lemma Refused.text (cs : List Char) {rest : List Char}
    (hr : ∀ c ∈ rest.head?, Token.isText c = false) (h : Refused rest) :
    Refused (cs.flatMap escapeReturn ++ rest) := by
  obtain ⟨ps, -, hreads⟩ := @Reads.escaped cs [] rest (.opened "" []) [] none (by simp) hr
  exact hreads.refused h

section Elements

variable {σ : Type} [Spelled σ]

lemma refused_text {text : σ} (h : HasSurrogate text) (rest : List Char) :
    Refused (spellAll escapeReturn text ++ rest) := by
  obtain ⟨cs, front, back, hspell, hfront⟩ := spellAll_surrogate h escapeReturn
  have hnext : Token.next .general '&' (front ++ (back ++ rest)) = none := by
    unfold Token.next
    rw [if_pos rfl, Token.reference, hfront]
  rw [hspell, List.append_assoc, List.cons_append, List.append_assoc]
  exact .text cs (by simp [Token.isText]) (.of_next_none hnext)

lemma attributes_surrogate (element : List Char) {as : List (String × σ)}
    (h : ∃ a ∈ as, HasSurrogate a.2) :
    Dtd.empty.attributes .general element (as.map written) = none := by
  have hvalue {a : String × σ} (ha : HasSurrogate a.2) :
      Dtd.empty.entitySet.value .general [] (written a).2 = none := by
    obtain ⟨cs, front, back, hspell, hfront⟩ := spellAll_surrogate ha escapeAttribute
    rw [written, hspell]
    exact @value_escaped_append Dtd.empty.entitySet [] _ none
      (fun _ hr => value_refused _ _ (hfront back) hr) cs [] (by simp)
  have hm : (as.map written).mapM (fun g => do
      let v ← Dtd.empty.entitySet.value .general Dtd.empty.entitySet.entities g.2
      return (g.1, Dtd.shape (Dtd.empty.rule? element g.1) v)) = none := by
    obtain ⟨a, ha, hs⟩ := h
    induction as with
    | nil => cases ha
    | cons b as ih =>
      rw [List.map_cons, List.mapM_cons]
      rcases List.mem_cons.mp ha with rfl | ha
      · refine Option.bind_eq_none_iff.mpr fun v hv => ?_
        obtain ⟨w, hw, -⟩ := Option.bind_eq_some_iff.mp hv
        exact absurd (hw.symm.trans (hvalue hs)) (by simp)
      · rw [ih ha]
        exact Option.bind_eq_none_iff.mpr fun _ _ => rfl
  rw [Dtd.attributes, hm]
  rfl

lemma eventsOf_surrogate (name : List Char) {as : List (String × σ)}
    (h : ∃ a ∈ as, HasSurrogate a.2) (more : List Token) (es : List Event) :
    eventsOf es (.start name (as.map written) :: more) = none := by
  rw [eventsOf, Event.ofTokens, attributes_surrogate name h]

def Element.HasSurrogate (e : Element σ) : Prop :=
  ∃ n ∈ e.nodes, (∃ a ∈ n.attributes, Xml.HasSurrogate a.2) ∨ Xml.HasSurrogate n.text

lemma Element.hasSurrogate_iff {e : Element σ} : e.HasSurrogate ↔
    ((∃ a ∈ e.attributes, Xml.HasSurrogate a.2) ∨ Xml.HasSurrogate e.text) ∨
      ∃ c ∈ e.children, c.HasSurrogate := by
  cases e with
  | mk tag attributes text children =>
    simp only [HasSurrogate, nodes, List.mem_cons, mem_nodesOf, exists_eq_or_imp]
    refine or_congr_right ⟨?_, ?_⟩
    · rintro ⟨n, ⟨c, hc, hn⟩, h⟩
      exact ⟨c, hc, n, hn, h⟩
    · rintro ⟨c, hc, n, hn, h⟩
      exact ⟨n, ⟨c, hc, hn⟩, h⟩

lemma Element.not_hasSurrogate_iff {e : Element σ} : ¬ e.HasSurrogate ↔
    ((∀ a ∈ e.attributes, ¬ Xml.HasSurrogate a.2) ∧ ¬ Xml.HasSurrogate e.text) ∧
      ∀ c ∈ e.children, ¬ c.HasSurrogate := by
  rw [hasSurrogate_iff]
  simp only [not_or, not_exists, not_and]

def spelledAttributes (as : List (String × σ)) : List (String × String) :=
  as.map fun a => (a.1, characters a.2)

mutual

def Element.characters : Element σ → Element
  | ⟨tag, attributes, text, children⟩ =>
    ⟨tag, spelledAttributes attributes, Xml.characters text, charactersOf children⟩

def Element.charactersOf : List (Element σ) → List Element
  | [] => []
  | e :: es => e.characters :: charactersOf es

end

mutual

lemma Element.nodes_characters (e : Element σ) : e.characters.nodes = e.nodes.map characters := by
  match e with
  | ⟨tag, attributes, text, children⟩ =>
    rw [characters, nodes, nodes, List.map_cons, characters, nodesOf_characters children]

lemma Element.nodesOf_characters (es : List (Element σ)) :
    nodesOf (charactersOf es) = (nodesOf es).map characters := by
  match es with
  | [] => rfl
  | e :: es =>
    rw [charactersOf, nodesOf, nodesOf, List.map_append, nodes_characters e, nodesOf_characters es]

end

lemma Element.IsWritable.characters {e : Element σ} (h : e.IsWritable) :
    e.characters.IsWritable := by
  intro n hn
  rw [nodes_characters] at hn
  obtain ⟨m, hm, rfl⟩ := List.mem_map.mp hn
  obtain ⟨ht, ha, hd⟩ := h m hm
  cases m with
  | mk tag attributes text children =>
    have hnames : (spelledAttributes attributes).map Prod.fst = attributes.map Prod.fst := by
      simp [spelledAttributes]
    rw [Element.characters]
    refine ⟨ht, fun a hm => ?_, hnames ▸ hd⟩
    obtain ⟨b, hb, rfl⟩ := List.mem_map.mp hm
    exact ha b hb

lemma writeAttributes_characters {as : List (String × σ)}
    (h : ∀ a ∈ as, ¬ HasSurrogate a.2) (rest : List Char) :
    writeAttributes (spelledAttributes as) rest = writeAttributes as rest := by
  induction as with
  | nil => rfl
  | cons a as ih =>
    obtain ⟨ha, has⟩ := List.forall_mem_cons.mp h
    have hi := ih has
    rw [spelledAttributes] at hi ⊢
    rw [List.map_cons, writeAttributes, writeAttributes, hi, spellAll, points_characters ha,
      spellAll]

section Layouts

variable (layout : Layout) (escape : Char → List Char)

mutual

lemma write_characters (level : Nat) (e : Element σ) (rest : List Char) (h : ¬ e.HasSurrogate) :
    write layout escape level e.characters rest = write layout escape level e rest := by
  obtain ⟨⟨ha, ht⟩, hc⟩ := Element.not_hasSurrogate_iff.mp h
  match e with
  | ⟨tag, as, text, []⟩ =>
    rw [Element.characters, Element.charactersOf, write, write, writeAttributes_characters ha,
      spellAll, points_characters ht, spellAll]
  | ⟨tag, as, text, e :: es⟩ =>
    obtain ⟨he, hes⟩ := List.forall_mem_cons.mp hc
    rw [Element.characters, Element.charactersOf, write, write, writeAttributes_characters ha,
      spellAll, points_characters ht, spellAll, writeRest_characters (level + 1) es _ hes,
      write_characters (level + 1) e _ he]

lemma writeRest_characters (level : Nat) (es : List (Element σ)) (rest : List Char)
    (h : ∀ e ∈ es, ¬ e.HasSurrogate) :
    writeRest layout escape level (Element.charactersOf es) rest =
      writeRest layout escape level es rest := by
  match es with
  | [] => rfl
  | e :: es =>
    obtain ⟨he, hes⟩ := List.forall_mem_cons.mp h
    rw [Element.charactersOf, writeRest, writeRest, writeRest_characters level es _ hes,
      write_characters level e _ he]

end

end Layouts

section Refused

variable {layout : Layout} {e : Element σ} {rest : List Char}

lemma refused_open (hw : e.IsWritable)
    (h : (∀ a ∈ e.attributes, ¬ HasSurrogate a.2) → Refused rest) :
    Refused ('<' :: (e.tag.toList ++ writeAttributes e.attributes ('>' :: rest))) := by
  by_cases ha : ∃ a ∈ e.attributes, HasSurrogate a.2
  · exact .of_next (next_open rest hw.isNamed.tag hw.isNamed.isPlainName)
      (eventsOf_surrogate e.tag.toList ha)
  · have hplain : ∀ a ∈ e.attributes, ¬ HasSurrogate a.2 := fun a hm hs => ha ⟨a, hm, hs⟩
    have hr : Tree.IsReady .empty := ⟨by simp [Tree.empty], fun _ => rfl⟩
    have hreads := Reads.open hr hw.characters.isNamed rest
    cases e
    rw [Element.characters] at hreads
    rw [← writeAttributes_characters hplain]
    exact hreads.refused (h hplain)

variable (hl : layout.IsBlank)

include hl

lemma refused_shown (level : Nat) {text : σ} (hr : ∀ c ∈ rest.head?, Token.isText c = false)
    (h : ¬ HasSurrogate text → Refused rest) :
    Refused ((if (Spelled.points text).isEmpty then layout level
      else spellAll escapeReturn text) ++ rest) := by
  by_cases ht : HasSurrogate text
  · rw [isEmpty_of_hasSurrogate ht]
    exact refused_text ht rest
  · split
    · rw [← hl.escaped level]
      exact .text _ hr (h ht)
    · rw [spellAll, ← points_characters ht, ← spellAll, spellAll_string]
      exact .text _ hr (h ht)

lemma refused_next (level : Nat) (hw : e.IsWritable)
    (he : e.HasSurrogate → Refused (write layout escapeReturn level e rest))
    (hr : ¬ e.HasSurrogate → Refused rest) : Refused (write layout escapeReturn level e rest) := by
  by_cases h : e.HasSurrogate
  · exact he h
  · have ht : Tree.IsReady .empty := ⟨by simp [Tree.empty], fun _ => rfl⟩
    have hreads := reads_write hl level e.characters rest hw.characters ht
    rw [write_characters layout escapeReturn level e rest h] at hreads
    exact hreads.refused (hr h)

mutual

lemma refused_write (level : Nat) (e : Element σ) (rest : List Char) (hw : e.IsWritable)
    (h : e.HasSurrogate) : Refused (write layout escapeReturn level e rest) := by
  obtain ⟨hn, hc⟩ := Element.isWritable_iff.mp hw
  have hs := Element.hasSurrogate_iff.mp h
  match e with
  | ⟨tag, as, text, []⟩ =>
    have hvalues : (∃ a ∈ as, HasSurrogate a.2) ∨ HasSurrogate text :=
      hs.resolve_right fun ⟨c, hc, _⟩ => List.not_mem_nil hc
    rw [write]
    split
    · rename_i he
      have ha := hvalues.resolve_right fun ht => by simp [isEmpty_of_hasSurrogate ht] at he
      exact .of_next (next_empty rest hn.tag hn.isPlainName)
        fun _ => eventsOf_surrogate tag.toList ha _
    · refine refused_open hw fun ha => refused_text (hvalues.resolve_left ?_) _
      exact fun ⟨a, hm, hsur⟩ => ha a hm hsur
  | ⟨tag, as, text, e :: es⟩ =>
    obtain ⟨he, hes⟩ := List.forall_mem_cons.mp hc
    rw [write]
    refine refused_open hw fun ha => refused_shown hl (level + 1) (write_head _ _ _ _ _) fun ht => ?_
    refine refused_next hl (level + 1) he (refused_write (level + 1) e _ he) fun hplain => ?_
    refine refused_writeRest (level + 1) es _ hes ?_
    obtain ⟨c, hm, hsur⟩ := hs.resolve_left fun hv =>
      hv.elim (fun ⟨a, hm, hsur⟩ => ha a hm hsur) ht
    exact ⟨c, (List.mem_cons.mp hm).resolve_left fun heq => hplain (heq ▸ hsur), hsur⟩

lemma refused_writeRest (level : Nat) (es : List (Element σ)) (rest : List Char)
    (hw : ∀ e ∈ es, e.IsWritable) (h : ∃ e ∈ es, e.HasSurrogate) :
    Refused (writeRest layout escapeReturn level es rest) := by
  obtain ⟨c, hm, hsur⟩ := h
  match es with
  | [] => cases hm
  | e :: es =>
    obtain ⟨he, hes⟩ := List.forall_mem_cons.mp hw
    rw [writeRest, ← hl.escaped level]
    refine .text _ (write_head _ _ _ _ _) ?_
    refine refused_next hl level he (refused_write level e _ he) fun hplain => ?_
    exact refused_writeRest level es rest hes
      ⟨c, (List.mem_cons.mp hm).resolve_left fun heq => hplain (heq ▸ hsur), hsur⟩

end

end Refused

end Elements

end BugArchive.Xml
