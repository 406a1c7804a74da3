import BugArchive.Proofs.Fallible
import BugArchive.Xml.Event

/-! What is scanned from legal characters has legal characters only, those included that are given
by number. -/

namespace BugArchive.Xml

def IsLegalRun (cs : List Char) : Prop :=
  ∀ c ∈ cs, isLegal c = true

namespace IsLegalRun

variable {cs ds : List Char}

lemma of_subset (h : IsLegalRun cs) (hs : ∀ c ∈ ds, c ∈ cs) : IsLegalRun ds :=
  fun c hc => h c (hs c hc)

lemma suffix (h : IsLegalRun cs) (hs : ds <:+ cs) : IsLegalRun ds :=
  h.of_subset fun _ hc => hs.subset hc

lemma tail {c : Char} (h : IsLegalRun (c :: cs)) : IsLegalRun cs :=
  h.suffix (List.suffix_cons c cs)

lemma append (h : IsLegalRun cs) (hd : IsLegalRun ds) : IsLegalRun (cs ++ ds) :=
  List.forall_mem_append.mpr ⟨h, hd⟩

lemma cons {c : Char} (hc : isLegal c = true) (h : IsLegalRun cs) : IsLegalRun (c :: cs) :=
  List.forall_mem_cons.mpr ⟨hc, h⟩

lemma nil : IsLegalRun [] := by
  intro c hc
  cases hc

lemma takeWhile (h : IsLegalRun cs) (p : Char → Bool) : IsLegalRun (cs.takeWhile p) :=
  h.of_subset fun _ hc => (List.takeWhile_prefix p).subset hc

lemma dropWhile (h : IsLegalRun cs) (p : Char → Bool) : IsLegalRun (cs.dropWhile p) :=
  h.suffix (List.dropWhile_suffix p)

lemma normalizeLines {acc : List Char} (h : IsLegalRun cs) (ha : IsLegalRun acc) :
    IsLegalRun (normalizeLines acc cs) := by
  fun_induction Xml.normalizeLines acc cs with
  | case1 acc => exact ha.of_subset fun c hc => List.mem_reverse.mp hc
  | case2 acc cs ih => exact ih h.tail.tail (ha.cons (by decide))
  | case3 acc cs _ ih => exact ih h.tail (ha.cons (by decide))
  | case4 acc c cs _ _ ih => exact ih h.tail (ha.cons (h c List.mem_cons_self))

lemma blankToSpace (h : IsLegalRun cs) : IsLegalRun (cs.map blankToSpace) := by
  intro d hd
  obtain ⟨c, hc, rfl⟩ := List.mem_map.mp hd
  unfold Xml.blankToSpace
  split
  · decide
  · exact h c hc

lemma splitOn (h : IsLegalRun cs) : ∀ w ∈ cs.splitOn ' ', IsLegalRun w := by
  have hs (acc : List Char) (ha : IsLegalRun acc) :
      ∀ w ∈ cs.splitOnPPrepend (· == ' ') acc, IsLegalRun w := by
    induction cs generalizing acc with
    | nil =>
      intro w hw
      obtain rfl := List.mem_singleton.mp hw
      exact ha.of_subset fun c hc => List.mem_reverse.mp hc
    | cons c cs ih =>
      rw [List.splitOnPPrepend_cons_eq_if]
      split
      · refine List.forall_mem_cons.mpr ⟨ha.of_subset fun c hc => List.mem_reverse.mp hc, ?_⟩
        exact ih h.tail [] nil
      · exact ih h.tail _ (ha.cons (h c List.mem_cons_self))
  exact hs [] nil

lemma intercalate {ws : List (List Char)} (h : ∀ w ∈ ws, IsLegalRun w) :
    IsLegalRun (List.intercalate [' '] ws) := by
  induction ws with
  | nil => exact nil
  | cons w ws ih =>
    obtain ⟨hw, hs⟩ := List.forall_mem_cons.mp h
    cases ws with
    | nil => rwa [List.intercalate_singleton]
    | cons v vs =>
      rw [List.intercalate_cons_cons]
      exact (hw.append (nil.cons (by decide))).append (ih hs)

lemma collapse (h : IsLegalRun cs) : IsLegalRun (collapse cs) :=
  intercalate fun w hw => h.splitOn w (List.mem_filter.mp hw).1

lemma upTo {mark acc n r : List Char} (hs : upTo mark acc cs = some (n, r)) (h : IsLegalRun cs)
    (ha : IsLegalRun acc) : IsLegalRun n := by
  induction cs generalizing acc with
  | nil => cases hs
  | cons c cs ih =>
    rw [Xml.upTo] at hs
    split at hs
    · obtain ⟨rfl, -⟩ := Prod.mk.inj (Option.some.inj hs)
      exact ha.of_subset fun c hc => List.mem_reverse.mp hc
    · exact ih hs h.tail (ha.cons (h c List.mem_cons_self))

end IsLegalRun

section References

lemma isLegal_charOf {n : Nat} {c : Char} (h : charOf? n = some c) : isLegal c = true := by
  unfold charOf? at h
  by_cases hv : n.isValidChar
  · rw [dif_pos hv] at h
    by_cases hl : isLegal (Char.ofNatAux n hv) = true
    · obtain rfl := Option.some.inj ((if_pos hl).symm.trans h)
      exact hl
    · cases (if_neg hl).symm.trans h
  · cases (dif_neg hv).symm.trans h

lemma isLegal_charNumber {base : Nat} {digit? : Char → Option Nat} {cs r : List Char} {c : Char}
    (h : charNumber base digit? cs = some (c, r)) : isLegal c = true := by
  unfold charNumber at h
  dsimp only at h
  split at h
  · cases h
  split at h
  · obtain ⟨d, hd, he⟩ := Option.map_eq_some_iff.mp h
    obtain ⟨rfl, -⟩ := Prod.mk.inj he
    exact isLegal_charOf hd
  · cases h

lemma isLegal_reference {a : Alphabet} {cs r : List Char} {c : Char}
    (h : Reference.scan a cs = some (.char c, r)) : isLegal c = true := by
  unfold Reference.scan at h
  split at h
  · obtain ⟨n, hn, he⟩ := Option.map_eq_some_iff.mp h
    obtain rfl := Reference.char.inj (Prod.mk.inj he).1
    exact isLegal_charNumber hn
  · obtain ⟨n, hn, he⟩ := Option.map_eq_some_iff.mp h
    obtain rfl := Reference.char.inj (Prod.mk.inj he).1
    exact isLegal_charNumber hn
  · split at h
    · cases h
    · cases h

lemma isLegal_predefined {name : List Char} {c : Char} (h : predefined? name = some c) :
    isLegal c = true := by
  unfold predefined? at h
  repeat' split at h
  all_goals
    first
    | cases h; done
    | obtain rfl := Option.some.inj h
      decide

lemma isLegalRun_simpleName {a : Alphabet} {cs n r : List Char} (h : simpleName a cs = some (n, r))
    (hc : IsLegalRun cs) : IsLegalRun n := by
  unfold simpleName at h
  split at h
  · cases h
  split at h
  · obtain ⟨rfl, -⟩ := Prod.mk.inj (Option.some.inj h)
    exact (hc.tail.takeWhile _).cons (hc _ List.mem_cons_self)
  · cases h

lemma isLegalRun_entity {a : Alphabet} {cs n r : List Char}
    (h : Reference.scan a cs = some (.entity n, r)) (hc : IsLegalRun cs) : IsLegalRun n := by
  unfold Reference.scan at h
  split at h
  · obtain ⟨m, -, he⟩ := Option.map_eq_some_iff.mp h
    cases he
  · obtain ⟨m, -, he⟩ := Option.map_eq_some_iff.mp h
    cases he
  · split at h
    · rename_i hs
      obtain ⟨he, -⟩ := Prod.mk.inj (Option.some.inj h)
      obtain rfl := Reference.entity.inj he
      exact isLegalRun_simpleName hs hc
    · cases h

end References

section Tokens

def Token.IsLegal : Token → Prop
  | .plain cs => IsLegalRun cs
  | .given cs => IsLegalRun cs
  | .start _ attributes => ∀ g ∈ attributes, IsLegalRun g.2
  | _ => True

def ScansLegal (cs : List Char) (scanned : Option (List Token × List Char)) : Prop :=
  ∀ ts r, scanned = some (ts, r) → (∀ t ∈ ts, t.IsLegal) ∧ r <:+ cs

variable {a : Alphabet} {cs : List Char} (h : IsLegalRun cs)

lemma ScansLegal.skipped {scanned : Option (List Char)} (hs : ∀ r, scanned = some r → r <:+ cs) :
    ScansLegal cs (scanned.map fun r => ([], r)) := by
  intro ts r hr
  obtain ⟨r', hr', he⟩ := Option.map_eq_some_iff.mp hr
  obtain ⟨rfl, rfl⟩ := Prod.mk.inj he
  exact ⟨fun t ht => (by cases ht), hs r' hr'⟩

include h

lemma isLegalRun_quoted {v r : List Char} (hq : Token.quoted cs = some (v, r)) : IsLegalRun v := by
  unfold Token.quoted at hq
  split at hq
  · cases hq
  split at hq
  · split at hq
    · rename_i hs
      split at hq
      · cases hq
      · obtain ⟨rfl, -⟩ := Prod.mk.inj (Option.some.inj hq)
        exact .upTo hs h.tail .nil
    · cases hq
  · cases hq

lemma isLegalRun_assignment {p : List Char × List Char} {r : List Char}
    (hp : Token.assignment a cs = some (p, r)) : IsLegalRun p.2 := by
  unfold Token.assignment at hp
  split at hp
  · cases hp
  rename_i hs
  split at hp
  · rename_i s ht
    obtain ⟨v, hv, he⟩ := Option.map_eq_some_iff.mp hp
    obtain ⟨rfl, -⟩ := Prod.mk.inj he
    have hblank := (h.suffix (qualifiedName_suffix hs)).suffix (skipBlanks_suffix _)
    rw [ht] at hblank
    exact isLegalRun_quoted (hblank.tail.suffix (skipBlanks_suffix s)) hv
  · cases hp

lemma isLegal_attributes {acc : List (List Char × List Char)} {t : Token.TagEnd} {r : List Char}
    (ht : Token.attributes a acc cs = some (t, r)) (ha : ∀ g ∈ acc, IsLegalRun g.2) :
    ∀ g ∈ t.attributes, IsLegalRun g.2 := by
  fun_induction Token.attributes a acc cs with
  | case1 acc cs s hs =>
    obtain ⟨rfl, -⟩ := Prod.mk.inj (Option.some.inj ht)
    exact fun g hg => ha g (List.mem_reverse.mp hg)
  | case2 acc cs s hs =>
    obtain ⟨rfl, -⟩ := Prod.mk.inj (Option.some.inj ht)
    exact fun g hg => ha g (List.mem_reverse.mp hg)
  | case3 => cases ht
  | case4 acc cs _ _ _ hp _ _ ih =>
    have hb := h.suffix (skipBlanks_suffix cs)
    exact ih (hb.suffix (Token.assignment_suffix hp)) ht
      (List.forall_mem_cons.mpr ⟨isLegalRun_assignment hb hp, ha⟩)
  | case5 => cases ht

lemma scansLegal_startTag : ScansLegal cs (Token.startTag a cs) := by
  intro ts r hr
  refine ⟨?_, Token.startTag_suffix hr⟩
  unfold Token.startTag at hr
  split at hr
  · cases hr
  rename_i hs
  obtain ⟨t, ht, he⟩ := Option.map_eq_some_iff.mp hr
  obtain ⟨rfl, -⟩ := Prod.mk.inj he
  have hl := isLegal_attributes (h.suffix (qualifiedName_suffix hs)) ht fun g hg => by cases hg
  refine List.forall_mem_cons.mpr ⟨hl, fun t' ht' => ?_⟩
  split at ht'
  · obtain rfl := List.mem_singleton.mp ht'
    trivial
  · cases ht'

omit h in
lemma scansLegal_endTag : ScansLegal cs (Token.endTag a cs) := by
  intro ts r hr
  refine ⟨?_, Token.endTag_suffix hr⟩
  unfold Token.endTag at hr
  split at hr
  · cases hr
  split at hr
  · obtain ⟨rfl, -⟩ := Prod.mk.inj (Option.some.inj hr)
    intro t ht
    obtain rfl := List.mem_singleton.mp ht
    trivial
  · cases hr

lemma scansLegal_markedSection : ScansLegal cs (Token.markedSection cs) := by
  intro ts r hr
  refine ⟨?_, Token.markedSection_suffix hr⟩
  obtain ⟨p, hp, he⟩ := Option.map_eq_some_iff.mp hr
  obtain ⟨rfl, -⟩ := Prod.mk.inj he
  intro t ht
  obtain rfl := List.mem_singleton.mp ht
  exact IsLegalRun.upTo hp h .nil

omit h in
lemma scansLegal_reference : ScansLegal cs (Token.reference a cs) := by
  intro ts r hr
  refine ⟨?_, Token.reference_suffix hr⟩
  unfold Token.reference at hr
  split at hr
  · cases hr
  · rename_i hs
    obtain ⟨rfl, -⟩ := Prod.mk.inj (Option.some.inj hr)
    intro t ht
    obtain rfl := List.mem_singleton.mp ht
    exact IsLegalRun.nil.cons (isLegal_reference hs)
  · split at hr
    · rename_i hc
      obtain ⟨rfl, -⟩ := Prod.mk.inj (Option.some.inj hr)
      intro t ht
      obtain rfl := List.mem_singleton.mp ht
      exact IsLegalRun.nil.cons (isLegal_predefined hc)
    · obtain ⟨rfl, -⟩ := Prod.mk.inj (Option.some.inj hr)
      intro t ht
      obtain rfl := List.mem_singleton.mp ht
      trivial

omit h in
lemma ScansLegal.of_suffix {ds : List Char} {scanned : Option (List Token × List Char)}
    (hs : ScansLegal ds scanned) (hd : ds <:+ cs) : ScansLegal cs scanned := by
  intro ts r hr
  obtain ⟨ht, hsuffix⟩ := hs ts r hr
  exact ⟨ht, hsuffix.trans hd⟩

lemma scansLegal_next {c : Char} (hc : isLegal c = true) :
    ScansLegal (c :: cs) (Token.next a c cs) := by
  unfold Token.next
  split
  · exact scansLegal_reference.of_suffix (List.suffix_cons c cs)
  split
  · refine ScansLegal.of_suffix ?_ (List.suffix_cons c cs)
    split
    · exact scansLegal_endTag.of_suffix (List.suffix_cons _ _)
    · exact .skipped fun r hr => (Token.instruction_suffix hr).trans (List.suffix_cons _ _)
    · exact .skipped fun r hr => (Token.comment_suffix hr).trans ⟨['!', '-', '-'], rfl⟩
    · rename_i r
      have hd := List.suffix_append ['!', '[', 'C', 'D', 'A', 'T', 'A', '['] r
      exact (scansLegal_markedSection (h.suffix hd)).of_suffix hd
    · exact scansLegal_startTag h
  · intro ts r hr
    have hrun := h.cons hc
    unfold Token.text at hr
    dsimp only at hr
    split at hr
    · cases hr
    · obtain ⟨rfl, rfl⟩ := Prod.mk.inj (Option.some.inj hr)
      refine ⟨fun t ht => ?_, List.dropWhile_suffix _⟩
      obtain rfl := List.mem_singleton.mp ht
      exact hrun.takeWhile _

lemma isLegal_scan {acc ts : List Token} (hs : Token.scan a acc cs = some ts)
    (ha : ∀ t ∈ acc, t.IsLegal) : ∀ t ∈ ts, t.IsLegal := by
  fun_induction Token.scan a acc cs with
  | case1 acc =>
    obtain rfl := Option.some.inj hs
    exact fun t ht => ha t (List.mem_reverse.mp ht)
  | case2 => cases hs
  | case3 acc c cs ts' r hn ih =>
    obtain ⟨ht, hr⟩ := scansLegal_next h.tail (h c List.mem_cons_self) ts' r hn
    refine ih (h.suffix hr) hs fun t hm => ?_
    rcases List.mem_append.mp hm with hm | hm
    · exact ht t (List.mem_reverse.mp hm)
    · exact ha t hm

end Tokens

section Values

def Entities.AreLegal (es : Entities) : Prop :=
  ∀ name text, (name, Entity.internal text) ∈ es → IsLegalRun text

lemma Entities.AreLegal.without {es : Entities} (h : es.AreLegal) (name : List Char) :
    (es.without name).AreLegal :=
  fun n text hm => h n text (List.mem_filter.mp hm).1

lemma isLegalRun_behind {a : Alphabet} {cs r r' : List Char} {c : Char} {ref : Reference}
    (h : IsLegalRun cs) (hd : cs.dropWhile (· != '&') = c :: r)
    (hs : Reference.scan a r = some (ref, r')) : IsLegalRun r' := by
  have hr := h.dropWhile (· != '&')
  rw [hd] at hr
  exact hr.tail.suffix (Reference.scan_suffix hs)

lemma isLegalRun_value {s : EntitySet} {a : Alphabet} {available : Entities} {cs v : List Char}
    (hv : s.value a available cs = some v) (h : IsLegalRun cs) (he : available.AreLegal) :
    IsLegalRun v := by
  have hrun {cs : List Char} (h : IsLegalRun cs) :
      IsLegalRun ((cs.takeWhile (· != '&')).map blankToSpace) := (h.takeWhile _).blankToSpace
  fun_induction EntitySet.value s a available cs generalizing v with
  | case1 => cases hv
  | case2 =>
    obtain rfl := Option.some.inj hv
    exact hrun h
  | case3 => cases hv
  | case4 =>
    rename_i hd c _ hs ih
    obtain ⟨w, hw, rfl⟩ := Option.map_eq_some_iff.mp hv
    have hi := ih hw (isLegalRun_behind h hd hs) he
    exact (hrun h).append (hi.cons (isLegal_reference hs))
  | case5 =>
    rename_i hd _ _ hs c hc ih
    obtain ⟨w, hw, rfl⟩ := Option.map_eq_some_iff.mp hv
    have hi := ih hw (isLegalRun_behind h hd hs) he
    exact (hrun h).append (hi.cons (isLegal_predefined hc))
  | case6 => cases hv
  | case7 =>
    rename_i hd name _ hs _ text hl inner hi ihi ih
    obtain ⟨w, hw, rfl⟩ := Option.map_eq_some_iff.mp hv
    have htext := he name text (mem_of_lookup hl)
    have hinner := ihi hi htext (he.without name)
    exact ((hrun h).append hinner).append (ih hw (isLegalRun_behind h hd hs) he)
  | case8 => cases hv
  | case9 =>
    rename_i hd _ _ hs _ _ _ ih
    obtain ⟨w, hw, rfl⟩ := Option.map_eq_some_iff.mp hv
    exact (hrun h).append (ih hw (isLegalRun_behind h hd hs) he)
  | case10 => cases hv

structure Dtd.IsLegal (d : Dtd) : Prop where
  entities : d.entitySet.entities.AreLegal
  defaults : ∀ r ∈ d.rules, ∀ v ∈ r.default, IsLegalRun v

lemma isLegalRun_shape {rule : Option AttributeRule} {v : List Char} (h : IsLegalRun v) :
    IsLegalRun (Dtd.shape rule v) := by
  unfold Dtd.shape
  split
  · exact h
  · exact h.collapse

lemma isLegal_dtd_attributes {d : Dtd} (hd : d.IsLegal) {a : Alphabet} {element : List Char}
    {given as : List (List Char × List Char)} (h : d.attributes a element given = some as)
    (hg : ∀ g ∈ given, IsLegalRun g.2) : ∀ b ∈ as, IsLegalRun b.2 := by
  unfold Dtd.attributes at h
  obtain ⟨values, hvalues, he⟩ := Option.bind_eq_some_iff.mp h
  obtain rfl := Option.some.inj he
  intro b hb
  rcases List.mem_append.mp hb with hb | hb
  · obtain ⟨g, hm, hb⟩ := exists_of_mapM_some hvalues hb
    obtain ⟨v, hv, he⟩ := Option.bind_eq_some_iff.mp hb
    obtain rfl := Option.some.inj he
    exact isLegalRun_shape (isLegalRun_value hv (hg g hm) hd.entities)
  · obtain ⟨r, hr, hb⟩ := List.mem_filterMap.mp hb
    split at hb
    · obtain ⟨v, hv, rfl⟩ := Option.map_eq_some_iff.mp hb
      exact hd.defaults r hr v hv
    · cases hb

end Values

section Events

def Event.IsLegal : Event → Prop
  | .text cs _ => IsLegalRun cs
  | .start _ attributes => ∀ b ∈ attributes, IsLegalRun b.2
  | .stop _ => True

lemma isLegal_ofEntity {text : List Char} {ts : List Token} (h : Token.ofEntity text = some ts)
    (ht : IsLegalRun text) : ∀ t ∈ ts, t.IsLegal := by
  obtain ⟨ts', hs, he⟩ := Option.bind_eq_some_iff.mp h
  obtain ⟨-, -, he⟩ := Option.bind_eq_some_iff.mp he
  obtain rfl := Option.some.inj he
  exact isLegal_scan ht hs fun t hm => by cases hm

lemma isLegal_ofTokens {d : Dtd} (hd : d.IsLegal) {a : Alphabet} {available : Entities}
    {inside : Bool} {acc es : List Event} {ts : List Token}
    (h : Event.ofTokens d a available inside acc ts = some es) (ht : ∀ t ∈ ts, t.IsLegal)
    (hv : available.AreLegal) (ha : ∀ e ∈ acc, e.IsLegal) : ∀ e ∈ es, e.IsLegal := by
  fun_induction Event.ofTokens d a available inside acc ts generalizing es with
  | case1 =>
    obtain rfl := Option.some.inj h
    exact ha
  | case2 _ _ _ _ _ _ ih =>
    obtain ⟨hc, ht⟩ := List.forall_mem_cons.mp ht
    exact ih h ht hv (List.forall_mem_cons.mpr ⟨hc, ha⟩)
  | case3 _ _ _ _ _ _ ih =>
    obtain ⟨hc, ht⟩ := List.forall_mem_cons.mp ht
    exact ih h ht hv (List.forall_mem_cons.mpr ⟨hc, ha⟩)
  | case4 => cases h
  | case5 _ _ _ _ name _ _ as has ih =>
    obtain ⟨hg, ht⟩ := List.forall_mem_cons.mp ht
    have hl : Event.IsLegal (.start name as) := isLegal_dtd_attributes hd has hg
    exact ih h ht hv (List.forall_mem_cons.mpr ⟨hl, ha⟩)
  | case6 _ _ _ _ _ _ ih =>
    exact ih h (List.forall_mem_cons.mp ht).2 hv (List.forall_mem_cons.mpr ⟨trivial, ha⟩)
  | case7 => cases h
  | case8 => cases h
  | case9 _ _ _ _ name _ content hl inner hi _ hinner ihi ih =>
    have hcontent := hv name content (mem_of_lookup hl)
    have hempty : Event.IsLegal (.text [] false) := IsLegalRun.nil
    have hacc := ihi hinner (isLegal_ofEntity hi hcontent) (hv.without name)
      (List.forall_mem_cons.mpr ⟨hempty, ha⟩)
    exact ih h (List.forall_mem_cons.mp ht).2 hv hacc
  | case10 => cases h

end Events

end BugArchive.Xml
