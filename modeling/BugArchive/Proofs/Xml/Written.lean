import BugArchive.Proofs.Xml.Reading
import BugArchive.Xml.Writer

/-! A written element is read as that element, with the layout in it as text. -/

namespace BugArchive.Xml

open Text (Spelled)

section Named

variable {σ : Type}

structure Element.IsNamed (e : Element σ) : Prop where
  tag : isPlainName e.tag.toList = true
  attributes : ∀ a ∈ e.attributes, isPlainName a.1.toList = true ∧ a.1 ≠ "xmlns"
  nodup : (e.attributes.map Prod.fst).Nodup

def areNames (tag : String) (names : List String) : Bool :=
  isPlainName tag.toList && names.all (fun n => isPlainName n.toList && n != "xmlns") &&
    decide names.Nodup

def Element.IsWritable (e : Element σ) : Prop :=
  ∀ n ∈ e.nodes, n.IsNamed

lemma Element.IsWritable.isNamed {e : Element σ} (h : e.IsWritable) : e.IsNamed := by
  refine h e ?_
  cases e
  rw [nodes]
  exact List.mem_cons_self

lemma Element.mem_nodesOf {es : List (Element σ)} {n : Element σ} :
    n ∈ nodesOf es ↔ ∃ e ∈ es, n ∈ e.nodes := by
  induction es with
  | nil => simp [nodesOf]
  | cons e es ih => simp [nodesOf, ih]

lemma Element.isWritable_iff {e : Element σ} :
    e.IsWritable ↔ e.IsNamed ∧ ∀ c ∈ e.children, c.IsWritable := by
  cases e with
  | mk tag attributes text children =>
    simp only [IsWritable, nodes, List.forall_mem_cons, mem_nodesOf]
    refine and_congr_right fun _ => ⟨fun h c hc n hn => h n ⟨c, hc, hn⟩, ?_⟩
    rintro h n ⟨c, hc, hn⟩
    exact h c hc n hn

lemma Element.IsNamed.isPlainName {e : Element σ} (h : e.IsNamed) :
    ∀ a ∈ e.attributes, isPlainName a.1.toList = true :=
  fun a ha => (h.attributes a ha).1

lemma Element.isNamed_of_areNames {e : Element σ}
    (h : areNames e.tag (e.attributes.map Prod.fst) = true) : e.IsNamed := by
  simp only [areNames, Bool.and_eq_true, decide_eq_true_eq, List.all_eq_true, bne_iff_ne] at h
  obtain ⟨⟨ht, ha⟩, hn⟩ := h
  exact ⟨ht, fun a hm => ha a.1 (List.mem_map_of_mem hm), hn⟩

lemma Element.isWritable_of_all {e : Element σ}
    (h : e.nodes.all (fun n => areNames n.tag (n.attributes.map Prod.fst)) = true) : e.IsWritable :=
  fun n hn => isNamed_of_areNames (List.all_eq_true.mp h n hn)

lemma Element.isWritable_of_names {e : Element σ} (names : List String)
    (hn : e.attributes.map Prod.fst = names) (h : areNames e.tag names = true)
    (hc : ∀ c ∈ e.children, c.IsWritable) : e.IsWritable :=
  isWritable_iff.mpr ⟨isNamed_of_areNames (hn ▸ h), hc⟩

lemma Element.isWritable_leaf [Spelled σ] {tag : String} {as : List (String × σ)}
    (names : List String) (hn : as.map Prod.fst = names) (h : areNames tag names = true) :
    (leaf tag as).IsWritable :=
  isWritable_of_names names hn h fun c hc => by cases hc

lemma Element.isWritable_ofText {tag : String} (text : σ) (h : areNames tag [] = true) :
    (ofText tag text).IsWritable :=
  isWritable_of_names [] rfl h fun c hc => by cases hc

end Named

section Spacing

variable (layout : Layout)

def Element.shownText (level : Nat) (e : Element) : String :=
  if e.text.isEmpty ∧ e.children ≠ [] then String.ofList (layout (level + 1)) else e.text

mutual

def Element.spaced (level : Nat) : Element → Element
  | ⟨tag, attributes, text, children⟩ =>
    ⟨tag, attributes, Element.shownText layout level ⟨tag, attributes, text, children⟩,
      spacedAll (level + 1) children⟩

def Element.spacedAll (level : Nat) : List Element → List Element
  | [] => []
  | e :: es => e.spaced level :: spacedAll level es

end

lemma Element.spacedAll_eq_map (level : Nat) (es : List Element) :
    spacedAll layout level es = es.map (·.spaced layout level) := by
  induction es with
  | nil => rfl
  | cons e es ih => rw [spacedAll, ih, List.map_cons]

@[simp]
lemma Element.spaced_tag (level : Nat) (e : Element) : (e.spaced layout level).tag = e.tag := by
  cases e
  rw [spaced]

@[simp]
lemma Element.spaced_attributes (level : Nat) (e : Element) :
    (e.spaced layout level).attributes = e.attributes := by
  cases e
  rw [spaced]

@[simp]
lemma Element.spaced_children (level : Nat) (e : Element) :
    (e.spaced layout level).children = e.children.map (·.spaced layout (level + 1)) := by
  cases e
  rw [spaced, spacedAll_eq_map]

lemma Element.spaced_text (level : Nat) (e : Element) :
    (e.spaced layout level).text = e.shownText layout level := by
  cases e
  rw [spaced]

lemma Element.spaced_ofText (level : Nat) (tag text : String) :
    (ofText tag text).spaced layout level = ofText tag text := by
  simp [ofText, spaced, spacedAll, shownText]

end Spacing

def Layout.IsBlank (layout : Layout) : Prop :=
  ∀ level, ∀ c ∈ layout level, c = ' ' ∨ c = '\n'

lemma Layout.indented_isBlank (width : Nat) : (Layout.indented width).IsBlank := by
  intro level c hc
  rcases List.mem_cons.mp hc with rfl | hc
  · exact .inr rfl
  · exact .inl (List.eq_of_mem_replicate hc)

lemma Layout.IsBlank.escaped {layout : Layout} (h : layout.IsBlank) (level : Nat) :
    (layout level).flatMap escapeReturn = layout level := by
  have hc : ∀ c ∈ layout level, escapeReturn c = [c] := by
    intro c hc
    rcases h level c hc with rfl | rfl
    · rfl
    · rfl
  generalize layout level = cs at hc
  induction cs with
  | nil => rfl
  | cons c cs ih =>
    rw [List.flatMap_cons, hc c List.mem_cons_self,
      ih fun d hd => hc d (List.mem_cons_of_mem c hd)]
    rfl

section Frames

lemma hasDuplicates_eq_false {names : List (List Char)} (h : names.Nodup) :
    Tree.hasDuplicates names = false := by
  induction names with
  | nil => rfl
  | cons n ns ih =>
    obtain ⟨hn, hs⟩ := List.nodup_cons.mp h
    simp [Tree.hasDuplicates, hn, ih hs]

lemma splitName_plain {name : List Char} (h : isPlainName name = true) :
    Scope.splitName name = (none, name) := by
  have hc : ∀ c ∈ name, (c != ':') = true := by
    intro c hc
    have hn : ':' ∉ name := not_mem_of_isPlainName h (by decide)
    rw [bne_iff_ne]
    rintro rfl
    exact hn hc
  rw [Scope.splitName, Text.dropWhile_all hc]

lemma binds?_plain {name : List Char} (h : isPlainName name = true) (hx : name ≠ "xmlns".toList) :
    Scope.binds? name = none := by
  rw [Scope.binds?, splitName_plain h]
  exact if_neg (by simpa using hx)

variable {as : List (String × String)}
  (ha : ∀ a ∈ as, isPlainName a.1.toList = true ∧ a.1 ≠ "xmlns")

include ha

lemma binds?_spelled {a : String × String} (h : a ∈ as) : Scope.binds? (spelled a).1 = none :=
  binds?_plain (ha a h).1 fun hx => (ha a h).2 (String.toList_inj.mp hx)

lemma extend_spelled (scope : Scope) : scope.extend (as.map spelled) = some scope := by
  induction as with
  | nil => rfl
  | cons a as ih =>
    have hb := binds?_spelled ha List.mem_cons_self
    rw [List.map_cons, Scope.extend]
    simp only [hb, ih fun b hb => ha b (List.mem_cons_of_mem a hb)]

lemma scope_attributes_spelled (scope : Scope) :
    scope.attributes (as.map spelled) = some (as.map spelled) := by
  have hf : (as.map spelled).filter (fun a => (Scope.binds? a.1).isNone) = as.map spelled := by
    refine List.filter_eq_self.mpr fun b hb => ?_
    obtain ⟨a, hm, rfl⟩ := List.mem_map.mp hb
    rw [binds?_spelled ha hm]
    rfl
  rw [Scope.attributes, hf]
  clear hf
  induction as with
  | nil => rfl
  | cons a as ih =>
    have hn : scope.attributeName (spelled a).1 = some (spelled a).1 := by
      rw [Scope.attributeName, spelled, splitName_plain (ha a List.mem_cons_self).1]
    rw [List.map_cons, List.mapM_cons, ih fun b hb => ha b (List.mem_cons_of_mem a hb), hn]
    rfl

end Frames

def Frame.opened (tag : String) (as : List (String × String)) : Frame :=
  ⟨tag.toList, tag, as, [], [], Scope.initial⟩

lemma openFrame_spelled {tag : String} {as : List (String × String)}
    (ht : isPlainName tag.toList = true)
    (ha : ∀ a ∈ as, isPlainName a.1.toList = true ∧ a.1 ≠ "xmlns")
    (hn : (as.map Prod.fst).Nodup) :
    Tree.openFrame Scope.initial tag.toList (as.map spelled) = some (.opened tag as) := by
  have hd : Tree.hasDuplicates ((as.map spelled).map (·.1)) = false := by
    refine hasDuplicates_eq_false ?_
    have hm : (as.map spelled).map Prod.fst = (as.map Prod.fst).map String.toList := by
      simp [spelled]
    rw [hm]
    exact List.Pairwise.map _ (fun a b h => fun e => h (String.toList_inj.mp e)) hn
  have hguard : guard (!Tree.hasDuplicates ((as.map spelled).map (·.1))) = some () := by
    rw [hd]
    rfl
  have hname : Scope.initial.elementName tag.toList = some tag.toList := by
    rw [Scope.elementName, splitName_plain ht]
    rfl
  have hback : (as.map spelled).map (fun a => (String.ofList a.1, String.ofList a.2)) = as := by
    rw [List.map_map]
    exact (List.map_congr_left fun a _ => by simp [spelled]).trans as.map_id
  refine Option.bind_eq_some_iff.mpr ⟨(), hguard, ?_⟩
  refine Option.bind_eq_some_iff.mpr ⟨Scope.initial, extend_spelled ha _, ?_⟩
  refine Option.bind_eq_some_iff.mpr ⟨tag.toList, hname, ?_⟩
  refine Option.bind_eq_some_iff.mpr ⟨as.map spelled, scope_attributes_spelled ha _, ?_⟩
  refine Option.bind_eq_some_iff.mpr ⟨(), hguard, ?_⟩
  rw [hback, String.ofList_toList]
  rfl

def Tree.attach (t : Tree) (e : Element) : Tree :=
  match t.stack with
  | [] => ⟨[], some e⟩
  | f :: fs => { t with stack := f.addChild e :: fs }

structure Tree.IsReady (t : Tree) : Prop where
  scope : ∀ f ∈ t.stack.head?, f.scope = Scope.initial
  root : t.stack = [] → t.root = none

lemma Tree.IsReady.push {f : Frame} (hf : f.scope = Scope.initial) (fs : List Frame)
    (root : Option Element) : Tree.IsReady ⟨f :: fs, root⟩ where
  scope g hg := by
    obtain rfl := Option.some.inj hg
    exact hf
  root h := by cases h

lemma Tree.step_start {t : Tree} {e : Element} (h : t.IsReady) (hn : e.IsNamed) :
    t.step (.start e.tag.toList (e.attributes.map spelled)) =
      some { t with stack := .opened e.tag e.attributes :: t.stack } := by
  have hs : (t.stack.head?.map (·.scope)).getD Scope.initial = Scope.initial := by
    cases hh : t.stack.head? with
    | none => rfl
    | some f => exact h.scope f hh
  have hr : (t.stack.isEmpty && t.root.isSome) = false := by
    cases hk : t.stack with
    | nil => simp [h.root hk]
    | cons f fs => rfl
  rw [Tree.step, hr, hs]
  simp [openFrame_spelled hn.tag hn.attributes hn.nodup]

lemma Tree.step_stop (f : Frame) (t : Tree) :
    Tree.step { t with stack := f :: t.stack } (.stop f.name) = some (t.attach f.close) := by
  obtain ⟨stack, root⟩ := t
  cases stack with
  | nil => simp [Tree.step, attach]
  | cons g gs => simp [Tree.step, attach]

lemma Reads.open {t : Tree} {e : Element} (h : t.IsReady) (hn : e.IsNamed) (rest : List Char) :
    Reads ('<' :: (e.tag.toList ++ writeAttributes e.attributes ('>' :: rest))) t rest
      { t with stack := .opened e.tag e.attributes :: t.stack } := by
  refine @Reads.next _ _ _ _ [.start e.tag.toList (e.attributes.map spelled)] _ _
    (next_open rest hn.tag hn.isPlainName)
    (fun acc more => eventsOf_start _ _ _ _) ?_
  simp [Tree.step_start h hn]

lemma Reads.empty {t : Tree} {e : Element} (h : t.IsReady) (hn : e.IsNamed) (rest : List Char) :
    Reads ('<' :: (e.tag.toList ++ writeAttributes e.attributes (' ' :: '/' :: '>' :: rest))) t rest
      (t.attach ⟨e.tag, e.attributes, "", []⟩) := by
  refine @Reads.next _ _ _ _ [.start e.tag.toList (e.attributes.map spelled), .stop e.tag.toList] _ _
    (next_empty rest hn.tag hn.isPlainName) (fun acc more => ?_) ?_
  · rw [List.cons_append, eventsOf_start]
    exact eventsOf_stop _ _ _
  · have hs := Tree.step_stop (.opened e.tag e.attributes) t
    simp only [List.foldlM_cons, List.foldlM_nil, Tree.step_start h hn]
    exact congrArg (· >>= pure) hs

lemma Reads.close {tag : String} (f : Frame) (t : Tree) (ht : isPlainName tag.toList = true)
    (hf : f.name = tag.toList) (rest : List Char) :
    Reads (writeEnd tag rest) { t with stack := f :: t.stack } rest (t.attach f.close) := by
  refine @Reads.next _ _ _ _ [.stop tag.toList] _ _ (next_close rest ht)
    (fun acc more => eventsOf_stop _ _ _) ?_
  rw [← hf]
  exact congrArg (· >>= pure) (Tree.step_stop f t)

lemma Frame.addTexts_first {f : Frame} (h : f.children = []) (ps : List (List Char)) :
    f.addTexts ps = { f with text := ps.reverse ++ f.text } := by
  induction ps generalizing f with
  | nil => rfl
  | cons p ps ih =>
    have ha : f.addText p = { f with text := p :: f.text } := by rw [addText, h]; rfl
    rw [addTexts, List.foldl_cons, ha]
    refine (@ih { f with text := p :: f.text } h).trans ?_
    simp

lemma Frame.addTexts_later {f : Frame} (h : f.children ≠ []) (ps : List (List Char)) :
    f.addTexts ps = f := by
  induction ps with
  | nil => rfl
  | cons p ps ih =>
    have ha : f.addText p = f := if_neg (by simpa using h)
    rw [addTexts, List.foldl_cons, ha]
    exact ih

def Frame.holding (tag : String) (as : List (String × String)) (text : List (List Char)) : Frame :=
  { opened tag as with text := text }

def Frame.addChildren (f : Frame) (es : List Element) : Frame :=
  { f with children := es.reverse ++ f.children }

lemma Frame.addChildren_addChild (f : Frame) (e : Element) (es : List Element) :
    (f.addChild e).addChildren es = f.addChildren (e :: es) := by
  simp [addChild, addChildren]

lemma Frame.close_holding (tag : String) (as : List (String × String)) (text : List (List Char))
    (es : List Element) :
    ((holding tag as text).addChildren es).close =
      ⟨tag, as, String.ofList text.reverse.flatten, es⟩ := by
  simp [close, holding, opened, addChildren]

lemma Reads.content (tag : String) (as : List (String × String)) (cs : List Char) (t : Tree)
    {rest : List Char} (hr : ∀ c ∈ rest.head?, Token.isText c = false) :
    ∃ ps : List (List Char), ps.reverse.flatten = cs ∧
      Reads (cs.flatMap escapeReturn ++ rest) { t with stack := .opened tag as :: t.stack } rest
        { t with stack := .holding tag as ps :: t.stack } := by
  obtain ⟨ps, hp, h⟩ := @Reads.escaped cs [] rest (.opened tag as) t.stack t.root (by simp) hr
  refine ⟨ps.reverse, by simpa using hp, ?_⟩
  rw [Frame.addTexts_first rfl] at h
  simpa [Frame.holding, Frame.opened] using h

lemma Reads.spacing {layout : Layout} (h : layout.IsBlank) (level : Nat) {f : Frame}
    (hf : f.children ≠ []) (t : Tree) {rest : List Char}
    (hr : ∀ c ∈ rest.head?, Token.isText c = false) :
    Reads (layout level ++ rest) { t with stack := f :: t.stack } rest
      { t with stack := f :: t.stack } := by
  obtain ⟨ps, -, hs⟩ := @Reads.escaped (layout level) [] rest f t.stack t.root (by simp) hr
  rw [h.escaped, Frame.addTexts_later hf] at hs
  exact hs

section Append

variable {σ : Type} [Spelled σ]

lemma write_head (layout : Layout) (escape : Char → List Char) (level : Nat) (e : Element σ)
    (rest : List Char) : ∀ c ∈ (write layout escape level e rest).head?, Token.isText c = false := by
  intro c hc
  cases e with
  | mk tag as text children =>
    cases children with
    | nil =>
      obtain rfl := Option.some.inj hc
      rfl
    | cons e es =>
      obtain rfl := Option.some.inj hc
      rfl

lemma writeAttributes_append (as : List (String × σ)) (front rest : List Char) :
    writeAttributes as front ++ rest = writeAttributes as (front ++ rest) := by
  induction as with
  | nil => rfl
  | cons a as ih => simp [writeAttributes, ih]

mutual

lemma write_append (layout : Layout) (escape : Char → List Char) (level : Nat) (e : Element σ)
    (front rest : List Char) :
    write layout escape level e front ++ rest = write layout escape level e (front ++ rest) := by
  match e with
  | ⟨tag, as, text, []⟩ =>
    simp only [write, List.append_assoc, writeAttributes_append, List.cons_append]
    split
    · rfl
    · simp [writeEnd]
  | ⟨tag, as, text, e :: es⟩ =>
    simp only [write, List.append_assoc, writeAttributes_append, List.cons_append,
      write_append layout escape (level + 1) e, writeRest_append layout escape (level + 1) es,
      writeEnd]

lemma writeRest_append (layout : Layout) (escape : Char → List Char) (level : Nat)
    (es : List (Element σ)) (front rest : List Char) :
    writeRest layout escape level es front ++ rest =
      writeRest layout escape level es (front ++ rest) := by
  match es with
  | [] => rfl
  | e :: es =>
    simp only [writeRest, List.append_assoc, write_append layout escape level e,
      writeRest_append layout escape level es]

end

end Append

lemma writeEnd_head (tag : String) (rest : List Char) :
    ∀ c ∈ (writeEnd tag rest).head?, Token.isText c = false := by
  intro c hc
  obtain rfl := Option.some.inj hc
  rfl

section Writing

variable {layout : Layout} (hl : layout.IsBlank)

lemma reads_leaf (level : Nat) {tag text : String} {as : List (String × String)} (rest : List Char)
    {t : Tree} (hn : Element.IsNamed ⟨tag, as, text, []⟩) (ht : t.IsReady) :
    Reads (write layout escapeReturn level ⟨tag, as, text, []⟩ rest) t rest
      (t.attach ⟨tag, as, text, []⟩) := by
  by_cases he : text.isEmpty
  · rw [String.isEmpty_iff.mp he]
    exact .empty ht hn rest
  · obtain ⟨ps, hp, hc⟩ := Reads.content tag as text.toList t (writeEnd_head tag rest)
    have hf : (Frame.holding tag as ps).close = ⟨tag, as, text, []⟩ := by
      have h := Frame.close_holding tag as ps []
      rwa [hp, String.ofList_toList] at h
    have h := ((Reads.open ht hn _).trans hc).trans (.close _ t hn.tag rfl rest)
    rw [hf] at h
    rw [write, Text.points_isEmpty, if_neg he, spellAll_string]
    exact h

include hl

lemma shownText_escaped (level : Nat) (tag text : String) (as : List (String × String))
    (e : Element) (es : List Element) :
    (Element.shownText layout level ⟨tag, as, text, e :: es⟩).toList.flatMap escapeReturn =
      if text.isEmpty then layout (level + 1) else text.toList.flatMap escapeReturn := by
  simp only [Element.shownText, ne_eq, reduceCtorEq, not_false_eq_true, and_true]
  split
  · rw [String.toList_ofList, hl.escaped]
  · rfl

mutual

lemma reads_write (level : Nat) (e : Element) (rest : List Char) {t : Tree} (he : e.IsWritable)
    (ht : t.IsReady) :
    Reads (write layout escapeReturn level e rest) t rest (t.attach (e.spaced layout level)) := by
  match e with
  | ⟨tag, as, text, []⟩ =>
    have hs : Element.spaced layout level ⟨tag, as, text, []⟩ = ⟨tag, as, text, []⟩ := by
      simp [Element.spaced, Element.spacedAll, Element.shownText]
    rw [hs]
    exact reads_leaf level rest he.isNamed ht
  | ⟨tag, as, text, e :: es⟩ =>
    obtain ⟨hn, hc⟩ := Element.isWritable_iff.mp he
    obtain ⟨he, hes⟩ := List.forall_mem_cons.mp hc
    have hshown := shownText_escaped hl level tag text as e es
    obtain ⟨ps, hp, htext⟩ := Reads.content tag as
      (Element.shownText layout level ⟨tag, as, text, e :: es⟩).toList t
      (write_head layout escapeReturn (level + 1) e
        (writeRest layout escapeReturn (level + 1) es (layout level ++ writeEnd tag rest)))
    have hfirst := reads_write (level + 1) e
      (writeRest layout escapeReturn (level + 1) es (layout level ++ writeEnd tag rest)) he
      (.push (f := .holding tag as ps) rfl t.stack t.root)
    have hothers := reads_writeRest (level + 1) es (layout level ++ writeEnd tag rest)
      (f := (Frame.holding tag as ps).addChild (e.spaced layout (level + 1)))
      (List.cons_ne_nil _ _) rfl t hes
    have hlast := Reads.spacing hl level (f := (Frame.holding tag as ps).addChildren
      (Element.spacedAll layout (level + 1) (e :: es))) (by simp [Frame.addChildren, Element.spacedAll])
      t (writeEnd_head tag rest)
    have hend := Reads.close ((Frame.holding tag as ps).addChildren
      (Element.spacedAll layout (level + 1) (e :: es))) t hn.tag rfl rest
    rw [Frame.close_holding, hp, String.ofList_toList, ← Element.spaced] at hend
    rw [Frame.addChildren_addChild, ← Element.spacedAll] at hothers
    have h := ((((Reads.open ht hn _).trans htext).trans hfirst).trans hothers).trans
      (hlast.trans hend)
    rw [write, Text.points_isEmpty, spellAll_string, ← hshown]
    exact h

lemma reads_writeRest (level : Nat) (es : List Element) (rest : List Char) {f : Frame}
    (hf : f.children ≠ []) (hs : f.scope = Scope.initial) (t : Tree)
    (he : ∀ e ∈ es, e.IsWritable) :
    Reads (writeRest layout escapeReturn level es rest) { t with stack := f :: t.stack } rest
      { t with stack := f.addChildren (Element.spacedAll layout level es) :: t.stack } := by
  match es with
  | [] => exact .refl _ _
  | e :: es =>
    obtain ⟨he, hes⟩ := List.forall_mem_cons.mp he
    have hblank := Reads.spacing hl level hf t
      (write_head layout escapeReturn level e (writeRest layout escapeReturn level es rest))
    have hfirst := reads_write level e (writeRest layout escapeReturn level es rest) he
      (.push hs t.stack t.root)
    have hothers := reads_writeRest level es rest (f := f.addChild (e.spaced layout level))
      (List.cons_ne_nil _ _) hs t hes
    rw [Frame.addChildren_addChild, ← Element.spacedAll] at hothers
    exact (hblank.trans hfirst).trans hothers

end

end Writing

end BugArchive.Xml
