import BugArchive.Proofs.Xml.LegalElement

namespace BugArchive.Xml

structure Frame.IsLegal (f : Frame) : Prop where
  text : ∀ p ∈ f.text, IsLegalRun p
  attributes : ∀ a ∈ f.attributes, IsLegalText a.2
  children : ∀ e ∈ f.children, e.IsLegal

structure Tree.IsLegal (t : Tree) : Prop where
  stack : ∀ f ∈ t.stack, f.IsLegal
  root : ∀ e ∈ t.root, e.IsLegal

lemma isLegalText_ofList {cs : List Char} (h : IsLegalRun cs) : IsLegalText (String.ofList cs) := by
  intro c hc
  rw [String.toList_ofList] at hc
  exact h c hc

lemma Frame.IsLegal.close {f : Frame} (h : f.IsLegal) : f.close.IsLegal := by
  refine Element.isLegal_iff.mpr ⟨⟨h.attributes, isLegalText_ofList fun c hc => ?_⟩, fun e he => ?_⟩
  · obtain ⟨p, hp, hc⟩ := List.mem_flatten.mp hc
    exact h.text p (List.mem_reverse.mp hp) c hc
  · exact h.children e (List.mem_reverse.mp he)

lemma Frame.IsLegal.addText {f : Frame} (h : f.IsLegal) {cs : List Char} (hc : IsLegalRun cs) :
    (f.addText cs).IsLegal := by
  unfold Frame.addText
  split
  · exact ⟨List.forall_mem_cons.mpr ⟨hc, h.text⟩, h.attributes, h.children⟩
  · exact h

lemma Frame.IsLegal.addChild {f : Frame} (h : f.IsLegal) {e : Element} (he : e.IsLegal) :
    (f.addChild e).IsLegal :=
  ⟨h.text, h.attributes, List.forall_mem_cons.mpr ⟨he, h.children⟩⟩

lemma isLegal_scope_attributes {scope : Scope} {as bs : List (List Char × List Char)}
    (h : scope.attributes as = some bs) (ha : ∀ a ∈ as, IsLegalRun a.2) :
    ∀ b ∈ bs, IsLegalRun b.2 := by
  intro b hb
  obtain ⟨a, hm, hs⟩ := exists_of_mapM_some h hb
  obtain ⟨n, -, he⟩ := Option.bind_eq_some_iff.mp hs
  obtain rfl := Option.some.inj he
  exact ha a (List.mem_filter.mp hm).1

lemma isLegal_openFrame {scope : Scope} {name : List Char} {as : List (List Char × List Char)}
    {f : Frame} (h : Tree.openFrame scope name as = some f) (ha : ∀ a ∈ as, IsLegalRun a.2) :
    f.IsLegal := by
  unfold Tree.openFrame at h
  obtain ⟨-, -, h⟩ := Option.bind_eq_some_iff.mp h
  obtain ⟨inner, -, h⟩ := Option.bind_eq_some_iff.mp h
  obtain ⟨tag, -, h⟩ := Option.bind_eq_some_iff.mp h
  obtain ⟨bs, hbs, h⟩ := Option.bind_eq_some_iff.mp h
  obtain ⟨-, -, h⟩ := Option.bind_eq_some_iff.mp h
  obtain rfl := Option.some.inj h
  refine ⟨(fun p hp => by cases hp), fun a hm => ?_, fun e he => by cases he⟩
  obtain ⟨b, hb, rfl⟩ := List.mem_map.mp hm
  exact isLegalText_ofList (isLegal_scope_attributes hbs ha b hb)

lemma Tree.IsLegal.step {t u : Tree} {e : Event} (h : t.IsLegal) (he : e.IsLegal)
    (hu : t.step e = some u) : u.IsLegal := by
  obtain ⟨stack, root⟩ := t
  cases e with
  | text cs spacing =>
    cases stack with
    | nil =>
      simp only [Tree.step] at hu
      split at hu
      · obtain rfl := Option.some.inj hu
        exact h
      · cases hu
    | cons f fs =>
      obtain ⟨hf, hfs⟩ := List.forall_mem_cons.mp h.stack
      obtain rfl := Option.some.inj hu
      exact ⟨List.forall_mem_cons.mpr ⟨hf.addText he, hfs⟩, h.root⟩
  | start name attributes =>
    simp only [Tree.step] at hu
    split at hu
    · cases hu
    · obtain ⟨f, hf, rfl⟩ := Option.map_eq_some_iff.mp hu
      exact ⟨List.forall_mem_cons.mpr ⟨isLegal_openFrame hf he, h.stack⟩, h.root⟩
  | stop name =>
    cases stack with
    | nil => cases hu
    | cons f fs =>
      obtain ⟨hf, hfs⟩ := List.forall_mem_cons.mp h.stack
      simp only [Tree.step] at hu
      split at hu
      · cases fs with
        | nil =>
          obtain rfl := Option.some.inj hu
          refine ⟨(fun g hg => by cases hg), fun e he => ?_⟩
          obtain rfl := Option.some.inj he
          exact hf.close
        | cons g gs =>
          obtain ⟨hg, hgs⟩ := List.forall_mem_cons.mp hfs
          obtain rfl := Option.some.inj hu
          exact ⟨List.forall_mem_cons.mpr ⟨hg.addChild hf.close, hgs⟩, h.root⟩
      · cases hu

lemma isLegal_ofEvents {es : List Event} {e : Element} (h : Tree.ofEvents? es = some e)
    (he : ∀ e ∈ es, e.IsLegal) : e.IsLegal := by
  have hfold {t u : Tree} (ht : t.IsLegal) (hu : es.foldlM Tree.step t = some u) : u.IsLegal := by
    clear h
    induction es generalizing t with
    | nil =>
      obtain rfl := Option.some.inj hu
      exact ht
    | cons e es ih =>
      obtain ⟨hh, hs⟩ := List.forall_mem_cons.mp he
      obtain ⟨v, hv, hu⟩ := Option.bind_eq_some_iff.mp hu
      exact ih hs (ht.step hh hv) hu
  obtain ⟨t, ht, h⟩ := Option.bind_eq_some_iff.mp h
  obtain ⟨-, -, h⟩ := Option.bind_eq_some_iff.mp h
  have hempty : Tree.IsLegal .empty := ⟨fun f hf => (by cases hf), fun e he => (by cases he)⟩
  exact (hfold hempty ht).root e h

end BugArchive.Xml
