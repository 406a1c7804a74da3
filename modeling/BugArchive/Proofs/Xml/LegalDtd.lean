import BugArchive.Proofs.Xml.Legal
import BugArchive.Xml.Dtd.Reader

namespace BugArchive.Xml

def Lexeme.IsLegal : Lexeme → Prop
  | .literal v => IsLegalRun v
  | _ => True

namespace Lexeme

variable {a : Alphabet} {cs r : List Char}

lemma isLegal_next {c : Char} {l : Lexeme} (h : next a c cs = some (l, r)) (hc : IsLegalRun cs) :
    l.IsLegal ∧ r <:+ cs := by
  obtain ⟨hr, hv⟩ := next_spec h
  refine ⟨?_, hr⟩
  cases l with
  | literal v => exact IsLegalRun.upTo (hv v rfl) hc .nil
  | _ => trivial

lemma isLegal_scan {acc ls : List Lexeme} (h : scan a acc cs = some (ls, r)) (hc : IsLegalRun cs)
    (ha : ∀ l ∈ acc, l.IsLegal) : (∀ l ∈ ls, l.IsLegal) ∧ r <:+ cs := by
  fun_induction scan a acc cs with
  | case1 => cases h
  | case2 acc cs =>
    obtain ⟨rfl, rfl⟩ := Prod.mk.inj (Option.some.inj h)
    exact ⟨fun l hl => ha l (List.mem_reverse.mp hl), List.suffix_cons _ cs⟩
  | case3 acc c cs _ _ ih =>
    obtain ⟨hl, hr⟩ := ih h hc.tail ha
    exact ⟨hl, hr.trans (List.suffix_cons c cs)⟩
  | case4 => cases h
  | case5 acc c cs _ _ l s hn ih =>
    obtain ⟨hl, hs⟩ := isLegal_next hn hc.tail
    obtain ⟨hls, hr⟩ := ih h (hc.tail.suffix hs) (List.forall_mem_cons.mpr ⟨hl, ha⟩)
    exact ⟨hls, (hr.trans hs).trans (List.suffix_cons c cs)⟩

end Lexeme

namespace Dtd

lemma choice_suffix {p : Lexeme → Bool} {ls ms : List Lexeme} (h : choice p ls = some ms) :
    ms <:+ ls := by
  fun_induction choice p ls with
  | case1 l ls _ ih => exact ((ih h).trans (List.suffix_cons _ _)).trans (List.suffix_cons _ _)
  | case2 => cases h
  | case3 l ls =>
    obtain rfl := Option.some.inj h
    exact (List.suffix_cons _ _).trans (List.suffix_cons _ _)
  | case4 => cases h
  | case5 => cases h

lemma attributeType_suffix {ls ms : List Lexeme} {b : Bool} (h : attributeType ls = some (b, ms)) :
    ms <:+ ls := by
  have close {ls' ms' : List Lexeme} {b' : Bool} (hs : ms' <:+ ls') (hl : ls' <:+ ls)
      (he : some (b', ms') = some (b, ms)) : ms <:+ ls := by
    obtain ⟨-, rfl⟩ := Prod.mk.inj (Option.some.inj he)
    exact hs.trans hl
  unfold attributeType at h
  split at h
  · obtain ⟨ms', hs, he⟩ := Option.map_eq_some_iff.mp h
    exact close (choice_suffix hs) (List.suffix_cons _ _) (congrArg some he)
  · split at h
    · obtain ⟨ms', hs, he⟩ := Option.map_eq_some_iff.mp h
      exact close (choice_suffix hs) ⟨[_, _], rfl⟩ (congrArg some he)
    · cases h
  · split at h
    · exact close (List.suffix_refl _) (List.suffix_cons _ _) h
    split at h
    · exact close (List.suffix_refl _) (List.suffix_cons _ _) h
    · cases h
  · cases h

lemma isLegal_attributeDefault {ls ms : List Lexeme} {v : Option (List Char)}
    (h : attributeDefault ls = some (v, ms)) (hl : ∀ l ∈ ls, l.IsLegal) :
    (∀ cs ∈ v, IsLegalRun cs) ∧ ms <:+ ls := by
  unfold attributeDefault at h
  split at h
  · obtain ⟨rfl, rfl⟩ := Prod.mk.inj (Option.some.inj h)
    refine ⟨fun cs hcs => ?_, List.suffix_cons _ _⟩
    obtain rfl := Option.some.inj hcs
    exact IsLegalRun.normalizeLines (hl _ List.mem_cons_self) .nil
  · split at h
    · obtain ⟨rfl, rfl⟩ := Prod.mk.inj (Option.some.inj h)
      refine ⟨fun cs hcs => ?_, ⟨[_, _], rfl⟩⟩
      obtain rfl := Option.some.inj hcs
      exact IsLegalRun.normalizeLines (hl _ (List.mem_cons_of_mem _ List.mem_cons_self)) .nil
    · cases h
  · split at h
    · obtain ⟨rfl, rfl⟩ := Prod.mk.inj (Option.some.inj h)
      exact ⟨fun cs hcs => (by cases hcs), List.suffix_cons _ _⟩
    · cases h
  · cases h

lemma isLegalRun_entityText {a : Alphabet} {cs text : List Char} (h : entityText a cs = some text)
    (hc : IsLegalRun cs) : IsLegalRun text := by
  have go (fuel : Nat) {cs text : List Char} (h : entityText.go a fuel cs = some text)
      (hc : IsLegalRun cs) : IsLegalRun text := by
    induction fuel generalizing cs text with
    | zero => cases h
    | succ fuel ih =>
      have hrun := hc.takeWhile (· != '&')
      unfold entityText.go at h
      dsimp only at h
      split at h
      · cases h
      split at h
      · obtain rfl := Option.some.inj h
        exact hrun
      · rename_i d r hd
        have hr : IsLegalRun (d :: r) := hd ▸ hc.suffix (List.drop_suffix _ _)
        split at h
        · cases h
        · rename_i hs
          obtain ⟨rest, hrest, rfl⟩ := Option.map_eq_some_iff.mp h
          have hi := ih hrest (hr.tail.suffix (Reference.scan_suffix hs))
          exact hrun.append (hi.cons (isLegal_reference hs))
        · rename_i hs
          obtain ⟨rest, hrest, rfl⟩ := Option.map_eq_some_iff.mp h
          have hi := ih hrest (hr.tail.suffix (Reference.scan_suffix hs))
          have hn := isLegalRun_entity hs hr.tail
          exact (hrun.append (hn.cons (by decide))).append (hi.cons (by decide))
  exact go _ h (hc.normalizeLines .nil)

section Asides

variable {cs r s : List Char}

lemma suffix_behind_comment (h : skipBlanks cs = '<' :: '!' :: '-' :: '-' :: r)
    (hs : Token.comment r = some s) : s <:+ cs := by
  have hb := skipBlanks_suffix cs
  rw [h] at hb
  exact ((Token.comment_suffix hs).trans (List.suffix_append ['<', '!', '-', '-'] r)).trans hb

lemma suffix_behind_instruction {a : Alphabet} (h : skipBlanks cs = '<' :: '?' :: r)
    (hs : Token.instruction a r = some s) : s <:+ cs := by
  have hb := skipBlanks_suffix cs
  rw [h] at hb
  exact ((Token.instruction_suffix hs).trans (List.suffix_append ['<', '?'] r)).trans hb

end Asides

structure DraftRule.IsLegal (r : DraftRule) : Prop where
  written : ∀ v ∈ r.written, IsLegalRun v
  entities : r.entitySet.entities.AreLegal

structure Draft.IsLegal (d : Draft) : Prop where
  entities : d.entitySet.entities.AreLegal
  rules : ∀ r ∈ d.rules, r.IsLegal

namespace Subset

variable {s t : Subset}

lemma isLegal_addEntity (h : s.draft.IsLegal) {name : List Char} {e : Entity}
    (he : ∀ text, e = .internal text → IsLegalRun text) : (s.addEntity name e).draft.IsLegal := by
  unfold addEntity
  dsimp only
  split
  · exact h
  · refine ⟨fun n text hm => ?_, h.rules⟩
    rcases List.mem_append.mp hm with hm | hm
    · exact h.entities n text hm
    · exact he text (Prod.mk.inj (List.mem_singleton.mp hm)).2.symm

lemma isLegal_addRule (h : s.draft.IsLegal) {r : DraftRule} (hr : r.IsLegal) :
    (s.addRule r).draft.IsLegal := by
  unfold addRule
  split
  · exact h
  · refine ⟨h.entities, fun r' hm => ?_⟩
    rcases List.mem_append.mp hm with hm | hm
    · exact h.rules r' hm
    · obtain rfl := List.mem_singleton.mp hm
      exact hr

lemma isLegal_entity {a : Alphabet} {ls : List Lexeme} (hs : s.entity a ls = some t)
    (h : s.draft.IsLegal) (hl : ∀ l ∈ ls, l.IsLegal) : t.draft.IsLegal := by
  have external {name : List Char} : (s.addEntity name .external).draft.IsLegal :=
    isLegal_addEntity h fun text he => by cases he
  unfold entity at hs
  split at hs
  · split at hs
    · obtain ⟨-, -, rfl⟩ := Option.map_eq_some_iff.mp hs
      exact h
    · obtain rfl := Option.some.inj hs
      exact h
  · split at hs
    · obtain rfl := Option.some.inj hs
      exact h
    · cases hs
  · rename_i n v
    split at hs
    · obtain ⟨text, ht, rfl⟩ := Option.map_eq_some_iff.mp hs
      refine isLegal_addEntity h fun text' he => ?_
      obtain rfl := Entity.internal.inj he
      exact isLegalRun_entityText ht (hl (.literal v) (by simp))
    · obtain rfl := Option.some.inj hs
      exact h
  · split at hs
    · obtain rfl := Option.some.inj hs
      exact external
    · cases hs
  · split at hs
    · obtain rfl := Option.some.inj hs
      exact external
    · cases hs
  · split at hs
    · obtain rfl := Option.some.inj hs
      exact external
    · cases hs
  · cases hs

lemma isLegal_attributeList {element : List Char} {fuel : Nat} {ls : List Lexeme}
    (hs : s.attributeList element fuel ls = some t) (h : s.draft.IsLegal)
    (hl : ∀ l ∈ ls, l.IsLegal) : t.draft.IsLegal := by
  induction fuel generalizing s ls with
  | zero =>
    cases ls with
    | nil =>
      obtain rfl := Option.some.inj hs
      exact h
    | cons l ls => cases hs
  | succ fuel ih =>
    cases ls with
    | nil =>
      obtain rfl := Option.some.inj hs
      exact h
    | cons l ls =>
      unfold attributeList at hs
      split at hs
      · rename_i hn ht
        have hafter := attributeType_suffix ht
        split at hs
        · cases hs
        · rename_i hd
          have hbehind := fun l hm => hl l (List.mem_cons_of_mem _ (hafter.subset hm))
          obtain ⟨hv, hrest⟩ := isLegal_attributeDefault hd hbehind
          exact ih hs (isLegal_addRule h ⟨hv, h.entities⟩) fun l hm => hbehind l (hrest.subset hm)
      · cases hs

lemma isLegal_declaration {a : Alphabet} {kind : List Char} {ls : List Lexeme}
    (hs : s.declaration a kind ls = some t) (h : s.draft.IsLegal) (hl : ∀ l ∈ ls, l.IsLegal) :
    t.draft.IsLegal := by
  unfold declaration at hs
  split at hs
  · exact isLegal_entity hs h hl
  split at hs
  · split at hs
    · obtain ⟨element, -, hs⟩ := Option.bind_eq_some_iff.mp hs
      exact isLegal_attributeList hs h (List.forall_mem_cons.mp hl).2
    · cases hs
  split at hs
  · split at hs
    · obtain rfl := Option.some.inj hs
      exact h
    · cases hs
  split at hs
  · split at hs
    · obtain rfl := Option.some.inj hs
      exact h
    · cases hs
  · cases hs

lemma isLegal_leaveOut (h : s.draft.IsLegal) : s.leaveOut.draft.IsLegal :=
  ⟨h.entities, h.rules⟩

lemma isLegal_scan {a : Alphabet} {fuel : Nat} {cs r : List Char}
    (hs : s.scan a fuel cs = some (t, r)) (h : s.draft.IsLegal) (hc : IsLegalRun cs) :
    t.draft.IsLegal ∧ r <:+ cs := by
  induction fuel generalizing s cs with
  | zero => cases hs
  | succ fuel ih =>
    have within {s : Subset} {r' : List Char} (hs : s.scan a fuel r' = some (t, r))
        (h : s.draft.IsLegal) (hr : r' <:+ cs) : t.draft.IsLegal ∧ r <:+ cs := by
      obtain ⟨ht, hsuffix⟩ := ih hs h (hc.suffix hr)
      exact ⟨ht, hsuffix.trans hr⟩
    unfold scan at hs
    have hb := skipBlanks_suffix cs
    split at hs
    · rename_i he
      rw [he] at hb
      obtain ⟨rfl, rfl⟩ := Prod.mk.inj (Option.some.inj hs)
      exact ⟨h, (List.suffix_cons _ _).trans hb⟩
    · rename_i he
      rw [he] at hb
      split at hs
      · rename_i hn
        have hname := (List.suffix_cons _ _).trans (simpleName_suffix hn)
        exact within hs (isLegal_leaveOut h) ((hname.trans (List.suffix_cons _ _)).trans hb)
      · cases hs
    · rename_i he
      obtain ⟨r', hr', hs⟩ := Option.bind_eq_some_iff.mp hs
      exact within hs h (suffix_behind_comment he hr')
    · rename_i he
      obtain ⟨r', hr', hs⟩ := Option.bind_eq_some_iff.mp hs
      exact within hs h (suffix_behind_instruction he hr')
    · rename_i body _ he
      rw [he] at hb
      have hbody : body.dropWhile isUpperLetter <:+ cs :=
        ((List.dropWhile_suffix _).trans (List.suffix_append ['<', '!'] _)).trans hb
      dsimp only at hs
      split at hs
      · split at hs
        · rename_i hl
          obtain ⟨hlexemes, hr'⟩ := Lexeme.isLegal_scan hl (hc.suffix hbody) fun l hm => by cases hm
          obtain ⟨u, hu, hs⟩ := Option.bind_eq_some_iff.mp hs
          exact within hs (isLegal_declaration hu h hlexemes) (hr'.trans hbody)
        · cases hs
      · cases hs
    · cases hs

end Subset

section Prolog

variable {a : Alphabet} {cs r : List Char}

lemma skipAsides_suffix {fuel : Nat} (h : skipAsides a fuel cs = some r) : r <:+ cs := by
  induction fuel generalizing cs with
  | zero => cases h
  | succ fuel ih =>
    unfold skipAsides at h
    split at h
    · rename_i he
      obtain ⟨s, hs, h⟩ := Option.bind_eq_some_iff.mp h
      exact (ih h).trans (suffix_behind_comment he hs)
    · rename_i he
      obtain ⟨s, hs, h⟩ := Option.bind_eq_some_iff.mp h
      exact (ih h).trans (suffix_behind_instruction he hs)
    · obtain rfl := Option.some.inj h
      exact skipBlanks_suffix cs

lemma heading_suffix {p : List Lexeme × Bool} (h : heading a cs = some (p.1, p.2, r))
    (hc : IsLegalRun cs) : r <:+ cs := by
  have go (fuel : Nat) {acc : List Lexeme} {cs : List Char} (hc : IsLegalRun cs)
      (h : heading.go a acc fuel cs = some (p.1, p.2, r)) : r <:+ cs := by
    induction fuel generalizing acc cs with
    | zero => cases h
    | succ fuel ih =>
      unfold heading.go at h
      have hb := skipBlanks_suffix cs
      split at h
      · rename_i he
        rw [he] at hb
        obtain ⟨-, h⟩ := Prod.mk.inj (Option.some.inj h)
        obtain ⟨-, rfl⟩ := Prod.mk.inj h
        exact (List.suffix_cons _ _).trans hb
      · rename_i he
        rw [he] at hb
        obtain ⟨-, h⟩ := Prod.mk.inj (Option.some.inj h)
        obtain ⟨-, rfl⟩ := Prod.mk.inj h
        exact (List.suffix_cons _ _).trans hb
      · rename_i he
        rw [he] at hb
        obtain ⟨l, hl, h⟩ := Option.bind_eq_some_iff.mp h
        have hn := (Lexeme.isLegal_next hl (hc.suffix hb).tail).2
        have hr := (hn.trans (List.suffix_cons _ _)).trans hb
        exact (ih (hc.suffix hr) h).trans hr
      · cases h
  exact go _ hc h

lemma isLegal_documentType {standalone : Bool} {d : Draft} {content : List Char}
    (h : documentType a standalone cs = some (d, content)) (hc : IsLegalRun cs) :
    d.IsLegal ∧ content <:+ cs := by
  have hempty (p : Bool) : Draft.IsLegal ⟨⟨[], p⟩, []⟩ :=
    ⟨fun n t hm => (by cases hm), fun r hr => by cases hr⟩
  unfold documentType at h
  split at h
  · cases h
  split at h
  · rename_i name ids hasSubset r hh
    have hr := heading_suffix (p := (_, _)) hh hc
    split at h
    · dsimp only at h
      split at h
      · split at h
        · cases h
        · rename_i hs
          obtain ⟨hd, hs⟩ := Subset.isLegal_scan hs (hempty _) (hc.suffix hr)
          split at h
          · rename_i hb
            obtain ⟨rfl, rfl⟩ := Prod.mk.inj (Option.some.inj h)
            have hu := hb ▸ skipBlanks_suffix _
            exact ⟨hd, (((List.suffix_cons _ _).trans hu).trans hs).trans hr⟩
          · cases h
      · obtain ⟨rfl, rfl⟩ := Prod.mk.inj (Option.some.inj h)
        exact ⟨hempty _, hr⟩
    · cases h
  · cases h

lemma isLegal_scanProlog {standalone : Bool} {d : Option Draft} {content : List Char}
    (h : scanProlog a standalone cs = some (d, content)) (hc : IsLegalRun cs) :
    (∀ draft ∈ d, draft.IsLegal) ∧ content <:+ cs := by
  unfold scanProlog at h
  split at h
  · cases h
  rename_i hs
  have hr := skipAsides_suffix hs
  split at h
  · obtain ⟨p, hp, he⟩ := Option.map_eq_some_iff.mp h
    obtain ⟨rfl, rfl⟩ := Prod.mk.inj he
    have hdrop := (List.drop_suffix 9 _).trans hr
    obtain ⟨hd, hcontent⟩ := isLegal_documentType hp (hc.suffix hdrop)
    refine ⟨fun draft hm => ?_, hcontent.trans hdrop⟩
    obtain rfl := Option.some.inj hm
    exact hd
  · obtain ⟨rfl, rfl⟩ := Prod.mk.inj (Option.some.inj h)
    exact ⟨fun draft hm => (by cases hm), hr⟩

end Prolog

section Settled

variable {a : Alphabet}

lemma DraftRule.IsLegal.settle {r : DraftRule} (h : r.IsLegal) {rule : AttributeRule}
    (hs : r.settle a = some rule) : ∀ v ∈ rule.default, IsLegalRun v := by
  unfold DraftRule.settle at hs
  split at hs
  · obtain rfl := Option.some.inj hs
    exact fun v hv => by cases hv
  · rename_i cs hw
    obtain ⟨v, hv, rfl⟩ := Option.map_eq_some_iff.mp hs
    have hvalue := isLegalRun_value hv (h.written cs hw) h.entities
    intro w hm
    obtain rfl := Option.some.inj hm
    split
    · exact hvalue
    · exact hvalue.collapse

lemma mem_of_mem_firstRules {rules : List AttributeRule} {r : AttributeRule}
    (h : r ∈ firstRules rules) : r ∈ rules := by
  have hkept : ∀ k ∈ firstRules rules, k ∈ rules := by
    refine List.foldlRecOn (motive := fun kept => ∀ k ∈ kept, k ∈ rules) rules _
      (fun k hk => (by cases hk)) fun kept hkept r hr k hk => ?_
    split at hk
    · exact hkept k hk
    · rcases List.mem_append.mp hk with hk | hk
      · exact hkept k hk
      · obtain rfl := List.mem_singleton.mp hk
        exact hr
  exact hkept r h

lemma Draft.IsLegal.settle {d : Draft} (h : d.IsLegal) {definition : Dtd}
    (hs : d.settle a = some definition) : definition.IsLegal := by
  obtain ⟨rules, hrules, rfl⟩ := Option.map_eq_some_iff.mp hs
  refine ⟨h.entities, fun r hr => ?_⟩
  obtain ⟨draft, hd, hr⟩ := exists_of_mapM_some hrules (mem_of_mem_firstRules hr)
  exact (h.rules draft hd).settle hr

lemma isLegal_empty : Dtd.empty.IsLegal :=
  ⟨fun n t hm => (by cases hm), fun r hr => by cases hr⟩

end Settled

end Dtd

end BugArchive.Xml
