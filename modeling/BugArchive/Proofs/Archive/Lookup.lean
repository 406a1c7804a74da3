import BugArchive.Proofs.Archive.Joined
import BugArchive.Proofs.Finding.Fault
import BugArchive.Proofs.Registry

namespace BugArchive

open Xml (Element)

namespace Decode

variable [Machine] {r r' : Registry} {around : Nat} {e : Element}

section Extended

variable (h : r'.Extends r)

include h

lemma detail_extended {a : Detail} (ha : detail r around e = .ok a) : detail r' around e = .ok a := by
  rw [detail] at ha ⊢
  cases hk : r.get? e.tag with
  | none =>
    rw [hk] at ha
    cases ha
  | some k =>
    rw [hk] at ha
    rw [h e.tag k hk]
    dsimp only at ha ⊢
    split at ha
    · cases ha
    rename_i hroom
    rw [if_neg hroom]
    cases k with
    | finding =>
      -- Only here the registry is looked at again, and a finding in a finding is refused.
      obtain ⟨f, -, hf⟩ := bind_eq_ok.mp ha
      cases hf
    | _ => exact ha

lemma finding_extended {f : Finding} (hf : finding r around e = .ok f) :
    finding r' around e = .ok f := by
  obtain ⟨tag, attributes, text, children⟩ := e
  rw [finding] at hf ⊢
  obtain ⟨type, ht, hf⟩ := bind_eq_ok.mp hf
  obtain ⟨priority, hp, hf⟩ := bind_eq_ok.mp hf
  refine bind_eq_ok.mpr ⟨type, ht, bind_eq_ok.mpr ⟨priority, hp, ?_⟩⟩
  obtain ⟨as, has, hf⟩ := bind_eq_ok.mp hf
  rw [details_eq] at has ⊢
  have has' := mapM_ok_of_imp (fun c _ a ha => detail_extended h ha) has
  exact bind_eq_ok.mpr ⟨as, has', hf⟩

lemma topLevel_extended {f : Finding} (hf : topLevel r e = .ok f) : topLevel r' e = .ok f := by
  rw [topLevel] at hf ⊢
  cases hk : r.get? e.tag with
  | none =>
    rw [hk] at hf
    cases hf
  | some k =>
    rw [hk] at hf
    rw [h e.tag k hk]
    obtain ⟨i, hi, hf⟩ := bind_eq_ok.mp hf
    refine bind_eq_ok.mpr ⟨i, ?_, hf⟩
    cases k with
    | finding =>
      obtain ⟨g, hg, rfl⟩ := map_eq_ok.mp hi
      exact map_eq_ok.mpr ⟨g, finding_extended h hg, rfl⟩
    | _ => exact hi

end Extended

lemma exists_of_detail {a : Detail} (h : detail r around e = .ok a) :
    ∃ k, r.get? e.tag = some k ∧ k ≠ .finding := by
  rw [detail] at h
  cases hk : r.get? e.tag with
  | none =>
    rw [hk] at h
    cases h
  | some k =>
    refine ⟨k, rfl, ?_⟩
    rintro rfl
    rw [hk] at h
    dsimp only at h
    split at h
    · cases h
    · obtain ⟨f, -, h⟩ := bind_eq_ok.mp h
      cases h

lemma exists_of_topLevel {f : Finding} (h : topLevel r e = .ok f) :
    r.get? e.tag = some .finding ∧
      ∀ c ∈ e.children, ∃ a, detail r 1 c = .ok a := by
  rw [topLevel] at h
  cases hk : r.get? e.tag with
  | none =>
    rw [hk] at h
    cases h
  | some k =>
    rw [hk] at h
    obtain ⟨i, hi, h⟩ := bind_eq_ok.mp h
    cases k with
    | finding =>
      refine ⟨rfl, mapM_succeeds_iff.mp ?_⟩
      obtain ⟨g, hg, -⟩ := map_eq_ok.mp hi
      obtain ⟨tag, attributes, text, children⟩ := e
      rw [finding] at hg
      obtain ⟨type, -, hg⟩ := bind_eq_ok.mp hg
      obtain ⟨priority, -, hg⟩ := bind_eq_ok.mp hg
      rw [details_eq] at hg
      obtain ⟨as, has, -⟩ := bind_eq_ok.mp hg
      exact ⟨as, has⟩
    | _ =>
      obtain ⟨a, -, rfl⟩ := map_eq_ok.mp hi
      cases h

end Decode

namespace Section

variable [Machine] {r r' : Registry} {es : List Element}

lemma ofElement_extended (h : r'.Extends r) {e : Element} {s : Section}
    (hs : ofElement r e = .ok s) : ofElement r' e = .ok s := by
  unfold ofElement at hs ⊢
  split_ifs at hs ⊢
  · exact hs
  · exact hs
  · exact hs
  · exact hs
  · obtain ⟨f, hf, rfl⟩ := map_eq_ok.mp hs
    exact map_eq_ok.mpr ⟨f, Decode.topLevel_extended h hf, rfl⟩

/-- The elements of a document that are looked up in a registry: those that are no sections of their
own, and those in an element that stands for a finding. -/
inductive IsLookedUp (r : Registry) (es : List Element) : Element → Prop where
  | top {e : Element} (h : e ∈ es) (ht : e.tag ∉ ownTags) : IsLookedUp r es e
  | inside {e c : Element} (h : IsLookedUp r es e) (hk : r.get? e.tag = some .finding)
    (hc : c ∈ e.children) : IsLookedUp r es c

lemma IsLookedUp.decoded {e : Element} (he : IsLookedUp r es e)
    (h : ∀ e ∈ es, ∃ s, ofElement r e = .ok s) :
    (∃ f, Decode.topLevel r e = .ok f) ∨ ∃ around a, Decode.detail r around e = .ok a := by
  induction he with
  | @top e hmem ht =>
    obtain ⟨s, hs⟩ := h e hmem
    simp only [ownTags, List.mem_cons, List.not_mem_nil, or_false, not_or] at ht
    obtain ⟨h₁, h₂, h₃, h₄⟩ := ht
    rw [ofElement, if_neg h₁, if_neg h₂, if_neg h₃, if_neg h₄] at hs
    obtain ⟨f, hf, -⟩ := map_eq_ok.mp hs
    exact .inl ⟨f, hf⟩
  | @inside e c _ hk hc ih =>
    obtain ⟨f, hf⟩ | ⟨around, a, ha⟩ := ih
    · obtain ⟨a, ha⟩ := (Decode.exists_of_topLevel hf).2 c hc
      exact .inr ⟨_, a, ha⟩
    · obtain ⟨k, hk', hne⟩ := Decode.exists_of_detail ha
      exact absurd (Option.some.inj (hk'.symm.trans hk)) hne

lemma IsLookedUp.bound {e : Element} (he : IsLookedUp r es e)
    (h : ∀ e ∈ es, ∃ s, ofElement r e = .ok s) : r.get? e.tag ≠ none := by
  obtain ⟨f, hf⟩ | ⟨around, a, ha⟩ := he.decoded h
  · simp [(Decode.exists_of_topLevel hf).1]
  · obtain ⟨k, hk, -⟩ := Decode.exists_of_detail ha
    simp [hk]

end Section

namespace Archive

open Edit

variable {r r' : Registry} {d : Disk} {source : Source}

lemma readElements_extended [Machine] (h : r'.Extends r) {es : List Element} {sections : List Section}
    (hs : es.mapM (Section.ofElement r) = .ok sections) : readElements r' es = readElements r es := by
  have hs' := mapM_ok_of_imp (fun e _ s he => Section.ofElement_extended h he) hs
  simp only [readElements, stage, Section.decodeAll_eq_ok hs, Section.decodeAll_eq_ok hs']

lemma eval_readFrom_root [Machine] {root : Element} (h : rootFrom d source = .ok root) (w : Work) :
    ∃ w', ∀ r, (readFrom r d source).eval w = (readElements r root.children).eval w' := by
  obtain ⟨s, hs, h⟩ := bind_eq_ok.mp h
  obtain ⟨⟨⟩, hc, hp⟩ := bind_eq_ok.mp h
  refine ⟨⟨w.archive, w.log ++ (Signature.check Signature.window s).log⟩, fun r => ?_⟩
  have hsource : (ofExcept (source.toStream d)).eval w = (.ok s, w) := by rw [eval_ofExcept, hs]
  have hcheck := eval_ofOutcome ⟨(Signature.check Signature.window s).log,
    (Signature.check Signature.window s).result⟩ w.archive w.log
  rw [hc] at hcheck
  have hparse (w : Work) :
      (ofExcept (parse (Signature.check Signature.window s).stream)).eval w = (.ok root, w) := by
    rw [eval_ofExcept, hp]
  rw [readFrom, eval_bind_ok hsource, readInto, hc, eval_bind_ok hcheck, eval_bind_ok (hparse _)]

/-- A registry that binds further names reads all that was read without them, and alike. What is
looked up and not bound is not looked for in the shared registry. -/
theorem readUsing_extended [Machine] (h : r'.Extends r) (shared : Registry) (d : Disk) (source : Source)
    (a : Archive) :
    (((readUsing shared (some r) d source).apply a).1.result = .ok () →
      (readUsing shared (some r') d source).apply a = (readUsing shared (some r) d source).apply a) ∧
    ∀ root e, rootFrom d source = .ok root → Section.IsLookedUp r root.children e →
      r.get? e.tag = none →
        (∃ err, ((readUsing shared (some r) d source).apply a).1.result = .error err) ∧
          ((readUsing shared (some r) d source).apply a).2 = a := by
  simp only [readUsing, Option.getD_some]
  constructor
  · intro hok
    obtain ⟨root, hr, hs⟩ := readFrom_eq_ok.mp hok
    obtain ⟨sections, hs⟩ := mapM_succeeds_iff.mpr hs
    obtain ⟨w, hw⟩ := eval_readFrom_root hr ⟨a, []⟩
    rw [apply_eq, apply_eq, hw, hw, readElements_extended h hs]
  · intro root e hr he hnone
    rw [result_readFrom, archive_readFrom, decodeFrom_eq, hr]
    change (∃ err, (root.children.mapM (Section.ofElement r)).map _ = _) ∧
      after (root.children.mapM (Section.ofElement r)) a = a
    cases hm : root.children.mapM (Section.ofElement r) with
    | error err => exact ⟨⟨err, rfl⟩, rfl⟩
    | ok sections => exact absurd hnone (he.bound (mapM_succeeds_iff.mp ⟨sections, hm⟩))

section Usual

attribute [local instance] Machine.usual

theorem readUsing_extended_earlier :
    ((Registry.builtin.bind "Bug" .finding).Extends .builtin ∧
      ((readUsing .empty (some .builtin) .empty (sourceOf earlier)).apply disordered).1.result =
        .ok () ∧
      (readUsing .empty (some (Registry.builtin.bind "Bug" .finding)) .empty (sourceOf earlier)).apply
        disordered =
          (readUsing .empty (some .builtin) .empty (sourceOf earlier)).apply disordered) ∧
    (∃ err, ((readUsing .builtin (some .empty) .empty (sourceOf earlier)).apply disordered).1.result =
      .error err) ∧
    ((readUsing .builtin (some .empty) .empty (sourceOf earlier)).apply disordered).2 =
      disordered := by
  have hext : (Registry.builtin.bind "Bug" .finding).Extends .builtin :=
    Registry.extends_bind (by decide)
  have hok := result_earlier disordered
  have hlooked : Section.IsLookedUp .empty ((documentOf earlier).spaced (.indented 2) 0).children
      (Element.spaced (.indented 2) 1 earlier[0]) := by
    refine .top ?_ (by decide)
    rw [Element.spaced_children]
    exact List.mem_map_of_mem List.mem_cons_self
  refine ⟨⟨hext, hok, (readUsing_extended hext .empty .empty (sourceOf earlier) disordered).1 hok⟩, ?_⟩
  exact (readUsing_extended (fun _ _ h => h) .builtin .empty (sourceOf earlier) disordered).2 _ _
    rootFrom_earlier hlooked rfl

end Usual

end Archive

end BugArchive
