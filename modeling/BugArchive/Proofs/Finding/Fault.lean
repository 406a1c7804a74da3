import BugArchive.Proofs.Fallible
import BugArchive.Proofs.Finding.Grammar

/-! Decoding ends in the first of all that is wrong with an element, unless findings that stand in
findings go too deep to be followed. -/

namespace BugArchive

open Xml (Element)

/-- Whether a computation fails with the first of some errors, and does not fail if there are
none. -/
def TellsFirst {α : Type} (m : Except Error α) (errs : List Error) : Prop :=
  match m with
  | .ok _ => errs = []
  | .error err => errs.head? = some err

section TellsFirst

variable {α β : Type} {m : Except Error α} {errs errs' : List Error}

lemma tellsFirst_ok (a : α) : TellsFirst (.ok a : Except Error α) [] := rfl

lemma tellsFirst_error (err : Error) : TellsFirst (.error err : Except Error α) [err] := rfl

lemma tellsFirst_bind {f : α → Except Error β} (hm : TellsFirst m errs)
    (hf : ∀ a, m = .ok a → TellsFirst (f a) errs') : TellsFirst (m >>= f) (errs ++ errs') := by
  cases m with
  | error err =>
    change (errs ++ errs').head? = some err
    rw [List.head?_append, show errs.head? = some err from hm]
    rfl
  | ok a =>
    rw [show errs = [] from hm]
    exact hf a rfl

lemma tellsFirst_map {f : α → β} : TellsFirst (m.map f) errs ↔ TellsFirst m errs := by
  cases m <;> rfl

lemma tellsFirst_mapM {f : α → Except Error β} {g : α → List Error} {xs : List α}
    (h : ∀ front x back, xs = front ++ x :: back → (∀ w ∈ front, ∃ y, f w = .ok y) →
      TellsFirst (f x) (g x)) : TellsFirst (xs.mapM f) (xs.flatMap g) := by
  induction xs with
  | nil => rfl
  | cons x xs ih =>
    rw [List.mapM_cons, List.flatMap_cons]
    refine tellsFirst_bind (h [] x xs rfl fun w hw => by cases hw) fun y hy => ?_
    rw [← List.append_nil (xs.flatMap g)]
    refine tellsFirst_bind (ih fun front z back hxs hfront => ?_) fun ys _ => tellsFirst_ok _
    exact h (x :: front) z back (congrArg _ hxs) (List.forall_mem_cons.mpr ⟨⟨y, hy⟩, hfront⟩)

lemma TellsFirst.succeeds_iff (h : TellsFirst m errs) : (∃ a, m = .ok a) ↔ errs = [] := by
  cases m with
  | error err =>
    refine iff_of_false (fun ⟨a, ha⟩ => by cases ha) fun he => ?_
    rw [he] at h
    cases h
  | ok a => exact iff_of_true ⟨a, rfl⟩ h

end TellsFirst

namespace Decode

section Values

variable (e : Element) (name : String)

lemma tellsFirst_required : TellsFirst (required e name) (lacks e name) := by
  unfold required lacks
  cases e.get? name <;> rfl

lemma tellsFirst_integer (raw : String) : TellsFirst (integer e name raw)
    (if IsInteger raw then [] else [.notAnInteger e.tag name raw]) := by
  unfold integer
  cases hr : Text.Numeral.read raw.toList with
  | ok n =>
    have h : IsInteger raw := congrArg Except.isOk hr
    rw [if_pos h]
    exact tellsFirst_ok n
  | error fault =>
    have h : ¬ IsInteger raw := by simp [IsInteger, hr, Except.isOk, Except.toBool]
    rw [if_neg h]
    exact tellsFirst_error _

lemma tellsFirst_optionalInt (default : Int) :
    TellsFirst (optionalInt e name default) (misreads e name) := by
  unfold optionalInt misreads
  cases e.get? name with
  | none => exact tellsFirst_ok default
  | some raw =>
    rw [Option.toList_some, List.flatMap_singleton]
    exact tellsFirst_integer e name raw

lemma tellsFirst_requiredInt :
    TellsFirst (requiredInt e name) (lacks e name ++ misreads e name) := by
  refine tellsFirst_bind (tellsFirst_required e name) fun raw h => ?_
  have hv : e.get? name = some raw := by
    unfold required at h
    split at h
    · rename_i hv
      exact hv.trans (congrArg some (Except.ok.inj h))
    · cases h
  rw [misreads, hv, Option.toList_some, List.flatMap_singleton]
  exact tellsFirst_integer e name raw

end Values

lemma tellsFirst_sourceLine (e : Element) : TellsFirst (sourceLine e) (lineFaults e) := by
  simp only [lineFaults, List.flatMap_cons]
  refine tellsFirst_bind (tellsFirst_required e _) fun className _ => ?_
  refine tellsFirst_bind (tellsFirst_optionalInt e _ _) fun first _ => ?_
  refine tellsFirst_bind (tellsFirst_optionalInt e _ _) fun last _ => ?_
  refine tellsFirst_bind (tellsFirst_optionalInt e _ _) fun firstBytecode _ => ?_
  exact tellsFirst_bind (tellsFirst_optionalInt e _ _) fun lastBytecode _ => tellsFirst_ok _

lemma tellsFirst_methodLines (lines : Option SourceLine) (es : List Element) :
    TellsFirst (methodLines lines es) (es.flatMap fun c =>
      if c.tag = "SourceLine" then lineFaults c else [.unknownElement c.tag]) := by
  induction es generalizing lines with
  | nil => exact tellsFirst_ok lines
  | cons e es ih =>
    rw [List.flatMap_cons]
    by_cases h : e.tag = "SourceLine"
    · have hstep : methodLines lines (e :: es) =
          sourceLine e >>= fun l => methodLines (some l) es := by
        rw [methodLines, if_pos (show e.tag = Kind.atLine.tag from h)]
        cases sourceLine e <;> rfl
      rw [hstep, if_pos h]
      exact tellsFirst_bind (tellsFirst_sourceLine e) fun l _ => ih (some l)
    · rw [methodLines, if_neg (show e.tag ≠ Kind.atLine.tag from h), if_neg h]
      rfl

lemma tellsFirst_inClass (e : Element) : TellsFirst (inClass e) (lacks e "classname") := by
  rw [← List.append_nil (lacks e "classname")]
  exact tellsFirst_bind (tellsFirst_required e _) fun name _ => tellsFirst_ok _

lemma tellsFirst_onField (e : Element) : TellsFirst (onField e) (memberFaults e) := by
  simp only [memberFaults, List.flatMap_cons]
  refine tellsFirst_bind (tellsFirst_required e _) fun className _ => ?_
  refine tellsFirst_bind (tellsFirst_required e _) fun name _ => ?_
  exact tellsFirst_bind (tellsFirst_required e _) fun signature _ => tellsFirst_ok _

lemma tellsFirst_inMethod (e : Element) : TellsFirst (inMethod e) (methodFaults e) := by
  unfold methodFaults memberFaults
  refine tellsFirst_bind (tellsFirst_methodLines none e.children) fun lines _ => ?_
  refine tellsFirst_bind (tellsFirst_required e _) fun className _ => ?_
  refine tellsFirst_bind (tellsFirst_required e _) fun name _ => ?_
  exact tellsFirst_bind (tellsFirst_required e _) fun signature _ => tellsFirst_ok _

lemma tellsFirst_number (e : Element) :
    TellsFirst (number e) (lacks e "value" ++ misreads e "value") := by
  rw [← List.append_nil (lacks e "value" ++ misreads e "value")]
  exact tellsFirst_bind (tellsFirst_requiredInt e _) fun n _ => tellsFirst_ok _

def HasParts (e : Element) : Prop :=
  (∃ type, required e "type" = .ok type) ∧
    ∃ priority, optionalInt e "priority" Finding.normalPriority = .ok priority

lemma IsDetail.get?_ne {r : Registry} {e : Element} (h : IsDetail r e) :
    r.get? e.tag ≠ some .finding := by
  cases h <;> simp [*]

section Room

variable [Machine] (r : Registry)

lemma details_eq (around : Nat) (es : List Element) :
    details r around es = es.mapM (detail r around) := by
  induction es with
  | nil =>
    rw [details]
    rfl
  | cons e es ih => rw [details, ih, List.mapM_cons]

/-- Whether the first of a finding's children that cannot be decoded is one that there is no room
for, or a finding that goes too deep itself. -/
inductive IsTooDeep : Nat → Element → Prop
  | here {around : Nat} {e c : Element} {front back : List Element} {k : Kind} (hp : HasParts e)
    (hc : e.children = front ++ c :: back)
    (hfront : ∀ x ∈ front, ∃ a, detail r (around + 1) x = .ok a)
    (hk : r.get? c.tag = some k) (hroom : Machine.room < around + 1 + calls k c) :
    IsTooDeep around e
  | inside {around : Nat} {e c : Element} {front back : List Element} (hp : HasParts e)
    (hc : e.children = front ++ c :: back)
    (hfront : ∀ x ∈ front, ∃ a, detail r (around + 1) x = .ok a)
    (hk : r.get? c.tag = some .finding) (hd : IsTooDeep (around + 1) c) : IsTooDeep around e

variable {r} {around : Nat} {e : Element}

lemma detail_of_room {k : Kind} (hk : r.get? e.tag = some k)
    (hroom : Machine.room < around + calls k e) : detail r around e = .error .nestedTooDeep := by
  simp only [detail, hk, if_pos hroom]

lemma tellsFirst_detail
    (hroom : ∀ k, r.get? e.tag = some k → around + calls k e ≤ Machine.room)
    (h : r.get? e.tag = some .finding → TellsFirst (finding r around e) (findingFaults r e)) :
    TellsFirst (detail r around e) (detailFaults r e) := by
  rw [detail, detailFaults]
  cases hk : r.get? e.tag with
  | none => exact tellsFirst_error _
  | some k =>
    have hle : ¬ Machine.room < around + calls k e := Nat.not_lt.mpr (hroom k hk)
    simp only [if_neg hle]
    cases k with
    | finding =>
      simp only [itemFaults]
      exact tellsFirst_bind (h hk) fun f _ => tellsFirst_error _
    | inClass => simpa [itemFaults] using tellsFirst_inClass e
    | onField => simpa [itemFaults] using tellsFirst_onField e
    | inMethod => simpa [itemFaults] using tellsFirst_inMethod e
    | atLine =>
      simp only [itemFaults]
      exact tellsFirst_bind (tellsFirst_sourceLine e) fun l _ => tellsFirst_ok _
    | number => simpa [itemFaults] using tellsFirst_number e

lemma tellsFirst_finding_of (h : HasParts e → TellsFirst
    (e.children.mapM (detail r (around + 1))) (e.children.flatMap (detailFaults r))) :
    TellsFirst (finding r around e) (findingFaults r e) := by
  rw [findingFaults_eq]
  obtain ⟨tag, attributes, text, children⟩ := e
  rw [finding]
  refine tellsFirst_bind (tellsFirst_required _ _) fun type ht => ?_
  refine tellsFirst_bind (tellsFirst_optionalInt _ _ _) fun priority hp => ?_
  rw [details_eq, ← List.append_nil (List.flatMap _ _)]
  exact tellsFirst_bind (h ⟨⟨type, ht⟩, priority, hp⟩) fun details _ => tellsFirst_ok _

lemma tellsFirst_finding (around : Nat) (e : Element) (h : ¬ IsTooDeep r around e) :
    TellsFirst (finding r around e) (findingFaults r e) := by
  refine tellsFirst_finding_of fun hp => tellsFirst_mapM fun front c back hxs hfront => ?_
  have hroom (k : Kind) (hk : r.get? c.tag = some k) : around + 1 + calls k c ≤ Machine.room :=
    Nat.le_of_not_lt fun hlt => h (.here hp hxs hfront hk hlt)
  refine tellsFirst_detail hroom fun hk => ?_
  have hleft : around + 1 + 2 ≤ Machine.room := hroom _ hk
  exact tellsFirst_finding (around + 1) c fun hd => h (.inside hp hxs hfront hk hd)
-- Every level of nesting takes some of the room.
termination_by Machine.room - around

lemma tellsFirst_item {k : Kind} (h : k = .finding → ¬ IsTooDeep r 0 e) :
    TellsFirst (item r k e) (itemFaults r k e) := by
  cases k with
  | finding => simpa [item, itemFaults, tellsFirst_map] using tellsFirst_finding 0 e (h rfl)
  | inClass => simpa [item, itemFaults, tellsFirst_map] using tellsFirst_inClass e
  | onField => simpa [item, itemFaults, tellsFirst_map] using tellsFirst_onField e
  | inMethod => simpa [item, itemFaults, tellsFirst_map] using tellsFirst_inMethod e
  | atLine => simpa [item, itemFaults, tellsFirst_map] using tellsFirst_sourceLine e
  | number => simpa [item, itemFaults, tellsFirst_map] using tellsFirst_number e

lemma exists_of_item {k : Kind} {i : Item} (hk : k ≠ .finding)
    (h : item r k e = .ok i) : ∃ a, i = .detail a := by
  cases k with
  | finding => exact absurd rfl hk
  | _ =>
    obtain ⟨a, -, rfl⟩ := map_eq_ok.mp h
    exact ⟨_, rfl⟩

lemma tellsFirst_topLevel (h : ¬ (r.get? e.tag = some .finding ∧ IsTooDeep r 0 e)) :
    TellsFirst (topLevel r e) (topLevelFaults r e) := by
  rw [topLevel, topLevelFaults]
  cases hk : r.get? e.tag with
  | none => exact tellsFirst_error _
  | some k =>
    refine tellsFirst_bind (tellsFirst_item fun hf hd => h ⟨hk.trans (congrArg some hf), hd⟩)
      fun i hi => ?_
    by_cases hf : k = .finding
    · subst hf
      obtain ⟨f, -, rfl⟩ := map_eq_ok.mp hi
      exact tellsFirst_ok f
    · obtain ⟨a, rfl⟩ := exists_of_item hf hi
      rw [if_neg hf]
      exact tellsFirst_error _

lemma finding_of_mapM (hp : HasParts e)
    (h : e.children.mapM (detail r (around + 1)) = .error .nestedTooDeep) :
    finding r around e = .error .nestedTooDeep := by
  obtain ⟨⟨type, ht⟩, priority, hp⟩ := hp
  obtain ⟨tag, attributes, text, children⟩ := e
  rw [finding, ht, hp, details_eq, h]
  rfl

lemma finding_of_isTooDeep (h : IsTooDeep r around e) :
    finding r around e = .error .nestedTooDeep := by
  induction h with
  | here hp hc hfront hk hroom =>
    exact finding_of_mapM hp
      (mapM_eq_error.mpr ⟨_, _, _, hc, hfront, detail_of_room hk hroom⟩)
  | @inside around e c front back hp hc hfront hk hd ih =>
    have hdetail : detail r (around + 1) c = .error .nestedTooDeep := by
      simp only [detail, hk, ih]
      split <;> rfl
    exact finding_of_mapM hp (mapM_eq_error.mpr ⟨front, c, back, hc, hfront, hdetail⟩)

lemma topLevel_of_isTooDeep (hk : r.get? e.tag = some .finding) (h : IsTooDeep r 0 e) :
    topLevel r e = .error .nestedTooDeep := by
  rw [topLevel, hk]
  simp only [item, finding_of_isTooDeep h]
  rfl

lemma not_isTooDeep_of_isFinding (h : IsFinding r e) : ¬ IsTooDeep r 0 e := by
  intro hd
  cases hd with
  | here hp hc hfront hk hroom => exact absurd hroom (not_room_lt _ _)
  | @inside _ _ c front back hp hc hfront hk hd =>
    have hm : c ∈ e.children := hc ▸ List.mem_append_right front List.mem_cons_self
    exact (h.details c hm).get?_ne hk

end Room

end Decode

end BugArchive
