import BugArchive.Proofs.Contract.Check
import BugArchive.Proofs.Json.Reading

/-! No check makes an integer that is too long for a numeral of one that is not. -/

namespace BugArchive

open Text.Numeral (IsShort)

namespace Json.Value

def HasShortNumbers (v : Value) : Prop :=
  ∀ n, v.Holds n → IsShort n

@[simp] lemma hasShortNumbers_int {n : Int} : (int n).HasShortNumbers ↔ IsShort n := by
  simp [HasShortNumbers]

@[simp] lemma hasShortNumbers_list {vs : List Value} :
    (list vs).HasShortNumbers ↔ ∀ v ∈ vs, v.HasShortNumbers := by
  simp only [HasShortNumbers, holds_list]
  constructor
  · intro h v hv n hn
    exact h n ⟨v, hv, hn⟩
  · rintro h n ⟨v, hv, hn⟩
    exact h v hv n hn

@[simp] lemma hasShortNumbers_object {fs : List (String × Value)} :
    (object fs).HasShortNumbers ↔ ∀ f ∈ fs, f.2.HasShortNumbers := by
  simp only [HasShortNumbers, holds_object]
  constructor
  · intro h f hf n hn
    exact h n ⟨f, hf, hn⟩
  · rintro h n ⟨f, hf, hn⟩
    exact h f hf n hn

@[simp] lemma hasShortNumbers_null : null.HasShortNumbers := by
  simp [HasShortNumbers]

@[simp] lemma hasShortNumbers_bool {b : Bool} : (bool b).HasShortNumbers := by
  simp [HasShortNumbers]

@[simp] lemma hasShortNumbers_text {s : String} : (text s).HasShortNumbers := by
  simp [HasShortNumbers]

@[simp] lemma hasShortNumbers_ofOption {α : Type} {toJson : α → Value} {a : Option α} :
    (ofOption toJson a).HasShortNumbers ↔ ∀ x ∈ a, (toJson x).HasShortNumbers := by
  cases a <;> simp [ofOption]

end Json.Value

namespace Contract

open Json (Value)

section Numerals

lemma Numeral.isShort_of_readPlain {cs : List Char} {n : Int} (h : readPlain cs = .ok n) :
    IsShort n := by
  have hrun {ds : List Char} {k : Nat} (hl : (ds.takeWhile isDigit).length ≤ k) :
      digitsValue (ds.takeWhile isDigit) < Nat.pow 10 k :=
    Nat.lt_of_lt_of_le (Json.digitsValue_lt fun _ => List.mem_takeWhile_imp)
      (Nat.pow_le_pow_right (by decide) hl)
  simp only [readPlain] at h
  generalize (if cs.head? == some '-' then cs.drop 1 else cs) = body at h
  split at h
  · cases h
  split at h
  · cases h
  rename_i hlength
  split at h
  · cases h
  obtain rfl := Except.ok.inj h
  have hlt := hrun (Nat.not_lt.mp hlength)
  rw [IsShort]
  split
  · rwa [Int.natAbs_neg, Int.natAbs_natCast]
  · rwa [Int.natAbs_natCast]

lemma Numeral.isShort_of_read {cs : List Char} {n : Int} (h : read cs = .ok n) : IsShort n := by
  rw [read] at h
  split at h
  · split at h
    · exact isShort_of_readPlain h
    · cases h
  · exact isShort_of_readPlain h

lemma isShort_of_wholeNumber {x : Binary64} {n : Int} (h : wholeNumber x = .ok n) : IsShort n := by
  have hlimit {k : Nat} (hk : 19 ≤ k) : wholeLimit ≤ Nat.pow 10 k :=
    Nat.le_trans (by decide : wholeLimit ≤ Nat.pow 10 19) (Nat.pow_le_pow_right (by decide) hk)
  have hsmall {m : Int} (hm : m.natAbs < wholeLimit) : IsShort m :=
    Nat.lt_of_lt_of_le hm (hlimit (by decide))
  rw [wholeNumber.eq_def] at h
  split at h
  · cases h
  split at h
  · split at h
    · rename_i hm
      cases h
      exact hsmall hm
    · cases h
  · cases h

end Numerals

def Yields {α : Type} (P : α → Prop) (check : Check α) : Prop :=
  ∀ v a, v.HasShortNumbers → check v = .ok a → P a

section Combinators

variable {α : Type} {P : α → Prop} {check : Check α} {name : String} {fields : Fields}

lemma yields_integer : Yields IsShort integer := by
  intro v n hv h
  cases v with
  | int m =>
    cases h
    exact Value.hasShortNumbers_int.mp hv
  | bool b =>
    cases h
    cases b <;> exact Text.Numeral.isShort_of_lt_ten (by decide)
  | decimal m e => exact isShort_of_wholeNumber h
  | nonFinite => cases h
  | text s =>
    change integerText s = .ok n at h
    rw [integerText] at h
    split at h
    · rename_i hread
      cases h
      exact Numeral.isShort_of_read hread
    · cases h
    · cases h
  | null => cases h
  | list vs => cases h
  | object fs => cases h

lemma yields_integerAtLeast (least : Int) : Yields IsShort (integerAtLeast least) := by
  intro v n hv h
  obtain ⟨m, hm, h⟩ := Checked.andThen_eq_ok.mp h
  split at h
  · cases h
  · cases h
    exact yields_integer v n hv hm

lemma yields_record {declared : List String} {f : Fields → Checked α}
    (h : ∀ fields a, (∀ f ∈ fields, f.2.HasShortNumbers) → f fields = .ok a → P a) :
    Yields P (record declared f) := by
  intro v a hv ha
  obtain ⟨fields, rfl, hbody, -⟩ := record_eq_ok.mp ha
  exact h fields a (Value.hasShortNumbers_object.mp hv) hbody

section Fields

variable (hy : Yields P check) (hf : ∀ f ∈ fields, f.2.HasShortNumbers) {a : α}

include hy hf

lemma Yields.required (h : required check name fields = .ok a) : P a := by
  rw [Contract.required] at h
  split at h
  · rename_i v hv
    exact hy v a (hf _ (Value.mem_of_field? hv)) (Checked.under_eq_ok.mp h)
  · cases h

lemma Yields.orDefault {default : α} (hd : P default)
    (h : orDefault default check name fields = .ok a) : P a := by
  rw [Contract.orDefault] at h
  split at h
  · rename_i v hv
    exact hy v a (hf _ (Value.mem_of_field? hv)) (Checked.under_eq_ok.mp h)
  · cases h
    exact hd

end Fields

lemma Yields.optional (hy : Yields P check) : Yields (fun o => ∀ a ∈ o, P a) (optional check) := by
  intro v o hv h
  rw [Contract.optional.eq_def] at h
  split at h
  · cases h
    nofun
  · obtain ⟨a, ha, rfl⟩ := Checked.map_eq_ok.mp h
    rintro b ⟨⟩
    exact hy v a hv ha

lemma Yields.list (hy : Yields P check) : Yields (fun as => ∀ a ∈ as, P a) (list check) := by
  intro v as hv h
  obtain ⟨vs, rfl, hall⟩ := list_eq_ok.mp h
  have hshort := Value.hasShortNumbers_list.mp hv
  clear h hv
  induction hall with
  | nil => exact List.forall_mem_nil _
  | cons ha _ ih =>
    obtain ⟨hhead, htail⟩ := List.forall_mem_cons.mp hshort
    exact List.forall_mem_cons.mpr ⟨hy _ _ hhead ha, ih htail⟩

end Combinators

lemma isShort_default : IsShort (-1) :=
  Text.Numeral.isShort_of_lt_ten (by decide)

lemma SourceLine.yields : Yields (fun l => l.toJson.HasShortNumbers) SourceLine.check := by
  refine yields_record fun fields l hf h => ?_
  simp only [Checked.ap_eq_ok, Checked.fmap_eq_ok] at h
  obtain ⟨_, sourceFile, ⟨_, lastBytecode, ⟨_, firstBytecode, ⟨_, last, ⟨_, first, ⟨_, className,
    ⟨_, -, rfl⟩, -, rfl⟩, hfirst, rfl⟩, hlast, rfl⟩, hfirstBytecode, rfl⟩, hlastBytecode, rfl⟩, -,
    rfl⟩ := h
  have hn {name : String} {n : Int} (h : orDefault (-1) integer name fields = .ok n) : IsShort n :=
    yields_integer.orDefault hf isShort_default h
  simp [toJson, tagField, hn hfirst, hn hlast, hn hfirstBytecode, hn hlastBytecode]

variable (source : Source)

namespace Detail

lemma yields_checkForm (form : Form) : Yields
    (fun a => a.form = form ∧ a.toJson.HasShortNumbers) (checkForm source form) := by
  cases form with
  | inClass =>
    refine yields_record fun fields a _ h => ?_
    simp only [Checked.ap_eq_ok, Checked.fmap_eq_ok] at h
    obtain ⟨_, name, ⟨_, -, rfl⟩, -, rfl⟩ := h
    simp [form, toJson, tagField]
  | inMethod =>
    refine yields_record fun fields a hf h => ?_
    simp only [Checked.ap_eq_ok, Checked.fmap_eq_ok] at h
    obtain ⟨_, lines, ⟨_, signature, ⟨_, name, ⟨_, className, ⟨_, -, rfl⟩, -, rfl⟩, -, rfl⟩, -, rfl⟩,
      hlines, rfl⟩ := h
    have hl := SourceLine.yields.optional.orDefault hf (by simp) hlines
    simpa [form, toJson, tagField] using hl
  | onField =>
    refine yields_record fun fields a _ h => ?_
    simp only [Checked.ap_eq_ok, Checked.fmap_eq_ok] at h
    obtain ⟨_, isStatic, ⟨_, signature, ⟨_, name, ⟨_, className, ⟨_, -, rfl⟩, -, rfl⟩, -, rfl⟩, -,
      rfl⟩, -, rfl⟩ := h
    simp [form, toJson, tagField]
  | atLine =>
    intro v a hv h
    obtain ⟨l, hl, rfl⟩ := Checked.map_eq_ok.mp h
    exact ⟨rfl, SourceLine.yields v l hv hl⟩
  | number =>
    refine yields_record fun fields a hf h => ?_
    simp only [Checked.ap_eq_ok, Checked.fmap_eq_ok] at h
    obtain ⟨_, n, ⟨_, -, rfl⟩, hn, rfl⟩ := h
    simp [form, toJson, tagField, yields_integer.required hf hn]

lemma yields : Yields (fun a => a.toJson.HasShortNumbers) (check source) := by
  intro v a hv h
  rw [check.eq_def] at h
  split at h
  · split at h
    · cases h
    split at h
    · cases h
    · exact (yields_checkForm source _ _ a hv (Checked.under_eq_ok.mp h)).2
  · split at h <;> cases h

end Detail

lemma Finding.yields : Yields (fun f => f.toJson.HasShortNumbers) (check source) := by
  intro v f hv h
  obtain ⟨parts, hparts, hf⟩ := Checked.andThen_eq_ok.mp h
  obtain ⟨hpriority, hdetails⟩ :
      IsShort parts.2.1 ∧ ∀ a ∈ parts.2.2, a.toJson.HasShortNumbers := by
    refine yields_record (P := fun p => IsShort p.2.1 ∧ ∀ a ∈ p.2.2, a.toJson.HasShortNumbers)
      (fun fields p hfields hp => ?_) v parts hv hparts
    simp only [Checked.ap_eq_ok, Checked.fmap_eq_ok] at hp
    obtain ⟨_, details, ⟨_, priority, ⟨type, -, rfl⟩, hpriority, rfl⟩, hdetails, rfl⟩ := hp
    exact ⟨(yields_integerAtLeast 1).required hfields hpriority,
      (Detail.yields source).list.orDefault hfields (by simp) hdetails⟩
  rw [ofParts] at hf
  split at hf
  · cases hf
    simpa [toJson, hpriority] using hdetails
  · cases hf

lemma AppClass.hasShortNumbers_toJson (c : AppClass) : c.toJson.HasShortNumbers := by
  simp [toJson]

lemma Project.hasShortNumbers_toJson (p : Project) : p.toJson.HasShortNumbers := by
  simp [toJson, textList]

lemma Collection.yields : Yields (fun c => c.toJson.HasShortNumbers) (check source) := by
  refine yields_record fun fields c hf h => ?_
  simp only [Checked.ap_eq_ok, Checked.fmap_eq_ok] at h
  obtain ⟨_, missing, ⟨_, errors, ⟨_, findings, ⟨_, classes, ⟨project, -, rfl⟩, -, rfl⟩, hfindings,
    rfl⟩, -, rfl⟩, -, rfl⟩ := h
  have hfindings := (Finding.yields source).list.orDefault hf (by simp) hfindings
  simpa [toJson, textList, Project.hasShortNumbers_toJson, AppClass.hasShortNumbers_toJson]
    using hfindings

lemma Schema.yields (s : Schema) :
    Yields (fun r => s.Admits r ∧ r.toJson.HasShortNumbers) (s.check source) := by
  intro v r hv h
  cases s with
  | detail form =>
    obtain ⟨a, ha, rfl⟩ := Checked.map_eq_ok.mp h
    obtain ⟨rfl, hshort⟩ := Detail.yields_checkForm source form v a hv ha
    exact ⟨.inl rfl, hshort⟩
  | anyDetail =>
    obtain ⟨a, ha, rfl⟩ := Checked.map_eq_ok.mp h
    exact ⟨.inr ⟨rfl, a, rfl⟩, Detail.yields source v a hv ha⟩
  | finding =>
    obtain ⟨f, hf, rfl⟩ := Checked.map_eq_ok.mp h
    exact ⟨.inl rfl, Finding.yields source v f hv hf⟩
  | appClass =>
    obtain ⟨c, -, rfl⟩ := Checked.map_eq_ok.mp h
    exact ⟨.inl rfl, c.hasShortNumbers_toJson⟩
  | project =>
    obtain ⟨p, -, rfl⟩ := Checked.map_eq_ok.mp h
    exact ⟨.inl rfl, p.hasShortNumbers_toJson⟩
  | collection =>
    obtain ⟨c, hc, rfl⟩ := Checked.map_eq_ok.mp h
    exact ⟨.inl rfl, Collection.yields source v c hv hc⟩

end Contract

end BugArchive
