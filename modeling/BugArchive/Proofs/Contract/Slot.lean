import BugArchive.Proofs.Contract.Check

/-! What the fields of records hold, and how a check that reads one field tells what is undeclared
in it and what it keeps of it. -/

namespace BugArchive.Contract

open Json (Value)

/-- What a field holds: a value without records in it, a record or null, or a list of records. -/
inductive Slot where
  | plain
  | record (s : Schema)
  | records (s : Schema)

def Checked.Forbids {α : Type} (c : Checked α) (path : List Step) : Prop :=
  ∃ issues, c = .faulty issues ∧ ⟨.extraForbidden, path⟩ ∈ issues

namespace Checked

variable {α β : Type} {c : Checked α} {path : List Step}

@[simp] lemma not_forbids_ok {a : α} : ¬ (ok a).Forbids path := by
  rintro ⟨issues, h, -⟩
  cases h

@[simp] lemma forbids_faulty {issues : List Issue} :
    (faulty issues : Checked α).Forbids path ↔ ⟨.extraForbidden, path⟩ ∈ issues := by
  refine ⟨?_, fun h => ⟨issues, rfl, h⟩⟩
  rintro ⟨_, h, hmem⟩
  cases h
  exact hmem

@[simp] lemma forbids_fail {rule : Rule} :
    (fail rule : Checked α).Forbids path ↔ .extraForbidden = rule ∧ path = [] := by
  simp [fail]

lemma map_map {γ : Type} {f : α → β} {g : β → γ} : (c.map f).map g = c.map (g ∘ f) := by
  cases c <;> rfl

lemma map_eq_andThen {f : α → β} : c.map f = c.andThen fun a => .ok (f a) := by
  cases c <;> rfl

lemma map_andThen {γ : Type} {f : α → Checked β} {g : β → γ} :
    (c.andThen f).map g = c.andThen fun a => (f a).map g := by
  cases c <;> rfl

@[simp] lemma forbids_map {f : α → β} : (c.map f).Forbids path ↔ c.Forbids path := by
  cases c <;> simp [map]

lemma forbids_seq {g : Checked (α → β)} :
    (g.seq c).Forbids path ↔ g.Forbids path ∨ c.Forbids path := by
  cases g <;> cases c <;> simp [seq]

@[simp] lemma forbids_ap {g : Checked (α → β)} :
    (g <*> c).Forbids path ↔ g.Forbids path ∨ c.Forbids path :=
  forbids_seq

@[simp] lemma forbids_fmap {f : α → β} : (f <$> c).Forbids path ↔ c.Forbids path := by
  change (Checked.seq (.ok f) c).Forbids path ↔ _
  simp [forbids_seq]

lemma forbids_under {step : Step} :
    (c.under step).Forbids path ↔ ∃ rest, path = step :: rest ∧ c.Forbids rest := by
  cases c with
  | ok a => simp [under]
  | faulty issues =>
    rw [under, forbids_faulty, List.mem_map]
    constructor
    · rintro ⟨⟨rule, rest⟩, hmem, h⟩
      cases h
      exact ⟨rest, rfl, forbids_faulty.mpr hmem⟩
    · rintro ⟨rest, rfl, h⟩
      exact ⟨_, forbids_faulty.mp h, rfl⟩

lemma forbids_andThen {f : α → Checked β} (h : ∀ a, ¬ (f a).Forbids path) :
    (c.andThen f).Forbids path ↔ c.Forbids path := by
  cases c with
  | ok a => simp [andThen, h a]
  | faulty issues => simp [andThen]

end Checked

namespace Slot

variable (source : Source)

def Forbids : Slot → Value → List Step → Prop
  | plain, _, _ => False
  | record s, v, path => (s.check source v).Forbids path
  | records s, v, path => ∃ vs i w rest, v = .list vs ∧ vs[i]? = some w ∧ path = .index i :: rest ∧
    (s.check source w).Forbids rest

def Keeps : Slot → Value → Value → Prop
  | plain, v, w => (∀ fields, v ≠ .object fields) ∧
    ∀ vs, v = .list vs → w = v ∧ ∀ x ∈ vs, ∃ s, x = .text s
  | record s, v, w => v = .null ∨ ∃ r, s.check source v = .ok r ∧ w = r.toJson
  | records s, v, w => ∃ vs rs, v = .list vs ∧
    List.Forall₂ (fun v r => s.check source v = .ok r) vs rs ∧ w = .list (rs.map Record.toJson)

variable (slot : Slot) (name : String) (fields : Fields)

def ForbidsIn (path : List Step) : Prop :=
  ∃ v rest, Value.field? name fields = some v ∧ path = .key name :: rest ∧
    slot.Forbids source v rest

def KeepsIn (out : Fields) : Prop :=
  ∀ v, Value.field? name fields = some v →
    ∃ w, Value.field? name out = some w ∧ slot.Keeps source v w

end Slot

structure Fills {α : Type} (source : Source) (slot : Slot) (check : Check α) (toJson : α → Value) :
    Prop where
  forbids : ∀ v path, (check v).Forbids path ↔ slot.Forbids source v path
  keeps : ∀ v a, check v = .ok a → slot.Keeps source v (toJson a)

section Fields

variable {α : Type} {source : Source} {slot : Slot} {check : Check α} {toJson : α → Value}
variable {name : String} {fields out : Fields} {path : List Step} {a default : α}
variable (h : Fills source slot check toJson)

include h

lemma Fills.forbids_required :
    (required check name fields).Forbids path ↔ slot.ForbidsIn source name fields path := by
  rw [required]
  split
  · rename_i v hv
    simp [Slot.ForbidsIn, Checked.forbids_under, h.forbids, hv]
  · rename_i hv
    simp [Slot.ForbidsIn, Checked.forbids_under, hv]

lemma Fills.forbids_orDefault : (orDefault default check name fields).Forbids path ↔
    slot.ForbidsIn source name fields path := by
  rw [orDefault]
  split
  · rename_i v hv
    simp [Slot.ForbidsIn, Checked.forbids_under, h.forbids, hv]
  · rename_i hv
    simp [Slot.ForbidsIn, hv]

lemma Fills.keeps_required (ha : required check name fields = .ok a)
    (hout : Value.field? name out = some (toJson a)) : slot.KeepsIn source name fields out := by
  intro v hv
  rw [required, hv] at ha
  exact ⟨toJson a, hout, h.keeps v a (Checked.under_eq_ok.mp ha)⟩

lemma Fills.keeps_orDefault (ha : orDefault default check name fields = .ok a)
    (hout : Value.field? name out = some (toJson a)) : slot.KeepsIn source name fields out := by
  intro v hv
  rw [orDefault, hv] at ha
  exact ⟨toJson a, hout, h.keeps v a (Checked.under_eq_ok.mp ha)⟩

end Fields

section Scalars

variable {α : Type} {source : Source} {check : Check α} {toJson : α → Value} {path : List Step}

lemma Fills.scalar (hforbids : ∀ v path, ¬ (check v).Forbids path)
    (hobject : ∀ fields a, check (.object fields) ≠ .ok a)
    (hlist : ∀ vs a, check (.list vs) ≠ .ok a) : Fills source .plain check toJson where
  forbids v path := iff_of_false (hforbids v path) id
  keeps v a h := by
    refine ⟨?_, ?_⟩
    · rintro fields rfl
      exact hobject fields a h
    · rintro vs rfl
      exact absurd h (hlist vs a)

lemma not_forbids_text {v : Value} : ¬ (text v).Forbids path := by
  cases v <;> simp [text]

lemma not_forbids_wholeNumber {x : Binary64} : ¬ (wholeNumber x).Forbids path := by
  rw [wholeNumber.eq_def]
  split
  · simp
  split
  · split <;> simp
  · simp

lemma not_forbids_integer {v : Value} : ¬ (integer v).Forbids path := by
  cases v with
  | text s =>
    change ¬ (integerText s).Forbids path
    rw [integerText]
    split <;> simp
  | decimal m e => exact not_forbids_wholeNumber
  | nonFinite => exact not_forbids_wholeNumber (x := .nonFinite)
  | _ => simp [integer]

lemma not_forbids_flagNumber {n : Int} : ¬ (flagNumber n).Forbids path := by
  rw [flagNumber]
  split
  · simp
  split <;> simp

lemma not_forbids_flag {v : Value} : ¬ (flag source v).Forbids path := by
  cases v with
  | int n =>
    rw [flag]
    split
    · exact not_forbids_flagNumber
    · simp
  | decimal m e =>
    rw [flag]
    split
    · exact not_forbids_flagNumber
    · simp
  | text s =>
    rw [flag, flagWord]
    split
    · simp
    split <;> simp
  | _ => simp [flag]

variable (source)

lemma fills_text : Fills source .plain text Value.text :=
  .scalar (fun _ _ => not_forbids_text) nofun nofun

lemma fills_nonEmptyText : Fills source .plain nonEmptyText Value.text := by
  refine .scalar (fun v path => ?_) nofun nofun
  rw [nonEmptyText, Checked.forbids_andThen]
  · exact not_forbids_text
  · intro s
    split <;> simp

lemma fills_optionalText : Fills source .plain (optional text) (Value.ofOption Value.text) := by
  refine .scalar (fun v path => ?_) nofun nofun
  cases v <;> simp [optional, not_forbids_text]

lemma fills_integer : Fills source .plain integer Value.int :=
  .scalar (fun _ _ => not_forbids_integer) nofun nofun

lemma fills_integerAtLeast {least : Int} :
    Fills source .plain (integerAtLeast least) Value.int := by
  refine .scalar (fun v path => ?_) nofun nofun
  rw [integerAtLeast, Checked.forbids_andThen]
  · exact not_forbids_integer
  · intro n
    split <;> simp

lemma fills_flag : Fills source .plain (flag source) Value.bool :=
  .scalar (fun _ _ => not_forbids_flag) nofun nofun

lemma fills_literal {word : String} : Fills source .plain (literal word) fun _ => .text word := by
  refine .scalar (fun v path => ?_) nofun nofun
  rw [literal.eq_def]
  split
  · split <;> simp
  · simp

end Scalars

section Lists

variable {α : Type} {check : Check α} {i : Nat} {vs : List Value} {path : List Step}

lemma forbids_items : (items check i vs).Forbids path ↔
    ∃ j v rest, vs[j]? = some v ∧ path = .index (i + j) :: rest ∧ (check v).Forbids rest := by
  induction vs generalizing i with
  | nil => simp [items]
  | cons v vs ih =>
    rw [items, Checked.forbids_seq, Checked.forbids_map, Checked.forbids_under, ih]
    constructor
    · rintro (⟨rest, rfl, h⟩ | ⟨j, w, rest, hw, rfl, h⟩)
      · exact ⟨0, v, rest, rfl, rfl, h⟩
      · exact ⟨j + 1, w, rest, hw, by rw [Nat.add_assoc, Nat.add_comm 1], h⟩
    · rintro ⟨_ | j, w, rest, hw, rfl, h⟩
      · cases hw
        exact .inl ⟨rest, rfl, h⟩
      · exact .inr ⟨j, w, rest, hw, by rw [Nat.add_assoc, Nat.add_comm 1], h⟩

lemma forbids_list {v : Value} : (list check v).Forbids path ↔
    ∃ vs j w rest, v = .list vs ∧ vs[j]? = some w ∧ path = .index j :: rest ∧
      (check w).Forbids rest := by
  cases v <;> simp [list, forbids_items]

lemma fills_texts (source : Source) : Fills source .plain (list text) textList where
  forbids v path := by simp [forbids_list, not_forbids_text, Slot.Forbids]
  keeps v ss h := by
    obtain ⟨vs, rfl, hall⟩ := list_eq_ok.mp h
    have hvs : vs = ss.map .text := by
      clear h
      induction hall with
      | nil => rfl
      | @cons v s vs ss hv _ ih =>
        cases v <;> cases hv
        rw [ih]
        rfl
    subst hvs
    simp [Slot.Keeps, textList]

end Lists

section Records

variable {α : Type} {source : Source} {s : Schema} {check : Check α} {toJson : α → Value}
variable {toRecord : α → Record} (hcheck : ∀ v, s.check source v = (check v).map toRecord)
variable (hjson : ∀ a, (toRecord a).toJson = toJson a)

include hcheck hjson

lemma fills_record : Fills source (.record s) check toJson where
  forbids v path := by rw [Slot.Forbids, hcheck, Checked.forbids_map]
  keeps v a h := .inr ⟨toRecord a, by rw [hcheck, h, Checked.map], (hjson a).symm⟩

lemma fills_optional (hnull : ∀ path, ¬ (check .null).Forbids path) :
    Fills source (.record s) (optional check) (Value.ofOption toJson) where
  forbids v path := by
    have hfill := (fills_record hcheck hjson).forbids v path
    cases v with
    | null => exact iff_of_false Checked.not_forbids_ok (hfill.not.mp (hnull path))
    | _ => rw [← hfill, optional, Checked.forbids_map]; nofun
  keeps v a h := by
    cases v with
    | null => exact .inl rfl
    | _ =>
      obtain ⟨a, ha, rfl⟩ := Checked.map_eq_ok.mp h
      exact (fills_record hcheck hjson).keeps _ a ha

lemma fills_records : Fills source (.records s) (list check) fun as => .list (as.map toJson) where
  forbids v path := by simp [forbids_list, Slot.Forbids, hcheck]
  keeps v as h := by
    obtain ⟨vs, rfl, hall⟩ := list_eq_ok.mp h
    refine ⟨vs, as.map toRecord, rfl, ?_, by simp [hjson]⟩
    refine List.forall₂_map_right_iff.mpr (hall.imp fun v a ha => ?_)
    rw [hcheck, ha, Checked.map]

end Records

end BugArchive.Contract
