import BugArchive.Contract.Reader
import BugArchive.Contract.Writer
import Mathlib.Data.List.Forall2
import Mathlib.Tactic.Lemma

namespace BugArchive.Contract

open Json (Value)

namespace Checked

variable {α β : Type} {b : β}

@[simp] lemma map_eq_ok {c : Checked α} {f : α → β} : c.map f = .ok b ↔ ∃ a, c = .ok a ∧ f a = b := by
  cases c <;> simp [map]

@[simp] lemma under_eq_ok {c : Checked β} {step : Step} : c.under step = .ok b ↔ c = .ok b := by
  cases c <;> simp [under]

@[simp] lemma andThen_eq_ok {c : Checked α} {f : α → Checked β} :
    c.andThen f = .ok b ↔ ∃ a, c = .ok a ∧ f a = .ok b := by
  cases c <;> simp [andThen]

@[simp] lemma seq_eq_ok {g : Checked (α → β)} {c : Checked α} :
    g.seq c = .ok b ↔ ∃ f a, g = .ok f ∧ c = .ok a ∧ f a = b := by
  cases g <;> cases c <;> simp [seq]

@[simp] lemma ap_eq_ok {g : Checked (α → β)} {c : Checked α} :
    (g <*> c) = .ok b ↔ ∃ f a, g = .ok f ∧ c = .ok a ∧ f a = b :=
  seq_eq_ok

@[simp] lemma fmap_eq_ok {f : α → β} {c : Checked α} : (f <$> c) = .ok b ↔ ∃ a, c = .ok a ∧ f a = b := by
  change Checked.seq (.ok f) c = _ ↔ _
  simp

end Checked

section Combinators

variable {α : Type} {check : Check α} {a : α} {name : String} {v : Value} {fields : Fields}
variable {declared : List String} {body : Fields → Checked α}

lemma required_ok (hf : Value.field? name fields = some v) (hc : check v = .ok a) :
    required check name fields = .ok a := by
  rw [required, hf]
  exact Checked.under_eq_ok.mpr hc

lemma orDefault_ok {default : α} (hf : Value.field? name fields = some v) (hc : check v = .ok a) :
    orDefault default check name fields = .ok a := by
  rw [orDefault, hf]
  exact Checked.under_eq_ok.mpr hc

lemma extras_eq_ok {u : Unit} : extras declared fields = .ok u ↔ ∀ f ∈ fields, f.1 ∈ declared := by
  rw [extras]
  split
  · rename_i h
    simpa using h
  · rename_i h
    refine iff_of_false nofun fun hall => h ?_
    simpa using hall

lemma record_eq_ok : record declared body v = .ok a ↔
    ∃ fields, v = .object fields ∧ body fields = .ok a ∧ ∀ f ∈ fields, f.1 ∈ declared := by
  cases v <;> simp [record, extras_eq_ok, Checked.fail]

lemma record_ok (hf : body fields = .ok a) (he : extras declared fields = .ok ()) :
    record declared body (.object fields) = .ok a :=
  record_eq_ok.mpr ⟨fields, rfl, hf, extras_eq_ok.mp he⟩

lemma items_eq_ok {i : Nat} {vs : List Value} {as : List α} :
    items check i vs = .ok as ↔ List.Forall₂ (fun v a => check v = .ok a) vs as := by
  induction vs generalizing i as with
  | nil => simp [items, eq_comm]
  | cons v vs ih =>
    rw [items, Checked.seq_eq_ok]
    cases as <;> simp [ih]

lemma list_eq_ok {as : List α} : list check v = .ok as ↔
    ∃ vs, v = .list vs ∧ List.Forall₂ (fun v a => check v = .ok a) vs as := by
  cases v <;> simp [list, items_eq_ok, Checked.fail]

lemma list_map {toJson : α → Value} {as : List α} (h : ∀ a ∈ as, check (toJson a) = .ok a) :
    list check (.list (as.map toJson)) = .ok as :=
  list_eq_ok.mpr ⟨_, rfl, List.forall₂_map_left_iff.mpr (List.forall₂_same.mpr h)⟩

lemma list_textList (ss : List String) : list text (textList ss) = .ok ss :=
  list_map fun _ _ => rfl

lemma optional_text (s : Option String) : optional text (.ofOption .text s) = .ok s := by
  cases s <;> rfl

end Combinators

variable (source : Source)

lemma SourceLine.check_toJson (l : SourceLine) : check l.toJson = .ok l := by
  obtain ⟨_, _, _, _, _, sourceFile⟩ := l
  cases sourceFile <;> rfl

lemma SourceLine.optional_check (l : Option SourceLine) :
    optional check (.ofOption toJson l) = .ok l := by
  cases l with
  | none => rfl
  | some l => exact congrArg (Checked.map some) l.check_toJson

namespace Detail

lemma checkForm_toJson (a : Detail) : checkForm source a.form a.toJson = .ok a := by
  cases a with
  | inMethod className name signature lines =>
    change checkMethod _ = _
    refine record_ok ?_ rfl
    rw [orDefault_ok rfl (SourceLine.optional_check lines)]
    rfl
  | atLine l => exact congrArg (Checked.map atLine) l.check_toJson
  | inClass name => rfl
  | onField className name signature isStatic => rfl
  | number n => rfl

lemma check_toJson (a : Detail) : check source a.toJson = .ok a := by
  have hform := congrArg (Checked.under (.key a.form.tag)) (checkForm_toJson source a)
  cases a with
  | _ => exact hform

end Detail

lemma Finding.check_toJson (f : Finding) : check source f.toJson = .ok f := by
  have htype : nonEmptyText (.text f.type) = .ok f.type :=
    if_neg fun h => f.type_ne (String.isEmpty_iff.mp h)
  have hpriority : integerAtLeast 1 (.int f.priority) = .ok f.priority :=
    if_neg (Int.not_lt.mpr f.one_le)
  have hparts : ofParts f.type f.priority f.details = .ok f := dif_pos ⟨f.type_ne, f.one_le⟩
  have hrecord : record ["type", "priority", "annotations"] (fun fields =>
      (fun type priority details => (type, priority, details)) <$>
        required nonEmptyText "type" fields <*>
        required (integerAtLeast 1) "priority" fields <*>
        orDefault [] (list (Detail.check source)) "annotations" fields) f.toJson =
      .ok (f.type, f.priority, f.details) := by
    refine record_ok ?_ rfl
    rw [required_ok rfl htype, required_ok rfl hpriority,
      orDefault_ok rfl (list_map fun a _ => Detail.check_toJson source a)]
    rfl
  rw [check, hrecord]
  exact hparts

lemma AppClass.check_toJson (c : AppClass) : check source c.toJson = .ok c := rfl

lemma Project.check_toJson (p : Project) : check p.toJson = .ok p := by
  refine record_ok ?_ rfl
  rw [orDefault_ok rfl (optional_text p.filename), orDefault_ok rfl (list_textList p.jars),
    orDefault_ok rfl (list_textList p.auxClasspath), orDefault_ok rfl (list_textList p.sourceDirs)]
  rfl

lemma Collection.check_toJson (c : Collection) : check source c.toJson = .ok c := by
  refine record_ok ?_ rfl
  rw [required_ok rfl c.project.check_toJson,
    orDefault_ok rfl (list_map fun a _ => AppClass.check_toJson source a),
    orDefault_ok rfl (list_map fun f _ => Finding.check_toJson source f),
    orDefault_ok rfl (list_textList c.errors), orDefault_ok rfl (list_textList c.missing)]
  rfl

def Schema.Admits (s : Schema) (r : Record) : Prop :=
  s = r.schema ∨ s = .anyDetail ∧ ∃ a, r = .detail a

lemma Schema.check_toJson {s : Schema} {r : Record} (h : s.Admits r) :
    s.check source r.toJson = .ok r := by
  rcases h with rfl | ⟨rfl, a, rfl⟩
  · cases r with
    | detail a => exact congrArg (Checked.map Record.detail) (Detail.checkForm_toJson source a)
    | finding f => exact congrArg (Checked.map Record.finding) (f.check_toJson source)
    | appClass c => exact congrArg (Checked.map Record.appClass) (c.check_toJson source)
    | project p => exact congrArg (Checked.map Record.project) p.check_toJson
    | collection c => exact congrArg (Checked.map Record.collection) (c.check_toJson source)
  · exact congrArg (Checked.map Record.detail) (a.check_toJson source)

end BugArchive.Contract
