import BugArchive.Proofs.Contract.Strict
import BugArchive.Proofs.Json.Value

namespace BugArchive

namespace Json.Value

def child? : Value → Contract.Step → Option Value
  | object fields, .key name => field? name fields
  | list vs, .index i => vs[i]?
  | _, _ => none

def at? (v : Value) (place : List Contract.Step) : Option Value :=
  place.foldlM child? v

variable {v x : Value} {step : Contract.Step} {place : List Contract.Step}

lemma at?_cons_eq_some :
    v.at? (step :: place) = some x ↔ ∃ y, v.child? step = some y ∧ y.at? place = some x :=
  Option.bind_eq_some_iff

lemma child?_object {fields : List (String × Value)} : (object fields).child? step = some x ↔
    ∃ name, step = .key name ∧ field? name fields = some x := by
  cases step <;> simp [child?]

lemma child?_list {vs : List Value} :
    (list vs).child? step = some x ↔ ∃ i : Nat, step = .index i ∧ vs[i]? = some x := by
  cases step <;> simp [child?]

end Json.Value

namespace Contract

open Json (Value)

namespace Schema

/-- Whether reading a value by a schema comes to an object that it reads by the schema `t`, standing
at a place of the value and told about at `told`, where the kinds of details are named too. -/
inductive Meets : Schema → Value → (place told : List Step) → Schema → Fields → Prop where
  | here {s : Schema} {fields : Fields} (h : s ≠ .anyDetail) :
      Meets s (.object fields) [] [] s fields
  | kind {form : Form} {fields inner : Fields} {place told : List Step} {t : Schema}
      (hkind : Value.field? "kind" fields = some (.text form.tag))
      (h : Meets (.detail form) (.object fields) place told t inner) :
      Meets .anyDetail (.object fields) place (.key form.tag :: told) t inner
  | record {s u t : Schema} {name : String} {fields inner : Fields} {v : Value}
      {place told : List Step} (hslot : (name, .record u) ∈ s.slots)
      (hv : Value.field? name fields = some v) (h : Meets u v place told t inner) :
      Meets s (.object fields) (.key name :: place) (.key name :: told) t inner
  | records {s u t : Schema} {name : String} {fields inner : Fields} {vs : List Value} {v : Value}
      {i : Nat} {place told : List Step} (hslot : (name, .records u) ∈ s.slots)
      (hvs : Value.field? name fields = some (.list vs)) (hv : vs[i]? = some v)
      (h : Meets u v place told t inner) :
      Meets s (.object fields) (.key name :: .index i :: place) (.key name :: .index i :: told) t
        inner

variable {source : Source} {s t : Schema} {v : Value} {place told path : List Step} {inner : Fields}

lemma ne_anyDetail_of_mem {e : String × Slot} (h : e ∈ s.slots) : s ≠ .anyDetail := by
  rintro rfl
  cases h

lemma forbids_of_meets {f : String × Value} (h : Meets s v place told t inner) (hf : f ∈ inner)
    (hundeclared : f.1 ∉ t.declared) : (s.check source v).Forbids (told ++ [.key f.1]) := by
  induction h with
  | here hs => exact ((isStrict source hs).forbids _ _).mpr ⟨_, rfl, .inl ⟨f, hf, hundeclared, rfl⟩⟩
  | kind hkind _ ih =>
    exact (forbids_anyDetail source).mpr ⟨_, _, _, rfl, hkind, rfl, ih hf hundeclared⟩
  | record hslot hv _ ih =>
    exact ((isStrict source (ne_anyDetail_of_mem hslot)).forbids _ _).mpr
      ⟨_, rfl, .inr ⟨_, hslot, _, _, hv, rfl, ih hf hundeclared⟩⟩
  | records hslot hvs hv _ ih =>
    exact ((isStrict source (ne_anyDetail_of_mem hslot)).forbids _ _).mpr
      ⟨_, rfl, .inr ⟨_, hslot, _, _, hvs, rfl, _, _, _, _, rfl, hv, rfl, ih hf hundeclared⟩⟩

lemma meets_of_forbids {n : Nat} (hn : path.length < n) (h : (s.check source v).Forbids path) :
    ∃ place told t inner f, Meets s v place told t inner ∧ f ∈ inner ∧ f.1 ∉ t.declared ∧
      path = told ++ [.key f.1] := by
  -- The path gets shorter from record to record, while the value may be of any kind there.
  induction n generalizing s v path with
  | zero => cases hn
  | succ n ih =>
    by_cases hs : s = .anyDetail
    · subst hs
      obtain ⟨form, fields, rest, rfl, hkind, rfl, hforbids⟩ := (forbids_anyDetail source).mp h
      obtain ⟨place, told, t, inner, f, hm, hf, hundeclared, rfl⟩ :=
        ih (Nat.lt_of_succ_lt_succ hn) hforbids
      exact ⟨place, _, t, inner, f, .kind hkind hm, hf, hundeclared, rfl⟩
    obtain ⟨fields, rfl, ⟨f, hf, hundeclared, rfl⟩ |
      ⟨⟨name, slot⟩, hslot, w, rest, hw, rfl, hforbids⟩⟩ :=
        ((isStrict source hs).forbids v path).mp h
    · exact ⟨[], [], s, fields, f, .here hs, hf, hundeclared, rfl⟩
    cases slot with
    | plain => exact False.elim hforbids
    | record u =>
      obtain ⟨place, told, t, inner, f, hm, hf, hundeclared, rfl⟩ :=
        ih (Nat.lt_of_succ_lt_succ hn) hforbids
      exact ⟨_, _, t, inner, f, .record hslot hw hm, hf, hundeclared, rfl⟩
    | records u =>
      obtain ⟨vs, i, x, rest, rfl, hx, rfl, hforbids⟩ := hforbids
      obtain ⟨place, told, t, inner, f, hm, hf, hundeclared, rfl⟩ :=
        ih (Nat.lt_of_succ_lt (Nat.lt_of_succ_lt_succ hn)) hforbids
      exact ⟨_, _, t, inner, f, .records hslot hw hx hm, hf, hundeclared, rfl⟩

lemma at?_of_meets (h : Meets s v place told t inner) : v.at? place = some (.object inner) := by
  induction h with
  | here => rfl
  | kind _ _ ih => exact ih
  | record _ hv _ ih =>
    exact Value.at?_cons_eq_some.mpr ⟨_, Value.child?_object.mpr ⟨_, rfl, hv⟩, ih⟩
  | records _ hvs hv _ ih =>
    refine Value.at?_cons_eq_some.mpr ⟨_, Value.child?_object.mpr ⟨_, rfl, hvs⟩, ?_⟩
    exact Value.at?_cons_eq_some.mpr ⟨_, Value.child?_list.mpr ⟨_, rfl, hv⟩, ih⟩

variable {x w : Value} {r : Record}

/-- What becomes of a value `x` at a place of an input where `w` is written for it: objects are read
by one schema and are written with its fields, lists are written item by item. -/
structure Kept (source : Source) (s : Schema) (v : Value) (place : List Step) (x w : Value) :
    Prop where
  object : ∀ inner, x = .object inner → ∃ told t part out, Meets s v place told t inner ∧
    t.check source x = .ok part ∧ part.schema = t ∧ part.toJson = w ∧ w = .object out ∧
    out.map Prod.fst = t.declared ∧ ∀ f ∈ inner, f.1 ∈ t.declared
  list : ∀ vs, x = .list vs → ∃ ws, w = .list ws ∧ List.Forall₂ (fun v w =>
    (∃ s, v = .text s ∧ w = v) ∨ ∃ u part, check source u v = .ok part ∧ w = part.toJson) vs ws

lemma Kept.imp {s' : Schema} {v' : Value} {place' : List Step} (h : Kept source s v place x w)
    (hm : ∀ {told t inner}, Meets s v place told t inner →
      ∃ told', Meets s' v' place' told' t inner) :
    Kept source s' v' place' x w where
  object inner hx := by
    obtain ⟨told, t, part, out, hmeets, hpart⟩ := h.object inner hx
    obtain ⟨told', hmeets⟩ := hm hmeets
    exact ⟨told', t, part, out, hmeets, hpart⟩
  list := h.list

def KeepsWithin (source : Source) (n : Nat) : Prop :=
  ∀ {s : Schema} {v x : Value} {r : Record} {place : List Step}, place.length < n →
    s.check source v = .ok r → v.at? place = some x →
      ∃ w, r.toJson.at? place = some w ∧ Kept source s v place x w

section Slots

variable {n : Nat} {name : String} {fields : Fields}

lemma kept_plain {u : Value} (hkeeps : Slot.plain.Keeps source v w) (hx : v.at? place = some x) :
    ∃ y, w.at? place = some y ∧ Kept source s u path x y := by
  obtain ⟨hobject, hlist⟩ := hkeeps
  cases place with
  | nil =>
    cases hx
    refine ⟨w, rfl, ⟨fun inner hv => absurd hv (hobject inner), fun vs hv => ?_⟩⟩
    obtain ⟨rfl, htexts⟩ := hlist vs hv
    refine ⟨vs, hv, List.forall₂_same.mpr fun v hmem => ?_⟩
    obtain ⟨s, rfl⟩ := htexts v hmem
    exact .inl ⟨s, rfl, rfl⟩
  | cons step place =>
    obtain ⟨y, hy, hx⟩ := Value.at?_cons_eq_some.mp hx
    cases v with
    | object fields => exact absurd rfl (hobject fields)
    | list vs =>
      obtain ⟨rfl, htexts⟩ := hlist vs rfl
      obtain ⟨i, rfl, hi⟩ := Value.child?_list.mp hy
      obtain ⟨s, rfl⟩ := htexts y (List.mem_of_getElem? hi)
      cases place with
      | nil =>
        cases hx
        exact ⟨_, Value.at?_cons_eq_some.mpr ⟨_, hy, rfl⟩, nofun, nofun⟩
      | cons step place =>
        obtain ⟨_, h, _⟩ := Value.at?_cons_eq_some.mp hx
        cases h
    | _ => cases hy

lemma exists_of_forall₂ {α β : Type} {R : α → β → Prop} {as : List α} {bs : List β} {a : α}
    {i : Nat} (h : List.Forall₂ R as bs) (ha : as[i]? = some a) : ∃ b, bs[i]? = some b ∧ R a b := by
  induction h generalizing i with
  | nil => cases ha
  | cons hab _ ih =>
    cases i with
    | zero =>
      cases ha
      exact ⟨_, rfl, hab⟩
    | succ i => exact ih ha

variable (hin : KeepsWithin source n) (hplace : place.length < n)

include hin hplace

lemma kept_record {u : Schema} (hslot : (name, .record u) ∈ s.slots)
    (hv : Value.field? name fields = some v) (hkeeps : (Slot.record u).Keeps source v w)
    (hx : v.at? place = some x) :
    ∃ y, w.at? place = some y ∧ Kept source s (.object fields) (.key name :: place) x y := by
  obtain rfl | ⟨r, hr, rfl⟩ := hkeeps
  · cases place with
    | nil =>
      cases hx
      exact ⟨w, rfl, nofun, nofun⟩
    | cons step place =>
      obtain ⟨_, h, _⟩ := Value.at?_cons_eq_some.mp hx
      cases h
  · obtain ⟨y, hy, hkept⟩ := hin hplace hr hx
    exact ⟨y, hy, hkept.imp fun hm => ⟨_, .record hslot hv hm⟩⟩

lemma kept_records {u : Schema} (hslot : (name, .records u) ∈ s.slots)
    (hv : Value.field? name fields = some v) (hkeeps : (Slot.records u).Keeps source v w)
    (hx : v.at? place = some x) :
    ∃ y, w.at? place = some y ∧ Kept source s (.object fields) (.key name :: place) x y := by
  obtain ⟨vs, rs, rfl, hall, rfl⟩ := hkeeps
  cases place with
  | nil =>
    cases hx
    refine ⟨_, rfl, nofun, fun ws hws => ?_⟩
    cases hws
    refine ⟨_, rfl, List.forall₂_map_right_iff.mpr (hall.imp fun v r hr => ?_)⟩
    exact .inr ⟨u, r, hr, rfl⟩
  | cons step place =>
    obtain ⟨y, hy, hyx⟩ := Value.at?_cons_eq_some.mp hx
    obtain ⟨i, rfl, hi⟩ := Value.child?_list.mp hy
    obtain ⟨r, hri, hr⟩ := exists_of_forall₂ hall hi
    obtain ⟨z, hz, hkept⟩ := hin (Nat.lt_of_succ_lt hplace) hr hyx
    refine ⟨z, Value.at?_cons_eq_some.mpr ⟨r.toJson, ?_, hz⟩, ?_⟩
    · rw [Value.child?, List.getElem?_map, hri, Option.map_some]
    · exact hkept.imp fun hm => ⟨_, .records hslot hv hi hm⟩

end Slots

lemma IsStrict.kept {n : Nat} (hs : s.IsStrict source) (hne : s ≠ .anyDetail)
    (hin : KeepsWithin source n) (hplace : place.length < n + 1) (hr : s.check source v = .ok r)
    (hx : v.at? place = some x) : ∃ w, r.toJson.at? place = some w ∧ Kept source s v place x w := by
  obtain ⟨hschema, fields, out, rfl, hout, hnames, hdeclared, hslots⟩ := hs.keeps v r hr
  cases place with
  | nil =>
    cases hx
    refine ⟨r.toJson, rfl, fun inner hinner => ?_, nofun⟩
    cases hinner
    exact ⟨[], s, r, out, .here hne, hr, hschema, rfl, hout, hnames, hdeclared⟩
  | cons step place =>
    obtain ⟨y, hy, hyx⟩ := Value.at?_cons_eq_some.mp hx
    obtain ⟨_, rfl, hy⟩ := Value.child?_object.mp hy
    obtain ⟨⟨name, slot⟩, hslot, rfl⟩ := List.mem_map.mp (hdeclared _ (Value.mem_of_field? hy))
    obtain ⟨w, hw, hkeeps⟩ := hslots _ hslot y hy
    have hrest : place.length < n := Nat.lt_of_succ_lt_succ hplace
    have hkept : ∃ z, w.at? place = some z ∧
        Kept source s (.object fields) (.key name :: place) x z := by
      cases slot with
      | plain => exact kept_plain hkeeps hyx
      | record u => exact kept_record hin hrest hslot hy hkeeps hyx
      | records u => exact kept_records hin hrest hslot hy hkeeps hyx
    obtain ⟨z, hz, hkept⟩ := hkept
    refine ⟨z, ?_, hkept⟩
    rw [hout]
    exact Value.at?_cons_eq_some.mpr ⟨w, hw, hz⟩

lemma keepsWithin (n : Nat) : KeepsWithin source n := by
  induction n with
  | zero => exact fun h => nomatch h
  | succ n ih =>
    intro s v x r place hplace hr hx
    by_cases hs : s = .anyDetail
    · subst hs
      obtain ⟨form, fields, rfl, hkind, hr⟩ := (anyDetail_eq_ok source).mp hr
      have hform := isStrict source (s := .detail form) nofun
      obtain ⟨w, hw, hkept⟩ := hform.kept nofun ih hplace hr hx
      exact ⟨w, hw, hkept.imp fun hm => ⟨_, .kind hkind hm⟩⟩
    · exact (isStrict source hs).kept hs ih hplace hr hx

/-- An undeclared field is told where it stands, at any depth, and nothing else is told so. Of an
input that is taken everything is kept at its place: its objects have declared fields only and are
written with all fields of their schema, its lists keep their length and order. A detail is read by
the schema that its own kind names. -/
theorem check_lossless (s : Schema) (source : Source) (v : Value) :
    (∀ path, (s.check source v).Forbids path ↔ ∃ place told t inner f,
      Meets s v place told t inner ∧ v.at? place = some (.object inner) ∧ f ∈ inner ∧
        f.1 ∉ t.declared ∧ path = told ++ [.key f.1]) ∧
    (∀ r, s.check source v = .ok r → ∀ place x, v.at? place = some x →
      ∃ w, r.toJson.at? place = some w ∧ Kept source s v place x w) ∧
    ∀ r, anyDetail.check source v = .ok r ↔ ∃ form fields, v = .object fields ∧
      Value.field? "kind" fields = some (.text form.tag) ∧
        (detail form).check source v = .ok r := by
  refine ⟨fun path => ⟨fun h => ?_, ?_⟩, fun r hr place x hx => ?_, fun r => anyDetail_eq_ok source⟩
  · obtain ⟨place, told, t, inner, f, hm, hf⟩ := meets_of_forbids (Nat.lt_succ_self _) h
    exact ⟨place, told, t, inner, f, hm, at?_of_meets hm, hf⟩
  · rintro ⟨place, told, t, inner, f, hm, -, hf, hundeclared, rfl⟩
    exact forbids_of_meets hm hf hundeclared
  · exact keepsWithin _ (Nat.lt_succ_self _) hr hx

def annotated (notes : Fields) : Value :=
  .object [("project", .object [("jars", .list [.text "a.jar"])]),
    ("bug_instances", .list [.object [("type", .text "NP"), ("priority", .text "1"),
      ("annotations", .list [.object [("kind", .text "Method"), ("class_name", .text "Api"),
        ("method_name", .text "call"), ("signature", .text "()V"),
        ("source_lines", .object (("class_name", .text "Api") :: notes))]])]])]

def linesPlace : List Step :=
  [.key "bug_instances", .index 0, .key "annotations", .index 0, .key "source_lines"]

theorem check_lossless_annotated :
    (collection.check .text (annotated [("note", .null)])).Forbids [.key "bug_instances", .index 0,
      .key "annotations", .index 0, .key "Method", .key "source_lines", .key "note"] ∧
    ∃ r, collection.check .text (annotated [("start", .int 4)]) = .ok r ∧
      ∃ w, r.toJson.at? linesPlace = some w ∧
        Kept .text collection (annotated [("start", .int 4)]) linesPlace
          (.object [("class_name", .text "Api"), ("start", .int 4)]) w := by
  refine ⟨?_, _, rfl, ?_⟩
  · have hmeets : Meets collection (annotated [("note", .null)]) linesPlace [.key "bug_instances",
        .index 0, .key "annotations", .index 0, .key "Method", .key "source_lines"]
        (.detail .atLine) [("class_name", .text "Api"), ("note", .null)] := by
      refine .records (u := .finding) (by simp [slots]) rfl rfl ?_
      refine .records (u := .anyDetail) (by simp [slots]) rfl rfl ?_
      refine @Meets.kind .inMethod _ _ _ _ _ rfl ?_
      exact .record (u := .detail .atLine) (by simp [slots]) rfl (.here (by decide))
    exact ((check_lossless _ _ _).1 _).mpr ⟨linesPlace, _, _, _, ("note", .null), hmeets,
      at?_of_meets hmeets, by simp, by decide, rfl⟩
  · exact (check_lossless _ _ _).2.1 _ rfl linesPlace _ rfl

end Schema

end Contract

end BugArchive
