import BugArchive.Proofs.Contract.Slot

namespace BugArchive.Contract

open Json (Value)

namespace Schema

def slots : Schema → List (String × Slot)
  | detail .inClass => [("kind", .plain), ("class_name", .plain)]
  | detail .inMethod => [("kind", .plain), ("class_name", .plain), ("method_name", .plain),
      ("signature", .plain), ("source_lines", .record (.detail .atLine))]
  | detail .onField => [("kind", .plain), ("class_name", .plain), ("field_name", .plain),
      ("signature", .plain), ("is_static", .plain)]
  | detail .atLine => SourceLine.declared.map fun name => (name, .plain)
  | detail .number => [("kind", .plain), ("value", .plain)]
  | anyDetail => []
  | finding => [("type", .plain), ("priority", .plain), ("annotations", .records .anyDetail)]
  | appClass => [("name", .plain), ("is_interface", .plain)]
  | project => [("filename", .plain), ("jars", .plain), ("aux_classpath", .plain),
      ("src_dirs", .plain)]
  | collection => [("project", .record .project), ("application_classes", .records .appClass),
      ("bug_instances", .records .finding), ("errors", .plain), ("missing_classes", .plain)]

def declared (s : Schema) : List String := s.slots.map Prod.fst

structure IsStrict (source : Source) (s : Schema) : Prop where
  forbids : ∀ v path, (s.check source v).Forbids path ↔ ∃ fields, v = .object fields ∧
    ((∃ f ∈ fields, f.1 ∉ s.declared ∧ path = [.key f.1]) ∨
      ∃ e ∈ s.slots, e.2.ForbidsIn source e.1 fields path)
  keeps : ∀ v r, s.check source v = .ok r → r.schema = s ∧ ∃ fields out, v = .object fields ∧
    r.toJson = .object out ∧ out.map Prod.fst = s.declared ∧ (∀ f ∈ fields, f.1 ∈ s.declared) ∧
    ∀ e ∈ s.slots, e.2.KeepsIn source e.1 fields out

end Schema

section Records

variable {α : Type} {declared : List String} {body : Fields → Checked α} {path : List Step}
variable {v : Value} {fields : Fields} {a : α}

lemma forbids_extras :
    (extras declared fields).Forbids path ↔ ∃ f ∈ fields, f.1 ∉ declared ∧ path = [.key f.1] := by
  have hmem (f : String × Value) : (f ∈ fields.filter fun f => !declared.contains f.1) ↔
      f ∈ fields ∧ f.1 ∉ declared := by
    simp
  rw [extras]
  split
  · rename_i h
    refine iff_of_false Checked.not_forbids_ok ?_
    rintro ⟨f, hf, hundeclared, -⟩
    exact List.not_mem_nil (h ▸ (hmem f).mpr ⟨hf, hundeclared⟩)
  · rw [Checked.forbids_faulty, List.mem_map]
    constructor
    · rintro ⟨f, hf, h⟩
      cases h
      obtain ⟨hf, hundeclared⟩ := (hmem f).mp hf
      exact ⟨f, hf, hundeclared, rfl⟩
    · rintro ⟨f, hf, hundeclared, rfl⟩
      exact ⟨f, (hmem f).mpr ⟨hf, hundeclared⟩, rfl⟩

lemma forbids_record : (record declared body v).Forbids path ↔ ∃ fields, v = .object fields ∧
    ((∃ f ∈ fields, f.1 ∉ declared ∧ path = [.key f.1]) ∨ (body fields).Forbids path) := by
  cases v <;> simp [record, Checked.forbids_seq, forbids_extras, or_comm]

end Records

section Classes

variable {source : Source}

/-- A schema is strict if it reads a record with its own fields, each as its slot has it, and makes
of what was read a record that is written with the same fields. -/
lemma Schema.IsStrict.of_record {α : Type} {s : Schema} {body : Fields → Checked α}
    {make : α → Checked Record}
    (hcheck : ∀ v, s.check source v = (record s.declared body v).andThen make)
    (hmake : ∀ a path, ¬ (make a).Forbids path)
    (hforbids : ∀ fields path, (body fields).Forbids path ↔
      ∃ e ∈ s.slots, e.2.ForbidsIn source e.1 fields path)
    (hkeeps : ∀ fields a r, body fields = .ok a → make a = .ok r → r.schema = s ∧
      ∃ out, r.toJson = .object out ∧ out.map Prod.fst = s.declared ∧
        ∀ e ∈ s.slots, e.2.KeepsIn source e.1 fields out) : s.IsStrict source where
  forbids v path := by
    rw [hcheck, Checked.forbids_andThen fun a => hmake a path, forbids_record]
    simp only [hforbids]
  keeps v r h := by
    rw [hcheck] at h
    obtain ⟨a, ha, hr⟩ := Checked.andThen_eq_ok.mp h
    obtain ⟨fields, rfl, hbody, hdeclared⟩ := record_eq_ok.mp ha
    obtain ⟨hschema, out, hout, hnames, hslots⟩ := hkeeps fields a r hbody hr
    exact ⟨hschema, fields, out, rfl, hout, hnames, hdeclared, hslots⟩

variable (source)

lemma fills_sourceLine : Fills source (.record (.detail .atLine)) (optional SourceLine.check)
    (Value.ofOption SourceLine.toJson) := by
  refine fills_optional (fun _ => Checked.map_map) (fun _ => rfl) fun path => ?_
  simp [SourceLine.check, record]

lemma fills_project : Fills source (.record .project) Project.check Project.toJson :=
  fills_record (fun _ => rfl) fun _ => rfl

lemma fills_details : Fills source (.records .anyDetail) (list (Detail.check source))
    fun as => .list (as.map Detail.toJson) :=
  fills_records (fun _ => rfl) fun _ => rfl

lemma fills_classes : Fills source (.records .appClass) (list (AppClass.check source))
    fun cs => .list (cs.map AppClass.toJson) :=
  fills_records (fun _ => rfl) fun _ => rfl

lemma fills_findings : Fills source (.records .finding) (list (Finding.check source))
    fun fs => .list (fs.map Finding.toJson) :=
  fills_records (fun _ => rfl) fun _ => rfl

lemma isStrict_class : (Schema.detail .inClass).IsStrict source := by
  refine .of_record (fun _ => Checked.map_eq_andThen) (fun _ _ => Checked.not_forbids_ok) ?_ ?_
  · intro fields path
    simp [Schema.slots, kind, (fills_literal source).forbids_orDefault,
      (fills_text source).forbids_required]
  · intro fields a r ha hr
    simp only [Checked.ap_eq_ok, Checked.fmap_eq_ok] at ha
    obtain ⟨_, _, ⟨_, hkind, rfl⟩, hname, rfl⟩ := ha
    cases hr
    refine ⟨rfl, _, rfl, rfl, ?_⟩
    simp only [Schema.slots, List.forall_mem_cons]
    exact ⟨(fills_literal source).keeps_orDefault hkind rfl,
      (fills_text source).keeps_required hname rfl, List.forall_mem_nil _⟩

lemma isStrict_method : (Schema.detail .inMethod).IsStrict source := by
  refine .of_record (fun _ => Checked.map_eq_andThen) (fun _ _ => Checked.not_forbids_ok) ?_ ?_
  · intro fields path
    simp [Schema.slots, kind, (fills_literal source).forbids_orDefault,
      (fills_text source).forbids_required, (fills_sourceLine source).forbids_orDefault, or_assoc]
  · intro fields a r ha hr
    simp only [Checked.ap_eq_ok, Checked.fmap_eq_ok] at ha
    obtain ⟨_, _, ⟨_, _, ⟨_, _, ⟨_, _, ⟨_, hkind, rfl⟩, hclass, rfl⟩, hname, rfl⟩, hsignature, rfl⟩,
      hlines, rfl⟩ := ha
    cases hr
    refine ⟨rfl, _, rfl, rfl, ?_⟩
    simp only [Schema.slots, List.forall_mem_cons]
    exact ⟨(fills_literal source).keeps_orDefault hkind rfl,
      (fills_text source).keeps_required hclass rfl, (fills_text source).keeps_required hname rfl,
      (fills_text source).keeps_required hsignature rfl,
      (fills_sourceLine source).keeps_orDefault hlines rfl, List.forall_mem_nil _⟩

lemma isStrict_field : (Schema.detail .onField).IsStrict source := by
  refine .of_record (fun _ => Checked.map_eq_andThen) (fun _ _ => Checked.not_forbids_ok) ?_ ?_
  · intro fields path
    simp [Schema.slots, kind, (fills_literal source).forbids_orDefault,
      (fills_text source).forbids_required, (fills_flag source).forbids_orDefault, or_assoc]
  · intro fields a r ha hr
    simp only [Checked.ap_eq_ok, Checked.fmap_eq_ok] at ha
    obtain ⟨_, _, ⟨_, _, ⟨_, _, ⟨_, _, ⟨_, hkind, rfl⟩, hclass, rfl⟩, hname, rfl⟩, hsignature, rfl⟩,
      hstatic, rfl⟩ := ha
    cases hr
    refine ⟨rfl, _, rfl, rfl, ?_⟩
    simp only [Schema.slots, List.forall_mem_cons]
    exact ⟨(fills_literal source).keeps_orDefault hkind rfl,
      (fills_text source).keeps_required hclass rfl, (fills_text source).keeps_required hname rfl,
      (fills_text source).keeps_required hsignature rfl,
      (fills_flag source).keeps_orDefault hstatic rfl, List.forall_mem_nil _⟩

lemma isStrict_atLine : (Schema.detail .atLine).IsStrict source := by
  refine .of_record (fun _ => Checked.map_map.trans Checked.map_eq_andThen)
    (fun _ _ => Checked.not_forbids_ok) ?_ ?_
  · intro fields path
    simp [Schema.slots, SourceLine.declared, kind, (fills_literal source).forbids_orDefault,
      (fills_text source).forbids_required, (fills_integer source).forbids_orDefault,
      (fills_optionalText source).forbids_orDefault, or_assoc]
  · intro fields a r ha hr
    simp only [Checked.ap_eq_ok, Checked.fmap_eq_ok] at ha
    obtain ⟨_, _, ⟨_, _, ⟨_, _, ⟨_, _, ⟨_, _, ⟨_, _, ⟨_, hkind, rfl⟩, hname, rfl⟩, hfirst, rfl⟩,
      hlast, rfl⟩, hfirstBytecode, rfl⟩, hlastBytecode, rfl⟩, hfile, rfl⟩ := ha
    cases hr
    refine ⟨rfl, _, rfl, rfl, ?_⟩
    simp only [Schema.slots, SourceLine.declared, List.map_cons, List.forall_mem_cons]
    exact ⟨(fills_literal source).keeps_orDefault hkind rfl,
      (fills_text source).keeps_required hname rfl,
      (fills_integer source).keeps_orDefault hfirst rfl,
      (fills_integer source).keeps_orDefault hlast rfl,
      (fills_integer source).keeps_orDefault hfirstBytecode rfl,
      (fills_integer source).keeps_orDefault hlastBytecode rfl,
      (fills_optionalText source).keeps_orDefault hfile rfl, List.forall_mem_nil _⟩

lemma isStrict_number : (Schema.detail .number).IsStrict source := by
  refine .of_record (fun _ => Checked.map_eq_andThen) (fun _ _ => Checked.not_forbids_ok) ?_ ?_
  · intro fields path
    simp [Schema.slots, kind, (fills_literal source).forbids_orDefault,
      (fills_integer source).forbids_required]
  · intro fields a r ha hr
    simp only [Checked.ap_eq_ok, Checked.fmap_eq_ok] at ha
    obtain ⟨_, _, ⟨_, hkind, rfl⟩, hvalue, rfl⟩ := ha
    cases hr
    refine ⟨rfl, _, rfl, rfl, ?_⟩
    simp only [Schema.slots, List.forall_mem_cons]
    exact ⟨(fills_literal source).keeps_orDefault hkind rfl,
      (fills_integer source).keeps_required hvalue rfl, List.forall_mem_nil _⟩

lemma Finding.not_forbids_ofParts {type : String} {priority : Int} {details : List Detail}
    {path : List Step} : ¬ (ofParts type priority details).Forbids path := by
  rw [ofParts]
  split
  · simp
  · rw [Checked.forbids_faulty, List.mem_append]
    split <;> split <;> simp

lemma isStrict_finding : Schema.finding.IsStrict source := by
  refine .of_record (fun _ => Checked.map_andThen)
    (fun _ _ => Checked.forbids_map.not.mpr Finding.not_forbids_ofParts) ?_ ?_
  · intro fields path
    simp [Schema.slots, (fills_nonEmptyText source).forbids_required,
      (fills_integerAtLeast source).forbids_required, (fills_details source).forbids_orDefault,
      or_assoc]
  · intro fields a r ha hr
    simp only [Checked.ap_eq_ok, Checked.fmap_eq_ok] at ha
    obtain ⟨_, _, ⟨_, _, ⟨_, htype, rfl⟩, hpriority, rfl⟩, hdetails, rfl⟩ := ha
    obtain ⟨f, hf, rfl⟩ := Checked.map_eq_ok.mp hr
    rw [Finding.ofParts] at hf
    split at hf
    · cases hf
      refine ⟨rfl, _, rfl, rfl, ?_⟩
      simp only [Schema.slots, List.forall_mem_cons]
      exact ⟨(fills_nonEmptyText source).keeps_required htype rfl,
        (fills_integerAtLeast source).keeps_required hpriority rfl,
        (fills_details source).keeps_orDefault hdetails rfl, List.forall_mem_nil _⟩
    · cases hf

lemma isStrict_appClass : Schema.appClass.IsStrict source := by
  refine .of_record (fun _ => Checked.map_eq_andThen) (fun _ _ => Checked.not_forbids_ok) ?_ ?_
  · intro fields path
    simp [Schema.slots, (fills_text source).forbids_required, (fills_flag source).forbids_orDefault]
  · intro fields a r ha hr
    simp only [Checked.ap_eq_ok, Checked.fmap_eq_ok] at ha
    obtain ⟨_, _, ⟨_, hname, rfl⟩, hinterface, rfl⟩ := ha
    cases hr
    refine ⟨rfl, _, rfl, rfl, ?_⟩
    simp only [Schema.slots, List.forall_mem_cons]
    exact ⟨(fills_text source).keeps_required hname rfl,
      (fills_flag source).keeps_orDefault hinterface rfl, List.forall_mem_nil _⟩

lemma isStrict_project : Schema.project.IsStrict source := by
  refine .of_record (fun _ => Checked.map_eq_andThen) (fun _ _ => Checked.not_forbids_ok) ?_ ?_
  · intro fields path
    simp [Schema.slots, (fills_optionalText source).forbids_orDefault,
      (fills_texts source).forbids_orDefault, or_assoc]
  · intro fields a r ha hr
    simp only [Checked.ap_eq_ok, Checked.fmap_eq_ok] at ha
    obtain ⟨_, _, ⟨_, _, ⟨_, _, ⟨_, hfilename, rfl⟩, hjars, rfl⟩, haux, rfl⟩, hdirs, rfl⟩ := ha
    cases hr
    refine ⟨rfl, _, rfl, rfl, ?_⟩
    simp only [Schema.slots, List.forall_mem_cons]
    exact ⟨(fills_optionalText source).keeps_orDefault hfilename rfl,
      (fills_texts source).keeps_orDefault hjars rfl, (fills_texts source).keeps_orDefault haux rfl,
      (fills_texts source).keeps_orDefault hdirs rfl, List.forall_mem_nil _⟩

lemma isStrict_collection : Schema.collection.IsStrict source := by
  refine .of_record (fun _ => Checked.map_eq_andThen) (fun _ _ => Checked.not_forbids_ok) ?_ ?_
  · intro fields path
    simp [Schema.slots, (fills_project source).forbids_required,
      (fills_classes source).forbids_orDefault, (fills_findings source).forbids_orDefault,
      (fills_texts source).forbids_orDefault, or_assoc]
  · intro fields a r ha hr
    simp only [Checked.ap_eq_ok, Checked.fmap_eq_ok] at ha
    obtain ⟨_, _, ⟨_, _, ⟨_, _, ⟨_, _, ⟨_, hproject, rfl⟩, hclasses, rfl⟩, hfindings, rfl⟩,
      herrors, rfl⟩, hmissing, rfl⟩ := ha
    cases hr
    refine ⟨rfl, _, rfl, rfl, ?_⟩
    simp only [Schema.slots, List.forall_mem_cons]
    exact ⟨(fills_project source).keeps_required hproject rfl,
      (fills_classes source).keeps_orDefault hclasses rfl,
      (fills_findings source).keeps_orDefault hfindings rfl,
      (fills_texts source).keeps_orDefault herrors rfl,
      (fills_texts source).keeps_orDefault hmissing rfl, List.forall_mem_nil _⟩

lemma Schema.isStrict {s : Schema} (h : s ≠ .anyDetail) : s.IsStrict source := by
  cases s with
  | detail form =>
    cases form with
    | inClass => exact isStrict_class source
    | inMethod => exact isStrict_method source
    | onField => exact isStrict_field source
    | atLine => exact isStrict_atLine source
    | number => exact isStrict_number source
  | anyDetail => exact absurd rfl h
  | finding => exact isStrict_finding source
  | appClass => exact isStrict_appClass source
  | project => exact isStrict_project source
  | collection => exact isStrict_collection source

end Classes

section Tagged

variable (source : Source) {fields : Fields} {form : Form} {v : Value}

lemma Detail.formOfTag?_eq_some {tag : Value} :
    formOfTag? tag = some form ↔ tag = .text form.tag := by
  constructor
  · intro h
    cases tag with
    | text tag =>
      have htag : form.tag == tag := List.find?_some (p := fun f : Form => f.tag == tag) h
      rw [eq_of_beq htag]
    | _ => cases h
  · rintro rfl
    cases form <;> rfl

lemma Detail.check_of_tag (h : Value.field? "kind" fields = some (.text form.tag)) :
    check source (.object fields) =
      (checkForm source form (.object fields)).under (.key form.tag) := by
  rw [check, h]
  dsimp only
  rw [formOfTag?_eq_some.mpr rfl]

lemma Detail.check_cases : (∃ (form : Form) (fields : Fields), v = .object fields ∧
    Value.field? "kind" fields = some (.text form.tag)) ∨
      ∃ rule, check source v = .fail rule ∧ rule ≠ .extraForbidden := by
  cases v with
  | object fields =>
    rw [check]
    split
    · exact .inr ⟨_, rfl, nofun⟩
    rename_i tag htag
    split
    · exact .inr ⟨_, rfl, nofun⟩
    · rename_i form hform
      exact .inl ⟨form, fields, rfl, formOfTag?_eq_some.mp hform ▸ htag⟩
  | _ => cases source <;> exact .inr ⟨_, rfl, nofun⟩

lemma Schema.anyDetail_eq_ok {r : Record} : anyDetail.check source v = .ok r ↔
    ∃ form fields, v = .object fields ∧ Value.field? "kind" fields = some (.text form.tag) ∧
      (detail form).check source v = .ok r := by
  constructor
  · intro h
    obtain ⟨a, ha, rfl⟩ := Checked.map_eq_ok.mp h
    obtain ⟨form, fields, rfl, hkind⟩ | ⟨rule, hfail, -⟩ := Detail.check_cases source (v := v)
    · rw [Detail.check_of_tag source hkind, Checked.under_eq_ok] at ha
      exact ⟨form, fields, rfl, hkind, Checked.map_eq_ok.mpr ⟨a, ha, rfl⟩⟩
    · rw [hfail] at ha
      cases ha
  · rintro ⟨form, fields, rfl, hkind, h⟩
    obtain ⟨a, ha, rfl⟩ := Checked.map_eq_ok.mp h
    refine Checked.map_eq_ok.mpr ⟨a, ?_, rfl⟩
    rw [Detail.check_of_tag source hkind, Checked.under_eq_ok, ha]

lemma Schema.forbids_anyDetail {path : List Step} : (anyDetail.check source v).Forbids path ↔
    ∃ form fields rest, v = .object fields ∧ Value.field? "kind" fields = some (.text form.tag) ∧
      path = .key form.tag :: rest ∧ ((detail form).check source v).Forbids rest := by
  change ((Detail.check source v).map Record.detail).Forbids path ↔ _
  rw [Checked.forbids_map]
  constructor
  · intro h
    obtain ⟨form, fields, rfl, hkind⟩ | ⟨rule, hfail, hrule⟩ := Detail.check_cases source (v := v)
    · rw [Detail.check_of_tag source hkind, Checked.forbids_under] at h
      obtain ⟨rest, rfl, h⟩ := h
      exact ⟨form, fields, rest, rfl, hkind, rfl, Checked.forbids_map.mpr h⟩
    · rw [hfail, Checked.forbids_fail] at h
      exact absurd h.1.symm hrule
  · rintro ⟨form, fields, rest, rfl, hkind, rfl, h⟩
    rw [Detail.check_of_tag source hkind, Checked.forbids_under]
    exact ⟨rest, rfl, Checked.forbids_map.mp h⟩

end Tagged

end BugArchive.Contract
