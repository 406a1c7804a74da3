import BugArchive.Proofs.Contract.Number

namespace BugArchive.Contract

open Json (Value)
open Text.Numeral (IsShort)

section Plain

variable {k : Nat}

lemma isPlain_ofOption {α : Type} {toJson : α → Value} {a : Option α}
    (h : ∀ x ∈ a, (toJson x).IsPlain k) : (Value.ofOption toJson a).IsPlain k := by
  cases a with
  | none => exact .null
  | some a => exact h a rfl

lemma isPlain_list {α : Type} {toJson : α → Value} {as : List α}
    (h : ∀ a ∈ as, (toJson a).IsPlain k) : (Value.list (as.map toJson)).IsPlain (k + 1) :=
  .list (List.forall_mem_map.mpr h)

lemma isPlain_textList (ss : List String) : (textList ss).IsPlain (k + 1) :=
  isPlain_list fun s _ => .text s

lemma SourceLine.isPlain_toJson (l : SourceLine) : l.toJson.IsPlain (k + 1) := by
  refine .object (by simp [tagField]) ?_
  simp [tagField, isPlain_ofOption]

lemma Detail.isPlain_toJson (a : Detail) : a.toJson.IsPlain (k + 2) := by
  cases a with
  | inMethod className name signature lines =>
    refine .object (by simp [tagField]) ?_
    simp [tagField, isPlain_ofOption, SourceLine.isPlain_toJson]
  | atLine line => exact line.isPlain_toJson
  | _ => exact .object (by simp [tagField]) (by simp [tagField])

lemma Finding.isPlain_toJson (f : Finding) : f.toJson.IsPlain (k + 4) := by
  refine .object (by simp) ?_
  simp [isPlain_list, Detail.isPlain_toJson]

lemma AppClass.isPlain_toJson (c : AppClass) : c.toJson.IsPlain (k + 1) :=
  .object (by simp) (by simp)

lemma Project.isPlain_toJson (p : Project) : p.toJson.IsPlain (k + 2) := by
  refine .object (by simp) ?_
  simp [isPlain_ofOption, isPlain_textList]

lemma Collection.isPlain_toJson (c : Collection) : c.toJson.IsPlain (k + 6) := by
  refine .object (by simp) ?_
  simp [isPlain_list, isPlain_textList, Project.isPlain_toJson, AppClass.isPlain_toJson,
    Finding.isPlain_toJson]

lemma Record.isPlain_toJson (r : Record) : r.toJson.IsPlain limits.depth := by
  cases r with
  | detail a => exact a.isPlain_toJson
  | finding f => exact f.isPlain_toJson
  | appClass c => exact c.isPlain_toJson
  | project p => exact p.isPlain_toJson
  | collection c => exact c.isPlain_toJson

end Plain

def Schema.redump (s : Schema) (input : String) : Checked String :=
  (s.read input).map fun r => r.toJson.compact

section Dumps

variable {s : Schema} {r : Record}

lemma length_of_hasShortNumbers {v : Value} (h : v.HasShortNumbers) (n : Int) (hn : v.Holds n) :
    (Nat.toDigits 10 n.natAbs).length ≤ limits.digits :=
  Text.Numeral.isShort_iff_length.mp (h n hn)

lemma Schema.read_of_value {text : String} (ht : Json.read limits text = some r.toJson)
    (hr : s.Admits r) : s.read text = .ok r := by
  rw [Schema.read, ht]
  exact check_toJson .text hr

lemma Schema.redump_of_read {text : String} (h : s.read text = .ok r) :
    s.redump text = .ok r.toJson.compact := by
  rw [redump, h]
  rfl

variable (hr : s.Admits r) (hs : r.toJson.HasShortNumbers)

include hr hs

lemma Schema.read_compact : s.read r.toJson.compact = .ok r :=
  read_of_value (Json.read_compact r.isPlain_toJson (length_of_hasShortNumbers hs)) hr

lemma Schema.read_indented : s.read r.toJson.indented = .ok r :=
  read_of_value (Json.read_indented r.isPlain_toJson (length_of_hasShortNumbers hs)) hr

end Dumps

lemma hasShortNumbers_of_read {input : String} {v : Value}
    (h : Json.read limits input = some v) : v.HasShortNumbers :=
  fun _ hn => Text.Numeral.isShort_iff_length.mpr (Json.holds_read h hn)

/-- A record without too long integers is read from its own text, on one line or on many, as
itself. Whatever a schema takes becomes such a record, however its integers and flags were given,
so the text of what was read is kept as it is when it is read and written again. -/
theorem Schema.read_dump (s : Schema) :
    (∀ r, s.Admits r → r.toJson.HasShortNumbers →
      s.read r.toJson.compact = .ok r ∧ s.read r.toJson.indented = .ok r ∧
        s.redump r.toJson.compact = .ok r.toJson.compact) ∧
    (∀ source v r, v.HasShortNumbers → s.check source v = .ok r →
      s.read r.toJson.compact = .ok r ∧ s.redump r.toJson.compact = .ok r.toJson.compact) ∧
    ∀ input output, s.redump input = .ok output → s.redump output = .ok output := by
  have hchecked {source : Source} {v : Value} {r : Record} (hv : v.HasShortNumbers)
      (h : s.check source v = .ok r) : s.read r.toJson.compact = .ok r := by
    obtain ⟨hr, hs⟩ := s.yields source v r hv h
    exact read_compact hr hs
  refine ⟨fun r hr hs => ?_, fun source v r hv h => ?_, fun input output h => ?_⟩
  · have hread := read_compact hr hs
    exact ⟨hread, read_indented hr hs, redump_of_read hread⟩
  · have hread := hchecked hv h
    exact ⟨hread, redump_of_read hread⟩
  · obtain ⟨r, hr, rfl⟩ := Checked.map_eq_ok.mp h
    rw [read] at hr
    split at hr
    · cases hr
    · rename_i v hv
      exact redump_of_read (hchecked (hasShortNumbers_of_read hv) hr)

def sample : Collection where
  project := ⟨some "demo.fb", ["demo.jar"], [], []⟩
  classes := [⟨"Api", true⟩]
  findings := [⟨"NP", 1, [.inMethod "Api" "call\"\\\n\x01" "()V" (some ⟨"Api", 4, 9, -1, -1, none⟩),
    .number (-7)], by decide, by decide⟩]
  errors := ["boom"]
  missing := []

theorem Schema.read_dump_sample :
    Schema.collection.Admits (.collection sample) ∧
      (Record.collection sample).toJson.HasShortNumbers ∧
      Schema.collection.read (Record.collection sample).toJson.compact = .ok (.collection sample) ∧
      (Schema.detail .number).redump "\x7b\"value\": \"+07.0\"\x7d" =
        .ok "\x7b\"kind\":\"Int\",\"value\":7\x7d" ∧
      (Schema.detail .number).redump "\x7b\"kind\":\"Int\",\"value\":7\x7d" =
        .ok "\x7b\"kind\":\"Int\",\"value\":7\x7d" := by
  have hr : Schema.collection.Admits (.collection sample) := .inl rfl
  have hs : (Record.collection sample).toJson.HasShortNumbers := by
    have hsmall : ∀ n ∈ ([1, 4, 9, -1, -7] : List Int), IsShort n := fun n hn =>
      Text.Numeral.isShort_of_lt_ten ((by decide : ∀ n ∈ ([1, 4, 9, -1, -7] : List Int), n.natAbs < 10) n hn)
    simp [Record.toJson, Collection.toJson, Project.toJson, AppClass.toJson, Finding.toJson,
      Detail.toJson, SourceLine.toJson, sample, tagField, textList, Value.ofOption, hsmall]
  have hinput : (Schema.detail .number).redump "\x7b\"value\": \"+07.0\"\x7d" =
      .ok "\x7b\"kind\":\"Int\",\"value\":7\x7d" := by
    rfl
  exact ⟨hr, hs, ((read_dump _).1 _ hr hs).1, hinput, (read_dump _).2.2 _ _ hinput⟩

end BugArchive.Contract
