import BugArchive.Proofs.Archive.Section
import BugArchive.Proofs.Finding.Fault

namespace BugArchive

open Xml (Element)

lemma PathKind.isSome_ofTag?_iff {tag : String} :
    (ofTag? tag).isSome ↔ tag ∈ ["Jar", "AuxClasspathEntry", "SrcDir"] := by
  simp [ofTag?, List.find?_isSome, all, PathKind.tag, @eq_comm _ tag]

namespace Section

variable (r : Registry)

inductive IsSection (e : Element) : Prop where
  | sourceMap (ht : e.tag = "SrcMap")
  | project (ht : e.tag = "Project")
    (hc : ∀ c ∈ e.children, c.tag ∈ ["Jar", "AuxClasspathEntry", "SrcDir"])
  | errors (ht : e.tag = "Errors") (hc : ∀ c ∈ e.children, c.tag ∈ ["AnalysisError", "MissingClass"])
  | appClass (ht : e.tag = "AppClass")
  | finding (ht : e.tag ∉ ownTags) (hf : Decode.IsFinding r e)

def strangers (tags : List String) (es : List Element) : List Error :=
  (es.filter fun e => e.tag ∉ tags).map fun e => .unknownElement e.tag

def faults (e : Element) : List Error :=
  if e.tag = "SrcMap" then []
  else if e.tag = "Project" then strangers ["Jar", "AuxClasspathEntry", "SrcDir"] e.children
  else if e.tag = "Errors" then strangers ["AnalysisError", "MissingClass"] e.children
  else if e.tag = "AppClass" then []
  else Decode.topLevelFaults r e

section Strangers

variable {tags : List String} {e : Element} {es : List Element}

lemma strangers_eq_nil : strangers tags es = [] ↔ ∀ e ∈ es, e.tag ∈ tags := by
  simp [strangers]

lemma strangers_cons_of_mem (h : e.tag ∈ tags) : strangers tags (e :: es) = strangers tags es := by
  simp [strangers, h]

lemma head?_strangers_cons (h : e.tag ∉ tags) :
    (strangers tags (e :: es)).head? = some (.unknownElement e.tag) := by
  simp [strangers, h]

lemma strangers_isReported : (strangers tags es).all Error.isReported := by
  rw [strangers, List.all_map, List.all_eq_true]
  exact fun e _ => rfl

end Strangers

/-- Whether an element is a finding with something in it that stands too deep to be followed. -/
def IsTooDeep [Machine] (e : Element) : Prop :=
  e.tag ∉ ownTags ∧ r.get? e.tag = some .finding ∧ Decode.IsTooDeep r 0 e

def AnyTooDeep [Machine] (es : List Element) : Prop :=
  ∃ front e back, es = front ++ e :: back ∧ (∀ x ∈ front, ∃ s, ofElement r x = .ok s) ∧
    IsTooDeep r e

variable {r}

lemma faults_eq_nil {e : Element} : faults r e = [] ↔ IsSection r e := by
  constructor
  · intro h
    unfold faults at h
    split at h
    · exact .sourceMap ‹_›
    rename_i hmap
    split at h
    · exact .project ‹_› (strangers_eq_nil.mp h)
    rename_i hproject
    split at h
    · exact .errors ‹_› (strangers_eq_nil.mp h)
    rename_i herrors
    split at h
    · exact .appClass ‹_›
    rename_i hclass
    refine .finding ?_ (Decode.topLevelFaults_eq_nil.mp h)
    simp [ownTags, hmap, hproject, herrors, hclass]
  · intro h
    cases h with
    | sourceMap ht => simp [faults, ht]
    | project ht hc => simpa [faults, ht] using strangers_eq_nil.mpr hc
    | errors ht hc => simpa [faults, ht] using strangers_eq_nil.mpr hc
    | appClass ht => simp [faults, ht]
    | finding ht hf =>
      simp only [ownTags, List.mem_cons, List.not_mem_nil, or_false, not_or] at ht
      simpa [faults, ht] using Decode.topLevelFaults_eq_nil.mpr hf

lemma tellsFirst_validate (es : List Element) :
    TellsFirst (Project.validate es) (strangers ["Jar", "AuxClasspathEntry", "SrcDir"] es) := by
  induction es with
  | nil => exact tellsFirst_ok ()
  | cons e es ih =>
    unfold Project.validate
    split
    · rename_i k hk
      rw [strangers_cons_of_mem (PathKind.isSome_ofTag?_iff.mp (Option.isSome_of_eq_some hk))]
      exact ih
    · rename_i hk
      exact head?_strangers_cons fun h => by simpa [hk] using PathKind.isSome_ofTag?_iff.mpr h

lemma tellsFirst_errorLists (es : List Element) :
    TellsFirst (errorLists es) (strangers ["AnalysisError", "MissingClass"] es) := by
  induction es with
  | nil => exact tellsFirst_ok _
  | cons e es ih =>
    unfold errorLists
    split
    · rename_i ht
      rw [strangers_cons_of_mem (by simp [ht])]
      exact tellsFirst_map.mpr ih
    rename_i hmessage
    split
    · rename_i ht
      rw [strangers_cons_of_mem (by simp [ht])]
      exact tellsFirst_map.mpr ih
    rename_i hmissing
    exact head?_strangers_cons (by simp [hmessage, hmissing])

lemma tellsFirst_ofElement [Machine] {e : Element} (h : ¬ IsTooDeep r e) :
    TellsFirst (ofElement r e) (faults r e) := by
  unfold ofElement faults
  split
  · exact tellsFirst_ok _
  rename_i hmap
  split
  · exact tellsFirst_map.mpr (tellsFirst_validate e.children)
  rename_i hproject
  split
  · exact tellsFirst_map.mpr (tellsFirst_errorLists e.children)
  rename_i herrors
  split
  · exact tellsFirst_ok _
  rename_i hclass
  refine tellsFirst_map.mpr (Decode.tellsFirst_topLevel fun hd => h ⟨?_, hd⟩)
  simp [ownTags, hmap, hproject, herrors, hclass]

lemma ofElement_of_isTooDeep [Machine] {e : Element} (h : IsTooDeep r e) :
    ofElement r e = .error .nestedTooDeep := by
  obtain ⟨ht, hk, hd⟩ := h
  simp only [ownTags, List.mem_cons, List.not_mem_nil, or_false, not_or] at ht
  obtain ⟨hmap, hproject, herrors, hclass⟩ := ht
  rw [ofElement, if_neg hmap, if_neg hproject, if_neg herrors, if_neg hclass,
    Decode.topLevel_of_isTooDeep hk hd]
  rfl

lemma not_isTooDeep_of_isSection [Machine] {e : Element} (h : IsSection r e) : ¬ IsTooDeep r e := by
  rintro ⟨ht, -, hd⟩
  cases h with
  | finding _ hf => exact Decode.not_isTooDeep_of_isFinding hf hd
  | sourceMap hown | project hown | errors hown | appClass hown => exact ht (by simp [ownTags, hown])

lemma ofElement_succeeds_iff [Machine] {e : Element} : (∃ s, ofElement r e = .ok s) ↔ IsSection r e := by
  by_cases h : IsTooDeep r e
  · refine iff_of_false ?_ fun hs => not_isTooDeep_of_isSection hs h
    rw [ofElement_of_isTooDeep h]
    rintro ⟨s, hs⟩
    cases hs
  · exact (tellsFirst_ofElement h).succeeds_iff.trans faults_eq_nil

section All

variable {es : List Element}

lemma tellsFirst_mapM_ofElement [Machine] (h : ¬ AnyTooDeep r es) :
    TellsFirst (es.mapM (ofElement r)) (es.flatMap (faults r)) := by
  refine tellsFirst_mapM fun front e back hes hfront => tellsFirst_ofElement fun hd => ?_
  exact h ⟨front, e, back, hes, hfront, hd⟩

lemma mapM_of_anyTooDeep [Machine] (h : AnyTooDeep r es) : es.mapM (ofElement r) = .error .nestedTooDeep := by
  obtain ⟨front, e, back, hes, hfront, hd⟩ := h
  exact mapM_eq_error.mpr ⟨front, e, back, hes, hfront, ofElement_of_isTooDeep hd⟩

lemma faults_isReported (es : List Element) : (es.flatMap (faults r)).all Error.isReported := by
  rw [List.all_flatMap, List.all_eq_true]
  intro e _
  unfold faults
  split
  · rfl
  split
  · exact strangers_isReported
  split
  · exact strangers_isReported
  split
  · rfl
  · exact Decode.topLevelFaults_isReported e

lemma decodeAll_of_not_anyTooDeep [Machine] (h : ¬ AnyTooDeep r es) :
    (decodeAll r es).2 = (es.flatMap (faults r)).head? := by
  have ht := tellsFirst_mapM_ofElement h
  cases hm : es.mapM (ofElement r) with
  | ok sections =>
    rw [hm] at ht
    rw [decodeAll_eq_ok hm, show es.flatMap (faults r) = [] from ht]
    rfl
  | error err =>
    rw [hm] at ht
    rw [decodeAll_eq_error hm]
    exact ht.symm

lemma decodeAll_eq_none [Machine] : (decodeAll r es).2 = none ↔ ∀ e ∈ es, IsSection r e := by
  simp only [← ofElement_succeeds_iff, ← mapM_succeeds_iff]
  cases hm : es.mapM (ofElement r) with
  | ok sections => simp [decodeAll_eq_ok hm]
  | error err => simp [decodeAll_eq_error hm]

lemma head?_faults_ne : (es.flatMap (faults r)).head? ≠ some .nestedTooDeep := by
  intro h
  have hr := List.all_eq_true.mp (faults_isReported es) _ (List.mem_of_mem_head? h)
  cases hr

end All

/-- A document is decoded exactly if all under its root follows the grammar. What it is refused for
otherwise is the first fault in it, unless findings go too deep before there is one. -/
theorem decodeAll_first_fault [Machine] (r : Registry) (es : List Element) :
    (∀ e, faults r e = [] ↔ IsSection r e) ∧
    ((decodeAll r es).2 = none ↔ ∀ e ∈ es, IsSection r e) ∧
    ((decodeAll r es).2 = (es.flatMap (faults r)).head? ↔ ¬ AnyTooDeep r es) ∧
    ((decodeAll r es).2 = some .nestedTooDeep ↔ AnyTooDeep r es) := by
  have hdeep (hd : AnyTooDeep r es) : (decodeAll r es).2 = some .nestedTooDeep :=
    decodeAll_eq_error (mapM_of_anyTooDeep hd)
  refine ⟨fun e => faults_eq_nil, decodeAll_eq_none, ⟨fun h hd => ?_, decodeAll_of_not_anyTooDeep⟩,
    fun h => ?_, hdeep⟩
  · exact head?_faults_ne (h.symm.trans (hdeep hd))
  · refine Classical.byContradiction fun hd => ?_
    exact head?_faults_ne ((decodeAll_of_not_anyTooDeep hd).symm.trans h)

section Nest

def around (cs : List Element) : Element :=
  ⟨"BugInstance", [("type", "NP")], "", cs⟩

def nest : Nat → Element
  | 0 => around []
  | n + 1 => around [nest n]

lemma tag_nest (n : Nat) : (nest n).tag = "BugInstance" := by
  cases n <;> rfl

lemma get?_nest (n : Nat) : Registry.builtin.get? (nest n).tag = some .finding := by
  rw [tag_nest]
  rfl

lemma hasParts_around (cs : List Element) : Decode.HasParts (around cs) :=
  ⟨⟨"NP", rfl⟩, Finding.normalPriority, rfl⟩

lemma isTooDeep_nest [Machine] {around n : Nat} (h : Machine.room < around + n + 3) :
    Decode.IsTooDeep .builtin around (nest (n + 1)) := by
  have hp := hasParts_around [nest n]
  have hc : (nest (n + 1)).children = [] ++ nest n :: [] := rfl
  by_cases hroom : Machine.room < around + 1 + 2
  · exact .here hp hc (fun x hx => by cases hx) (get?_nest n) hroom
  cases n with
  | zero => exact absurd h hroom
  | succ n =>
    have hd : Decode.IsTooDeep .builtin (around + 1) (nest (n + 1)) := isTooDeep_nest (by omega)
    exact .inside hp hc (fun x hx => by cases hx) (get?_nest (n + 1)) hd

lemma findingFaults_around (cs : List Element) :
    Decode.findingFaults .builtin (around cs) = cs.flatMap (Decode.detailFaults .builtin) := by
  rw [Decode.findingFaults_eq]
  rfl

lemma findingFaults_nest (n : Nat) : Decode.findingFaults .builtin (nest n) =
    List.replicate n (.notADetail "BugInstance") := by
  induction n with
  | zero => exact findingFaults_around []
  | succ n ih =>
    rw [nest, findingFaults_around, List.flatMap_singleton,
      Decode.detailFaults_finding (get?_nest n), ih, tag_nest, List.replicate_succ']

lemma decodeAll_nest_of_room [Machine] {n : Nat} (h : Machine.room < n + 3) :
    (decodeAll .builtin [nest (n + 1)]).2 = some .nestedTooDeep := by
  have hown : (nest (n + 1)).tag ∉ ownTags := by
    rw [tag_nest]
    decide
  have hd : Decode.IsTooDeep .builtin 0 (nest (n + 1)) :=
    isTooDeep_nest ((Nat.zero_add n).symm ▸ h)
  exact decodeAll_eq_error (mapM_of_anyTooDeep ⟨[], nest (n + 1), [], rfl,
    (fun x hx => by cases hx), hown, get?_nest _, hd⟩)

lemma head?_faults_nest (n : Nat) : ([nest (n + 1)].flatMap (faults .builtin)).head? =
    some (.notADetail "BugInstance") := by
  rw [List.flatMap_singleton, faults, tag_nest, Decode.topLevelFaults_finding (get?_nest _),
    findingFaults_nest]
  rfl

section Usual

attribute [local instance] Machine.usual

theorem decodeAll_nest : (decodeAll .builtin [nest 1499]).2 = some .nestedTooDeep ∧
    ([nest 1499].flatMap (faults .builtin)).head? = some (.notADetail "BugInstance") :=
  ⟨decodeAll_nest_of_room (by decide), head?_faults_nest 1498⟩

end Usual

end Nest

end Section

end BugArchive
