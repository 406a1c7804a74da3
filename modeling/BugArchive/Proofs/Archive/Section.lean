import BugArchive.Archive.Section
import BugArchive.Proofs.Fallible

namespace BugArchive

open Xml (Element)

namespace Section

section Members

variable {sections : List Section}

lemma mem_filterMap_iff {α : Type} (f : Section → Option α) (g : α → Section)
    (h : ∀ s a, f s = some a ↔ s = g a) {a : α} : a ∈ sections.filterMap f ↔ g a ∈ sections := by
  simp only [List.mem_filterMap, h, exists_eq_right]

lemma mem_projects {e : Element} : e ∈ sections.filterMap project? ↔ .project e ∈ sections :=
  mem_filterMap_iff project? .project fun s e => by cases s <;> simp [project?]

lemma mem_entries {p : String × String} :
    p ∈ sections.filterMap entry? ↔ .sourceMap (some p) ∈ sections :=
  mem_filterMap_iff entry? (fun p => .sourceMap (some p)) fun s p => by
    unfold entry?
    cases s <;> simp

lemma mem_findings {f : Finding} : f ∈ sections.filterMap finding? ↔ .finding f ∈ sections :=
  mem_filterMap_iff finding? .finding fun s f => by cases s <;> simp [finding?]

lemma mem_classes {k : String × Bool} :
    k ∈ sections.filterMap appClass? ↔ .appClass k.1 k.2 ∈ sections :=
  mem_filterMap_iff appClass? (fun k => .appClass k.1 k.2) fun s k => by
    cases s <;> simp [appClass?, Prod.ext_iff]

lemma mem_messages {m : String} :
    m ∈ sections.flatMap messages ↔ ∃ ms ns, .errors ms ns ∈ sections ∧ m ∈ ms := by
  rw [List.mem_flatMap]
  constructor
  · rintro ⟨s, hs, hm⟩
    cases s with
    | errors ms ns => exact ⟨ms, ns, hs, hm⟩
    | _ => cases hm
  · rintro ⟨ms, ns, hs, hm⟩
    exact ⟨_, hs, hm⟩

lemma mem_missing {n : String} :
    n ∈ sections.flatMap missing ↔ ∃ ms ns, .errors ms ns ∈ sections ∧ n ∈ ns := by
  rw [List.mem_flatMap]
  constructor
  · rintro ⟨s, hs, hn⟩
    cases s with
    | errors ms ns => exact ⟨ms, ns, hs, hn⟩
    | _ => cases hn
  · rintro ⟨ms, ns, hs, hn⟩
    exact ⟨_, hs, hn⟩

end Members

def IsValid : Section → Prop
  | .project e => Project.validate e.children = .ok ()
  | _ => True

def ownTags : List String := ["SrcMap", "Project", "Errors", "AppClass"]

variable [Machine] {r : Registry} {es : List Element} {sections : List Section}

lemma ofElement_cases {e : Element} {s : Section} (h : ofElement r e = .ok s) :
    (e.tag = "SrcMap" ∧ s = .sourceMap (sourceMapEntry e)) ∨
    (e.tag = "Project" ∧ Project.validate e.children = .ok () ∧ s = .project e) ∨
    (e.tag = "Errors" ∧ ∃ l, errorLists e.children = .ok l ∧ s = .errors l.1 l.2) ∨
    (e.tag = "AppClass" ∧ s = .appClass e.text (Decode.isTrue e "interface")) ∨
    (e.tag ∉ ownTags ∧ ∃ f, Decode.topLevel r e = .ok f ∧ s = .finding f) := by
  unfold ofElement at h
  split at h
  · rename_i htag
    exact .inl ⟨htag, (Except.ok.inj h).symm⟩
  split at h
  · rename_i htag
    obtain ⟨⟨⟩, hv, rfl⟩ := map_eq_ok.mp h
    exact .inr (.inl ⟨htag, hv, rfl⟩)
  split at h
  · rename_i htag
    obtain ⟨l, hl, rfl⟩ := map_eq_ok.mp h
    exact .inr (.inr (.inl ⟨htag, l, hl, rfl⟩))
  split at h
  · rename_i htag
    exact .inr (.inr (.inr (.inl ⟨htag, (Except.ok.inj h).symm⟩)))
  · rename_i hmap hproject herrors hclass
    obtain ⟨f, hf, rfl⟩ := map_eq_ok.mp h
    exact .inr (.inr (.inr (.inr
      ⟨by simp [ownTags, hmap, hproject, herrors, hclass], f, hf, rfl⟩)))

lemma isValid_of_ofElement {e : Element} {s : Section} (h : ofElement r e = .ok s) : s.IsValid := by
  obtain ⟨-, rfl⟩ | ⟨-, hv, rfl⟩ | ⟨-, l, -, rfl⟩ | ⟨-, rfl⟩ | ⟨-, f, -, rfl⟩ := ofElement_cases h
  · trivial
  · exact hv
  · trivial
  · trivial
  · trivial

lemma isValid_of_mapM (h : es.mapM (ofElement r) = .ok sections) : ∀ s ∈ sections, s.IsValid := by
  intro s hs
  obtain ⟨e, -, he⟩ := exists_of_mapM_ok h hs
  exact isValid_of_ofElement he

lemma decodeAll_eq_ok (h : es.mapM (ofElement r) = .ok sections) :
    decodeAll r es = (sections, none) := by
  induction es generalizing sections with
  | nil =>
    obtain rfl := Except.ok.inj h
    rfl
  | cons e es ih =>
    obtain ⟨s, ss, hs, hss, rfl⟩ := mapM_cons_ok.mp h
    simp only [decodeAll, hs, ih hss]

lemma decodeAll_eq_error {err : Error} (h : es.mapM (ofElement r) = .error err) :
    (decodeAll r es).2 = some err := by
  induction es with
  | nil => cases h
  | cons e es ih =>
    rw [List.mapM_cons] at h
    rw [decodeAll]
    cases hs : ofElement r e with
    | error err' =>
      rw [hs] at h
      exact congrArg some (Except.error.inj h)
    | ok s =>
      cases hss : es.mapM (ofElement r) with
      | error err' =>
        rw [hs, hss] at h
        exact ih (hss.trans (congrArg Except.error (Except.error.inj h)))
      | ok ss =>
        rw [hs, hss] at h
        cases h

end Section

end BugArchive
