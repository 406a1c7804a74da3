import BugArchive.Json.Value
import Mathlib.Data.List.Nodup
import Mathlib.Tactic.Lemma

namespace BugArchive.Json.Value

section Fields

variable {f : String × Value} {fs : List (String × Value)}

lemma mem_of_field? {name : String} {v : Value} (h : field? name fs = some v) : (name, v) ∈ fs := by
  obtain ⟨front, back, hfs, -⟩ := List.lookup_eq_some_iff.mp h
  exact List.mem_reverse.mp (hfs ▸ List.mem_append_right front List.mem_cons_self)

lemma field?_of_mem (h : (fs.map Prod.fst).Nodup) (hf : f ∈ fs) : field? f.1 fs = some f.2 := by
  obtain ⟨front, back, rfl⟩ := List.append_of_mem hf
  have hback : back.reverse.lookup f.1 = none := by
    rw [List.map_append, List.map_cons, List.nodup_append] at h
    refine List.lookup_eq_none_iff.mpr fun g hg => bne_iff_ne.mpr fun heq => ?_
    exact (List.nodup_cons.mp h.2.1).1 (heq ▸ List.mem_map_of_mem (List.mem_reverse.mp hg))
  rw [field?, List.reverse_append, List.reverse_cons, List.append_assoc, List.lookup_append,
    hback, Option.none_or, List.singleton_append, List.lookup_cons_self]

end Fields

inductive Holds (n : Int) : Value → Prop
  | here : Holds n (.int n)
  | item {v : Value} {vs : List Value} : v ∈ vs → Holds n v → Holds n (.list vs)
  | field {f : String × Value} {fs : List (String × Value)} :
      f ∈ fs → Holds n f.2 → Holds n (.object fs)

section Holds

variable {n : Int}

@[simp] lemma holds_int {m : Int} : Holds n (.int m) ↔ n = m := by
  refine ⟨fun h => ?_, fun h => h ▸ .here⟩
  cases h
  rfl

@[simp] lemma holds_list {vs : List Value} : Holds n (.list vs) ↔ ∃ v ∈ vs, v.Holds n := by
  refine ⟨fun h => ?_, fun ⟨v, hv, h⟩ => .item hv h⟩
  cases h with
  | item hv h => exact ⟨_, hv, h⟩

@[simp] lemma holds_object {fs : List (String × Value)} :
    Holds n (.object fs) ↔ ∃ f ∈ fs, f.2.Holds n := by
  refine ⟨fun h => ?_, fun ⟨f, hf, h⟩ => .field hf h⟩
  cases h with
  | field hf h => exact ⟨_, hf, h⟩

@[simp] lemma not_holds_null : ¬ Holds n .null := by
  rintro ⟨⟩

@[simp] lemma not_holds_bool {b : Bool} : ¬ Holds n (.bool b) := by
  rintro ⟨⟩

@[simp] lemma not_holds_decimal {m e : Int} : ¬ Holds n (.decimal m e) := by
  rintro ⟨⟩

@[simp] lemma not_holds_nonFinite : ¬ Holds n .nonFinite := by
  rintro ⟨⟩

@[simp] lemma not_holds_text {s : String} : ¬ Holds n (.text s) := by
  rintro ⟨⟩

end Holds

/-- Values of integers, texts and flags in which no object has two fields of one name, by how far
their lists and objects may nest. -/
inductive IsPlain : Nat → Value → Prop
  | null {k : Nat} : IsPlain k .null
  | bool {k : Nat} (b : Bool) : IsPlain k (.bool b)
  | int {k : Nat} (n : Int) : IsPlain k (.int n)
  | text {k : Nat} (s : String) : IsPlain k (.text s)
  | list {k : Nat} {vs : List Value} : (∀ v ∈ vs, IsPlain k v) → IsPlain (k + 1) (.list vs)
  | object {k : Nat} {fs : List (String × Value)} : (fs.map Prod.fst).Nodup →
      (∀ f ∈ fs, IsPlain k f.2) → IsPlain (k + 1) (.object fs)

attribute [simp] IsPlain.null IsPlain.bool IsPlain.int IsPlain.text

end BugArchive.Json.Value
