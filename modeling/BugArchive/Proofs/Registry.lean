import BugArchive.Proofs.Fallible
import BugArchive.Registry

namespace BugArchive.Registry

lemma get?_builtin (k : Kind) : builtin.get? k.tag = some k := by
  cases k <;> decide

lemma eq_tag_of_get?_builtin {tag : String} {k : Kind} (h : builtin.get? tag = some k) :
    tag = k.tag := by
  have hall : ∀ b ∈ builtin.bindings, b.1 = b.2.tag := by decide
  exact hall _ (mem_of_lookup h)

lemma get?_bind {τ : Type} (r : Registry τ) (tag n : String) (t : τ) :
    (r.bind tag t).get? n = if n = tag then some t else r.get? n := by
  by_cases h : n = tag
  · rw [if_pos h, h]
    exact List.lookup_cons_self
  rw [if_neg h]
  refine (lookup_cons_of_ne t h).trans ?_
  rw [get?]
  induction r.bindings with
  | nil => rfl
  | cons b bs ih =>
    by_cases hb : b.1 = tag
    · rw [List.filter_cons_of_neg (by simpa using hb), ih, lookup_cons_of_ne b.2 (hb ▸ h)]
    · rw [List.filter_cons_of_pos (by simpa using hb), List.lookup_cons, List.lookup_cons, ih]

def Extends (r' r : Registry) : Prop :=
  ∀ tag k, r.get? tag = some k → r'.get? tag = some k

lemma extends_bind {r : Registry} {tag : String} {k : Kind} (h : r.get? tag = none) :
    (r.bind tag k).Extends r := by
  intro n j hn
  rw [get?_bind, if_neg, hn]
  rintro rfl
  rw [h] at hn
  cases hn

end BugArchive.Registry
