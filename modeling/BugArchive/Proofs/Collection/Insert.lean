import BugArchive.Proofs.Collection.Basic
import BugArchive.Proofs.Collection.Key

/-! Inserting findings: the others stay as they are, the order is kept, and nothing is there
twice. -/

namespace BugArchive.Collection

open Finding

def IsSorted (fs : List Finding) : Prop :=
  fs.Pairwise fun f g => g.key.precedes f.key = false

lemma insert_of_mem {fs : List Finding} {f : Finding} (h : f ∈ fs) : insert fs f = fs :=
  if_pos (by simpa using h)

lemma insert_split {fs : List Finding} {f : Finding} (h : f ∉ fs) :
    ∃ front back, fs = front ++ back ∧ insert fs f = front ++ f :: back ∧
      (∀ g ∈ front.getLast?, f.key.precedes g.key = false) ∧
      ∀ g ∈ back.head?, f.key.precedes g.key = true := by
  let keys := (fs.map Finding.key).toArray
  have hk (i : Nat) : keys[i]? = fs[i]?.map Finding.key := by simp [keys]
  obtain ⟨⟨-, hle⟩, hbefore, hat⟩ := insertionPoint_spec f.key keys (Nat.zero_le fs.length)
  have hi : insert fs f = insertAt fs (insertionPoint f.key keys 0 fs.length) f :=
    if_neg (by simpa using h)
  generalize insertionPoint f.key keys 0 fs.length = i at hle hbefore hat hi
  refine ⟨fs.take i, fs.drop i, (List.take_append_drop i fs).symm, hi, fun g hg => ?_, fun g hg => ?_⟩
  · cases i with
    | zero => simp at hg
    | succ i =>
      have hb := hbefore i rfl (Nat.zero_le i)
      rw [List.getLast?_take] at hg
      have hget : fs[i]? = some fs[i] := List.getElem?_eq_getElem (by omega)
      simp only [Nat.add_one_ne_zero, if_false, Nat.add_sub_cancel, hget, Option.some_or,
        Option.mem_def, Option.some.injEq] at hg
      rw [hk, hget, hg] at hb
      exact hb
  · rw [List.head?_drop] at hg
    have hlt : i < fs.length := (List.getElem?_eq_some_iff.mp hg).1
    have ha := hat hlt
    rw [hk, hg] at ha
    exact ha

lemma mem_insert {fs : List Finding} {f g : Finding} : g ∈ insert fs f ↔ g = f ∨ g ∈ fs := by
  by_cases h : f ∈ fs
  · rw [insert_of_mem h]
    refine ⟨.inr, ?_⟩
    rintro (rfl | hg)
    · exact h
    · exact hg
  · obtain ⟨front, back, hs, hi, -⟩ := insert_split h
    rw [hi, hs]
    simp only [List.mem_append, List.mem_cons]
    exact or_left_comm

lemma nodup_insert {fs : List Finding} (h : fs.Nodup) (f : Finding) : (insert fs f).Nodup := by
  by_cases hf : f ∈ fs
  · rwa [insert_of_mem hf]
  · obtain ⟨front, back, rfl, hi, -⟩ := insert_split hf
    rw [hi]
    exact List.perm_middle.nodup_iff.mpr (List.nodup_cons.mpr ⟨hf, h⟩)

lemma not_precedes_of_mem_front {front back : List Finding} {f g : Finding}
    (h : IsSorted (front ++ back)) (hf : ∀ g ∈ front.getLast?, f.key.precedes g.key = false)
    (hg : g ∈ front) : f.key.precedes g.key = false := by
  cases hl : front.getLast? with
  | none =>
    rw [List.getLast?_eq_none_iff] at hl
    subst hl
    cases hg
  | some l =>
    obtain ⟨init, rfl⟩ := List.getLast?_eq_some_iff.mp hl
    have hlast := hf l hl
    rcases List.mem_append.mp hg with hg | hg
    · have hp := (List.pairwise_append.mp (List.pairwise_append.mp h).1).2.2 g hg l
        (List.mem_singleton_self l)
      exact Key.not_precedes_trans hp hlast
    · obtain rfl := List.mem_singleton.mp hg
      exact hlast

lemma not_precedes_of_mem_back {front back : List Finding} {f g : Finding}
    (h : IsSorted (front ++ back)) (hb : ∀ g ∈ back.head?, f.key.precedes g.key = true)
    (hg : g ∈ back) : g.key.precedes f.key = false := by
  cases back with
  | nil => cases hg
  | cons l back =>
    have hl := Key.precedes_asymm (hb l rfl)
    rcases List.mem_cons.mp hg with rfl | hg
    · exact hl
    · have hp := (List.pairwise_cons.mp (List.pairwise_append.mp h).2.1).1 g hg
      exact Key.not_precedes_trans hl hp

lemma isSorted_insert {fs : List Finding} (h : IsSorted fs) (f : Finding) : IsSorted (insert fs f) := by
  by_cases hf : f ∈ fs
  · rwa [insert_of_mem hf]
  · obtain ⟨front, back, rfl, hi, hfront, hback⟩ := insert_split hf
    obtain ⟨hpf, hpb, hp⟩ := List.pairwise_append.mp h
    rw [hi]
    refine List.pairwise_append.mpr ⟨hpf, List.pairwise_cons.mpr ⟨fun g hg => ?_, hpb⟩, ?_⟩
    · exact not_precedes_of_mem_back h hback hg
    · intro a ha b hb
      rcases List.mem_cons.mp hb with rfl | hb
      · exact not_precedes_of_mem_front h hfront ha
      · exact hp a ha b hb

lemma insert_last {fs : List Finding} {f : Finding} (h : f ∉ fs)
    (hk : ∀ g ∈ fs, f.key.precedes g.key = false) : insert fs f = fs ++ [f] := by
  obtain ⟨front, back, rfl, hi, -, hback⟩ := insert_split h
  cases back with
  | nil => rw [hi, List.append_nil]
  | cons g back =>
    have hg := hk g (List.mem_append_right front List.mem_cons_self)
    rw [hback g rfl] at hg
    cases hg

section All

lemma mem_foldl_insert {fs gs : List Finding} {f : Finding} :
    f ∈ gs.foldl insert fs ↔ f ∈ fs ∨ f ∈ gs := by
  induction gs generalizing fs with
  | nil => simp
  | cons g gs ih =>
    rw [List.foldl_cons, ih, mem_insert, List.mem_cons, or_comm (a := f = g), or_assoc]

lemma nodup_foldl_insert {fs : List Finding} (gs : List Finding) (h : fs.Nodup) :
    (gs.foldl insert fs).Nodup := by
  induction gs generalizing fs with
  | nil => exact h
  | cons g gs ih => exact ih (nodup_insert h g)

lemma isSorted_foldl_insert {fs : List Finding} (gs : List Finding) (h : IsSorted fs) :
    IsSorted (gs.foldl insert fs) := by
  induction gs generalizing fs with
  | nil => exact h
  | cons g gs ih => exact ih (isSorted_insert h g)

lemma foldl_insert_of_subset {fs gs : List Finding} (h : ∀ g ∈ gs, g ∈ fs) :
    gs.foldl insert fs = fs := by
  induction gs with
  | nil => rfl
  | cons g gs ih =>
    obtain ⟨hg, hs⟩ := List.forall_mem_cons.mp h
    rw [List.foldl_cons, insert_of_mem hg, ih hs]

lemma foldl_insert_keeps (fs gs : List Finding) :
    fs.Sublist (gs.foldl insert fs) ∧
      ∃ new, new.Sublist gs ∧ (gs.foldl insert fs).Perm (fs ++ new) := by
  induction gs generalizing fs with
  | nil => exact ⟨.refl fs, [], .refl [], by rw [List.append_nil]; exact .refl fs⟩
  | cons g gs ih =>
    obtain ⟨hsub, new, hnew, hperm⟩ := ih (insert fs g)
    rw [List.foldl_cons]
    by_cases hg : g ∈ fs
    · rw [insert_of_mem hg] at hsub hperm ⊢
      exact ⟨hsub, new, hnew.cons g, hperm⟩
    · obtain ⟨front, back, rfl, hi, -⟩ := insert_split hg
      rw [hi] at hsub hperm ⊢
      have hback : back.Sublist (g :: back) := List.sublist_cons_self g back
      refine ⟨((List.Sublist.refl front).append hback).trans hsub, g :: new, hnew.cons_cons g, ?_⟩
      refine hperm.trans ((List.perm_middle.append_right new).trans ?_)
      exact List.perm_middle.symm

lemma foldl_insert_sorted {fs gs : List Finding} (hs : IsSorted (fs ++ gs)) (hn : (fs ++ gs).Nodup) :
    gs.foldl insert fs = fs ++ gs := by
  induction gs generalizing fs with
  | nil => rw [List.foldl_nil, List.append_nil]
  | cons g gs ih =>
    have hg : g ∉ fs := fun h => (List.nodup_append.mp hn).2.2 g h g List.mem_cons_self rfl
    have hk : ∀ f ∈ fs, g.key.precedes f.key = false := fun f hf =>
      (List.pairwise_append.mp hs).2.2 f hf g List.mem_cons_self
    rw [List.append_cons] at hs hn ⊢
    rw [List.foldl_cons, insert_last hg hk, ih hs hn]

end All

end BugArchive.Collection
