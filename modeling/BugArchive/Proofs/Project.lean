import BugArchive.Project
import Mathlib.Tactic.Lemma

namespace BugArchive

open Xml (Element)

lemma PathKind.ofTag?_tag (k : PathKind) : ofTag? k.tag = some k := by
  cases k <;> decide

lemma PathKind.mem_all (k : PathKind) : k ∈ all := by
  cases k <;> decide

namespace Project

variable (p : Project) (k : PathKind) (ps : List String)

lemma paths_setPaths (j : PathKind) :
    (p.setPaths k ps).paths j = if j = k then ps else p.paths j := by
  cases k <;> cases j <;> rfl

@[simp]
lemma filename_setPaths : (p.setPaths k ps).filename = p.filename := by
  cases k <;> rfl

@[simp]
lemma modified_setPaths : (p.setPaths k ps).modified = p.modified := by
  cases k <;> rfl

lemma setPaths_paths : p.setPaths k (p.paths k) = p := by
  cases k <;> rfl

@[ext]
lemma ext_paths {p q : Project} (hf : p.filename = q.filename) (hp : ∀ k, p.paths k = q.paths k)
    (hm : p.modified = q.modified) : p = q := by
  cases p
  cases q
  have hj := hp .jar
  have ha := hp .auxClasspath
  have hs := hp .sourceDir
  simp only [paths] at hj ha hs
  subst hf hj ha hs hm
  rfl

def extend (ps qs : List String) : List String :=
  qs.foldl (fun ps q => if ps.contains q then ps else ps ++ [q]) ps

lemma list_eq (path : String) : p.list k path = p.setPaths k (extend (p.paths k) [path]) := by
  unfold list lists extend
  rw [List.foldl_cons, List.foldl_nil]
  split
  · rw [setPaths_paths]
  · rfl

lemma nodup_extend {ps : List String} (qs : List String) (h : ps.Nodup) : (extend ps qs).Nodup := by
  induction qs generalizing ps with
  | nil => exact h
  | cons q qs ih =>
    refine ih ?_
    dsimp only
    split
    · exact h
    · rename_i hq
      refine List.nodup_append.mpr ⟨h, List.nodup_cons.mpr ⟨List.not_mem_nil, .nil⟩, ?_⟩
      rintro a ha b hb rfl
      obtain rfl := List.mem_singleton.mp hb
      exact hq (by simpa using ha)

lemma mem_extend {ps qs : List String} {s : String} : s ∈ extend ps qs ↔ s ∈ ps ∨ s ∈ qs := by
  induction qs generalizing ps with
  | nil => simp [extend]
  | cons q qs ih =>
    have hs : extend ps (q :: qs) = extend (if ps.contains q then ps else ps ++ [q]) qs := rfl
    rw [hs, ih, List.mem_cons, ← or_assoc]
    refine or_congr_left ?_
    split
    · rename_i hq
      refine ⟨.inl, ?_⟩
      rintro (h | rfl)
      · exact h
      · simpa using hq
    · simp

lemma extend_new {ps qs : List String} (h : (ps ++ qs).Nodup) : extend ps qs = ps ++ qs := by
  induction qs generalizing ps with
  | nil => exact (List.append_nil ps).symm
  | cons q qs ih =>
    have hq : q ∉ ps := fun hm => (List.nodup_append.mp h).2.2 _ hm _ List.mem_cons_self rfl
    have hs : extend ps (q :: qs) = extend (if ps.contains q then ps else ps ++ [q]) qs := rfl
    rw [List.append_cons] at h ⊢
    rw [hs, if_neg (by simpa using hq), ih h]

lemma extend_append (ps qs rs : List String) : extend ps (qs ++ rs) = extend (extend ps qs) rs :=
  List.foldl_append

lemma extend_eq (ps qs : List String) :
    extend ps qs = ps ++ (qs.filter (· ∉ ps)).eraseDups := by
  induction qs generalizing ps with
  | nil => simp [extend]
  | cons q qs ih =>
    have hs : extend ps (q :: qs) = extend (if ps.contains q then ps else ps ++ [q]) qs := rfl
    by_cases hq : q ∈ ps
    · rw [hs, if_pos (by simpa using hq), ih, List.filter_cons_of_neg (by simpa using hq)]
    · have hf : (qs.filter (· ∉ ps)).filter (fun s => !s == q) = qs.filter (· ∉ ps ++ [q]) := by
        rw [List.filter_filter]
        refine List.filter_congr fun s _ => Bool.eq_iff_iff.mpr ?_
        simp [and_comm]
      rw [hs, if_neg (by simpa using hq), ih, List.filter_cons_of_pos (by simpa using hq),
        List.eraseDups_cons, hf, List.append_assoc, List.singleton_append]

lemma extend_extend (ps qs : List String) : extend (extend ps qs) qs = extend ps qs := by
  have hnone : qs.filter (· ∉ extend ps qs) = [] := by
    refine List.filter_eq_nil_iff.mpr fun q hq => ?_
    simpa using mem_extend.mpr (.inr hq)
  rw [extend_eq (extend ps qs), hnone, List.eraseDups_nil, List.append_nil]

lemma prefix_extend (ps qs : List String) : ps <+: extend ps qs := by
  rw [extend_eq]
  exact List.prefix_append ps _

section Add

variable (path : String)

lemma lists_iff : p.lists k path = true ↔ path ∈ p.paths k := by
  rw [lists, List.contains_iff_mem]

lemma add_fst : (p.add k path).1 = true ↔ path ∉ p.paths k := by
  rw [add, ← lists_iff]
  split <;> simp [*]

lemma paths_add (j : PathKind) :
    (p.add k path).2.paths j = if j = k then extend (p.paths k) [path] else p.paths j := by
  rw [← paths_setPaths, ← list_eq]
  rw [add]
  split
  · rename_i h
    rw [list, if_pos h]
  · cases j <;> rfl

@[simp]
lemma filename_add : (p.add k path).2.filename = p.filename := by
  rw [add]
  split
  · rfl
  · simp [list_eq]

lemma modified_add : (p.add k path).2.modified = ((p.add k path).1 || p.modified) := by
  rw [add]
  split <;> rfl

lemma add_rejected (h : (p.add k path).1 = false) : (p.add k path).2 = p := by
  rw [add] at h ⊢
  split at h
  · rename_i hl
    rw [if_pos hl]
  · cases h

@[simp]
lemma paths_setModified (b : Bool) : (p.setModified b).paths k = p.paths k := by
  cases k <;> rfl

end Add

def absorbPath (p : Project) (e : Element) : Project :=
  match PathKind.ofTag? e.tag with
  | some k => p.list k e.text
  | none => p

def absorb (p : Project) (e : Element) : Project :=
  e.children.foldl absorbPath { p with filename := (e.get? "filename").or p.filename }

lemma validate_eq_ok {es : List Element} :
    validate es = .ok () ↔ ∀ e ∈ es, (PathKind.ofTag? e.tag).isSome := by
  induction es with
  | nil => simp [validate]
  | cons e es ih =>
    rw [validate, List.forall_mem_cons, ← ih]
    cases PathKind.ofTag? e.tag with
    | some k => simp
    | none => simp

def pathsOf (k : PathKind) (es : List Element) : List String :=
  es.filterMap fun e => if PathKind.ofTag? e.tag = some k then some e.text else none

lemma paths_absorbPath (e : Element) :
    (p.absorbPath e).paths k = extend (p.paths k) (pathsOf k [e]) := by
  unfold absorbPath
  cases h : PathKind.ofTag? e.tag with
  | none => simp [pathsOf, h, extend]
  | some j =>
    simp only [list_eq, paths_setPaths]
    by_cases hj : k = j
    · subst hj
      simp [pathsOf, h]
    · have hne : j ≠ k := fun he => hj he.symm
      simp [pathsOf, h, hj, hne, extend]

@[simp]
lemma filename_absorbPath (e : Element) : (p.absorbPath e).filename = p.filename := by
  unfold absorbPath
  split
  · simp [list_eq]
  · rfl

@[simp]
lemma modified_absorbPath (e : Element) : (p.absorbPath e).modified = p.modified := by
  unfold absorbPath
  split
  · simp [list_eq]
  · rfl

lemma foldl_absorbPath (es : List Element) :
    (∀ k, (es.foldl absorbPath p).paths k = extend (p.paths k) (pathsOf k es)) ∧
      (es.foldl absorbPath p).filename = p.filename ∧
      (es.foldl absorbPath p).modified = p.modified := by
  induction es generalizing p with
  | nil => exact ⟨fun k => rfl, rfl, rfl⟩
  | cons e es ih =>
    obtain ⟨hp, hf, hm⟩ := ih (p.absorbPath e)
    refine ⟨fun k => ?_, hf.trans (filename_absorbPath p e), hm.trans (modified_absorbPath p e)⟩
    have hs : pathsOf k (e :: es) = pathsOf k [e] ++ pathsOf k es := by
      rw [pathsOf, pathsOf, pathsOf, ← List.filterMap_append, List.singleton_append]
    rw [List.foldl_cons, hp, paths_absorbPath, hs, extend_append]

lemma paths_absorb (e : Element) :
    (p.absorb e).paths k = extend (p.paths k) (pathsOf k e.children) := by
  rw [absorb, (foldl_absorbPath _ e.children).1]
  cases k <;> rfl

lemma filename_absorb (e : Element) : (p.absorb e).filename = (e.get? "filename").or p.filename :=
  (foldl_absorbPath _ e.children).2.1

@[simp]
lemma modified_absorb (e : Element) : (p.absorb e).modified = p.modified :=
  (foldl_absorbPath _ e.children).2.2

section All

variable (es : List Element)

lemma paths_foldl_absorb : (es.foldl absorb p).paths k =
    extend (p.paths k) (pathsOf k (es.flatMap (·.children))) := by
  induction es generalizing p with
  | nil => rfl
  | cons e es ih =>
    have hs : pathsOf k (e.children ++ es.flatMap (·.children)) =
        pathsOf k e.children ++ pathsOf k (es.flatMap (·.children)) := List.filterMap_append
    rw [List.foldl_cons, ih, paths_absorb, List.flatMap_cons, hs, extend_append]

lemma filename_foldl_absorb : (es.foldl absorb p).filename =
    (es.filterMap (·.get? "filename")).getLast?.or p.filename := by
  induction es generalizing p with
  | nil => rfl
  | cons e es ih =>
    rw [List.foldl_cons, ih, filename_absorb, List.filterMap_cons]
    cases e.get? "filename" with
    | none => rfl
    | some file =>
      rw [List.getLast?_cons]
      cases (es.filterMap (·.get? "filename")).getLast? <;> rfl

end All

end Project

end BugArchive
