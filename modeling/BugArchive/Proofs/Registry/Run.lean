import BugArchive.Proofs.Registry
import Mathlib.Data.List.Induction
import Mathlib.Data.List.Nodup

namespace BugArchive.Registry

variable {τ : Type}

section Names

def IsProper (r : Registry τ) : Prop :=
  (r.bindings.map Prod.fst).Nodup

lemma isProper_empty : (empty : Registry τ).IsProper :=
  List.nodup_nil

lemma isProper_bind {r : Registry τ} (h : r.IsProper) (tag : String) (t : τ) :
    (r.bind tag t).IsProper := by
  refine List.nodup_cons.mpr ⟨fun hm => ?_, h.sublist (List.filter_sublist.map Prod.fst)⟩
  obtain ⟨b, hb, hn⟩ := List.mem_map.mp hm
  exact of_decide_eq_true (List.mem_filter.mp hb).2 hn

variable (r : Registry τ)

lemma mem_names {n : String} : n ∈ r.names ↔ r.contains n = true := by
  rw [names, List.mem_mergeSort, contains, get?, List.lookup_isSome_iff, List.mem_map]
  simp only [beq_iff_eq, @eq_comm _ n]

lemma length_names : r.names.length = r.size := by
  rw [names, List.length_mergeSort, List.length_map, size]

variable {r}

lemma ascending_names (h : r.IsProper) : r.names.Pairwise (· < ·) := by
  have hs : r.names.Pairwise fun a b => decide (a ≤ b) = true := by
    refine List.pairwise_mergeSort (fun a b c hab hbc => ?_) (fun a b => ?_) _
    · exact decide_eq_true (String.le_trans (of_decide_eq_true hab) (of_decide_eq_true hbc))
    · simpa using String.le_total a b
  have hn : r.names.Nodup := (List.mergeSort_perm _ _).nodup_iff.mpr h
  refine (hs.and hn).imp fun {a b} hab => ?_
  obtain ⟨hle, hne⟩ := hab
  refine Classical.byContradiction fun hlt => hne ?_
  exact String.le_antisymm (of_decide_eq_true hle) (String.not_lt.mp hlt)

end Names

section Taken

def IsTaken (r : Registry τ) (tag : String) (t : τ) : Prop :=
  ∃ old, r.get? tag = some old ∧ old ≠ t

variable {r r' : Registry τ} {tag : String} {t : τ}

lemma not_isTaken_iff : ¬ r.IsTaken tag t ↔ r.get? tag = none ∨ r.get? tag = some t := by
  rw [IsTaken]
  cases r.get? tag <;> simp

lemma isTaken_congr (h : r'.get? tag = r.get? tag) : r'.IsTaken tag t ↔ r.IsTaken tag t := by
  rw [IsTaken, IsTaken, h]

end Taken

variable [DecidableEq τ]

section Register

variable {r : Registry τ}

lemma register_cases (r : Registry τ) (tag : String) (t : τ) (replace : Bool) :
    (r.IsTaken tag t ∧ replace = false ∧
      r.register tag t replace = .error (.alreadyRegistered tag)) ∨
    ((¬ r.IsTaken tag t ∨ replace = true) ∧ ∃ r' log, r.register tag t replace = .ok (r', log) ∧
      (r.IsProper → r'.IsProper) ∧ ∀ n, r'.get? n = if n = tag then some t else r.get? n) := by
  rw [register]
  cases h : r.get? tag with
  | none =>
    exact .inr ⟨.inl (not_isTaken_iff.mpr (.inl h)), _, _, rfl, (isProper_bind · tag t),
      fun n => get?_bind r tag n t⟩
  | some old =>
    by_cases hold : old = t
    · subst hold
      refine .inr ⟨.inl (not_isTaken_iff.mpr (.inr h)), r, [], if_pos rfl, id, fun n => ?_⟩
      split
      · rename_i hn
        rw [hn, h]
      · rfl
    · simp only [if_neg hold]
      cases replace with
      | false => exact .inl ⟨⟨old, h, hold⟩, rfl, rfl⟩
      | true =>
        exact .inr ⟨.inr rfl, _, _, rfl, (isProper_bind · tag t), fun n => get?_bind r tag n t⟩

/-- Several registrations go on up to the first name that is taken. Names that come later are as free
as they were, because no name comes twice. -/
lemma registerAll_cases (r : Registry τ) (noted : List Log.Entry) {ps : List (String × τ)}
    (hn : (ps.map Prod.fst).Nodup) :
    ∃ front back, ps = front ++ back ∧ (∀ p ∈ front, ¬ r.IsTaken p.1 p.2) ∧
      (r.IsProper → (r.registerAll noted ps).1.IsProper) ∧
      (∀ p ∈ front, (r.registerAll noted ps).1.get? p.1 = some p.2) ∧
      (∀ n, (∀ p ∈ front, p.1 ≠ n) → (r.registerAll noted ps).1.get? n = r.get? n) ∧
      ((back = [] ∧ (r.registerAll noted ps).2.2 = none) ∨
        ∃ p rest, back = p :: rest ∧ r.IsTaken p.1 p.2 ∧
          (r.registerAll noted ps).2.2 = some (.alreadyRegistered p.1)) := by
  induction ps generalizing r noted with
  | nil =>
    exact ⟨[], [], rfl, (fun p hp => by cases hp), id, (fun p hp => by cases hp), fun n _ => rfl,
      .inl ⟨rfl, rfl⟩⟩
  | cons p ps ih =>
    obtain ⟨tag, t⟩ := p
    obtain ⟨htag, hn⟩ := List.nodup_cons.mp hn
    rw [registerAll]
    rcases register_cases r tag t false with ⟨htaken, -, hr⟩ | ⟨hfree, r', log, hr, hproper, hget⟩
    · rw [hr]
      exact ⟨[], (tag, t) :: ps, rfl, (fun p hp => by cases hp), id, (fun p hp => by cases hp),
        fun n _ => rfl, .inr ⟨(tag, t), ps, rfl, htaken, rfl⟩⟩
    · rw [hr]
      dsimp only
      obtain ⟨front, back, rfl, hfront, hp, hbound, hkept, hback⟩ := ih r' (noted ++ log) hn
      have hne {q : String × τ} (hq : q ∈ front ++ back) : q.1 ≠ tag := fun he =>
        htag (he ▸ List.mem_map.mpr ⟨q, hq, rfl⟩)
      have hsame {q : String × τ} (hq : q ∈ front ++ back) :
          r'.IsTaken q.1 q.2 ↔ r.IsTaken q.1 q.2 :=
        isTaken_congr (by rw [hget, if_neg (hne hq)])
      refine ⟨(tag, t) :: front, back, rfl, ?_, hp ∘ hproper, ?_, fun n hfresh => ?_, ?_⟩
      · refine List.forall_mem_cons.mpr ⟨hfree.resolve_right (by decide), fun q hq => ?_⟩
        exact (hsame (List.mem_append_left back hq)).not.mp (hfront q hq)
      · refine List.forall_mem_cons.mpr ⟨?_, hbound⟩
        rw [hkept tag fun q hq => hne (List.mem_append_left back hq), hget, if_pos rfl]
      · obtain ⟨hnt, hfresh⟩ := List.forall_mem_cons.mp hfresh
        rw [hkept n hfresh, hget, if_neg (Ne.symm hnt)]
      · refine hback.imp_right ?_
        rintro ⟨q, rest, rfl, hq, he⟩
        exact ⟨q, rest, rfl, (hsame (List.mem_append_right front List.mem_cons_self)).mp hq, he⟩

lemma registerAll_bound {ps : List (String × τ)} (h : ∀ p ∈ ps, r.get? p.1 = some p.2)
    (noted : List Log.Entry) : r.registerAll noted ps = (r, noted, none) := by
  induction ps with
  | nil => rfl
  | cons p ps ih =>
    have hr : r.register p.1 p.2 false = .ok (r, []) := by
      simp only [register, h p List.mem_cons_self, if_true]
    rw [registerAll, hr]
    dsimp only
    rw [List.append_nil]
    exact ih fun q hq => h q (List.mem_cons_of_mem p hq)

end Register

section Kinds

variable (own : Kind → τ)

lemma registerKinds_cases (r : Registry τ) :
    ∃ front back, Kind.all = front ++ back ∧ (∀ k ∈ front, ¬ r.IsTaken k.tag (own k)) ∧
      (r.IsProper → (r.registerKinds own).1.IsProper) ∧
      (∀ k ∈ front, (r.registerKinds own).1.get? k.tag = some (own k)) ∧
      (∀ n, (∀ k ∈ front, k.tag ≠ n) → (r.registerKinds own).1.get? n = r.get? n) ∧
      ((back = [] ∧ (r.registerKinds own).2.2 = none) ∨
        ∃ k rest, back = k :: rest ∧ r.IsTaken k.tag (own k) ∧
          (r.registerKinds own).2.2 = some (.alreadyRegistered k.tag)) := by
  have hn : ((Kind.all.map fun k => (k.tag, own k)).map Prod.fst).Nodup := by
    rw [List.map_map]
    exact (by decide : (Kind.all.map Kind.tag).Nodup)
  obtain ⟨front, back, hall, hfront, hproper, hbound, hkept, hback⟩ := registerAll_cases r [] hn
  obtain ⟨front, back, hks, rfl, rfl⟩ := List.map_eq_append_iff.mp hall
  rw [List.forall_mem_map] at hfront hbound
  refine ⟨front, back, hks, hfront, hproper, hbound, fun n hn => ?_, ?_⟩
  · exact hkept n (List.forall_mem_map.mpr hn)
  · refine hback.imp (And.imp_left List.map_eq_nil_iff.mp) ?_
    rintro ⟨p, rest, hp, htaken, he⟩
    obtain ⟨k, back, rfl, rfl, rfl⟩ := List.map_eq_cons_iff.mp hp
    exact ⟨k, back, rfl, htaken, he⟩

lemma registerKinds_bound {r : Registry τ} (h : ∀ k : Kind, r.get? k.tag = some (own k)) :
    r.registerKinds own = (r, [], none) :=
  registerAll_bound (List.forall_mem_map.mpr fun k _ => h k) []

end Kinds

section Run

inductive Call (τ : Type) where
  | register (tag : String) (t : τ) (replace : Bool)
  | registerKinds

variable (own : Kind → τ)

def Call.registrations : Call τ → List (String × τ × Bool)
  | register tag t replace => [(tag, t, replace)]
  | registerKinds => Kind.all.map fun k => (k.tag, own k, false)

def Call.run (r : Registry τ) : Call τ → Registry τ × Option Error
  | register tag t replace =>
    match r.register tag t replace with
    | .ok (r, _) => (r, none)
    | .error e => (r, some e)
  | registerKinds => ((r.registerKinds own).1, (r.registerKinds own).2.2)

def run (r : Registry τ) (calls : List (Call τ)) : Registry τ :=
  calls.foldl (fun r c => (c.run own r).1) r

lemma run_append (r : Registry τ) (front back : List (Call τ)) :
    run own r (front ++ back) = run own (run own r front) back :=
  List.foldl_append

variable {own}

lemma isProper_call {r : Registry τ} (h : r.IsProper) (c : Call τ) : (c.run own r).1.IsProper := by
  cases c with
  | register tag t replace =>
    rw [Call.run]
    rcases register_cases r tag t replace with ⟨-, -, hr⟩ | ⟨-, r', log, hr, hproper, -⟩
    · rw [hr]
      exact h
    · rw [hr]
      exact hproper h
  | registerKinds =>
    obtain ⟨front, back, -, -, hproper, -⟩ := registerKinds_cases own r
    exact hproper h

lemma isProper_run {r : Registry τ} (h : r.IsProper) (calls : List (Call τ)) :
    (run own r calls).IsProper := by
  induction calls generalizing r with
  | nil => exact h
  | cons c calls ih => exact ih (isProper_call h c)

lemma get?_call (own : Kind → τ) (r : Registry τ) (c : Call τ) (n : String) :
    (c.run own r).1.get? n = r.get? n ∨ ∃ t replace, (n, t, replace) ∈ c.registrations own ∧
      (r.get? n = none ∨ replace = true) ∧ (c.run own r).1.get? n = some t := by
  cases c with
  | register tag t replace =>
    rw [Call.run]
    rcases register_cases r tag t replace with ⟨-, -, hr⟩ | ⟨hfree, r', log, hr, -, hget⟩
    · rw [hr]
      exact .inl rfl
    rw [hr]
    dsimp only
    rw [hget]
    split
    · rename_i hn
      subst hn
      rw [not_isTaken_iff] at hfree
      rcases hfree with (hnone | hsame) | hreplace
      · exact .inr ⟨t, replace, List.mem_singleton_self _, .inl hnone, rfl⟩
      · exact .inl hsame.symm
      · exact .inr ⟨t, replace, List.mem_singleton_self _, .inr hreplace, rfl⟩
    · exact .inl rfl
  | registerKinds =>
    obtain ⟨front, back, hall, hfront, -, hbound, hkept, -⟩ := registerKinds_cases own r
    by_cases hn : ∃ k ∈ front, k.tag = n
    · obtain ⟨k, hk, rfl⟩ := hn
      rcases not_isTaken_iff.mp (hfront k hk) with hnone | hsame
      · refine .inr ⟨own k, false, List.mem_map_of_mem ?_, .inl hnone, hbound k hk⟩
        rw [hall]
        exact List.mem_append_left back hk
      · exact .inl ((hbound k hk).trans hsame.symm)
    · exact .inl (hkept n fun k hk he => hn ⟨k, hk, he⟩)

lemma get?_run (own : Kind → τ) (r : Registry τ) (calls : List (Call τ)) (n : String) :
    (run own r calls).get? n = r.get? n ∨ ∃ front c back t replace,
      calls = front ++ c :: back ∧ (n, t, replace) ∈ c.registrations own ∧
      ((run own r front).get? n = none ∨ replace = true) ∧
      (run own r calls).get? n = some t := by
  induction calls using List.reverseRecOn with
  | nil => exact .inl rfl
  | append_singleton calls c ih =>
    rw [run_append]
    rcases get?_call own (run own r calls) c n with hkept | ⟨t, replace, hc, hfree, ht⟩
    · rw [show run own (run own r calls) [c] = (c.run own (run own r calls)).1 from rfl, hkept]
      refine ih.imp_right ?_
      rintro ⟨front, d, back, t, replace, rfl, hd, hfree, ht⟩
      exact ⟨front, d, back ++ [c], t, replace, by simp, hd, hfree, ht⟩
    · exact .inr ⟨calls, c, [], t, replace, rfl, hc, hfree, ht⟩

lemma register_call (own : Kind → τ) (r : Registry τ) (tag : String) (t : τ) (replace : Bool) :
    ((Call.register tag t replace).run own r = (r, some (.alreadyRegistered tag)) ∧
      r.IsTaken tag t ∧ replace = false) ∨
    (∃ r', (Call.register tag t replace).run own r = (r', none) ∧
      (¬ r.IsTaken tag t ∨ replace = true) ∧
      ∀ n, r'.get? n = if n = tag then some t else r.get? n) := by
  rw [Call.run]
  rcases register_cases r tag t replace with ⟨htaken, hf, hr⟩ | ⟨hfree, r', log, hr, -, hget⟩
  · rw [hr]
    exact .inl ⟨rfl, htaken, hf⟩
  · rw [hr]
    exact .inr ⟨r', rfl, hfree, hget⟩

lemma registerKinds_call (own : Kind → τ) (r : Registry τ) :
    (∃ r', Call.registerKinds.run own r = (r', none) ∧ (∀ k : Kind, ¬ r.IsTaken k.tag (own k)) ∧
      (∀ k : Kind, r'.get? k.tag = some (own k)) ∧
      (∀ n, (∀ k : Kind, k.tag ≠ n) → r'.get? n = r.get? n) ∧
      Call.registerKinds.run own r' = (r', none)) ∨
    ∃ r' front k back, Call.registerKinds.run own r = (r', some (.alreadyRegistered k.tag)) ∧
      Kind.all = front ++ k :: back ∧ r.IsTaken k.tag (own k) ∧
      (∀ j ∈ front, ¬ r.IsTaken j.tag (own j) ∧ r'.get? j.tag = some (own j)) ∧
      ∀ n, (∀ j ∈ front, j.tag ≠ n) → r'.get? n = r.get? n := by
  have hmem (k : Kind) : k ∈ Kind.all := by
    cases k <;> decide
  obtain ⟨front, back, hall, hfront, -, hbound, hkept, hback⟩ := registerKinds_cases own r
  rcases hback with ⟨rfl, he⟩ | ⟨k, rest, rfl, htaken, he⟩
  · rw [List.append_nil] at hall
    subst hall
    refine .inl ⟨_, congrArg (Prod.mk _) he, fun k => hfront k (hmem k), fun k => hbound k (hmem k),
      fun n hn => hkept n fun k _ => hn k, ?_⟩
    rw [Call.run, registerKinds_bound own fun k => hbound k (hmem k)]
  · exact .inr ⟨_, front, k, rest, congrArg (Prod.mk _) he, hall, htaken,
      fun j hj => ⟨hfront j hj, hbound j hj⟩, hkept⟩

/-- Whatever is asked of a registry, its names stand in ascending order, each once. What a name stands
for changes only by a registration of that name that finds it free or may replace, and one that is
refused changes nothing. The built-in names are all bound if none of them is taken, and otherwise those
before the first that is. -/
theorem run_bindings (own : Kind → τ) (calls : List (Call τ)) :
    let r := run own empty calls
    (r.names.Pairwise (· < ·) ∧ (∀ n, n ∈ r.names ↔ r.contains n = true) ∧
      r.names.length = r.size) ∧
    (∀ more n, (run own r more).get? n = r.get? n ∨ ∃ front c back t replace,
      more = front ++ c :: back ∧ (n, t, replace) ∈ c.registrations own ∧
      ((run own r front).get? n = none ∨ replace = true) ∧
      (run own r more).get? n = some t) ∧
    (∀ tag t replace,
      ((Call.register tag t replace).run own r = (r, some (.alreadyRegistered tag)) ∧
        r.IsTaken tag t ∧ replace = false) ∨
      (∃ r', (Call.register tag t replace).run own r = (r', none) ∧
        (¬ r.IsTaken tag t ∨ replace = true) ∧
        ∀ n, r'.get? n = if n = tag then some t else r.get? n)) ∧
    ((∃ r', Call.registerKinds.run own r = (r', none) ∧
        (∀ k : Kind, ¬ r.IsTaken k.tag (own k)) ∧
        (∀ k : Kind, r'.get? k.tag = some (own k)) ∧
        (∀ n, (∀ k : Kind, k.tag ≠ n) → r'.get? n = r.get? n) ∧
        Call.registerKinds.run own r' = (r', none)) ∨
      ∃ r' front k back, Call.registerKinds.run own r = (r', some (.alreadyRegistered k.tag)) ∧
        Kind.all = front ++ k :: back ∧ r.IsTaken k.tag (own k) ∧
        (∀ j ∈ front, ¬ r.IsTaken j.tag (own j) ∧ r'.get? j.tag = some (own j)) ∧
        ∀ n, (∀ j ∈ front, j.tag ≠ n) → r'.get? n = r.get? n) := by
  intro r
  have hproper : r.IsProper := isProper_run isProper_empty calls
  exact ⟨⟨ascending_names hproper, fun n => mem_names r, length_names r⟩, get?_run own r,
    register_call own r, registerKinds_call own r⟩

end Run

end BugArchive.Registry
