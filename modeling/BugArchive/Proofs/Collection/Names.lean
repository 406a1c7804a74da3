import BugArchive.Proofs.Collection.Basic
import BugArchive.Proofs.Fallible
import BugArchive.Proofs.Project

namespace BugArchive.Collection

section Missing

variable {name : String} {ns : List String}

lemma mem_insertName {n : String} : n ∈ insertName name ns ↔ n = name ∨ n ∈ ns := by
  induction ns with
  | nil => simp [insertName]
  | cons m ns ih =>
    unfold insertName
    split
    · simp
    split
    · rename_i h
      subst h
      simp
    · simp only [List.mem_cons, ih]
      exact or_left_comm

lemma ascending_insertName (h : ns.Pairwise (· < ·)) : (insertName name ns).Pairwise (· < ·) := by
  induction ns with
  | nil => exact List.pairwise_singleton _ _
  | cons m ns ih =>
    obtain ⟨hm, hs⟩ := List.pairwise_cons.mp h
    unfold insertName
    split
    · rename_i hlt
      refine List.pairwise_cons.mpr ⟨fun n hn => ?_, h⟩
      rcases List.mem_cons.mp hn with rfl | hn
      · exact hlt
      · exact String.lt_trans hlt (hm n hn)
    split
    · exact h
    · rename_i hlt hne
      refine List.pairwise_cons.mpr ⟨fun n hn => ?_, ih hs⟩
      rcases mem_insertName.mp hn with rfl | hn
      · rcases Std.lt_trichotomy n m with h | h | h
        · exact absurd h hlt
        · exact absurd h hne
        · exact h
      · exact hm n hn

lemma insertName_last (h : ∀ n ∈ ns, n < name) : insertName name ns = ns ++ [name] := by
  induction ns with
  | nil => rfl
  | cons m ns ih =>
    obtain ⟨hm, hs⟩ := List.forall_mem_cons.mp h
    have hne : name ≠ m := by
      rintro rfl
      exact String.lt_irrefl _ hm
    rw [insertName, if_neg (String.lt_asymm hm), if_neg hne, ih hs]
    rfl

lemma mem_insertNames {names : List String} {n : String} :
    n ∈ insertNames ns names ↔ n ∈ ns ∨ n ∈ names := by
  induction names generalizing ns with
  | nil => simp [insertNames]
  | cons m names ih =>
    have hs : insertNames ns (m :: names) = insertNames (insertName m ns) names := rfl
    rw [hs, ih, mem_insertName, List.mem_cons, or_comm (a := n = m), or_assoc]

lemma ascending_insertNames (names : List String) (h : ns.Pairwise (· < ·)) :
    (insertNames ns names).Pairwise (· < ·) := by
  induction names generalizing ns with
  | nil => exact h
  | cons m names ih => exact ih (ascending_insertName h)

lemma insertNames_ascending {names : List String} (h : (ns ++ names).Pairwise (· < ·)) :
    insertNames ns names = ns ++ names := by
  induction names generalizing ns with
  | nil => exact (List.append_nil ns).symm
  | cons m names ih =>
    have hm : ∀ n ∈ ns, n < m := fun n hn =>
      (List.pairwise_append.mp h).2.2 n hn m List.mem_cons_self
    have hs : insertNames ns (m :: names) = insertNames (insertName m ns) names := rfl
    rw [List.append_cons] at h ⊢
    rw [hs, insertName_last hm, ih h]

lemma insertName_insertName (name : String) (ns : List String) :
    insertName name (insertName name ns) = insertName name ns := by
  induction ns with
  | nil => simp [insertName]
  | cons m ns ih =>
    by_cases hlt : name < m
    · simp [insertName, hlt]
    · by_cases he : name = m
      · subst he
        simp [insertName]
      · simp [insertName, hlt, he, ih]

lemma insertName_settled {n : String} (h : insertName n ns = ns) :
    insertName n (insertName name ns) = insertName name ns := by
  induction ns with
  | nil => cases h
  | cons m ns ih =>
    have hlt : ¬ n < m := by
      intro hlt
      rw [insertName, if_pos hlt] at h
      exact List.cons_ne_self n (m :: ns) h
    rw [insertName, if_neg hlt] at h
    have hnext : n = m ∨ m < n := by
      rcases Std.lt_trichotomy n m with hn | hn | hn
      · exact absurd hn hlt
      · exact .inl hn
      · exact .inr hn
    by_cases hname : name < m
    · have hn : name < n := by
        rcases hnext with rfl | hn
        · exact hname
        · exact String.lt_trans hname hn
      have hne : n ≠ name := fun he => String.lt_irrefl _ (he ▸ hn)
      have hrest : insertName n (m :: ns) = m :: ns := by
        rw [insertName, if_neg hlt]
        exact h
      rw [show insertName name (m :: ns) = name :: m :: ns from if_pos hname, insertName,
        if_neg (String.lt_asymm hn), if_neg hne, hrest]
    · by_cases he : name = m
      · rw [show insertName name (m :: ns) = m :: ns by rw [insertName, if_neg hname, if_pos he],
          insertName, if_neg hlt]
        exact h
      · rw [show insertName name (m :: ns) = m :: insertName name ns by
          rw [insertName, if_neg hname, if_neg he], insertName, if_neg hlt]
        split
        · rfl
        · rename_i hnm
          rw [if_neg hnm] at h
          rw [ih (List.cons.inj h).2]

lemma insertNames_insertNames (ns names : List String) :
    insertNames (insertNames ns names) names = insertNames ns names := by
  have hkeep (n : String) (ms : List String) {ns : List String} (h : insertName n ns = ns) :
      insertName n (insertNames ns ms) = insertNames ns ms := by
    induction ms generalizing ns with
    | nil => exact h
    | cons m ms ih => exact ih (insertName_settled h)
  have hsettled : ∀ n ∈ names, insertName n (insertNames ns names) = insertNames ns names := by
    induction names generalizing ns with
    | nil => exact fun n hn => by cases hn
    | cons m names ih =>
      exact List.forall_mem_cons.mpr ⟨hkeep m names (insertName_insertName m ns), ih _⟩
  generalize insertNames ns names = ms at hsettled ⊢
  induction names with
  | nil => rfl
  | cons n names ih =>
    obtain ⟨hn, hs⟩ := List.forall_mem_cons.mp hsettled
    have hstep : insertNames ms (n :: names) = insertNames (insertName n ms) names := rfl
    rw [hstep, hn, ih hs]

end Missing

section Classes

variable {name : String} {flag : Bool} {cs : List (String × Bool)}

lemma setFlag_new (h : name ∉ cs.map Prod.fst) : setFlag name flag cs = cs ++ [(name, flag)] := by
  induction cs with
  | nil => rfl
  | cons c cs ih =>
    obtain ⟨n, b⟩ := c
    obtain ⟨hn, hs⟩ := not_or.mp fun hm => h (List.mem_cons.mpr hm)
    rw [setFlag, if_neg (Ne.symm hn), ih hs]
    rfl

lemma names_setFlag : (setFlag name flag cs).map Prod.fst =
    if name ∈ cs.map Prod.fst then cs.map Prod.fst else cs.map Prod.fst ++ [name] := by
  by_cases h : name ∈ cs.map Prod.fst
  · rw [if_pos h]
    induction cs with
    | nil => cases h
    | cons c cs ih =>
      obtain ⟨n, b⟩ := c
      unfold setFlag
      split
      · rfl
      · rename_i hn
        rcases List.mem_cons.mp h with he | h
        · exact absurd he.symm hn
        · rw [List.map_cons, ih h, List.map_cons]
  · rw [if_neg h, setFlag_new h, List.map_append]
    rfl

lemma nodup_setFlag (h : (cs.map Prod.fst).Nodup) :
    ((setFlag name flag cs).map Prod.fst).Nodup := by
  rw [names_setFlag]
  split
  · exact h
  · rename_i hn
    refine List.nodup_append.mpr ⟨h, List.nodup_cons.mpr ⟨List.not_mem_nil, .nil⟩, ?_⟩
    rintro n hm m hn' rfl
    exact hn (List.mem_singleton.mp hn' ▸ hm)

lemma nodup_setFlags (classes : List (String × Bool)) (h : (cs.map Prod.fst).Nodup) :
    ((setFlags cs classes).map Prod.fst).Nodup := by
  induction classes generalizing cs with
  | nil => exact h
  | cons k classes ih => exact ih (nodup_setFlag h)

lemma mem_setFlag {k : String × Bool} (h : k ∈ setFlag name flag cs) : k = (name, flag) ∨ k ∈ cs := by
  induction cs with
  | nil => exact .inl (List.mem_singleton.mp h)
  | cons c cs ih =>
    obtain ⟨n, b⟩ := c
    unfold setFlag at h
    split at h
    · rename_i hn
      rcases List.mem_cons.mp h with rfl | h
      · exact .inl (by rw [hn])
      · exact .inr (List.mem_cons_of_mem _ h)
    · rcases List.mem_cons.mp h with rfl | h
      · exact .inr List.mem_cons_self
      · exact (ih h).imp_right (List.mem_cons_of_mem _)

lemma mem_setFlags {classes : List (String × Bool)} {k : String × Bool}
    (h : k ∈ setFlags cs classes) : k ∈ cs ∨ k ∈ classes := by
  induction classes generalizing cs with
  | nil => exact .inl h
  | cons c classes ih =>
    rcases ih h with h | h
    · rcases mem_setFlag h with rfl | h
      · exact .inr List.mem_cons_self
      · exact .inl h
    · exact .inr (List.mem_cons_of_mem c h)

lemma setFlags_new {classes : List (String × Bool)} (h : ((cs ++ classes).map Prod.fst).Nodup) :
    setFlags cs classes = cs ++ classes := by
  induction classes generalizing cs with
  | nil => exact (List.append_nil cs).symm
  | cons k classes ih =>
    have hk : k.1 ∉ cs.map Prod.fst := by
      rw [List.map_append] at h
      exact fun hm => (List.nodup_append.mp h).2.2 _ hm _ List.mem_cons_self rfl
    have hs : setFlags cs (k :: classes) = setFlags (setFlag k.1 k.2 cs) classes := rfl
    rw [List.append_cons] at h ⊢
    rw [hs, setFlag_new hk, ih h]

lemma names_setFlags (cs classes : List (String × Bool)) : (setFlags cs classes).map Prod.fst =
    Project.extend (cs.map Prod.fst) (classes.map Prod.fst) := by
  induction classes generalizing cs with
  | nil => rfl
  | cons k classes ih =>
    have hs : setFlags cs (k :: classes) = setFlags (setFlag k.1 k.2 cs) classes := rfl
    have he (ps qs : List String) (q : String) : Project.extend ps (q :: qs) =
        Project.extend (if q ∈ ps then ps else ps ++ [q]) qs := by
      simp [Project.extend]
    rw [hs, ih, names_setFlag, List.map_cons, he]

lemma lookup_setFlag (name n : String) (flag : Bool) (cs : List (String × Bool)) :
    (setFlag name flag cs).lookup n = if n = name then some flag else cs.lookup n := by
  by_cases h : n = name
  · subst h
    rw [if_pos rfl]
    induction cs with
    | nil => exact List.lookup_cons_self
    | cons c cs ih =>
      obtain ⟨m, b⟩ := c
      unfold setFlag
      split
      · rename_i hm
        rw [hm, List.lookup_cons_self]
      · rename_i hm
        rw [lookup_cons_of_ne b (Ne.symm hm), ih]
  · rw [if_neg h]
    induction cs with
    | nil => exact lookup_cons_of_ne flag h
    | cons c cs ih =>
      obtain ⟨m, b⟩ := c
      unfold setFlag
      split
      · rename_i hm
        rw [lookup_cons_of_ne flag (hm ▸ h), lookup_cons_of_ne b (hm ▸ h)]
      · rw [List.lookup_cons, ih, List.lookup_cons]

lemma lookup_setFlags (cs classes : List (String × Bool)) (n : String) :
    (setFlags cs classes).lookup n = (classes.reverse.lookup n).or (cs.lookup n) := by
  induction classes generalizing cs with
  | nil => rfl
  | cons k classes ih =>
    have hs : setFlags cs (k :: classes) = setFlags (setFlag k.1 k.2 cs) classes := rfl
    have hlast : (if n = k.1 then some k.2 else cs.lookup n) = ([k].lookup n).or (cs.lookup n) := by
      by_cases h : n = k.1
      · rw [if_pos h, h, List.lookup_cons_self, Option.some_or]
      · rw [if_neg h, lookup_cons_of_ne k.2 h, List.lookup_nil, Option.none_or]
    rw [hs, ih, lookup_setFlag, List.reverse_cons, List.lookup_append, Option.or_assoc, hlast]

lemma setFlag_setFlag (name : String) (flag old : Bool) (cs : List (String × Bool)) :
    setFlag name flag (setFlag name old cs) = setFlag name flag cs := by
  induction cs with
  | nil => simp [setFlag]
  | cons c cs ih =>
    by_cases h : c.1 = name
    · simp [setFlag, h]
    · simp [setFlag, h, ih]

lemma setFlag_comm {n : String} (b : Bool) (hne : n ≠ name) (h : name ∈ cs.map Prod.fst) :
    setFlag n b (setFlag name flag cs) = setFlag name flag (setFlag n b cs) := by
  induction cs with
  | nil => cases h
  | cons c cs ih =>
    by_cases hc : c.1 = name
    · have hn : ¬ name = n := fun he => hne he.symm
      simp [setFlag, hc, hn]
    · by_cases hn : c.1 = n
      · simp [setFlag, hn, hne]
      · have hs : name ∈ cs.map Prod.fst := (List.mem_cons.mp h).resolve_left fun he => hc he.symm
        simp [setFlag, hc, hn, ih hs]

lemma setFlag_of_lookup (h : cs.lookup name = some flag) : setFlag name flag cs = cs := by
  induction cs with
  | nil => cases h
  | cons c cs ih =>
    obtain ⟨n, b⟩ := c
    rw [List.lookup_cons] at h
    unfold setFlag
    split
    · rename_i hn
      subst hn
      simp only [beq_self_eq_true, Option.some.injEq] at h
      rw [h]
    · rename_i hn
      have hb : (name == n) = false := beq_eq_false_iff_ne.mpr fun he => hn he.symm
      rw [hb] at h
      rw [ih h]

lemma setFlags_setFlag {classes : List (String × Bool)} (h : name ∈ cs.map Prod.fst)
    (hc : name ∈ classes.map Prod.fst) :
    setFlags (setFlag name flag cs) classes = setFlags cs classes := by
  induction classes generalizing cs with
  | nil => cases hc
  | cons k classes ih =>
    have hs (cs : List (String × Bool)) :
        setFlags cs (k :: classes) = setFlags (setFlag k.1 k.2 cs) classes := rfl
    by_cases hk : k.1 = name
    · rw [hs, hs, ← hk, setFlag_setFlag]
    · have hmem : name ∈ (setFlag k.1 k.2 cs).map Prod.fst := by
        rw [names_setFlag]
        split
        · exact h
        · exact List.mem_append_left _ h
      rw [hs, hs, setFlag_comm k.2 hk h]
      exact ih hmem ((List.mem_cons.mp hc).resolve_left fun he => hk he.symm)

lemma setFlags_setFlags (cs classes : List (String × Bool)) :
    setFlags (setFlags cs classes) classes = setFlags cs classes := by
  induction classes generalizing cs with
  | nil => rfl
  | cons k classes ih =>
    have hs (cs : List (String × Bool)) :
        setFlags cs (k :: classes) = setFlags (setFlag k.1 k.2 cs) classes := rfl
    have hthere : k.1 ∈ (setFlags (setFlag k.1 k.2 cs) classes).map Prod.fst := by
      rw [names_setFlags, Project.mem_extend, names_setFlag]
      refine .inl ?_
      split
      · assumption
      · exact List.mem_append_right _ (List.mem_singleton_self _)
    rw [hs, hs cs]
    by_cases hk : k.1 ∈ classes.map Prod.fst
    · rw [setFlags_setFlag hthere hk, ih]
    · have hnone : classes.reverse.lookup k.1 = none := by
        rw [List.lookup_eq_none_iff]
        intro p hp
        rw [bne_iff_ne]
        rintro he
        exact hk (List.mem_map.mpr ⟨p, List.mem_reverse.mp hp, he.symm⟩)
      have hflag : (setFlags (setFlag k.1 k.2 cs) classes).lookup k.1 = some k.2 := by
        rw [lookup_setFlags, hnone, lookup_setFlag, if_pos rfl, Option.none_or]
      rw [setFlag_of_lookup hflag, ih]

end Classes

end BugArchive.Collection
