import BugArchive.Disk
import Mathlib.Data.List.Basic

namespace BugArchive.Disk

variable {path : String}

lemma mem_above {p place : List String} (h : p <+: place) : p = place ∨ p ∈ above place := by
  rcases Nat.lt_or_eq_of_le h.length_le with hlt | heq
  · exact .inr (List.mem_map.mpr ⟨p.length, List.mem_range.mpr hlt, (List.prefix_iff_eq_take.mp h).symm⟩)
  · exact .inl (h.eq_of_length heq)

section Tidy

lemma separator_not_mem_of_mem_splitOn {cs w : List Char} (h : w ∈ cs.splitOn '/') : '/' ∉ w := by
  induction cs generalizing w with
  | nil =>
    obtain rfl := List.mem_singleton.mp h
    exact List.not_mem_nil
  | cons c cs ih =>
    rw [List.splitOn_cons_eq_if_modifyHead] at h
    split at h
    · rcases List.mem_cons.mp h with rfl | h
      · exact List.not_mem_nil
      · exact ih h
    · rename_i hc
      cases hs : cs.splitOn '/' with
      | nil =>
        rw [hs] at h
        cases h
      | cons v vs =>
        rw [hs] at h ih
        rcases List.mem_cons.mp h with rfl | h
        · rw [List.mem_cons, not_or]
          exact ⟨fun heq => hc (beq_iff_eq.mpr heq.symm), ih (List.mem_cons_self ..)⟩
        · exact ih (List.mem_cons_of_mem _ h)

lemma mem_names {name : String} (h : name ∈ names path) : name ≠ "" ∧ '/' ∉ name.toList := by
  obtain ⟨hmem, hne⟩ := List.mem_filter.mp h
  obtain ⟨w, hw, rfl⟩ := List.mem_map.mp hmem
  rw [String.toList_ofList]
  exact ⟨of_decide_eq_true hne, separator_not_mem_of_mem_splitOn hw⟩

lemma names_separator (s : String) : names ("/" ++ s) = names s := by
  have hs : ("/" ++ s).toList.splitOn '/' = [] :: s.toList.splitOn '/' := by
    rw [String.toList_append]
    exact List.splitOn_append_cons_self [] s.toList
  rw [names, hs]
  rfl

lemma names_intercalate {ns : List String} (h : ∀ n ∈ ns, n ≠ "" ∧ '/' ∉ n.toList) :
    names (String.intercalate "/" ns) = ns := by
  cases ns with
  | nil => rfl
  | cons n ns =>
    have hsplit : (String.intercalate "/" (n :: ns)).toList.splitOn '/' =
        (n :: ns).map String.toList := by
      rw [String.toList_intercalate]
      refine List.splitOn_intercalate '/' (fun w hw => ?_) (List.cons_ne_nil _ _)
      obtain ⟨m, hm, rfl⟩ := List.mem_map.mp hw
      exact (h m hm).2
    rw [names, hsplit, List.map_map]
    simp only [Function.comp_def, String.ofList_toList, List.map_id']
    exact List.filter_eq_self.mpr fun m hm => decide_eq_true (h m hm).1

lemma foldl_step_filter (d : Disk) (place : List String) (ns : List String) :
    (ns.filter (· ≠ ".")).foldl d.step place = ns.foldl d.step place := by
  induction ns generalizing place with
  | nil => rfl
  | cons n ns ih =>
    by_cases hn : n = "."
    · subst hn
      exact ih place
    · have hp : decide (n ≠ ".") = true := decide_eq_true hn
      rw [List.filter_cons_of_pos (p := fun n => decide (n ≠ ".")) hp, List.foldl_cons,
        List.foldl_cons, ih]

lemma head?_intercalate {ns : List String} (h : ∀ n ∈ ns, n ≠ "" ∧ '/' ∉ n.toList) :
    (String.intercalate "/" ns).toList.head? ≠ some '/' := by
  cases ns with
  | nil => exact nofun
  | cons n ns =>
    obtain ⟨hn, hslash⟩ := h n (List.mem_cons_self ..)
    cases hcs : n.toList with
    | nil => exact absurd (String.toList_eq_nil_iff.mp hcs) hn
    | cons c cs =>
      rw [hcs] at hslash
      intro hhead
      have hc : (String.intercalate "/" (n :: ns)).toList.head? = some c := by
        rw [String.toList_intercalate, List.map_cons, hcs]
        cases ns <;> rfl
      obtain rfl := Option.some.inj (hc.symm.trans hhead)
      exact hslash (List.mem_cons_self ..)

lemma shownOrigin_cases (path : String) :
    origin path = [] ∧ shownOrigin path = "" ∨
      origin path = ["/"] ∧ (shownOrigin path = "/" ∨ shownOrigin path = "//") := by
  rw [origin, shownOrigin]
  cases path.toList with
  | nil => exact .inl ⟨rfl, rfl⟩
  | cons c cs =>
    by_cases hc : c = '/'
    · subst hc
      refine .inr ⟨rfl, ?_⟩
      rw [List.takeWhile_cons_of_pos rfl]
      rcases cs.takeWhile (· == '/') with - | ⟨e, - | ⟨f, fs⟩⟩
      · exact .inl rfl
      · exact .inr rfl
      · exact .inl rfl
    · refine .inl ⟨if_neg (by simpa using hc), ?_⟩
      rw [List.takeWhile_cons_of_neg (by simpa using hc)]

variable (d : Disk)

lemma target_separator (s : String) : d.target ("/" ++ s) = (names s).foldl d.step ["/"] := by
  have ho : origin ("/" ++ s) = ["/"] := by
    rw [origin, String.toList_append]
    rfl
  rw [target, names_separator, ho]

lemma separator_append_ne (s : String) : "/" ++ s ≠ "" := fun h => by
  have hlist := congrArg String.toList h
  rw [String.toList_append] at hlist
  cases hlist

lemma target_tidy (path : String) : d.target (tidy path) = d.target path := by
  have hkept : ∀ n ∈ (names path).filter (· ≠ "."), n ≠ "" ∧ '/' ∉ n.toList :=
    fun n hn => mem_names (List.mem_filter.mp hn).1
  have hnames := names_intercalate hkept
  rw [target.eq_1 d path, ← foldl_step_filter d (origin path) (names path), tidy]
  rcases shownOrigin_cases path with ⟨ho, hs⟩ | ⟨ho, hs | hs⟩
  · rw [hs, String.empty_append, ho]
    split
    · rename_i hempty
      rw [← hnames, hempty]
      rfl
    · rw [target, hnames, origin, if_neg (head?_intercalate hkept)]
  · rw [hs, if_neg (separator_append_ne _), target_separator, hnames, ho]
  · rw [hs, show "//" = "/" ++ "/" from rfl, String.append_assoc, if_neg (separator_append_ne _),
      target_separator, names_separator, hnames, ho]

end Tidy

end BugArchive.Disk
