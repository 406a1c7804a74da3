import Mathlib.Tactic.Lemma

/-! A run of characters of one class in front of a text that does not go on with it. -/

namespace BugArchive.Text

variable {α : Type} {p : α → Bool} {xs rest : List α}

lemma takeWhile_run (hx : ∀ x ∈ xs, p x = true) (hr : ∀ x ∈ rest.head?, p x = false) :
    (xs ++ rest).takeWhile p = xs := by
  rw [List.takeWhile_append_of_pos hx]
  cases rest with
  | nil => simp
  | cons r rest => simp [hr r rfl]

lemma dropWhile_run (hx : ∀ x ∈ xs, p x = true) (hr : ∀ x ∈ rest.head?, p x = false) :
    (xs ++ rest).dropWhile p = rest := by
  rw [List.dropWhile_append_of_pos hx]
  cases rest with
  | nil => simp
  | cons r rest => simp [hr r rfl]

lemma takeWhile_all (hx : ∀ x ∈ xs, p x = true) : xs.takeWhile p = xs := by
  induction xs with
  | nil => rfl
  | cons x xs ih =>
    rw [List.takeWhile_cons, if_pos (hx x List.mem_cons_self),
      ih fun y hy => hx y (List.mem_cons_of_mem x hy)]

lemma dropWhile_all (hx : ∀ x ∈ xs, p x = true) : xs.dropWhile p = [] := by
  induction xs with
  | nil => rfl
  | cons x xs ih =>
    rw [List.dropWhile_cons, if_pos (hx x List.mem_cons_self),
      ih fun y hy => hx y (List.mem_cons_of_mem x hy)]

end BugArchive.Text
