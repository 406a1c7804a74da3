import BugArchive.Json.Reader
import BugArchive.Json.Writer
import BugArchive.Proofs.Text.Numeral
import Mathlib.Data.Option.Basic
import Mathlib.Tactic.SplitIfs

namespace BugArchive.Json

open Text (takeWhile_run dropWhile_run)

section Texts

lemma hex4?_control : ∀ n < 0x20, hex4? '0' '0' (hexDigit (n / 16)) (hexDigit n) = some n := by
  decide

variable (acc : List Char) {c : Char} (cs : List Char)

lemma text_control (h : c.toNat < 0x20) :
    text acc ('\\' :: 'u' :: '0' :: '0' :: hexDigit (c.toNat / 16) :: hexDigit c.toNat :: cs) =
      text (c :: acc) cs := by
  have hlow : isLowSurrogate c.toNat = false := by
    simp [isLowSurrogate]
    omega
  have hhigh : isHighSurrogate c.toNat = false := by
    simp [isHighSurrogate]
    omega
  rw [text, hex4?_control _ h]
  simp [hlow, hhigh]

lemma text_ordinary (hq : c ≠ '"') (hb : c ≠ '\\') (h : ¬ c.toNat < 0x20) :
    text acc (c :: cs) = text (c :: acc) cs := by
  rw [text.eq_5 acc c cs hq (fun _ _ _ _ _ hc _ => hb hc) fun _ _ hc _ => hb hc, if_neg h]

lemma text_escape (c : Char) : text acc (escape c ++ cs) = text (c :: acc) cs := by
  have hsimple {e c : Char} (hu : e ≠ 'u') (he : simpleEscape? e = some c) :
      text acc ('\\' :: e :: cs) = text (c :: acc) cs := by
    rw [text.eq_4 acc e cs fun _ _ _ _ _ h => absurd h hu, he]
  unfold escape
  split_ifs with hquote hback _ _ _ _ _ hcontrol
  -- These have an escape of one letter.
  iterate 7
    · subst c
      exact hsimple (by decide) rfl
  · exact text_control acc cs hcontrol
  · exact text_ordinary acc cs hquote hback hcontrol

lemma text_flatMap_escape (s rest : List Char) :
    text acc (s.flatMap escape ++ '"' :: rest) = some (String.ofList (acc.reverse ++ s), rest) := by
  induction s generalizing acc with
  | nil => rw [List.flatMap_nil, List.nil_append, text, List.append_nil]
  | cons c s ih =>
    rw [List.flatMap_cons, List.append_assoc, text_escape, ih, List.reverse_cons, List.append_assoc]
    rfl

lemma text_written (s : String) (rest : List Char) :
    text [] (s.toList.flatMap escape ++ '"' :: rest) = some (s, rest) := by
  rw [text_flatMap_escape, List.reverse_nil, List.nil_append, String.ofList_toList]

end Texts

section Integers

def Stops (rest : List Char) : Prop :=
  ∀ c ∈ rest.head?, isDigit c = false ∧ c ≠ '.' ∧ c ≠ 'e' ∧ c ≠ 'E'

variable {rest : List Char} (hr : Stops rest)

lemma digitsValue_toDigits (n : Nat) : digitsValue (Nat.toDigits 10 n) = n := by
  rw [digitsValue, Text.Numeral.value, List.foldl_map, ← Nat.ofDigitChars_eq_foldl,
    Nat.ofDigitChars_ten_toDigits]

lemma isDigit_of_mem {n : Nat} {c : Char} (h : c ∈ Nat.toDigits 10 n) : isDigit c = true :=
  Text.Numeral.isDigit_of_mem h

lemma exists_cons_toDigits (n : Nat) : ∃ c cs, Nat.toDigits 10 n = c :: cs ∧ isDigit c = true := by
  obtain ⟨c, cs, hcs⟩ := List.exists_cons_of_ne_nil (Nat.toDigits_ne_nil (n := n) (b := 10))
  exact ⟨c, cs, hcs, isDigit_of_mem (hcs ▸ List.mem_cons_self)⟩

lemma head?_toDigits {n : Nat} (hn : 0 < n) : (Nat.toDigits 10 n).head? ≠ some '0' := by
  induction n using Nat.strongRecOn with
  | ind n ih =>
    by_cases h : n < 10
    · have hsmall : ∀ m < 10, 0 < m → Nat.digitChar m ≠ '0' := by decide
      rw [Nat.toDigits_of_lt_base h, List.head?_cons]
      exact fun heq => hsmall n h hn (Option.some.inj heq)
    · have hfront := ih (n / 10) (by omega) (by omega)
      rw [Nat.toDigits_of_base_le (by decide) (Nat.not_lt.mp h), List.head?_append,
        Option.or_of_isSome (List.isSome_head?.mpr Nat.toDigits_ne_nil)]
      exact hfront

lemma length_or_head?_toDigits (n : Nat) :
    (Nat.toDigits 10 n).length = 1 ∨ (Nat.toDigits 10 n).head? ≠ some '0' := by
  rcases Nat.eq_zero_or_pos n with rfl | hn
  · exact .inl rfl
  · exact .inr (head?_toDigits hn)

lemma ne_of_isDigit {c d : Char} (hc : isDigit c = true) (hd : isDigit d = false) : c ≠ d := by
  rintro rfl
  rw [hd] at hc
  cases hc

lemma scalar_digit {c : Char} (hc : isDigit c = true) (maxDigits : Nat) (cs : List Char) :
    scalar maxDigits (c :: cs) = magnitude maxDigits false (c :: cs) := by
  rw [scalar]
  all_goals intro cs' h
  all_goals exact ne_of_isDigit hc (by decide) (List.cons.inj h).1

include hr

lemma digits_toDigits (n : Nat) :
    digits (Nat.toDigits 10 n ++ rest) = some (Nat.toDigits 10 n, rest) := by
  have hd : ∀ c ∈ Nat.toDigits 10 n, isDigit c = true := fun c => isDigit_of_mem
  have hs : ∀ c ∈ rest.head?, isDigit c = false := fun c hc => (hr c hc).1
  rw [digits, takeWhile_run hd hs, dropWhile_run hd hs]
  cases hn : Nat.toDigits 10 n with
  | nil => exact absurd hn Nat.toDigits_ne_nil
  | cons d ds => rfl

lemma fraction_eq_none : fraction rest = some (none, rest) := by
  cases rest with
  | nil => rfl
  | cons c cs =>
    obtain ⟨-, hpoint, -⟩ := hr c rfl
    rw [fraction]
    exact fun _ h => hpoint (List.cons.inj h).1

lemma exponent_eq_none : exponent rest = some (none, rest) := by
  cases rest with
  | nil => rfl
  | cons c cs =>
    obtain ⟨-, -, hlower, hupper⟩ := hr c rfl
    rw [exponent]
    · exact fun _ h => hlower (List.cons.inj h).1
    · exact fun _ h => hupper (List.cons.inj h).1

lemma magnitude_toDigits {maxDigits n : Nat} (hn : (Nat.toDigits 10 n).length ≤ maxDigits)
    (negative : Bool) : magnitude maxDigits negative (Nat.toDigits 10 n ++ rest) =
      some (.int ((if negative then -1 else 1) * n), rest) := by
  have hzero := (Option.guard_eq_some' ()).mpr (length_or_head?_toDigits n)
  have hlength := (Option.guard_eq_some' ()).mpr hn
  simp [magnitude, digits_toDigits hr, hzero, hlength, fraction_eq_none hr, exponent_eq_none hr,
    digitsValue_toDigits]

lemma scalar_writeInt {maxDigits : Nat} {n : Int}
    (hn : (Nat.toDigits 10 n.natAbs).length ≤ maxDigits) :
    scalar maxDigits (writeInt n rest) = some (.int n, rest) := by
  have hmagnitude := magnitude_toDigits hr hn
  obtain ⟨c, cs, hcs, hc⟩ := exists_cons_toDigits n.natAbs
  rw [writeInt, List.append_assoc, hcs]
  rw [hcs] at hmagnitude
  split
  · have hI : c ≠ 'I' := ne_of_isDigit hc rfl
    have hvalue : -1 * (n.natAbs : Int) = n := by omega
    rw [List.cons_append, List.nil_append, List.cons_append, scalar]
    · exact (hmagnitude true).trans (by rw [if_pos rfl, hvalue])
    · exact fun _ h => hI (List.cons.inj h).1
  · have hvalue : 1 * (n.natAbs : Int) = n := by omega
    rw [List.nil_append, List.cons_append, scalar_digit hc]
    exact (hmagnitude false).trans (by rw [if_neg Bool.false_ne_true, hvalue])

end Integers

end BugArchive.Json
