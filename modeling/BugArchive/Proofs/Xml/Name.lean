import BugArchive.Proofs.Text.Span
import BugArchive.Xml.Scan
import Mathlib.Tactic.Lemma

/-! Names that can be written as they are: no colon in them, and a scanner finds them again. -/

namespace BugArchive.Xml

def isPlainName : List Char → Bool
  | [] => false
  | c :: cs => Alphabet.general.isNameStart c && cs.all Alphabet.general.isNameChar

def EndsName (rest : List Char) : Prop :=
  ∀ c ∈ rest.head?, Alphabet.general.isNameChar c = false ∧ c ≠ ':'

lemma EndsName.cons {c : Char} {cs : List Char} (hc : Alphabet.general.isNameChar c = false)
    (hn : c ≠ ':') : EndsName (c :: cs) := by
  intro d hd
  obtain rfl := Option.some.inj hd
  exact ⟨hc, hn⟩

lemma isNameChar_of_start {c : Char} (h : Alphabet.general.isNameStart c = true) :
    Alphabet.general.isNameChar c = true := by
  simp [Alphabet.isNameChar, h]

lemma ne_of_isNameStart {c d : Char} (hc : Alphabet.general.isNameStart c = true)
    (hd : Alphabet.general.isNameStart d = false) : c ≠ d := by
  rintro rfl
  rw [hc] at hd
  cases hd

lemma isPlainName_cases {name : List Char} (h : isPlainName name = true) :
    ∃ c cs, name = c :: cs ∧ Alphabet.general.isNameStart c = true ∧
      ∀ d ∈ cs, Alphabet.general.isNameChar d = true := by
  cases name with
  | nil => cases h
  | cons c cs =>
    rw [isPlainName, Bool.and_eq_true, List.all_eq_true] at h
    exact ⟨c, cs, rfl, h.1, h.2⟩

lemma isNameChar_of_mem {name : List Char} {c : Char} (h : isPlainName name = true)
    (hc : c ∈ name) : Alphabet.general.isNameChar c = true := by
  obtain ⟨d, ds, rfl, hd, hs⟩ := isPlainName_cases h
  rcases List.mem_cons.mp hc with rfl | hc
  · exact isNameChar_of_start hd
  · exact hs c hc

lemma not_mem_of_isPlainName {name : List Char} {c : Char} (h : isPlainName name = true)
    (hc : Alphabet.general.isNameChar c = false) : c ∉ name := by
  intro hm
  rw [isNameChar_of_mem h hm] at hc
  cases hc

lemma simpleName_append {name rest : List Char} (h : isPlainName name = true)
    (hr : EndsName rest) : simpleName .general (name ++ rest) = some (name, rest) := by
  obtain ⟨c, cs, rfl, hc, hs⟩ := isPlainName_cases h
  have hn : ∀ d ∈ rest.head?, Alphabet.general.isNameChar d = false := fun d hd => (hr d hd).1
  rw [List.cons_append, simpleName, if_pos hc, Text.takeWhile_run hs hn, Text.dropWhile_run hs hn]

lemma qualifiedName_append {name rest : List Char} (h : isPlainName name = true)
    (hr : EndsName rest) : qualifiedName .general (name ++ rest) = some (name, rest) := by
  rw [qualifiedName, simpleName_append h hr]
  split
  · rename_i heq
    obtain ⟨-, rfl⟩ := Prod.mk.inj (Option.some.inj heq)
    exact absurd rfl (hr ':' rfl).2
  · rfl

lemma skipBlanks_name {name : List Char} (rest : List Char) (h : isPlainName name = true) :
    skipBlanks (name ++ rest) = name ++ rest := by
  obtain ⟨c, cs, rfl, hc, -⟩ := isPlainName_cases h
  have hb : isBlank c ≠ true := by
    intro hb
    simp only [isBlank, Bool.or_eq_true, beq_iff_eq] at hb
    rcases hb with ((rfl | rfl) | rfl) | rfl <;> revert hc <;> decide
  rw [List.cons_append, skipBlanks, List.dropWhile_cons, if_neg hb]

lemma isWithin_bounds {ranges : List (Nat × Nat)} {n : Nat} (low high : Nat)
    (hr : ∀ r ∈ ranges, low ≤ r.1 ∧ r.2 ≤ high) (h : isWithin ranges n = true) :
    low ≤ n ∧ n ≤ high := by
  obtain ⟨r, hm, hn⟩ := List.any_eq_true.mp h
  simp only [Bool.and_eq_true, decide_eq_true_eq] at hn
  exact ⟨Nat.le_trans (hr r hm).1 hn.1, Nat.le_trans hn.2 (hr r hm).2⟩

lemma isLegal_of_bounds {c : Char} (hl : 0x20 ≤ c.toNat) (hh : c.toNat ≤ 0xD7FF) :
    isLegal c = true := by
  simp [isLegal, hl, hh]

lemma isLegal_of_isNameStart {c : Char} (h : Alphabet.general.isNameStart c = true) :
    isLegal c = true := by
  rw [Alphabet.isNameStart] at h
  split at h
  · simp only [Bool.or_eq_true, Bool.and_eq_true, decide_eq_true_eq, beq_iff_eq] at h
    rcases h with (⟨hl, -⟩ | ⟨hl, -⟩) | rfl
    · exact isLegal_of_bounds (Nat.le_trans (by decide) hl) (by omega)
    · exact isLegal_of_bounds (Nat.le_trans (by decide) hl) (by omega)
    · decide
  · simp only [Bool.or_eq_true, Bool.and_eq_true, reduceCtorEq, beq_iff_eq, false_and, or_false] at h
    obtain ⟨hl, hh⟩ := isWithin_bounds 0xC0 0xD7A3 (by decide +kernel) h
    exact isLegal_of_bounds (by omega) (by omega)

lemma isLegal_of_isNameChar {c : Char} (h : Alphabet.general.isNameChar c = true) :
    isLegal c = true := by
  simp only [Alphabet.isNameChar, Bool.or_eq_true, Bool.and_eq_true, decide_eq_true_eq,
    beq_iff_eq] at h
  rcases h with (((h | ⟨hl, hh⟩) | rfl) | rfl) | ⟨-, h⟩
  · exact isLegal_of_isNameStart h
  · exact isLegal_of_bounds (Nat.le_trans (by decide) hl) (Nat.le_trans hh (by decide))
  · decide
  · decide
  · obtain ⟨hl, hh⟩ := isWithin_bounds 0xB7 0x30FE (by decide +kernel) h
    exact isLegal_of_bounds (by omega) (by omega)

end BugArchive.Xml
