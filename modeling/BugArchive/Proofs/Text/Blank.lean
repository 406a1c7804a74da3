import BugArchive.Text.Blank
import Mathlib.Tactic.Lemma

namespace BugArchive.Text

lemma isDigit_bounds {c : Char} (h : c.isDigit = true) : 48 ≤ c.toNat ∧ c.toNat ≤ 57 :=
  Char.isDigit_iff_toNat.mp h

lemma isBlank_of_isDigit {c : Char} (h : c.isDigit = true) : isBlank c = false := by
  obtain ⟨hl, hh⟩ := isDigit_bounds h
  simp [isBlank]
  omega

lemma strip_of_ends {cs : List Char} (hf : ∀ c ∈ cs.head?, isBlank c = false)
    (hl : ∀ c ∈ cs.getLast?, isBlank c = false) : strip cs = cs := by
  have hd {ds : List Char} (h : ∀ c ∈ ds.head?, isBlank c = false) : dropBlanks ds = ds := by
    cases ds with
    | nil => rfl
    | cons d ds => simp [dropBlanks, h d rfl]
  rw [strip, hd hf, hd (by simpa using hl), List.reverse_reverse]

lemma head?_dropBlanks (cs : List Char) : ∀ c ∈ (dropBlanks cs).head?, isBlank c = false := by
  intro c hc
  have h := List.head?_dropWhile_not isBlank cs
  rw [show (cs.dropWhile isBlank).head? = some c from hc] at h
  exact h

lemma head?_strip (cs : List Char) : ∀ c ∈ (strip cs).head?, isBlank c = false := by
  intro c hc
  rw [strip, List.head?_reverse] at hc
  have hsuffix : dropBlanks (dropBlanks cs).reverse <:+ (dropBlanks cs).reverse :=
    List.dropWhile_suffix isBlank
  obtain ⟨front, hfront⟩ := hsuffix
  refine head?_dropBlanks cs c ?_
  rw [Option.mem_def] at hc ⊢
  rw [← List.getLast?_reverse, ← hfront, List.getLast?_append, hc, Option.some_or]

lemma getLast?_strip (cs : List Char) : ∀ c ∈ (strip cs).getLast?, isBlank c = false := by
  rw [strip, List.getLast?_reverse]
  exact head?_dropBlanks _

lemma strip_map_strip {f : Char → Char} (hf : ∀ c, isBlank c = false → isBlank (f c) = false)
    (cs : List Char) : strip ((strip cs).map f) = (strip cs).map f := by
  refine strip_of_ends (fun c hc => ?_) fun c hc => ?_
  · rw [List.head?_map] at hc
    obtain ⟨d, hd, rfl⟩ := Option.map_eq_some_iff.mp hc
    exact hf d (head?_strip cs d hd)
  · rw [List.getLast?_map] at hc
    obtain ⟨d, hd, rfl⟩ := Option.map_eq_some_iff.mp hc
    exact hf d (getLast?_strip cs d hd)

end BugArchive.Text
