import BugArchive.Proofs.Xml.Name
import BugArchive.Xml.Dtd
import BugArchive.Xml.Writer

namespace BugArchive

namespace Text

open Spelled

namespace CodePoint

@[simp]
lemma char?_ofChar (c : Char) : (ofChar c).char? = some c := by
  rw [char?, dif_pos (show (ofChar c).value.isValidChar from c.valid)]
  exact congrArg some (Char.ext (UInt32.toNat_inj.mp rfl))

lemma ofChar_of_char? {p : CodePoint} {c : Char} (h : p.char? = some c) : ofChar c = p := by
  by_cases hv : p.value.isValidChar
  · rw [char?, dif_pos hv] at h
    obtain rfl := Option.some.inj h
    cases p
    rfl
  · rw [char?, dif_neg hv] at h
    cases h

end CodePoint

@[simp]
lemma ofString_string (s : String) : (ofString s : String) = s := rfl

@[simp]
lemma points_string (s : String) : points s = s.toList.map .ofChar := rfl

lemma points_isEmpty (s : String) : (points s).isEmpty = s.isEmpty := by
  rw [points_string, List.isEmpty_map, Bool.eq_iff_iff, List.isEmpty_iff, String.isEmpty_iff,
    String.toList_eq_nil_iff]

@[simp]
lemma points_empty {σ : Type} [Spelled σ] : points (ofString "" : σ) = [] :=
  points_ofString ""

end Text

namespace Xml

open Text (CodePoint Spelled)

def escapeReturn : Char → List Char
  | '\r' => "&#13;".toList
  | c => escapeText c

def Reference.StandsFor (c : Char) : Reference → Prop
  | .char d => d = c
  | .entity name => predefined? name = some c

def RefersTo (front : List Char) (c : Char) : Prop :=
  ∀ rest, ∃ ref, Reference.scan .general (front ++ rest) = some (ref, rest) ∧ ref.StandsFor c

lemma refersTo_name (name : List Char) {c : Char} (h : isPlainName name = true)
    (hc : predefined? name = some c) : RefersTo (name ++ [';']) c := by
  intro rest
  refine ⟨.entity name, ?_, hc⟩
  have he : EndsName (';' :: rest) := .cons (by decide) (by decide)
  have hs := simpleName_append h he
  obtain ⟨d, ds, rfl, hd, -⟩ := isPlainName_cases h
  have hn : d ≠ '#' := ne_of_isNameStart hd (by decide)
  rw [List.append_assoc, List.singleton_append]
  unfold Reference.scan
  split
  · simp_all
  · simp_all
  · rw [hs]
    rfl

lemma refersTo_number {front : List Char} {c : Char}
    (h : ∀ rest, Reference.scan .general (front ++ rest) = some (.char c, rest)) :
    RefersTo front c :=
  fun rest => ⟨.char c, h rest, rfl⟩

lemma escapeText_cases (c : Char) :
    escapeText c = [c] ∧ c ≠ '&' ∧ c ≠ '<' ∧ c ≠ '>' ∨
      ∃ front, escapeText c = '&' :: front ∧ RefersTo front c := by
  unfold escapeText
  split
  · exact .inr ⟨_, rfl, refersTo_name "amp".toList (by decide) (by decide)⟩
  · exact .inr ⟨_, rfl, refersTo_name "lt".toList (by decide) (by decide)⟩
  · exact .inr ⟨_, rfl, refersTo_name "gt".toList (by decide) (by decide)⟩
  · exact .inl ⟨rfl, by assumption, by assumption, by assumption⟩

lemma escapeReturn_cases (c : Char) :
    escapeReturn c = [c] ∧ c ≠ '&' ∧ c ≠ '<' ∧ c ≠ '>' ∧ c ≠ '\r' ∨
      ∃ front, escapeReturn c = '&' :: front ∧ RefersTo front c := by
  unfold escapeReturn
  split
  · exact .inr ⟨_, rfl, refersTo_number fun _ => rfl⟩
  · rename_i hr
    rcases escapeText_cases c with ⟨h, ha, hl, hg⟩ | h
    · exact .inl ⟨h, ha, hl, hg, hr⟩
    · exact .inr h

lemma escapeAttribute_cases (c : Char) :
    escapeAttribute c = [c] ∧ c ≠ '&' ∧ c ≠ '<' ∧ blankToSpace c = c ∨
      ∃ front, escapeAttribute c = '&' :: front ∧ RefersTo front c := by
  unfold escapeAttribute
  split
  · exact .inr ⟨_, rfl, refersTo_name "amp".toList (by decide) (by decide)⟩
  · exact .inr ⟨_, rfl, refersTo_name "lt".toList (by decide) (by decide)⟩
  · exact .inr ⟨_, rfl, refersTo_name "gt".toList (by decide) (by decide)⟩
  · exact .inr ⟨_, rfl, refersTo_name "quot".toList (by decide) (by decide)⟩
  · exact .inr ⟨_, rfl, refersTo_number fun _ => rfl⟩
  · exact .inr ⟨_, rfl, refersTo_number fun _ => rfl⟩
  · exact .inr ⟨_, rfl, refersTo_number fun _ => rfl⟩
  · refine .inl ⟨rfl, by assumption, by assumption, ?_⟩
    by_cases hs : c = ' '
    · subst hs
      decide
    · have hb : isBlank c = false := by
        simp only [isBlank, Bool.or_eq_false_iff, beq_eq_false_iff_ne]
        exact ⟨⟨⟨hs, by assumption⟩, by assumption⟩, by assumption⟩
      rw [blankToSpace, hb]
      rfl

section Spell

variable (escape : Char → List Char)

@[simp]
lemma spell_ofChar (c : Char) : spell escape (.ofChar c) = escape c := by
  rw [spell, CodePoint.char?_ofChar]

lemma spell_none {p : CodePoint} (h : p.char? = none) :
    spell escape p = '&' :: '#' :: (Nat.toDigits 10 p.value ++ [';']) := by
  rw [spell, h]

lemma spellAll_string (s : String) : spellAll escape s = s.toList.flatMap escape := by
  simp [spellAll, List.flatMap_map]

end Spell

lemma mem_reference {front : List Char} {d : Char} (h : d ∈ front)
    (hs : front.all (fun d => d != '"' && d != '<' && d != '\r' && isLegal d) = true) :
    (d ≠ '"' ∧ d ≠ '<' ∧ d ≠ '\r') ∧ isLegal d = true := by
  have hd := List.all_eq_true.mp hs d h
  simp only [Bool.and_eq_true, bne_iff_ne] at hd
  exact ⟨⟨hd.1.1.1, hd.1.1.2, hd.1.2⟩, hd.2⟩

lemma mem_escapeAttribute {c d : Char} (h : d ∈ escapeAttribute c) :
    d ≠ '"' ∧ d ≠ '<' ∧ d ≠ '\r' ∧ (isLegal c = true → isLegal d = true) := by
  unfold escapeAttribute at h
  split at h
  case h_8 =>
    obtain rfl := List.mem_singleton.mp h
    exact ⟨by assumption, by assumption, by assumption, id⟩
  all_goals
    obtain ⟨⟨hq, hl, hr⟩, hd⟩ := mem_reference h (by decide)
    exact ⟨hq, hl, hr, fun _ => hd⟩

lemma mem_spell_attribute {p : CodePoint} {d : Char} (h : d ∈ spell escapeAttribute p) :
    d ≠ '"' ∧ d ≠ '<' ∧ d ≠ '\r' := by
  cases hp : p.char? with
  | some c =>
    rw [← CodePoint.ofChar_of_char? hp, spell_ofChar] at h
    obtain ⟨hq, hl, hr, -⟩ := mem_escapeAttribute h
    exact ⟨hq, hl, hr⟩
  | none =>
    rw [spell_none _ hp] at h
    simp only [List.mem_cons, List.mem_append, List.not_mem_nil, or_false] at h
    have hdigit (hm : d ∈ Nat.toDigits 10 p.value) : d.isDigit = true :=
      Nat.isDigit_of_mem_toDigits (by decide) (by decide) hm
    refine ⟨?_, ?_, ?_⟩
    all_goals
      rintro rfl
      rcases h with h | h | h | h
      · cases h
      · cases h
      · cases hdigit h
      · cases h

lemma mem_spellAll_attribute {σ : Type} [Spelled σ] {text : σ} {d : Char}
    (h : d ∈ spellAll escapeAttribute text) : d ≠ '"' ∧ d ≠ '<' ∧ d ≠ '\r' := by
  obtain ⟨p, -, hd⟩ := List.mem_flatMap.mp h
  exact mem_spell_attribute hd

lemma mem_escapeReturn {c d : Char} (h : d ∈ escapeReturn c) :
    d ≠ '\r' ∧ (isLegal c = true → isLegal d = true) := by
  unfold escapeReturn escapeText at h
  split at h
  · obtain ⟨⟨-, -, hr⟩, hd⟩ := mem_reference h (by decide)
    exact ⟨hr, fun _ => hd⟩
  split at h
  case h_4 =>
    obtain rfl := List.mem_singleton.mp h
    exact ⟨by assumption, id⟩
  all_goals
    obtain ⟨⟨-, -, hr⟩, hd⟩ := mem_reference h (by decide)
    exact ⟨hr, fun _ => hd⟩

lemma escapeAttribute_illegal {c : Char} (h : isLegal c = false) : escapeAttribute c = [c] := by
  unfold escapeAttribute
  split
  case h_8 => rfl
  all_goals cases h

lemma escapeReturn_illegal {c : Char} (h : isLegal c = false) : escapeReturn c = [c] := by
  unfold escapeReturn escapeText
  split
  · cases h
  split
  case h_4 => rfl
  all_goals cases h

section Values

variable (s : EntitySet) (es : Entities)

def isRaw (c : Char) : Bool := c != '&' && c != '<'

lemma value_raw {run : List Char} (hr : ∀ c ∈ run, isRaw c = true) :
    s.value .general es run = some (run.map blankToSpace) := by
  have ha : ∀ c ∈ run, (c != '&') = true := fun c hc => (Bool.and_eq_true_iff.mp (hr c hc)).1
  have hl : run.contains '<' = false := by
    simp only [List.contains_eq_mem, decide_eq_false_iff_not]
    exact fun h => absurd (hr _ h) (by decide)
  have ht := Text.takeWhile_all ha
  have hd := Text.dropWhile_all ha
  rw [EntitySet.value]
  simp only [ht, hl, Bool.false_eq_true, if_false]
  split
  · rfl
  · rename_i h
    rw [hd] at h
    cases h

lemma value_reference {run rest r : List Char} {ref : Reference} {c : Char}
    (hr : ∀ c ∈ run, isRaw c = true) (hs : Reference.scan .general rest = some (ref, r))
    (hc : ref.StandsFor c) :
    s.value .general es (run ++ '&' :: rest) =
      (s.value .general es r).map fun v => run.map blankToSpace ++ c :: v := by
  have ha : ∀ c ∈ run, (c != '&') = true := fun c hc => (Bool.and_eq_true_iff.mp (hr c hc)).1
  have hl : run.contains '<' = false := by
    simp only [List.contains_eq_mem, decide_eq_false_iff_not]
    exact fun h => absurd (hr _ h) (by decide)
  have ht : (run ++ '&' :: rest).takeWhile (· != '&') = run := Text.takeWhile_run ha (by simp)
  have hd : (run ++ '&' :: rest).dropWhile (· != '&') = '&' :: rest :=
    Text.dropWhile_run ha (by simp)
  rw [EntitySet.value]
  simp only [ht, hl, Bool.false_eq_true, if_false]
  split
  · rename_i h
    rw [hd] at h
    cases h
  rename_i h
  obtain ⟨-, rfl⟩ := List.cons.inj (hd.symm.trans h)
  split
  · rename_i h
    rw [hs] at h
    cases h
  · rename_i h
    rw [hs] at h
    obtain ⟨rfl, rfl⟩ := Prod.mk.inj (Option.some.inj h)
    obtain rfl := hc
    rfl
  · rename_i h
    rw [hs] at h
    obtain ⟨rfl, rfl⟩ := Prod.mk.inj (Option.some.inj h)
    simp only [Reference.StandsFor] at hc
    rw [hc]

lemma value_escaped_append {back : List Char} {read : Option (List Char)}
    (h : ∀ run : List Char, (∀ c ∈ run, isRaw c = true) →
      s.value .general es (run ++ back) = read.map (run.map blankToSpace ++ ·))
    (cs : List Char) {run : List Char} (hr : ∀ c ∈ run, isRaw c = true) :
    s.value .general es (run ++ (cs.flatMap escapeAttribute ++ back)) =
      read.map (run.map blankToSpace ++ cs ++ ·) := by
  -- what stands unescaped before a reference is read at once, so the induction gathers it in `run`
  induction cs generalizing run with
  | nil => simpa using h run hr
  | cons c cs ih =>
    rw [List.flatMap_cons, List.append_assoc]
    rcases escapeAttribute_cases c with ⟨he, ha, hl, hb⟩ | ⟨front, he, hf⟩
    · have hrun : ∀ d ∈ run ++ [c], isRaw d = true := by
        intro d hd
        rcases List.mem_append.mp hd with hd | hd
        · exact hr d hd
        · obtain rfl := List.mem_singleton.mp hd
          simp [isRaw, ha, hl]
      have hi := ih hrun
      rw [List.append_assoc, List.map_append, List.map_singleton, hb] at hi
      rw [he, hi]
      simp
    · obtain ⟨ref, hs, hc⟩ := hf (cs.flatMap escapeAttribute ++ back)
      have hi := @ih [] (by simp)
      rw [List.nil_append] at hi
      rw [he, List.cons_append, value_reference s es hr hs hc, hi]
      simp [Function.comp_def]

lemma value_escaped (cs : List Char) :
    s.value .general es (cs.flatMap escapeAttribute) = some cs := by
  have hraw (run : List Char) (hr : ∀ c ∈ run, isRaw c = true) :
      s.value .general es (run ++ []) = (some []).map (run.map blankToSpace ++ ·) := by
    simpa using value_raw s es hr
  simpa using @value_escaped_append s es [] (some []) hraw cs [] (by simp)

end Values

end Xml

end BugArchive
