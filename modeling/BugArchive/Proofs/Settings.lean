import BugArchive.Proofs.Text.Numeral
import BugArchive.Settings
import Mathlib.Data.List.TakeWhile
import Mathlib.Tactic.ByContra
import Mathlib.Tactic.SplitIfs

namespace BugArchive.Settings

open Text

def tidied (raw : Option String) : List Char :=
  (strip (raw.getD "").toList).map upperCase

def IsPlain (value : List Char) : Prop :=
  '+' ∉ value ∧ '-' ∉ value ∧ '_' ∉ value

instance (value : List Char) : Decidable (IsPlain value) := inferInstanceAs (Decidable (_ ∧ _))

def numeral? (value : List Char) : Option Int :=
  if IsPlain value then (Numeral.read value).toOption else none

def meant (value : List Char) : Int :=
  (numeral? value).getD ((levels.lookup (String.ofList value)).getD defaultLevel)

/-- All are digits, but one of them writes no numeral or they are too many for one. -/
def IsMisfit (value : List Char) : Prop :=
  value ≠ [] ∧ (∀ c ∈ value, isDigit c = true) ∧
    ((∃ c ∈ value, isDecimal c = false) ∨ Numeral.maxDigits < value.length)

def misfitFault (value : List Char) : Fault :=
  let run := value.takeWhile isDecimal
  if Numeral.maxDigits < run.length then .tooLong run.length else .notANumeral (String.ofList value)

lemma isBlank_of_capital {c : Char} (hl : 65 ≤ c.toNat) (hh : c.toNat ≤ 90) : isBlank c = false := by
  simp [isBlank]
  omega

lemma isBlank_toUpper {c : Char} (h : isBlank c = false) : isBlank c.toUpper = false := by
  by_cases hletter : 'a'.val ≤ c.val ∧ c.val ≤ 'z'.val
  · have hl : 97 ≤ c.toNat := UInt32.le_iff_toNat_le.mp hletter.1
    have hh : c.toNat ≤ 122 := UInt32.le_iff_toNat_le.mp hletter.2
    have hcapital : (c.val + ('A'.val - 'a'.val)).toNat = c.toNat - 32 := by
      rw [UInt32.toNat_add]
      change (c.toNat + 4294967264) % 4294967296 = c.toNat - 32
      omega
    have hl' : 65 ≤ (c.val + ('A'.val - 'a'.val)).toNat := by omega
    have hh' : (c.val + ('A'.val - 'a'.val)).toNat ≤ 90 := by omega
    obtain ⟨hv, hupper⟩ : ∃ hv, c.toUpper = ⟨c.val + ('A'.val - 'a'.val), hv⟩ :=
      ⟨_, dif_pos hletter⟩
    rw [hupper]
    exact isBlank_of_capital hl' hh'
  · have hupper : c.toUpper = c := dif_neg hletter
    rwa [hupper]

lemma isBlank_upperCase {c : Char} (h : isBlank c = false) : isBlank (upperCase c) = false := by
  rw [upperCase]
  split
  · rfl
  split
  · rfl
  exact isBlank_toUpper h

lemma strip_tidied (raw : Option String) : strip (tidied raw) = tidied raw :=
  strip_map_strip (fun _ => isBlank_upperCase) _

section Value

variable {value : List Char}

lemma isPlain_of_digits (h : ∀ c ∈ value, isDigit c = true) : IsPlain value :=
  ⟨fun hc => absurd (h _ hc) (by decide), fun hc => absurd (h _ hc) (by decide),
    fun hc => absurd (h _ hc) (by decide)⟩

lemma read_of_isPlain (hs : strip value = value) (hp : IsPlain value) :
    Numeral.read value = (Numeral.readUnsigned value).map fun (n : Nat) => (n : Int) := by
  obtain ⟨hplus, hminus, -⟩ := hp
  exact Numeral.read_of_unsigned hs fun c hc => ⟨fun he => hminus (he ▸ hc), fun he => hplus (he ▸ hc)⟩

lemma length_run_lt_iff :
    (value.takeWhile isDecimal).length < value.length ↔ ∃ c ∈ value, isDecimal c = false := by
  constructor
  · intro hlt
    by_contra hall
    have hd : ∀ c ∈ value, isDecimal c = true := fun c hc =>
      Bool.not_eq_false _ ▸ fun hf => hall ⟨c, hc, hf⟩
    rw [takeWhile_all hd] at hlt
    exact Nat.lt_irrefl _ hlt
  · rintro ⟨c, hc, hf⟩
    refine Nat.lt_of_le_of_ne (List.takeWhile_prefix isDecimal).length_le fun he => ?_
    have hself := (List.takeWhile_prefix isDecimal).eq_of_length he
    rw [List.takeWhile_eq_self_iff.mp hself c hc] at hf
    cases hf

lemma read_of_misfit (hs : strip value = value) (hp : IsPlain value)
    (h : (∃ c ∈ value, isDecimal c = false) ∨ Numeral.maxDigits < value.length) :
    Numeral.read value = .error (if Numeral.maxDigits < (value.takeWhile isDecimal).length then
      .tooLong (value.takeWhile isDecimal).length else .malformed) := by
  rw [read_of_isPlain hs hp, Numeral.readUnsigned_plain hp.2.2]
  dsimp only
  split
  · rename_i hnil
    rw [hnil, List.length_nil, if_neg (Nat.not_lt_zero _)]
    rfl
  split
  · rfl
  rename_i hlong
  -- a text that is too long has another digit in it, since its run of decimal digits is not
  have hlt : (value.takeWhile isDecimal).length < value.length := by
    rcases h with hother | hlength
    · exact length_run_lt_iff.mpr hother
    · exact Nat.lt_of_le_of_lt (Nat.not_lt.mp hlong) hlength
  rw [if_pos hlt]
  rfl

lemma read_of_decimals (hs : strip value = value) (hne : value ≠ [])
    (hd : ∀ c ∈ value, isDecimal c = true) (hl : value.length ≤ Numeral.maxDigits)
    (hp : IsPlain value) : Numeral.read value = .ok (Numeral.value (value.filterMap decimalValue?)) := by
  rw [read_of_isPlain hs hp, Numeral.readUnsigned_plain hp.2.2]
  dsimp only
  rw [takeWhile_all hd, if_neg hne, if_neg (Nat.not_lt.mpr hl), if_neg (Nat.lt_irrefl _)]
  rfl

lemma numeral?_of_isPlain (hp : IsPlain value) : numeral? value = (Numeral.read value).toOption :=
  if_pos hp

lemma numeral?_of_not_digits (hs : strip value = value) (h : ∃ c ∈ value, isDigit c = false) :
    numeral? value = none := by
  by_cases hp : IsPlain value
  · obtain ⟨c, hc, hf⟩ := h
    have hother : isDecimal c = false := (Bool.or_eq_false_iff.mp hf).1
    rw [numeral?_of_isPlain hp, read_of_misfit hs hp (.inl ⟨c, hc, hother⟩)]
    rfl
  · exact if_neg hp

end Value

section Level

variable {raw : Option String}

lemma logLevel_of_misfit (h : IsMisfit (tidied raw)) :
    logLevel raw = .error (misfitFault (tidied raw)) := by
  obtain ⟨hne, hd, hmisfit⟩ := h
  have hread := read_of_misfit (strip_tidied raw) (isPlain_of_digits hd) hmisfit
  rw [logLevel, ← tidied, if_neg (mt List.isEmpty_iff.mp hne), if_pos (List.all_eq_true.mpr hd),
    hread, misfitFault]
  split_ifs <;> rfl

lemma logLevel_of_decimals (hne : tidied raw ≠ []) (hd : ∀ c ∈ tidied raw, isDecimal c = true)
    (hl : (tidied raw).length ≤ Numeral.maxDigits) : logLevel raw = .ok (meant (tidied raw)) := by
  have hdigit : ∀ c ∈ tidied raw, isDigit c = true := fun c hc => by
    rw [isDigit, hd c hc, Bool.true_or]
  have hp := isPlain_of_digits hdigit
  have hread := read_of_decimals (strip_tidied raw) hne hd hl hp
  rw [logLevel, ← tidied, if_neg (mt List.isEmpty_iff.mp hne),
    if_pos (List.all_eq_true.mpr hdigit), meant, numeral?_of_isPlain hp, hread]
  rfl

lemma logLevel_of_not_digits (h : ∃ c ∈ tidied raw, isDigit c = false) :
    logLevel raw = .ok (meant (tidied raw)) := by
  have hall : ¬ (tidied raw).all isDigit = true := by
    obtain ⟨c, hc, hf⟩ := h
    exact fun hall => Bool.false_ne_true (hf ▸ List.all_eq_true.mp hall c hc)
  have hempty : ¬ (tidied raw).isEmpty = true := fun he =>
    hall (by rw [List.isEmpty_iff.mp he, List.all_nil])
  rw [logLevel, ← tidied, if_neg hempty, if_neg hall, meant,
    numeral?_of_not_digits (strip_tidied raw) h, Option.getD_none]

lemma logLevel_of_empty (h : tidied raw = []) : logLevel raw = .ok (meant (tidied raw)) := by
  rw [logLevel, ← tidied, h]
  rfl

lemma logLevel_of_not_isMisfit (h : ¬ IsMisfit (tidied raw)) :
    logLevel raw = .ok (meant (tidied raw)) := by
  by_cases hne : tidied raw = []
  · exact logLevel_of_empty hne
  by_cases hd : ∀ c ∈ tidied raw, isDigit c = true
  · obtain ⟨hdecimal, hlength⟩ := not_or.mp fun hmisfit => h ⟨hne, hd, hmisfit⟩
    exact logLevel_of_decimals hne (by simpa using hdecimal) (Nat.not_lt.mp hlength)
  · exact logLevel_of_not_digits (by simpa using hd)

end Level

/-- A setting gives the level that it asks for unless it is a misfit, which fails instead of asking
for the default. -/
theorem logLevel_eq_ok_iff (raw : Option String) :
    (logLevel raw = .ok (meant (tidied raw)) ↔ ¬ IsMisfit (tidied raw)) ∧
    (logLevel raw = .error (misfitFault (tidied raw)) ↔ IsMisfit (tidied raw)) := by
  refine ⟨⟨fun h hm => ?_, logLevel_of_not_isMisfit⟩, ⟨fun h => ?_, logLevel_of_misfit⟩⟩
  · rw [logLevel_of_misfit hm] at h
    cases h
  · by_contra hm
    rw [logLevel_of_not_isMisfit hm] at h
    cases h

theorem logLevel_superscript :
    meant (tidied (some "²")) = defaultLevel ∧ ¬ ∃ n, logLevel (some "²") = .ok n := by
  have h : logLevel (some "²") = .error (.notANumeral "²") := rfl
  refine ⟨by decide, fun ⟨n, hn⟩ => ?_⟩
  rw [h] at hn
  cases hn

end BugArchive.Settings
