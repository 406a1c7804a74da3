import BugArchive.Text.Utf8
import Mathlib.Tactic.Lemma

namespace BugArchive.Text.Utf8

lemma toNat_octet {n : Nat} (h : n < 256) : (UInt8.ofNat n).toNat = n := by
  simp only [UInt8.toNat_ofNat']
  omega

lemma complete_zero (low high bits : Nat) (bs : List UInt8) :
    complete ⟨0, low, high, bits⟩ bs = (some (Char.ofNat bits), bs) := by
  cases bs <;> simp [complete]

lemma complete_succ {k low high bits n : Nat} (bs : List UInt8) (hn : n < 256) (hl : low ≤ n)
    (hh : n ≤ high) :
    complete ⟨k + 1, low, high, bits⟩ (UInt8.ofNat n :: bs) =
      complete ⟨k, 0x80, 0xBF, 64 * bits + (n - 0x80)⟩ bs := by
  rw [complete]
  simp [toNat_octet hn, hl, hh]

lemma next_one {v : Nat} (bs : List UInt8) (h : v ≤ 127) :
    next (UInt8.ofNat v) bs = (some (Char.ofNat v), bs) := by
  have hl : lead? v = some ⟨0, 0x80, 0xBF, v⟩ := by
    simp only [lead?]
    rw [if_pos (by omega)]
  rw [next, toNat_octet (by omega), hl]
  exact complete_zero _ _ _ _

lemma next_two {v : Nat} (bs : List UInt8) (hl : 127 < v) (hh : v ≤ 2047) :
    next (UInt8.ofNat (v / 64 % 32 + 192)) (UInt8.ofNat (v % 64 + 128) :: bs) =
      (some (Char.ofNat v), bs) := by
  have hd : lead? (v / 64 % 32 + 192) = some ⟨1, 0x80, 0xBF, v / 64⟩ := by
    simp only [lead?]
    rw [if_neg (by omega), if_neg (by omega), if_pos (by omega)]
    rw [show v / 64 % 32 + 192 - 0xC0 = v / 64 by omega]
  rw [next, toNat_octet (by omega), hd]
  dsimp only
  rw [complete_succ _ (by omega) (by omega) (by omega), complete_zero,
    show 64 * (v / 64) + (v % 64 + 128 - 0x80) = v by omega]

/-- The bounds of the second octet of three are those that keep surrogates out. -/
lemma lead_three {v : Nat} (hl : 2047 < v) (hh : v ≤ 65535) (hs : v < 0xD800 ∨ 0xDFFF < v) :
    ∃ low high, lead? (v / 4096 % 16 + 224) = some ⟨2, low, high, v / 4096⟩ ∧
      low ≤ v / 64 % 64 + 128 ∧ v / 64 % 64 + 128 ≤ high := by
  simp only [lead?]
  rw [if_neg (by omega), if_neg (by omega), if_neg (by omega)]
  by_cases h₀ : v / 4096 % 16 + 224 = 0xE0
  · rw [if_pos h₀]
    exact ⟨0xA0, 0xBF, by rw [show v / 4096 = 0 by omega], by omega, by omega⟩
  rw [if_neg h₀]
  by_cases h₁ : v / 4096 % 16 + 224 = 0xED
  · rw [if_pos h₁]
    exact ⟨0x80, 0x9F, by rw [show v / 4096 = 0xD by omega], by omega, by omega⟩
  rw [if_neg h₁, if_pos (by omega)]
  exact ⟨0x80, 0xBF, by rw [show v / 4096 % 16 + 224 - 0xE0 = v / 4096 by omega], by omega, by omega⟩

lemma next_three {v : Nat} (bs : List UInt8) (hl : 2047 < v) (hh : v ≤ 65535)
    (hs : v < 0xD800 ∨ 0xDFFF < v) :
    next (UInt8.ofNat (v / 4096 % 16 + 224))
        (UInt8.ofNat (v / 64 % 64 + 128) :: UInt8.ofNat (v % 64 + 128) :: bs) =
      (some (Char.ofNat v), bs) := by
  obtain ⟨low, high, hd, hlow, hhigh⟩ := lead_three hl hh hs
  rw [next, toNat_octet (by omega), hd]
  dsimp only
  rw [complete_succ _ (by omega) hlow hhigh, complete_succ _ (by omega) (by omega) (by omega),
    complete_zero, show 64 * (64 * (v / 4096) + (v / 64 % 64 + 128 - 0x80)) +
      (v % 64 + 128 - 0x80) = v by omega]

lemma lead_four {v : Nat} (hl : 65535 < v) (hh : v < 0x110000) :
    ∃ low high, lead? (v / 262144 % 8 + 240) = some ⟨3, low, high, v / 262144⟩ ∧
      low ≤ v / 4096 % 64 + 128 ∧ v / 4096 % 64 + 128 ≤ high := by
  simp only [lead?]
  rw [if_neg (by omega), if_neg (by omega), if_neg (by omega), if_neg (by omega),
    if_neg (by omega), if_neg (by omega)]
  by_cases h₀ : v / 262144 % 8 + 240 = 0xF0
  · rw [if_pos h₀]
    exact ⟨0x90, 0xBF, by rw [show v / 262144 = 0 by omega], by omega, by omega⟩
  rw [if_neg h₀]
  by_cases h₁ : v / 262144 % 8 + 240 < 0xF4
  · rw [if_pos h₁]
    exact ⟨0x80, 0xBF, by rw [show v / 262144 % 8 + 240 - 0xF0 = v / 262144 by omega], by omega, by omega⟩
  rw [if_neg h₁, if_pos (by omega)]
  exact ⟨0x80, 0x8F, by rw [show v / 262144 = 4 by omega], by omega, by omega⟩

lemma next_four {v : Nat} (bs : List UInt8) (hl : 65535 < v) (hh : v < 0x110000) :
    next (UInt8.ofNat (v / 262144 % 8 + 240)) (UInt8.ofNat (v / 4096 % 64 + 128) ::
        UInt8.ofNat (v / 64 % 64 + 128) :: UInt8.ofNat (v % 64 + 128) :: bs) =
      (some (Char.ofNat v), bs) := by
  obtain ⟨low, high, hd, hlow, hhigh⟩ := lead_four hl hh
  rw [next, toNat_octet (by omega), hd]
  dsimp only
  rw [complete_succ _ (by omega) hlow hhigh, complete_succ _ (by omega) (by omega) (by omega),
    complete_succ _ (by omega) (by omega) (by omega), complete_zero,
    show 64 * (64 * (64 * (v / 262144) + (v / 4096 % 64 + 128 - 0x80)) +
      (v / 64 % 64 + 128 - 0x80)) + (v % 64 + 128 - 0x80) = v by omega]

lemma scan_encodeChar (acc : List (Option Char)) (c : Char) (bs : List UInt8) :
    scan acc (String.utf8EncodeChar c ++ bs) = scan (some c :: acc) bs := by
  have hv : c.val.toNat < 0xD800 ∨ 0xDFFF < c.val.toNat ∧ c.val.toNat < 0x110000 := c.valid
  have hc : Char.ofNat c.val.toNat = c := c.ofNat_toNat
  unfold String.utf8EncodeChar
  dsimp only
  split
  · rw [List.cons_append, scan, next_one _ ‹_›, hc, List.nil_append]
  split
  · simp only [List.cons_append, List.nil_append]
    rw [scan, next_two _ (by omega) ‹_›, hc]
  split
  · simp only [List.cons_append, List.nil_append]
    rw [scan, next_three _ (by omega) ‹_› (hv.imp_right And.left), hc]
  · simp only [List.cons_append, List.nil_append]
    rw [scan, next_four _ (by omega) (by omega), hc]

lemma scan_encode (acc : List (Option Char)) (cs : List Char) (bs : List UInt8) :
    scan acc (encode cs ++ bs) = scan ((cs.map some).reverse ++ acc) bs := by
  induction cs generalizing acc with
  | nil => rfl
  | cons c cs ih =>
    simp only [encode, List.flatMap_cons, List.append_assoc] at ih ⊢
    rw [scan_encodeChar, ih]
    simp

lemma scan_acc (acc : List (Option Char)) (bs : List UInt8) :
    scan acc bs = acc.reverse ++ scan [] bs := by
  induction h : bs.length using Nat.strongRecOn generalizing acc bs with
  | _ n ih =>
    subst h
    cases bs with
    | nil => simp [scan]
    | cons b bs =>
      have hl : (next b bs).2.length < (b :: bs).length := Nat.lt_succ_of_le (length_next_le b bs)
      rw [scan, ih _ hl _ _ rfl, scan, ih _ hl [_] _ rfl]
      simp

lemma encode_append (cs ds : List Char) : encode (cs ++ ds) = encode cs ++ encode ds :=
  List.flatMap_append

lemma length_le_encode (cs : List Char) : cs.length ≤ (encode cs).length := by
  induction cs with
  | nil => exact Nat.le_refl 0
  | cons c cs ih =>
    have hc : 0 < (String.utf8EncodeChar c).length := by
      rw [String.length_utf8EncodeChar]
      exact Char.utf8Size_pos c
    simp only [encode, List.flatMap_cons, List.length_append, List.length_cons] at ih ⊢
    omega

lemma decode?_encode (cs : List Char) : decode? (encode cs) = some cs := by
  have hs := scan_encode [] cs []
  rw [List.append_nil, List.append_nil, scan, List.reverse_reverse] at hs
  rw [decode?, hs]
  clear hs
  induction cs with
  | nil => rfl
  | cons c cs ih => simp [ih]

lemma decodeLossy_append (cs : List Char) (bs : List UInt8) :
    decodeLossy (encode cs ++ bs) = cs ++ decodeLossy bs := by
  have hc : (cs.map some).map (fun c => c.getD '\uFFFD') = cs := by
    simp only [List.map_map]
    exact List.map_id'' (fun _ => rfl) cs
  rw [decodeLossy, scan_encode, scan_acc, List.append_nil, List.reverse_reverse, List.map_append, hc]
  rfl

lemma eq_of_mem_encodeChar {c d : Char} {b : UInt8} (hd : d.val.toNat < 0x80)
    (hb : b = UInt8.ofNat d.val.toNat) (h : b ∈ String.utf8EncodeChar c) : c = d := by
  have hn : b.toNat = d.val.toNat := hb ▸ toNat_octet (by omega)
  have hm : ∀ n < 256, b = UInt8.ofNat n → n = d.val.toNat := by
    rintro n hn' rfl
    rwa [toNat_octet hn'] at hn
  unfold String.utf8EncodeChar at h
  dsimp only at h
  split at h
  · exact Char.ext (UInt32.toNat_inj.mp (hm _ (by omega) (List.mem_singleton.mp h)))
  have hv : c.val.toNat < 0x110000 := by
    rcases c.valid with hs | hs
    · exact Nat.lt_trans hs (by decide)
    · exact hs.2
  split at h
  · simp only [List.mem_cons, List.not_mem_nil, or_false] at h
    rcases h with h | h <;> have := hm _ (by omega) h <;> omega
  split at h
  · simp only [List.mem_cons, List.not_mem_nil, or_false] at h
    rcases h with h | h | h <;> have := hm _ (by omega) h <;> omega
  · simp only [List.mem_cons, List.not_mem_nil, or_false] at h
    rcases h with h | h | h | h <;> have := hm _ (by omega) h <;> omega

end BugArchive.Text.Utf8
