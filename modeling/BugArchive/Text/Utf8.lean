/-!
Characters as octets. `decode?` accepts well-formed text only; `decodeLossy` puts U+FFFD for each
maximal part of a sequence that cannot be completed.
-/
namespace BugArchive.Text.Utf8

def encode (cs : List Char) : List UInt8 :=
  cs.flatMap String.utf8EncodeChar

/-- What a first octet announces: how many octets follow, the bounds of the next one, and the
bits it contributes. -/
structure Lead where
  more : Nat
  low : Nat
  high : Nat
  bits : Nat

def lead? (b : Nat) : Option Lead :=
  if b < 0x80 then some ⟨0, 0x80, 0xBF, b⟩
  else if b < 0xC2 then none
  else if b < 0xE0 then some ⟨1, 0x80, 0xBF, b - 0xC0⟩
  else if b = 0xE0 then some ⟨2, 0xA0, 0xBF, 0⟩
  else if b = 0xED then some ⟨2, 0x80, 0x9F, 0xD⟩
  else if b < 0xF0 then some ⟨2, 0x80, 0xBF, b - 0xE0⟩
  else if b = 0xF0 then some ⟨3, 0x90, 0xBF, 0⟩
  else if b < 0xF4 then some ⟨3, 0x80, 0xBF, b - 0xF0⟩
  else if b = 0xF4 then some ⟨3, 0x80, 0x8F, 4⟩
  else none

def complete (l : Lead) : List UInt8 → Option Char × List UInt8
  | [] => (if l.more = 0 then some (Char.ofNat l.bits) else none, [])
  | b :: bs =>
    if l.more = 0 then (some (Char.ofNat l.bits), b :: bs)
    else if l.low ≤ b.toNat ∧ b.toNat ≤ l.high then
      complete ⟨l.more - 1, 0x80, 0xBF, 64 * l.bits + (b.toNat - 0x80)⟩ bs
    else (none, b :: bs)

theorem length_complete_le (l : Lead) (bs : List UInt8) :
    (complete l bs).2.length ≤ bs.length := by
  induction bs generalizing l with
  | nil => simp [complete]
  | cons b bs ih =>
    unfold complete
    split
    · exact Nat.le_refl _
    · split
      · exact Nat.le_trans (ih _) (Nat.le_succ _)
      · exact Nat.le_refl _

def next (b : UInt8) (bs : List UInt8) : Option Char × List UInt8 :=
  match lead? b.toNat with
  | none => (none, bs)
  | some l => complete l bs

theorem length_next_le (b : UInt8) (bs : List UInt8) : (next b bs).2.length ≤ bs.length := by
  unfold next
  split
  · exact Nat.le_refl _
  · exact length_complete_le _ _

def scan (acc : List (Option Char)) : List UInt8 → List (Option Char)
  | [] => acc.reverse
  | b :: bs => scan ((next b bs).1 :: acc) (next b bs).2
termination_by bs => bs.length
decreasing_by exact Nat.lt_succ_of_le (length_next_le b bs)

def decode? (bs : List UInt8) : Option (List Char) :=
  (scan [] bs).mapM id

def decodeLossy (bs : List UInt8) : List Char :=
  (scan [] bs).map fun c => c.getD '\uFFFD'

end BugArchive.Text.Utf8
