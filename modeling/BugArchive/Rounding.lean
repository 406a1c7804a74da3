/-!
Rounding of quotients to whole numbers, and of whole numbers to a number of significant bits: of
two neighbours the nearer, and halfway between them the even one.
-/
namespace BugArchive.Rounding

def powerOfTwo (k : Nat) : Nat := Nat.pow 2 k

def roundDiv (num den : Nat) : Nat :=
  let q := num / den
  let twice := 2 * (num % den)
  if twice < den ∨ (twice = den ∧ q % 2 = 0) then q else q + 1

def toBits (bits n : Nat) : Nat :=
  let unit := powerOfTwo (n.log2 + 1 - bits)
  roundDiv n unit * unit

end BugArchive.Rounding
