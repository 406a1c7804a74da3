import BugArchive.Rounding
/-!
Decimals as binary floating point numbers of 64 bits hold them: with 53 significant bits, of two
neighbours the nearer, and halfway between them the even one.
-/
namespace BugArchive.Contract

inductive Binary64 where
  | finite (mantissa : Int) (exponent : Int)
  | nonFinite
deriving DecidableEq, Repr

namespace Binary64

open Rounding

def powerOfTen (k : Nat) : Nat := Nat.pow 10 k

def scaled (num den : Nat) (exponent : Int) : Nat :=
  if 0 ≤ exponent then roundDiv num (den * powerOfTwo exponent.toNat)
  else roundDiv (num * powerOfTwo (-exponent).toNat) den

def exponentFor (num den : Nat) : Int :=
  max (-1074) ((num.log2 : Int) - den.log2 - 53)

def ofRatio (negative : Bool) (num den : Nat) : Binary64 :=
  let e := exponentFor num den
  let e := if powerOfTwo 53 < scaled num den e then e + 1 else e
  let m := scaled num den e
  if powerOfTwo 1024 ≤ m * powerOfTwo e.toNat then .nonFinite
  else .finite (if negative then -(m : Int) else m) e

def ofDecimal (mantissa exponent : Int) : Binary64 :=
  let n := mantissa.natAbs
  let size : Int := (n.log2 : Int) * 3 / 10 + exponent
  if n = 0 ∨ size < -400 then .finite 0 0
  else if 400 < size then .nonFinite
  else if 0 ≤ exponent then ofRatio (mantissa < 0) (n * powerOfTen exponent.toNat) 1
  else ofRatio (mantissa < 0) n (powerOfTen (-exponent).toNat)

def toInt? : Binary64 → Option Int
  | finite m e =>
    if 0 ≤ e then some (m * powerOfTwo e.toNat)
    else if m % powerOfTwo (-e).toNat = 0 then some (m / powerOfTwo (-e).toNat) else none
  | nonFinite => none

end Binary64

end BugArchive.Contract
