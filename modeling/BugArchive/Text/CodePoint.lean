import BugArchive.Text.Quoted
/-!
Code points, and texts that are spelled in them. Surrogates are code points too, but no characters:
a string of characters has none, while a raw text may hold any code point anywhere.
-/
namespace BugArchive.Text

structure CodePoint where
  value : Nat
  isLt : value < 0x110000
deriving DecidableEq, Repr

namespace CodePoint

def ofChar (c : Char) : CodePoint where
  value := c.toNat
  isLt := by
    have hc : c.toNat < 0xD800 ∨ 0xDFFF < c.toNat ∧ c.toNat < 0x110000 := c.valid
    omega

def char? (p : CodePoint) : Option Char :=
  if h : p.value.isValidChar then some (Char.ofNatAux p.value h) else none

def quote (p : CodePoint) : String :=
  match p.char? with
  | some c => Text.quote (String.singleton c)
  | none => "'\\u" ++ String.ofList (hexDigits 4 p.value) ++ "'"

end CodePoint

structure Raw where
  points : List CodePoint
deriving DecidableEq, Repr

class Spelled (σ : Type) where
  ofString : String → σ
  points : σ → List CodePoint
  points_ofString (s : String) : points (ofString s) = s.toList.map .ofChar

instance : Spelled String where
  ofString s := s
  points s := s.toList.map .ofChar
  points_ofString _ := rfl

instance : Spelled Raw where
  ofString s := ⟨s.toList.map .ofChar⟩
  points := Raw.points
  points_ofString _ := rfl

end BugArchive.Text
