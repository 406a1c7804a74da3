import BugArchive.Text.Blank
import BugArchive.Text.Numeral
/-!
Integers that are given as text. A plain numeral counts as it is; any other text is tidied first:
blanks, a plus sign, zeros in front, a fraction of zeros and single underscores are taken away.
-/
namespace BugArchive.Contract.Numeral

open Text.Numeral (Fault)

def isDigit (c : Char) : Bool := '0' ≤ c && c ≤ '9'

def digitsValue (cs : List Char) : Nat :=
  Text.Numeral.value (cs.map fun c => c.toNat - '0'.toNat)

/-- A plain numeral has perhaps a minus sign, and no zero in front of other digits. The number of
digits is judged before what follows them. -/
def readPlain (cs : List Char) : Except Fault Int :=
  let negative := cs.head? == some '-'
  let body := if negative then cs.drop 1 else cs
  let run := body.takeWhile isDigit
  if run.isEmpty ∨ (run.head? = some '0' ∧ 1 < run.length) then .error .malformed
  else if Text.Numeral.maxDigits < run.length then .error (.tooLong run.length)
  else if run.length < body.length then .error .malformed
  else .ok (if negative then -(digitsValue run : Int) else (digitsValue run : Int))

def isSpace (c : Char) : Bool :=
  Text.isBlank c && !(0x1C ≤ c.toNat && c.toNat ≤ 0x1F)

def trim (cs : List Char) : List Char :=
  ((cs.dropWhile isSpace).reverse.dropWhile isSpace).reverse

def dropPlus : List Char → Option (List Char)
  | '+' :: '-' :: _ => none
  | '+' :: cs => some cs
  | cs => some cs

def isStart (c : Char) : Bool := ('1' ≤ c && c ≤ '9') || c == '-'

def dropZeros : List Char → Option (List Char)
  | [] => none
  | '0' :: cs => go '0' cs
  | c :: cs => if isStart c then some (c :: cs) else none
where
  go (last : Char) : List Char → Option (List Char)
  | [] => some [last]
  | c :: cs =>
    if c = '0' ∨ c = '_' then go c cs
    else if isStart c then some (c :: cs)
    else if c = '.' then some (last :: c :: cs)
    else none

def dropFraction (cs : List Char) : List Char :=
  match cs.dropWhile (· != '.') with
  | _ :: z :: zs => if (z :: zs).all (· == '0') then cs.takeWhile (· != '.') else cs
  | _ => cs

def dropUnderscores (cs : List Char) : List Char :=
  if Text.Numeral.isGrouped cs then cs.filter (· != '_') else cs

def tidy (cs : List Char) : Option (List Char) :=
  ((dropPlus (trim cs)).bind dropZeros).map fun cs => dropUnderscores (dropFraction cs)

def read (cs : List Char) : Except Fault Int :=
  match readPlain cs with
  | .error .malformed =>
    match tidy cs with
    | some cs => readPlain cs
    | none => .error .malformed
  | r => r

end BugArchive.Contract.Numeral
