import BugArchive.Text.Blank
import BugArchive.Text.Digit
/-!
Integers as text. A numeral may have blanks around it, a sign, decimal digits of any script and
single underscores between digits; neither reading nor writing goes beyond `maxDigits` digits.
-/
namespace BugArchive.Text.Numeral

inductive Fault where
  | malformed
  | tooLong (digits : Nat)
deriving DecidableEq, Repr

def maxDigits : Nat := 4300

def isGrouped (cs : List Char) : Bool :=
  (cs.splitOn '_').all fun group => !group.isEmpty

def value (digits : List Nat) : Nat :=
  digits.foldl (fun n d => 10 * n + d) 0

def splitSign : List Char → Bool × List Char
  | '-' :: cs => (true, cs)
  | '+' :: cs => (false, cs)
  | cs => (false, cs)

def readUnsigned (cs : List Char) : Except Fault Nat :=
  let run := cs.takeWhile fun c => isDecimal c || c == '_'
  let digits := run.filterMap decimalValue?
  if !isGrouped run then .error .malformed
  else if maxDigits < digits.length then .error (.tooLong digits.length)
  else if run.length < cs.length then .error .malformed
  else .ok (value digits)

def read (cs : List Char) : Except Fault Int :=
  let (negative, body) := splitSign (strip cs)
  (readUnsigned body).map fun (n : Nat) => if negative then -(n : Int) else (n : Int)

def write (n : Int) : List Char :=
  (if n < 0 then ['-'] else []) ++ Nat.toDigits 10 n.natAbs

def write? (n : Int) : Option (List Char) :=
  if n.natAbs < Nat.pow 10 maxDigits then some (write n) else none

end BugArchive.Text.Numeral
