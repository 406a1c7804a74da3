import BugArchive.Text.Numeral
import BugArchive.Text.Quoted

namespace BugArchive.Settings

open Text

def defaultIndent : Nat := 2

def indent (raw : Option String) : Nat :=
  match Numeral.read ((raw.getD "").toList) with
  | .ok n => if 0 < n then n.toNat else defaultIndent
  | .error _ => defaultIndent

def defaultLevel : Int := 30

def levels : List (String × Int) :=
  [("CRITICAL", 50), ("FATAL", 50), ("ERROR", 40), ("WARN", 30), ("WARNING", 30), ("INFO", 20),
    ("DEBUG", 10), ("NOTSET", 0)]

/-- Upper case as far as names of levels can tell: besides the small letters of ASCII, the
dotless i and the long s have capitals in ASCII. -/
def upperCase (c : Char) : Char :=
  if c = 'ı' then 'I' else if c = 'ſ' then 'S' else c.toUpper

inductive Fault where
  | notANumeral (raw : String)
  | tooLong (digits : Nat)
deriving DecidableEq, Repr

def Fault.message : Fault → String
  | notANumeral raw => "invalid literal for int() with base 10: " ++ quote raw
  | tooLong digits =>
    "Exceeds the limit (4300 digits) for integer string conversion: value has " ++
      toString digits ++ " digits; use sys.set_int_max_str_digits() to increase the limit"

def logLevel (raw : Option String) : Except Fault Int :=
  let value := (strip (raw.getD "").toList).map upperCase
  if value.isEmpty then .ok defaultLevel
  else if value.all isDigit then
    match Numeral.read value with
    | .ok n => .ok n
    | .error .malformed => .error (.notANumeral (String.ofList value))
    | .error (.tooLong digits) => .error (.tooLong digits)
  else .ok ((levels.lookup (String.ofList value)).getD defaultLevel)

end BugArchive.Settings
