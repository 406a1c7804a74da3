import BugArchive.Contract.Binary64
import BugArchive.Contract.Checked
import BugArchive.Contract.Numeral
/-!
Texts, integers and flags. Integers and flags may also be given in other forms that leave no
doubt which value is meant.
-/
namespace BugArchive.Contract

open Json (Value)

abbrev Check (α : Type) := Value → Checked α

def text : Check String
  | .text s => .ok s
  | _ => .fail .textExpected

def nonEmptyText (v : Value) : Checked String :=
  (text v).andThen fun s => if s.isEmpty then .fail .textTooShort else .ok s

def integerText (s : String) : Checked Int :=
  match Numeral.read s.toList with
  | .ok n => .ok n
  | .error .malformed => .fail .notAnInteger
  | .error (.tooLong _) => .fail .integerTooLong

def wholeLimit : Nat := 0x8000000000000000

def wholeNumber (x : Binary64) : Checked Int :=
  match x with
  | .nonFinite => .fail .notFinite
  | x =>
    match x.toInt? with
    | some n => if n.natAbs < wholeLimit then .ok n else .fail .integerTooLong
    | none => .fail .notWhole

def integer : Check Int
  | .int n => .ok n
  | .bool b => .ok (if b then 1 else 0)
  | .decimal m e => wholeNumber (.ofDecimal m e)
  | .nonFinite => wholeNumber .nonFinite
  | .text s => integerText s
  | _ => .fail .integerExpected

def integerAtLeast (least : Int) (v : Value) : Checked Int :=
  (integer v).andThen fun n => if n < least then .fail .tooSmall else .ok n

def trueWords : List String := ["true", "t", "yes", "y", "on", "1"]

def falseWords : List String := ["false", "f", "no", "n", "off", "0"]

def flagWord (s : String) : Checked Bool :=
  let word := String.ofList (s.toList.map Char.toLower)
  if trueWords.contains word then .ok true
  else if falseWords.contains word then .ok false
  else .fail .notAFlag

def flagNumber (n : Int) : Checked Bool :=
  if n = 0 then .ok false else if n = 1 then .ok true else .fail .notAFlag

inductive Source where
  | value
  | text
deriving DecidableEq, Repr

/-- Integers that are looked at as flags: those of 64 bits, or in text those of at most 18
digits. -/
def Source.isShort (source : Source) (n : Int) : Bool :=
  match source with
  | .value => -(wholeLimit : Int) ≤ n && n < wholeLimit
  | .text => n.natAbs < 1000000000000000000

def flag (source : Source) : Check Bool
  | .bool b => .ok b
  | .int n => if source.isShort n then flagNumber n else .fail .flagExpected
  | .decimal m e =>
    match wholeNumber (.ofDecimal m e) with
    | .ok n => flagNumber n
    | .faulty _ => .fail .flagExpected
  | .text s => flagWord s
  | _ => .fail .flagExpected

def optional (check : Check α) : Check (Option α)
  | .null => .ok none
  | v => (check v).map some

def items (check : Check α) (i : Nat) : List Value → Checked (List α)
  | [] => .ok []
  | v :: vs => ((check v).under (.index i)).map List.cons |>.seq (items check (i + 1) vs)

def list (check : Check α) : Check (List α)
  | .list vs => items check 0 vs
  | _ => .fail .listExpected

abbrev Fields := List (String × Value)

def required (check : Check α) (name : String) (fields : Fields) : Checked α :=
  match Value.field? name fields with
  | some v => (check v).under (.key name)
  | none => Checked.fail .missing |>.under (.key name)

def orDefault (default : α) (check : Check α) (name : String) (fields : Fields) : Checked α :=
  match Value.field? name fields with
  | some v => (check v).under (.key name)
  | none => .ok default

def literal (word : String) (v : Value) : Checked Unit :=
  match v with
  | .text s => if s = word then .ok () else .fail .wrongLiteral
  | _ => .fail .wrongLiteral

def extras (declared : List String) (fields : Fields) : Checked Unit :=
  match fields.filter fun f => !declared.contains f.1 with
  | [] => .ok ()
  | fs => .faulty (fs.map fun f => ⟨.extraForbidden, [.key f.1]⟩)

def record (declared : List String) (check : Fields → Checked α) : Check α
  | .object fields => ((check fields).map fun a _ => a).seq (extras declared fields)
  | _ => .fail .recordExpected

end BugArchive.Contract
