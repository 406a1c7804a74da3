import BugArchive.Json.Value
import BugArchive.Text.Numeral

namespace BugArchive.Json

structure Limits where
  depth : Nat
  digits : Nat
deriving Repr

abbrev Reader (α : Type) := List Char → Option (α × List Char)

def isSpace (c : Char) : Bool :=
  c == ' ' || c == '\t' || c == '\n' || c == '\r'

def skip (cs : List Char) : List Char :=
  cs.dropWhile isSpace

def hexValue? (c : Char) : Option Nat :=
  if '0' ≤ c ∧ c ≤ '9' then some (c.toNat - '0'.toNat)
  else if 'a' ≤ c ∧ c ≤ 'f' then some (c.toNat - 'a'.toNat + 10)
  else if 'A' ≤ c ∧ c ≤ 'F' then some (c.toNat - 'A'.toNat + 10)
  else none

def hex4? (a b c d : Char) : Option Nat := do
  return ((← hexValue? a) * 16 + (← hexValue? b)) * 256 + (← hexValue? c) * 16 + (← hexValue? d)

def isHighSurrogate (n : Nat) : Bool := 0xD800 ≤ n && n < 0xDC00

def isLowSurrogate (n : Nat) : Bool := 0xDC00 ≤ n && n < 0xE000

def joinSurrogates (high low : Nat) : Char :=
  Char.ofNat (0x10000 + (high - 0xD800) * 0x400 + (low - 0xDC00))

def simpleEscape? : Char → Option Char
  | '"' => some '"'
  | '\\' => some '\\'
  | '/' => some '/'
  | 'b' => some '\x08'
  | 'f' => some '\x0c'
  | 'n' => some '\n'
  | 'r' => some '\r'
  | 't' => some '\t'
  | _ => none

def text (acc : List Char) : Reader String
  | [] => none
  | '"' :: cs => some (String.ofList acc.reverse, cs)
  | '\\' :: 'u' :: a :: b :: c :: d :: cs =>
    match hex4? a b c d with
    | none => none
    | some n =>
      if isLowSurrogate n then none
      else if isHighSurrogate n then
        match cs with
        | '\\' :: 'u' :: a :: b :: c :: d :: cs =>
          match hex4? a b c d with
          | none => none
          | some m => if isLowSurrogate m then text (joinSurrogates n m :: acc) cs else none
        | _ => none
      else text (Char.ofNat n :: acc) cs
  | '\\' :: c :: cs =>
    match simpleEscape? c with
    | none => none
    | some e => text (e :: acc) cs
  | c :: cs => if c.toNat < 0x20 then none else text (c :: acc) cs

def isDigit (c : Char) : Bool := '0' ≤ c && c ≤ '9'

def digitsValue (cs : List Char) : Nat :=
  Text.Numeral.value (cs.map fun c => c.toNat - '0'.toNat)

def digits : Reader (List Char) := fun cs =>
  match cs.takeWhile isDigit with
  | [] => none
  | ds => some (ds, cs.dropWhile isDigit)

def fraction : Reader (Option (List Char))
  | '.' :: cs => (digits cs).map fun r => (some r.1, r.2)
  | cs => some (none, cs)

def signed : Reader Int
  | '-' :: cs => (digits cs).map fun r => (-(digitsValue r.1 : Int), r.2)
  | '+' :: cs => (digits cs).map fun r => ((digitsValue r.1 : Int), r.2)
  | cs => (digits cs).map fun r => ((digitsValue r.1 : Int), r.2)

def exponent : Reader (Option Int)
  | 'e' :: cs => (signed cs).map fun r => (some r.1, r.2)
  | 'E' :: cs => (signed cs).map fun r => (some r.1, r.2)
  | cs => some (none, cs)

def magnitude (maxDigits : Nat) (negative : Bool) : Reader Value := fun cs => do
  let (whole, cs) ← digits cs
  guard (whole.length = 1 ∨ whole.head? ≠ some '0')
  guard (whole.length ≤ maxDigits)
  let (part, cs) ← fraction cs
  let (power, cs) ← exponent cs
  let sign : Int := if negative then -1 else 1
  match part, power with
  | none, none => return (.int (sign * digitsValue whole), cs)
  | _, _ =>
    let part := part.getD []
    return (.decimal (sign * digitsValue (whole ++ part)) (power.getD 0 - part.length), cs)

def word (w : String) (v : Value) : Reader Value := fun cs =>
  if w.toList.isPrefixOf cs then some (v, cs.drop w.length) else none

def scalar (maxDigits : Nat) : Reader Value
  | '"' :: cs => (text [] cs).map fun r => (.text r.1, r.2)
  | 'n' :: cs => word "ull" .null cs
  | 't' :: cs => word "rue" (.bool true) cs
  | 'f' :: cs => word "alse" (.bool false) cs
  | 'N' :: cs => word "aN" .nonFinite cs
  | 'I' :: cs => word "nfinity" .nonFinite cs
  | '-' :: 'I' :: cs => word "nfinity" .nonFinite cs
  | '-' :: cs => magnitude maxDigits true cs
  | cs => magnitude maxDigits false cs

def items (read : Reader α) (close : Char) : Nat → Reader (List α)
  | 0, _ => none
  | fuel + 1, cs => do
    let (a, cs) ← read (skip cs)
    match skip cs with
    | [] => none
    | c :: cs =>
      if c = close then return ([a], cs)
      else if c = ',' then
        let (as, cs) ← items read close fuel cs
        return (a :: as, cs)
      else none

def listOf (read : Reader α) (close : Char) : Reader (List α) := fun cs =>
  match skip cs with
  | [] => none
  | c :: cs => if c = close then some ([], cs) else items read close (cs.length + 1) (c :: cs)

def field (read : Reader Value) : Reader (String × Value)
  | '"' :: cs => do
    let (name, cs) ← text [] cs
    match skip cs with
    | ':' :: cs =>
      let (v, cs) ← read (skip cs)
      return ((name, v), cs)
    | _ => none
  | _ => none

/-- Of fields with one name the first gives the place and the last gives the value. -/
def mergeFields (fields : List (String × Value)) : List (String × Value) :=
  (fields.map Prod.fst).eraseDups.map fun name =>
    (name, (Value.field? name fields).getD .null)

def nothing (close : Char) (cs : List Char) : Option (List Char) :=
  match skip cs with
  | c :: cs => if c = close then some cs else none
  | [] => none

def value (maxDigits : Nat) : Nat → Reader Value
  | 0, '[' :: cs => (nothing ']' cs).map fun cs => (.list [], cs)
  | 0, '{' :: cs => (nothing '}' cs).map fun cs => (.object [], cs)
  | depth + 1, '[' :: cs =>
    (listOf (value maxDigits depth) ']' cs).map fun r => (.list r.1, r.2)
  | depth + 1, '{' :: cs =>
    (listOf (field (value maxDigits depth)) '}' cs).map fun r => (.object (mergeFields r.1), r.2)
  | _, cs => scalar maxDigits cs

def read (limits : Limits) (s : String) : Option Value := do
  let (v, cs) ← value limits.digits limits.depth (skip s.toList)
  guard (skip cs).isEmpty
  return v

end BugArchive.Json
