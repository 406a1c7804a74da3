import BugArchive.Finding.Basic
import BugArchive.Machine
import BugArchive.Registry
import BugArchive.Text.Numeral
import BugArchive.Xml.Element
/-!
Findings and details from elements. The first fault in document order is told; a method's
children are looked at before its own attributes.
-/
namespace BugArchive

open Xml (Element)

namespace Decode

def required (e : Element) (name : String) : Except Error String :=
  match e.get? name with
  | some v => .ok v
  | none => .error (.missingAttribute e.tag name)

def integer (e : Element) (name raw : String) : Except Error Int :=
  match Text.Numeral.read raw.toList with
  | .ok n => .ok n
  | .error _ => .error (.notAnInteger e.tag name raw)

def requiredInt (e : Element) (name : String) : Except Error Int := do
  integer e name (← required e name)

def optionalInt (e : Element) (name : String) (default : Int) : Except Error Int :=
  match e.get? name with
  | some raw => integer e name raw
  | none => .ok default

def isTrue (e : Element) (name : String) : Bool :=
  (e.get? name).any fun v => v.toList.map Char.toLower == "true".toList

def sourceLine (e : Element) : Except Error SourceLine := do
  return {
    className := ← required e "classname"
    first := ← optionalInt e "start" SourceLine.unknown
    last := ← optionalInt e "end" SourceLine.unknown
    firstBytecode := ← optionalInt e "startBytecode" SourceLine.unknown
    lastBytecode := ← optionalInt e "endBytecode" SourceLine.unknown
    sourceFile := e.get? "sourcefile" }

def methodLines (lines : Option SourceLine) : List Element → Except Error (Option SourceLine)
  | [] => .ok lines
  | e :: es =>
    if e.tag = Kind.atLine.tag then
      match sourceLine e with
      | .ok l => methodLines (some l) es
      | .error err => .error err
    else .error (.unknownElement e.tag)

def inClass (e : Element) : Except Error Detail := do
  return .inClass (← required e "classname")

def inMethod (e : Element) : Except Error Detail := do
  let lines ← methodLines none e.children
  return .inMethod (← required e "classname") (← required e "name") (← required e "signature") lines

def onField (e : Element) : Except Error Detail := do
  return .onField (← required e "classname") (← required e "name") (← required e "signature")
    (isTrue e "isStatic")

def number (e : Element) : Except Error Detail := do
  return .number (← requiredInt e "value")

/-- How many calls are open at the same time while an element is decoded, apart from findings in
it: its own and one for its values, and in a method one for its source lines. -/
def calls (k : Kind) (e : Element) : Nat :=
  match k with
  | .inMethod => if e.children.head?.map (·.tag) = some Kind.atLine.tag then 3 else 2
  | _ => 2

inductive Item where
  | finding (f : Finding)
  | detail (a : Detail)
deriving DecidableEq, Repr

variable [Machine] (r : Registry)

mutual

def finding (around : Nat) : Element → Except Error Finding
  | ⟨tag, attributes, text, children⟩ => do
    let type ← required ⟨tag, attributes, text, children⟩ "type"
    let priority ← optionalInt ⟨tag, attributes, text, children⟩ "priority" Finding.normalPriority
    return ⟨type, priority, ← details (around + 1) children⟩

def details (around : Nat) : List Element → Except Error (List Detail)
  | [] => .ok []
  | e :: es => do
    let a ← detail around e
    return a :: (← details around es)

/-- An element inside a finding. One that holds a finding is decoded before it is refused. -/
def detail (around : Nat) (e : Element) : Except Error Detail :=
  match r.get? e.tag with
  | none => .error (.unknownElement e.tag)
  | some k =>
    if Machine.room < around + calls k e then .error .nestedTooDeep
    else match k with
      | .finding => do
        let _ ← finding around e
        .error (.notADetail e.tag)
      | .inClass => inClass e
      | .onField => onField e
      | .inMethod => inMethod e
      | .atLine => do return .atLine (← sourceLine e)
      | .number => number e

end

def item (k : Kind) (e : Element) : Except Error Item :=
  match k with
  | .finding => (finding r 0 e).map .finding
  | .inClass => (inClass e).map .detail
  | .onField => (onField e).map .detail
  | .inMethod => (inMethod e).map .detail
  | .atLine => (sourceLine e).map fun l => .detail (.atLine l)
  | .number => (number e).map .detail

def topLevel (e : Element) : Except Error Finding :=
  match r.get? e.tag with
  | none => .error (.unknownElement e.tag)
  | some k => do
    match ← item r k e with
    | .finding f => return f
    | .detail _ => .error (.notTopLevel e.tag)

end Decode

end BugArchive
