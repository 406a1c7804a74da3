import BugArchive.Text.Digit

namespace BugArchive.Command

/-- The output of an upgrade is lost when two dashes stand in its place where they end the
options. -/
inductive Action where
  | check (file : String)
  | summary (file : String)
  | upgrade (input : String) (output : Option String)
  | exportJson (file : String) (output : Option String)
deriving DecidableEq, Repr

structure Invocation where
  verbose : Bool
  action : Action
deriving DecidableEq, Repr

inductive Request where
  | run (invocation : Invocation)
  | help
  | misuse
deriving DecidableEq, Repr

inductive Argument where
  | operand
  | option (name : String) (value : Option String)
  | unknown
  | ambiguous
deriving DecidableEq, Repr

namespace Argument

def splitValue (a : String) : String × Option String :=
  match a.toList.dropWhile (· != '=') with
  | _ :: v => (String.ofList (a.toList.takeWhile (· != '=')), some (String.ofList v))
  | [] => (a, none)

def isNegativeNumber (a : String) : Bool :=
  match a.toList with
  | '-' :: cs =>
    let cs := if cs.getLast? = some '\n' then cs.dropLast else cs
    match cs.dropWhile Text.isDecimal with
    | [] => !cs.isEmpty
    | '.' :: r => !r.isEmpty && r.all Text.isDecimal
    | _ => false
  | _ => false

def startsWith (start a : String) : Bool :=
  start.toList.isPrefixOf a.toList

def matching (options : List String) (a : String) : List (String × Option String) :=
  if startsWith "--" a then
    let (name, value) := splitValue a
    (options.filter (startsWith name)).map (·, value)
  else
    (options.filter fun o => o == String.ofList (a.toList.take 2)).map
      (·, some (String.ofList (a.toList.drop 2)))

def classify (options : List String) (a : String) : Argument :=
  if !startsWith "-" a then operand
  else if options.contains a then option a none
  else if a = "-" then operand
  else
    let (name, value) := splitValue a
    if value.isSome && options.contains name then option name value
    else match matching options a with
      | [(name, value)] => option name value
      | _ :: _ :: _ => ambiguous
      | [] => if isNegativeNumber a || a.toList.contains ' ' then operand else unknown

end Argument

def helpRequest (name : String) : Option String → Request
  | none => .help
  | some v =>
    if name = "-h" ∧ v ≠ "" ∧ v.toList.all (· == 'h') then .help else .misuse

structure Found where
  operands : List String
  output : Option String
  isWrong : Bool
  afterOperand : Bool
  isSecondLost : Bool

def Found.none : Found := ⟨[], Option.none, false, false, false⟩

def Found.operand (f : Found) (a : String) : Found :=
  { f with operands := f.operands ++ [a], afterOperand := true }

def Found.setOutput (f : Found) (v : String) : Found :=
  { f with output := if v = "--" then Option.none else some v, afterOperand := false }

inductive Scan where
  | done (found : Found)
  | stop (request : Request)

def isOperand (options : List String) (a : String) : Bool :=
  a != "--" && Argument.classify options a == .operand

/-- What follows two dashes. They must have an operand beside them, and are lost themselves as a
second operand. -/
def scanOperands (count : Nat) (f : Found) (as : List String) : Scan :=
  let all := f.operands ++ as
  .done { f with
    operands := all
    isWrong := f.isWrong || (as.isEmpty && !f.afterOperand)
    isSecondLost := count = 2 ∧ f.operands.length < 2 ∧ all[1]? = some "--" }

def scan (options : List String) (count : Nat) (f : Found) : List String → Scan
  | [] => .done f
  | a :: as =>
    if a = "--" then scanOperands count f as
    else match Argument.classify options a with
      | .operand => scan options count (f.operand a) as
      | .unknown => scan options count { f with isWrong := true, afterOperand := false } as
      | .ambiguous => .stop .misuse
      | .option name value =>
        if name = "--output" then
          match value, as with
          | some v, as => scan options count (f.setOutput v) as
          | none, v :: as =>
            if isOperand options v then scan options count (f.setOutput v) as else .stop .misuse
          | none, [] => .stop .misuse
        else .stop (helpRequest name value)

def action? (name : String) (f : Found) : Option Action :=
  match name, f.operands with
  | "check", [file] => some (.check file)
  | "summary", [file] => some (.summary file)
  | "upgrade", [input, output] =>
    some (.upgrade input (if f.isSecondLost then none else some output))
  | "export-json", [file] => some (.exportJson file f.output)
  | _, _ => none

def shape? (name : String) : Option (List String × Nat) :=
  if name = "check" ∨ name = "summary" then some (["-h", "--help"], 1)
  else if name = "upgrade" then some (["-h", "--help"], 2)
  else if name = "export-json" then some (["-h", "--help", "--output"], 1)
  else none

def command (verbose isWrong : Bool) (name : String) (as : List String) : Request :=
  match shape? name with
  | none => .misuse
  | some (options, count) =>
    match scan options count .none as with
    | .stop request => request
    | .done f =>
      match action? name f with
      | some action => if isWrong || f.isWrong then .misuse else .run ⟨verbose, action⟩
      | none => .misuse

def parse (verbose isWrong : Bool) : List String → Request
  | [] => .misuse
  | a :: as =>
    if a = "--" then .misuse
    else match Argument.classify ["-h", "--help", "--verbose"] a with
      | .operand => command verbose isWrong a as
      | .unknown => parse verbose true as
      | .ambiguous => .misuse
      | .option name value =>
        if name = "--verbose" then if value.isSome then .misuse else parse true isWrong as
        else helpRequest name value

def isNameless (a : String) : Bool := Argument.startsWith "--=" a

def Request.ofArguments (as : List String) : Request :=
  if (as.takeWhile (· != "--")).any isNameless then .misuse else parse false false as

end BugArchive.Command
