import BugArchive.Json.Value

namespace BugArchive.Contract

inductive Rule where
  | missing
  | extraForbidden
  | recordExpected
  | objectExpected
  | attributesExpected
  | listExpected
  | textExpected
  | textTooShort
  | wrongLiteral
  | integerExpected
  | notAnInteger
  | integerTooLong
  | notWhole
  | notFinite
  | tooSmall
  | flagExpected
  | notAFlag
  | tagMissing
  | tagUnknown
  | invalidText
deriving DecidableEq, Repr

def Rule.name : Rule → String
  | missing => "missing"
  | extraForbidden => "extra_forbidden"
  | recordExpected => "model_type"
  | objectExpected => "dict_type"
  | attributesExpected => "model_attributes_type"
  | listExpected => "list_type"
  | textExpected => "string_type"
  | textTooShort => "string_too_short"
  | wrongLiteral => "literal_error"
  | integerExpected => "int_type"
  | notAnInteger => "int_parsing"
  | integerTooLong => "int_parsing_size"
  | notWhole => "int_from_float"
  | notFinite => "finite_number"
  | tooSmall => "greater_than_equal"
  | flagExpected => "bool_type"
  | notAFlag => "bool_parsing"
  | tagMissing => "union_tag_not_found"
  | tagUnknown => "union_tag_invalid"
  | invalidText => "json_invalid"

inductive Step where
  | key (name : String)
  | index (i : Nat)
deriving DecidableEq, Repr

structure Issue where
  rule : Rule
  path : List Step
deriving DecidableEq, Repr

inductive Checked (α : Type) where
  | ok (a : α)
  | faulty (issues : List Issue)
deriving Repr

namespace Checked

def fail (rule : Rule) : Checked α := .faulty [⟨rule, []⟩]

def map (f : α → β) : Checked α → Checked β
  | ok a => ok (f a)
  | faulty is => faulty is

def seq : Checked (α → β) → Checked α → Checked β
  | ok f, ok a => ok (f a)
  | ok _, faulty is => faulty is
  | faulty is, ok _ => faulty is
  | faulty is, faulty js => faulty (is ++ js)

instance : Applicative Checked where
  pure := ok
  seq f a := seq f (a ())

def andThen (a : Checked α) (f : α → Checked β) : Checked β :=
  match a with
  | ok a => f a
  | faulty is => faulty is

def under (step : Step) : Checked α → Checked α
  | ok a => ok a
  | faulty is => faulty (is.map fun i => { i with path := step :: i.path })

end Checked

end BugArchive.Contract
