/-!
JSON values. Numbers keep the form they are written in: integers of any size apart from decimals,
which stand for `mantissa * 10 ^ exponent`.
-/
namespace BugArchive.Json

inductive Value where
  | null
  | bool (b : Bool)
  | int (n : Int)
  | decimal (mantissa exponent : Int)
  | nonFinite
  | text (s : String)
  | list (items : List Value)
  | object (fields : List (String × Value))
deriving Inhabited, Repr

namespace Value

def field? (name : String) (fields : List (String × Value)) : Option Value :=
  fields.reverse.lookup name

def ofOption (f : α → Value) : Option α → Value
  | none => .null
  | some a => f a

end Value

end BugArchive.Json
