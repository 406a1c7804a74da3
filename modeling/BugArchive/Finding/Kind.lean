namespace BugArchive

inductive Kind where
  | finding
  | inClass
  | onField
  | inMethod
  | atLine
  | number
deriving DecidableEq, Repr

namespace Kind

def all : List Kind := [finding, inClass, onField, inMethod, atLine, number]

def tag : Kind → String
  | finding => "BugInstance"
  | inClass => "Class"
  | onField => "Field"
  | inMethod => "Method"
  | atLine => "SourceLine"
  | number => "Int"

def ofTag? (tag : String) : Option Kind :=
  all.find? fun k => k.tag == tag

end Kind

end BugArchive
