namespace BugArchive.Contract

structure SourceLine where
  className : String
  first : Int
  last : Int
  firstBytecode : Int
  lastBytecode : Int
  sourceFile : Option String
deriving DecidableEq, Repr

inductive Detail where
  | inClass (name : String)
  | inMethod (className name signature : String) (lines : Option SourceLine)
  | onField (className name signature : String) (isStatic : Bool)
  | atLine (line : SourceLine)
  | number (n : Int)
deriving DecidableEq, Repr

structure Finding where
  type : String
  priority : Int
  details : List Detail
  type_ne : type ≠ ""
  one_le : 1 ≤ priority
deriving DecidableEq, Repr

structure AppClass where
  name : String
  isInterface : Bool
deriving DecidableEq, Repr

structure Project where
  filename : Option String
  jars : List String
  auxClasspath : List String
  sourceDirs : List String
deriving DecidableEq, Repr

structure Collection where
  project : Project
  classes : List AppClass
  findings : List Finding
  errors : List String
  missing : List String
deriving DecidableEq, Repr

inductive Form where
  | inClass
  | inMethod
  | onField
  | atLine
  | number
deriving DecidableEq, Repr

namespace Form

def all : List Form := [inClass, inMethod, onField, atLine, number]

def tag : Form → String
  | inClass => "Class"
  | inMethod => "Method"
  | onField => "Field"
  | atLine => "SourceLine"
  | number => "Int"

def name : Form → String
  | inClass => "ClassAnnotationContract"
  | inMethod => "MethodAnnotationContract"
  | onField => "FieldAnnotationContract"
  | atLine => "SourceLineContract"
  | number => "IntAnnotationContract"

end Form

def Detail.form : Detail → Form
  | inClass .. => .inClass
  | inMethod .. => .inMethod
  | onField .. => .onField
  | atLine .. => .atLine
  | number .. => .number

inductive Record where
  | detail (a : Detail)
  | finding (f : Finding)
  | appClass (c : AppClass)
  | project (p : Project)
  | collection (c : Collection)
deriving DecidableEq, Repr

inductive Schema where
  | detail (form : Form)
  | anyDetail
  | finding
  | appClass
  | project
  | collection
deriving DecidableEq, Repr

namespace Schema

def all : List Schema :=
  Form.all.map detail ++ [anyDetail, finding, appClass, project, collection]

def name : Schema → String
  | detail form => form.name
  | anyDetail => "Annotation"
  | finding => "BugInstanceContract"
  | appClass => "AppClassContract"
  | project => "ProjectContract"
  | collection => "BugCollectionContract"

def ofName? (name : String) : Option Schema :=
  all.find? fun s => s.name == name

end Schema

def Record.schema : Record → Schema
  | detail a => .detail a.form
  | finding _ => .finding
  | appClass _ => .appClass
  | project _ => .project
  | collection _ => .collection

end BugArchive.Contract
