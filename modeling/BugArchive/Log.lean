namespace BugArchive.Log

inductive Level where
  | debug
  | info
  | warning
deriving DecidableEq, Repr

def Level.value : Level → Int
  | debug => 10
  | info => 20
  | warning => 30

def Level.name : Level → String
  | debug => "DEBUG"
  | info => "INFO"
  | warning => "WARNING"

inductive Entry where
  | precheckSkipped
  | incompleteSourceMap
  | sourceFilesFilled (count : Nat)
  | archiveRead (findings errors missing classes : Nat)
  | archiveWritten (elements : Nat)
  | registered (tag : String)
deriving DecidableEq, Repr

namespace Entry

def level : Entry → Level
  | precheckSkipped | registered _ => .debug
  | sourceFilesFilled _ | archiveRead .. | archiveWritten _ => .info
  | incompleteSourceMap => .warning

def logger : Entry → String
  | precheckSkipped => "bug_platform.persistence.precheck"
  | incompleteSourceMap | sourceFilesFilled _ | archiveRead .. => "bug_platform.persistence.reader"
  | archiveWritten _ => "bug_platform.persistence.writer"
  | registered _ => "bug_platform.translators"

def message : Entry → String
  | precheckSkipped => "Stream is not seekable; skipping saved bug data precheck."
  | incompleteSourceMap => "Ignoring <SrcMap> without classname/srcfile attributes."
  | sourceFilesFilled count =>
    "Filled in " ++ toString count ++ " source file(s) from legacy SrcMap entries."
  | archiveRead findings errors missing classes =>
    "Read " ++ toString findings ++ " bug instance(s), " ++ toString errors ++ " error(s), " ++
      toString missing ++ " missing class(es), " ++ toString classes ++ " application class(es)."
  | archiveWritten elements =>
    "Wrote bug collection with " ++ toString elements ++ " top-level element(s)."
  | registered tag => "Registered XML translator for <" ++ tag ++ ">"

def line (e : Entry) : String :=
  e.level.name ++ " " ++ e.logger ++ ": " ++ e.message

end Entry

end BugArchive.Log
