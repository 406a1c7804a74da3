import BugArchive.Contract.Basic
import BugArchive.Json.Writer

namespace BugArchive.Contract

open Json (Value)

def tagField (form : Form) : String × Value := ("kind", .text form.tag)

def textList (ss : List String) : Value := .list (ss.map .text)

def SourceLine.toJson (l : SourceLine) : Value :=
  .object [tagField .atLine, ("class_name", .text l.className), ("start", .int l.first),
    ("end", .int l.last), ("start_bytecode", .int l.firstBytecode),
    ("end_bytecode", .int l.lastBytecode), ("source_file", .ofOption .text l.sourceFile)]

def Detail.toJson : Detail → Value
  | inClass name => .object [tagField .inClass, ("class_name", .text name)]
  | inMethod className name signature lines =>
    .object [tagField .inMethod, ("class_name", .text className), ("method_name", .text name),
      ("signature", .text signature), ("source_lines", .ofOption SourceLine.toJson lines)]
  | onField className name signature isStatic =>
    .object [tagField .onField, ("class_name", .text className), ("field_name", .text name),
      ("signature", .text signature), ("is_static", .bool isStatic)]
  | atLine line => line.toJson
  | number n => .object [tagField .number, ("value", .int n)]

def Finding.toJson (f : Finding) : Value :=
  .object [("type", .text f.type), ("priority", .int f.priority),
    ("annotations", .list (f.details.map Detail.toJson))]

def AppClass.toJson (c : AppClass) : Value :=
  .object [("name", .text c.name), ("is_interface", .bool c.isInterface)]

def Project.toJson (p : Project) : Value :=
  .object [("filename", .ofOption .text p.filename), ("jars", textList p.jars),
    ("aux_classpath", textList p.auxClasspath), ("src_dirs", textList p.sourceDirs)]

def Collection.toJson (c : Collection) : Value :=
  .object [("project", c.project.toJson),
    ("application_classes", .list (c.classes.map AppClass.toJson)),
    ("bug_instances", .list (c.findings.map Finding.toJson)),
    ("errors", textList c.errors), ("missing_classes", textList c.missing)]

def Record.toJson : Record → Value
  | detail a => a.toJson
  | finding f => f.toJson
  | appClass c => c.toJson
  | project p => p.toJson
  | collection c => c.toJson

end BugArchive.Contract
