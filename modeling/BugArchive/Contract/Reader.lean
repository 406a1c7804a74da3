import BugArchive.Contract.Basic
import BugArchive.Contract.Scalar
import BugArchive.Json.Reader

namespace BugArchive.Contract

open Json (Value)

def kind (form : Form) (fields : Fields) : Checked Unit :=
  orDefault () (literal form.tag) "kind" fields

def SourceLine.declared : List String :=
  ["kind", "class_name", "start", "end", "start_bytecode", "end_bytecode", "source_file"]

def SourceLine.check : Check SourceLine :=
  record declared fun fields =>
    (fun _ className first last firstBytecode lastBytecode sourceFile =>
      SourceLine.mk className first last firstBytecode lastBytecode sourceFile) <$>
      kind .atLine fields <*>
      required text "class_name" fields <*>
      orDefault (-1) integer "start" fields <*>
      orDefault (-1) integer "end" fields <*>
      orDefault (-1) integer "start_bytecode" fields <*>
      orDefault (-1) integer "end_bytecode" fields <*>
      orDefault none (optional text) "source_file" fields

namespace Detail

def checkClass : Check Detail :=
  record ["kind", "class_name"] fun fields =>
    (fun _ name => inClass name) <$> kind .inClass fields <*> required text "class_name" fields

def checkMethod : Check Detail :=
  record ["kind", "class_name", "method_name", "signature", "source_lines"] fun fields =>
    (fun _ className name signature lines => inMethod className name signature lines) <$>
      kind .inMethod fields <*>
      required text "class_name" fields <*>
      required text "method_name" fields <*>
      required text "signature" fields <*>
      orDefault none (optional SourceLine.check) "source_lines" fields

def checkField (source : Source) : Check Detail :=
  record ["kind", "class_name", "field_name", "signature", "is_static"] fun fields =>
    (fun _ className name signature isStatic => onField className name signature isStatic) <$>
      kind .onField fields <*>
      required text "class_name" fields <*>
      required text "field_name" fields <*>
      required text "signature" fields <*>
      orDefault false (flag source) "is_static" fields

def checkNumber : Check Detail :=
  record ["kind", "value"] fun fields =>
    (fun _ n => number n) <$> kind .number fields <*> required integer "value" fields

def checkForm (source : Source) : Form → Check Detail
  | .inClass => checkClass
  | .inMethod => checkMethod
  | .onField => checkField source
  | .atLine => fun v => (SourceLine.check v).map atLine
  | .number => checkNumber

def formOfTag? : Value → Option Form
  | .text tag => Form.all.find? fun form => form.tag == tag
  | _ => none

def check (source : Source) : Check Detail
  | .object fields =>
    match Value.field? "kind" fields with
    | none => .fail .tagMissing
    | some tag =>
      match formOfTag? tag with
      | none => .fail .tagUnknown
      | some form => (checkForm source form (.object fields)).under (.key form.tag)
  | _ =>
    match source with
    | .value => .fail .attributesExpected
    | .text => .fail .objectExpected

end Detail

def Finding.ofParts (type : String) (priority : Int) (details : List Detail) :
    Checked Finding :=
  if h : type ≠ "" ∧ 1 ≤ priority then .ok ⟨type, priority, details, h.1, h.2⟩
  else .faulty ((if type = "" then [⟨.textTooShort, [.key "type"]⟩] else []) ++
    if priority < 1 then [⟨.tooSmall, [.key "priority"]⟩] else [])

def Finding.check (source : Source) : Check Finding := fun v =>
  (record ["type", "priority", "annotations"] (fun fields =>
    (fun type priority details => (type, priority, details)) <$>
      required nonEmptyText "type" fields <*>
      required (integerAtLeast 1) "priority" fields <*>
      orDefault [] (list (Detail.check source)) "annotations" fields) v).andThen
    fun parts => ofParts parts.1 parts.2.1 parts.2.2

def AppClass.check (source : Source) : Check AppClass :=
  record ["name", "is_interface"] fun fields =>
    AppClass.mk <$> required text "name" fields <*> orDefault false (flag source) "is_interface" fields

def Project.check : Check Project :=
  record ["filename", "jars", "aux_classpath", "src_dirs"] fun fields =>
    Project.mk <$>
      orDefault none (optional text) "filename" fields <*>
      orDefault [] (list text) "jars" fields <*>
      orDefault [] (list text) "aux_classpath" fields <*>
      orDefault [] (list text) "src_dirs" fields

def Collection.check (source : Source) : Check Collection :=
  record ["project", "application_classes", "bug_instances", "errors", "missing_classes"]
    fun fields =>
    Collection.mk <$>
      required Project.check "project" fields <*>
      orDefault [] (list (AppClass.check source)) "application_classes" fields <*>
      orDefault [] (list (Finding.check source)) "bug_instances" fields <*>
      orDefault [] (list text) "errors" fields <*>
      orDefault [] (list text) "missing_classes" fields

def Schema.check (source : Source) : Schema → Check Record
  | .detail form => fun v => (Detail.checkForm source form v).map .detail
  | .anyDetail => fun v => (Detail.check source v).map .detail
  | .finding => fun v => (Finding.check source v).map .finding
  | .appClass => fun v => (AppClass.check source v).map .appClass
  | .project => fun v => (Project.check v).map .project
  | .collection => fun v => (Collection.check source v).map .collection

def limits : Json.Limits := ⟨200, Text.Numeral.maxDigits⟩

def Schema.read (s : Schema) (text : String) : Checked Record :=
  match Json.read limits text with
  | none => .fail .invalidText
  | some v => s.check .text v

end BugArchive.Contract
