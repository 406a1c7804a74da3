import BugArchive.Archive.Basic
import BugArchive.Contract.Reader

namespace BugArchive.Contract

inductive Fault where
  | noRecord
  | noDetail (schema : Schema)
  | invalid (schema : Schema) (issues : List Issue)
deriving DecidableEq, Repr

def Fault.message : Fault → String
  | noRecord => "No contract for annotation type BugAnnotation"
  | noDetail schema => "Unsupported annotation contract " ++ schema.name
  | invalid schema _ => schema.name

def SourceLine.ofModel (l : BugArchive.SourceLine) : SourceLine :=
  ⟨l.className, l.first, l.last, l.firstBytecode, l.lastBytecode, l.sourceFile⟩

def SourceLine.toModel (l : SourceLine) : BugArchive.SourceLine :=
  ⟨l.className, l.first, l.last, l.firstBytecode, l.lastBytecode, l.sourceFile⟩

def Detail.ofModel : BugArchive.Detail → Except Fault Detail
  | .inClass name => .ok (.inClass name)
  | .inMethod className name signature lines =>
    .ok (.inMethod className name signature (lines.map SourceLine.ofModel))
  | .onField className name signature isStatic =>
    .ok (.onField className name signature isStatic)
  | .atLine line => .ok (.atLine (.ofModel line))
  | .number n => .ok (.number n)
  | .bare _ => .error .noRecord

def Detail.toModel : Detail → BugArchive.Detail
  | inClass name => .inClass name
  | inMethod className name signature lines =>
    .inMethod className name signature (lines.map SourceLine.toModel)
  | onField className name signature isStatic => .onField className name signature isStatic
  | atLine line => .atLine line.toModel
  | number n => .number n

def Finding.ofModel (f : BugArchive.Finding) : Except Fault Finding := do
  let details ← f.details.mapM Detail.ofModel
  match ofParts f.type f.priority details with
  | .ok f => return f
  | .faulty issues => .error (.invalid .finding issues)

def Finding.toModel (f : Finding) : BugArchive.Finding :=
  ⟨f.type, f.priority, f.details.map Detail.toModel⟩

def Project.ofModel (p : BugArchive.Project) : Project :=
  ⟨p.filename, p.jars, p.auxClasspath, p.sourceDirs⟩

def Collection.ofArchive (a : Archive) : Except Fault Collection := do
  let findings ← a.collection.findings.mapM Finding.ofModel
  return {
    project := .ofModel a.project
    classes := a.collection.classes.map fun c => ⟨c.1, c.2⟩
    findings := findings
    errors := a.collection.errors
    missing := a.collection.missing }

def Record.toDetail (r : Record) : Except Fault BugArchive.Detail :=
  match r with
  | detail a => .ok a.toModel
  | r => .error (.noDetail r.schema)

end BugArchive.Contract
