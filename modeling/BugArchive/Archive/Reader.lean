import BugArchive.Archive.Edit
import BugArchive.Archive.Section
import BugArchive.Archive.Signature
import BugArchive.SourceMap
import BugArchive.Xml.Document
/-!
Reading archives. A document is decoded as a whole before anything of it is taken over, so that a
document with a fault changes nothing.
-/
namespace BugArchive

open Xml (Element)

namespace Archive

def sourceMap (sections : List Section) : SourceMap :=
  .ofPairs (sections.filterMap Section.entry?)

def readPath (e : Element) : Edit Unit :=
  match PathKind.ofTag? e.tag with
  | some k => Edit.project fun p => p.list k e.text
  | none => throw (.unknownElement e.tag)

def readProject (e : Element) : Edit Unit := do
  Edit.ofExcept (Project.validate e.children)
  Edit.project fun p => { p with filename := (e.get? "filename").or p.filename }
  e.children.forM readPath

def readEntry (sections : List Section) : Log.Entry :=
  .archiveRead (sections.filterMap Section.finding?).length
    (sections.flatMap Section.messages).length (sections.flatMap Section.missing).length
    (sections.filterMap Section.appClass?).length

/-- Takes over sections. Their findings are filled from the source map before they are added, and
the older ones once all are there. -/
def commit (sections : List Section) : Edit Unit := do
  let m := sourceMap sections
  let (staged, filled) := m.reconcile (sections.filterMap Section.finding?)
  (sections.filterMap Section.project?).forM readProject
  staged.forM fun f => Edit.collection fun c => c.add f
  (sections.flatMap Section.messages).forM fun t => Edit.collection fun c => c.addError t
  (sections.flatMap Section.missing).forM fun n => Edit.collection fun c => c.addMissing n
  (sections.filterMap Section.appClass?).forM fun k => Edit.collection fun c => c.addClass k.1 k.2
  let (findings, older) := m.reconcile (← get).archive.collection.findings
  Edit.collection fun c => { c with findings := findings }
  Edit.note (if filled + older = 0 then [] else [.sourceFilesFilled (filled + older)])
  Edit.project fun p => p.setModified false
  Edit.note [readEntry sections]

def stage [Machine] (r : Registry) (es : List Element) : Edit (List Section) := do
  let (sections, err) := Section.decodeAll r es
  Edit.note (sections.filterMap Section.note?)
  match err with
  | some err => throw err
  | none => return sections

def readElements [Machine] (r : Registry) (es : List Element) : Edit Unit := do
  commit (← stage r es)

def pieceSize : Nat := 64 * 1024

def parse (s : Stream) : Except Error Element :=
  if s.access = .closed then .error .closedStream
  else
    match Xml.Document.read (s.reading pieceSize) s.remaining with
    | .ok root => .ok root
    | .error fault => .error (.document fault)

def readInto [Machine] (r : Registry) (s : Stream) : Edit Unit := do
  let checked := Signature.check Signature.window s
  Edit.ofOutcome ⟨checked.log, checked.result⟩
  let root ← Edit.ofExcept (parse checked.stream)
  readElements r root.children

def read [Machine] (r : Registry) (s : Stream) (a : Archive) : Outcome Archive :=
  (readInto r s).outcome a

end Archive

end BugArchive
