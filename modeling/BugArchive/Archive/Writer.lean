import BugArchive.Archive.Basic
import BugArchive.Finding.Encode
import BugArchive.Machine
import BugArchive.Text.Utf8
import BugArchive.Xml.Letter
import BugArchive.Xml.Writer
/-!
Writing archives. The document is complete and checked before any of it is written.
-/
namespace BugArchive

open Text (CodePoint Spelled)
open Xml (Element)

variable {σ : Type} [Spelled σ]

namespace Collection

def classElement (name : σ) (isInterface : Bool) : Element σ :=
  ⟨"AppClass", if isInterface then [("interface", Spelled.ofString "true")] else [], name, []⟩

def errorsElement (c : Collection σ) : Element σ :=
  ⟨"Errors", [], Spelled.ofString "", c.errors.map (Element.ofText "AnalysisError") ++
    c.missing.map (Element.ofText "MissingClass")⟩

end Collection

namespace Archive

def isIllegal (p : CodePoint) : Bool :=
  let n := p.value
  !(n == 0x9 || n == 0xA || n == 0xD || (0x20 ≤ n && n ≤ 0xD7FF) || (0xE000 ≤ n && n ≤ 0xFFFD) ||
    (0x10000 ≤ n && n ≤ 0x10FFFF))

def illegalIn (e : Element σ) : Option Error :=
  (e.attributes.findSome? fun a =>
    ((Spelled.points a.2).find? isIllegal).map (.illegalCharacter e.tag (.attribute a.1))).or
    (((Spelled.points e.text).find? isIllegal).map (.illegalCharacter e.tag .text))

def checkDocument (root : Element σ) : Except Error Unit :=
  match root.nodes.findSome? illegalIn with
  | some err => .error err
  | none => .ok ()

def toElement (a : Archive σ) : Except Error (Element σ) := do
  let findings ← a.collection.findings.mapM Finding.toElement
  return ⟨"BugCollection", [], Spelled.ofString "", a.project.toElement ::
    a.collection.classes.map (fun c => Collection.classElement c.1 c.2) ++
    findings ++ [a.collection.errorsElement]⟩

def document (a : Archive σ) : Except Error (Element σ) := do
  let root ← a.toElement
  checkDocument root
  return root

def declaration : List Char :=
  "<?xml version='1.0' encoding='UTF-8'?>\n".toList

/-- Carriage returns are written as references, so that readers do not take them for line
ends. -/
def guardReturn (b : UInt8) : List UInt8 :=
  if b = 0x0D then Text.Utf8.encode "&#13;".toList else [b]

def serialize (width : Nat) (root : Element σ) : List UInt8 :=
  (Text.Utf8.encode (declaration ++ Xml.write (.indented width) Xml.escapeText 0 root [])).flatMap guardReturn ++
    Text.Utf8.encode ['\n']

section Write

variable [Machine]

def checkWidth (width : Nat) (root : Element σ) : Except Error Unit :=
  if Error.indexLimit ≤ width then .error .indexOverflow
  else if Machine.holds width root then .ok ()
  else .error .outOfMemory

def write (width : Nat) (a : Archive σ) : Except Error (List UInt8 × Log.Entry) := do
  let root ← a.document
  checkWidth width root
  return (serialize width root, .archiveWritten root.children.length)

end Write

end Archive

end BugArchive
