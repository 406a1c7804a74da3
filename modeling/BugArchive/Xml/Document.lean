import BugArchive.Xml.Declaration
import BugArchive.Xml.Dtd.Part
import BugArchive.Xml.Dtd.Reader
import BugArchive.Xml.Encoding
import BugArchive.Xml.Expansion
import BugArchive.Xml.Tree

namespace BugArchive.Xml

structure Document where
  encoding : Encoding
  start : Nat
  standalone : Bool
  text : List Char

namespace Document

/-- A document without a declaration has the encoding that its first octets show. The encoding
that a declaration names does not matter in a document that was text before. -/
def ofOctets (reading : Option Nat) (wasText : Bool) (bs : List UInt8) :
    Except Fault Document := do
  let (e, mark) := Encoding.detectFrom reading bs
  let bs := bs.drop mark.length
  let (front, rest) := e.cutBracket bs
  match (if e.isWide then e.decode front else Encoding.latin1.decode front) with
  | none => .error .malformed
  | some cs =>
    if Declaration.isOpening cs then
      match Declaration.read? cs with
      | none => .error .malformed
      | some d =>
        let named ←
          match wasText, d.encoding with
          | false, some name => Encoding.declared e name
          | _, _ => pure e
        match named.decode rest with
        | none => .error .malformed
        | some text => .ok ⟨named, mark.length + front.length, d.standalone, text⟩
    else
      match e.decode bs with
      | none => .error .malformed
      | some text => .ok ⟨e, mark.length, false, text⟩

def alphabet (d : Document) : Alphabet := d.encoding.alphabet

def cut (d : Document) : List Char × List Dtd.Stretch × List Char :=
  match Dtd.skipAsides d.alphabet (d.text.length + 1) d.text with
  | none => (d.text, [], [])
  | some r =>
    let front := d.text.take (d.text.length - r.length)
    if startsWith "<!DOCTYPE" r then
      (front, Dtd.Stretch.ofDocumentType d.standalone r)
    else (front, [], r)

def typeFault (reading : Option Nat) (d : Document) (es : Entities) : Option Fault :=
  let (front, stretches, content) := d.cut
  match (if d.encoding.isConverted then Dtd.Part.firstFault stretches else none) with
  | some f => some f
  | none =>
    if es.isEmpty || Expansion.isAllowed reading d.start es
        (Piece.ofDocument d.encoding.size front stretches content) then none
    else some .malformed

def ofContent? (d : Document) (definition : Dtd) (content : List Char) : Option Element := do
  let tokens ← Token.scan d.alphabet [] (normalizeLines [] content)
  let events ← Event.ofTokens definition d.alphabet definition.entitySet.entities false [] tokens
  Tree.ofEvents? events.reverse

def root (reading : Option Nat) (d : Document) : Except Fault Element :=
  if d.text.all isLegal then
    match Dtd.scanProlog d.alphabet d.standalone d.text with
    | none => .error .malformed
    | some (none, content) =>
      match d.ofContent? Dtd.empty content with
      | none => .error .malformed
      | some e => .ok e
    | some (some draft, content) =>
      match d.typeFault reading draft.entitySet.entities with
      | some f => .error f
      | none =>
        match (draft.settle d.alphabet).bind (d.ofContent? · content) with
        | none => .error .malformed
        | some e => .ok e
  else .error .malformed

def ofText (s : String) : Except Fault Element :=
  (ofOctets none true (Text.Utf8.encode s.toList)).bind (root none)

def read (reading : Nat) (bs : List UInt8) : Except Fault Element :=
  (ofOctets (some reading) false bs).bind (root (some reading))

end Document

end BugArchive.Xml
