import BugArchive.Error
import BugArchive.Finding.Basic
import BugArchive.Finding.Kind
import BugArchive.Text.Numeral
import BugArchive.Xml.Element

namespace BugArchive

open Text (Spelled)
open Xml (Element)

variable {σ : Type} [Spelled σ]

def numeral (n : Int) : Except Error σ :=
  match Text.Numeral.write? n with
  | some cs => .ok (Spelled.ofString (String.ofList cs))
  | none => .error .tooManyDigits

def flag (b : Bool) : σ := Spelled.ofString (if b then "true" else "false")

def SourceLine.toElement (l : SourceLine σ) : Except Error (Element σ) := do
  return .leaf Kind.atLine.tag ([
    ("classname", l.className),
    ("start", ← numeral l.first),
    ("end", ← numeral l.last),
    ("startBytecode", ← numeral l.firstBytecode),
    ("endBytecode", ← numeral l.lastBytecode)] ++
    (l.sourceFile.map ("sourcefile", ·)).toList)

def Detail.toElement : Detail σ → Except Error (Element σ)
  | inClass name => .ok (.leaf Kind.inClass.tag [("classname", name)])
  | inMethod className name signature lines => do
    let children ← lines.toList.mapM SourceLine.toElement
    return ⟨Kind.inMethod.tag,
      [("classname", className), ("name", name), ("signature", signature)],
      Spelled.ofString "", children⟩
  | onField className name signature isStatic =>
    .ok (.leaf Kind.onField.tag [("classname", className), ("name", name),
      ("signature", signature), ("isStatic", flag isStatic)])
  | atLine line => line.toElement
  | number n => do return .leaf Kind.number.tag [("value", ← numeral n)]
  | bare _ => .error .bareDetail

def Finding.toElement (f : Finding σ) : Except Error (Element σ) := do
  let priority ← numeral f.priority
  let children ← f.details.mapM Detail.toElement
  return ⟨Kind.finding.tag, [("type", f.type), ("priority", priority)], Spelled.ofString "", children⟩

end BugArchive
