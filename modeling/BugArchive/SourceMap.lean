import BugArchive.Finding.Basic
/-!
Source maps name the source file of a class. Filling findings from a map gives a source file to
every source line that has none and whose class is in the map.
-/
namespace BugArchive

structure SourceMap where
  entries : List (String × String)
deriving Repr

namespace SourceMap

/-- The map in which of two pairs for a class the last counts. -/
def ofPairs (pairs : List (String × String)) : SourceMap :=
  ⟨pairs.reverse⟩

def get? (m : SourceMap) (className : String) : Option String :=
  m.entries.lookup className

variable (m : SourceMap)

def fillLine (l : SourceLine) : SourceLine :=
  match l.sourceFile with
  | some _ => l
  | none => { l with sourceFile := m.get? l.className }

def fillDetail : Detail → Detail
  | .atLine l => .atLine (m.fillLine l)
  | .inMethod className name signature lines =>
    .inMethod className name signature (lines.map m.fillLine)
  | a => a

def fill (f : Finding) : Finding :=
  { f with details := f.details.map m.fillDetail }

end SourceMap

def Detail.line? : Detail → Option SourceLine
  | atLine l => some l
  | inMethod _ _ _ lines => lines
  | _ => none

def SourceMap.fills (m : SourceMap) (l : SourceLine) : Bool :=
  l.sourceFile.isNone && (m.get? l.className).isSome

def SourceMap.count (m : SourceMap) (fs : List Finding) : Nat :=
  (fs.flatMap (·.details)).countP fun a => a.line?.any m.fills

def SourceMap.reconcile (m : SourceMap) (fs : List Finding) : List Finding × Nat :=
  (fs.map m.fill, m.count fs)

end BugArchive
