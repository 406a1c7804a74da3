import BugArchive.Archive.Basic
/-!
Changes to an archive in place. What was changed and noted before an error stays.
-/
namespace BugArchive

structure Work where
  archive : Archive
  log : List Log.Entry

abbrev Edit := ExceptT Error (StateM Work)

namespace Edit

def note (es : List Log.Entry) : Edit Unit :=
  modify fun w => { w with log := w.log ++ es }

def collection (f : Collection → Collection) : Edit Unit :=
  modify fun w => { w with archive.collection := f w.archive.collection }

def project (f : Project → Project) : Edit Unit :=
  modify fun w => { w with archive.project := f w.archive.project }

def ofExcept (r : Except Error α) : Edit α :=
  match r with
  | .ok a => pure a
  | .error e => throw e

def ofOutcome (o : Outcome α) : Edit α := do
  note o.log
  ofExcept o.result

def apply (m : Edit α) (a : Archive) : Outcome α × Archive :=
  let (result, w) := StateT.run (ExceptT.run m) ⟨a, []⟩
  (⟨w.log, result⟩, w.archive)

def outcome (m : Edit Unit) (a : Archive) : Outcome Archive :=
  let (o, a) := m.apply a
  ⟨o.log, o.result.map fun _ => a⟩

end Edit

end BugArchive
