import BugArchive.Archive.File
import BugArchive.Contract.Export
import BugArchive.Settings

namespace BugArchive

inductive Refusal where
  | system (message : String)
  | unshowable (message : String)
deriving DecidableEq, Repr

def Refusal.message : Refusal → String
  | system message => message
  | unshowable message => message

/-- What becomes of a line after those that were printed before. -/
abbrev Console := List String → String → Option Refusal

def Console.willing : Console := fun _ _ => none

inductive Failure where
  | archive (e : Error)
  | contract (f : Contract.Fault)
  | setting (f : Settings.Fault)
  | lostOutput
  | console (r : Refusal)
deriving DecidableEq, Repr

namespace Failure

def message : Failure → String
  | archive e => e.message
  | contract f => f.message
  | setting f => f.message
  | lostOutput => "'list' object has no attribute 'write'"
  | console r => r.message

def isTold : Failure → Bool
  | archive e => e.isReported
  | console (.system _) => true
  | _ => false

end Failure

structure World where
  disk : Disk
  log : List Log.Entry
  lines : List String

/-- What was done before a failure stays. -/
abbrev Process := ExceptT Failure (StateM World)

namespace Process

def apply (m : Process α) (w : World) : Except Failure α × World :=
  StateT.run (ExceptT.run m) w

def ofExcept {ε : Type} (wrap : ε → Failure) (r : Except ε α) : Process α :=
  MonadExcept.ofExcept (r.mapError wrap)

def note (log : List Log.Entry) : Process Unit :=
  modify fun w => { w with log := w.log ++ log }

def ofOutcome (o : Outcome α) : Process α := do
  note o.log
  ofExcept .archive o.result

def ofWriting (m : Writing α) : Process α := do
  let w ← get
  let (r, o) := m.apply ⟨w.disk, []⟩
  set { w with disk := o.disk }
  ofExcept .archive r

def print (console : Console) (line : String) : Process Unit := do
  let w ← get
  match console w.lines line with
  | some r => throw (.console r)
  | none => set { w with lines := w.lines ++ [line] }

end Process

end BugArchive
