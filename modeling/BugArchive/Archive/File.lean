import BugArchive.Archive.Reader
import BugArchive.Archive.Writer
import BugArchive.Disk

namespace BugArchive

inductive Sink where
  | path (path : String)
  | stream

structure Outlet where
  disk : Disk
  taken : List UInt8

/-- What was written before an error stays. -/
abbrev Writing := ExceptT Error (StateM Outlet)

namespace Writing

def apply (m : Writing α) (o : Outlet) : Except Error α × Outlet :=
  StateT.run (ExceptT.run m) o

end Writing

def Sink.put (content : List UInt8) : Sink → Writing Unit
  | path p => do
    let o ← get
    let d ← MonadExcept.ofExcept (o.disk.write p content)
    set { o with disk := d }
  | stream => modify fun o => { o with taken := o.taken ++ content }

namespace Archive

inductive Source where
  | path (path : String)
  | stream (s : Stream)

def Source.toStream (d : Disk) : Source → Except Error Stream
  | path p => (d.read p).map Stream.ofContent
  | stream s => .ok s

variable [Machine]

def readFrom (r : Registry) (d : Disk) (source : Source) : Edit Unit := do
  let s ← Edit.ofExcept (source.toStream d)
  readInto r s

/-- Without a registry of the caller the shared one counts. A registry that binds no name is one
too. -/
def readUsing (shared : Registry) (own : Option Registry) (d : Disk) (source : Source) : Edit Unit :=
  readFrom (own.getD shared) d source

def load (r : Registry) (d : Disk) (path : String) (a : Archive) : Outcome Archive :=
  (readFrom r d (.path path)).outcome a

def writeTo {σ : Type} [Text.Spelled σ] (width : Nat) (sink : Sink) (a : Archive σ) :
    Writing Log.Entry := do
  let (content, note) ← MonadExcept.ofExcept (a.write width)
  sink.put content
  return note

def reload (r : Registry) (width : Nat) (a : Archive) : Outcome Archive :=
  match a.write width with
  | .error e => .error e
  | .ok (content, note) =>
    Outcome.andThen ⟨[note], .ok content⟩ fun content => read r (Stream.ofContent content) empty

end Archive

end BugArchive
