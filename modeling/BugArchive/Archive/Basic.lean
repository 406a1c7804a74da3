import BugArchive.Collection
import BugArchive.Error
import BugArchive.Log
import BugArchive.Project

namespace BugArchive

structure Archive (σ : Type := String) where
  collection : Collection σ
  project : Project σ
deriving DecidableEq, Repr

def Archive.empty : Archive := ⟨.empty, .empty⟩

structure Outcome (α : Type) where
  log : List Log.Entry
  result : Except Error α

namespace Outcome

def ok (a : α) : Outcome α := ⟨[], .ok a⟩

def error (e : Error) : Outcome α := ⟨[], .error e⟩

def andThen (o : Outcome α) (f : α → Outcome β) : Outcome β :=
  match o.result with
  | .error e => ⟨o.log, .error e⟩
  | .ok a => ⟨o.log ++ (f a).log, (f a).result⟩

end Outcome

end BugArchive
