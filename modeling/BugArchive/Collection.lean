import BugArchive.Finding.Basic
/-!
Collections: the findings of an analysis in the order of their keys, its errors in the order they
came, the missing classes in ascending order, and the application classes in the order they were
first named.
-/
namespace BugArchive

structure Collection (σ : Type := String) where
  findings : List (Finding σ)
  errors : List σ
  missing : List σ
  classes : List (σ × Bool)
deriving DecidableEq, Repr

namespace Collection

def empty : Collection := ⟨[], [], [], []⟩

/-- Halves the range from `lo` to `hi` until it is one place: behind every key that was met and
does not come after `k`, and before every other that was met. -/
def insertionPoint (k : Finding.Key) (keys : Array Finding.Key) (lo hi : Nat) : Nat :=
  if _ : lo < hi then
    let mid := (lo + hi) / 2
    if (keys[mid]?).any k.precedes then insertionPoint k keys lo mid
    else insertionPoint k keys (mid + 1) hi
  else lo
termination_by hi - lo
decreasing_by all_goals omega

def insertAt (fs : List Finding) (i : Nat) (f : Finding) : List Finding :=
  fs.take i ++ f :: fs.drop i

def contains (c : Collection) (f : Finding) : Bool :=
  c.findings.contains f

def add (c : Collection) (f : Finding) : Collection :=
  if c.contains f then c
  else
    let keys := (c.findings.map Finding.key).toArray
    { c with findings := insertAt c.findings (insertionPoint f.key keys 0 keys.size) f }

def tryAdd (c : Collection) (f : Finding) : Bool × Collection :=
  (!c.contains f, c.add f)

def addError (c : Collection) (message : String) : Collection :=
  { c with errors := c.errors ++ [message] }

def insertName (name : String) : List String → List String
  | [] => [name]
  | n :: ns =>
    if name < n then name :: n :: ns
    else if name = n then n :: ns
    else n :: insertName name ns

def addMissing (c : Collection) (name : String) : Collection :=
  { c with missing := insertName name c.missing }

def setFlag (name : String) (flag : Bool) : List (String × Bool) → List (String × Bool)
  | [] => [(name, flag)]
  | (n, b) :: cs => if n = name then (n, flag) :: cs else (n, b) :: setFlag name flag cs

def addClass (c : Collection) (name : String) (isInterface : Bool) : Collection :=
  { c with classes := setFlag name isInterface c.classes }

def isInterface (c : Collection) (name : String) : Bool :=
  (c.classes.lookup name).getD false

def addDetail (c : Collection) (i : Nat) (a : Detail) : Collection :=
  { c with findings := c.findings.modify i (·.addDetail a) }

end Collection

end BugArchive
