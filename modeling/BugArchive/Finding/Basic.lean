/-!
Findings of an analysis and the details that say where they are. Their texts are of any kind that
can be written; only strings are read.
-/
namespace BugArchive

structure SourceLine (σ : Type := String) where
  className : σ
  first : Int
  last : Int
  firstBytecode : Int
  lastBytecode : Int
  sourceFile : Option σ
deriving DecidableEq, Repr

def SourceLine.unknown : Int := -1

def SourceLine.ofClass {σ : Type} (className : σ) : SourceLine σ :=
  ⟨className, unknown, unknown, unknown, unknown, none⟩

/-- A `bare` detail says nothing; it equals only those of the same identity. -/
inductive Detail (σ : Type := String) where
  | inClass (name : σ)
  | inMethod (className name signature : σ) (lines : Option (SourceLine σ))
  | onField (className name signature : σ) (isStatic : Bool)
  | atLine (line : SourceLine σ)
  | number (n : Int)
  | bare (identity : Nat)
deriving DecidableEq, Repr

structure Finding (σ : Type := String) where
  type : σ
  priority : Int
  details : List (Detail σ)
deriving DecidableEq, Repr

namespace Finding

def normalPriority : Int := 2

def className? : Detail → Option String
  | .inClass name => some name
  | _ => none

def primaryClass (f : Finding) : Option String :=
  f.details.findSome? className?

def isMethod : Detail → Bool
  | .inMethod .. => true
  | _ => false

def primaryMethod (f : Finding) : Option Detail :=
  f.details.find? isMethod

def addDetail (f : Finding) (a : Detail) : Finding :=
  { f with details := f.details ++ [a] }

structure Key where
  className : String
  type : String
  priority : Int
deriving DecidableEq, Repr

def key (f : Finding) : Key :=
  ⟨f.primaryClass.getD "", f.type, f.priority⟩

def Key.precedes (a b : Key) : Bool :=
  a.className < b.className ||
    (a.className == b.className &&
      (a.type < b.type || (a.type == b.type && a.priority < b.priority)))

end Finding

end BugArchive
