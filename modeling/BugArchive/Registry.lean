import BugArchive.Error
import BugArchive.Finding.Kind
import BugArchive.Log
/-!
Registries: which translator each element name stands for. Translators are told apart by their
identity; archives are read with the built-in ones, one for each kind of finding or detail.
-/
namespace BugArchive

structure Registry (τ : Type := Kind) where
  bindings : List (String × τ)
deriving Repr

namespace Registry

variable {τ : Type}

def empty : Registry τ := ⟨[]⟩

def get? (r : Registry τ) (tag : String) : Option τ :=
  r.bindings.lookup tag

def contains (r : Registry τ) (tag : String) : Bool :=
  (r.get? tag).isSome

def size (r : Registry τ) : Nat :=
  r.bindings.length

def names (r : Registry τ) : List String :=
  (r.bindings.map Prod.fst).mergeSort fun a b => a ≤ b

def bind (r : Registry τ) (tag : String) (t : τ) : Registry τ :=
  ⟨(tag, t) :: r.bindings.filter fun b => b.1 ≠ tag⟩

def ofList (bindings : List (String × τ)) : Registry τ :=
  bindings.foldl (fun r b => r.bind b.1 b.2) empty

section Register

variable [DecidableEq τ]

def register (r : Registry τ) (tag : String) (t : τ) (replace : Bool) :
    Except Error (Registry τ × List Log.Entry) :=
  match r.get? tag with
  | none => .ok (r.bind tag t, [.registered tag])
  | some old =>
    if old = t then .ok (r, [])
    else if replace then .ok (r.bind tag t, [.registered tag])
    else .error (.alreadyRegistered tag)

def registerAll (r : Registry τ) (noted : List Log.Entry) :
    List (String × τ) → Registry τ × List Log.Entry × Option Error
  | [] => (r, noted, none)
  | (tag, t) :: ps =>
    match r.register tag t false with
    | .ok (r, es) => r.registerAll (noted ++ es) ps
    | .error e => (r, noted, some e)

def registerKinds (own : Kind → τ) (r : Registry τ) : Registry τ × List Log.Entry × Option Error :=
  r.registerAll [] (Kind.all.map fun k => (k.tag, own k))

end Register

def registerBuiltins (r : Registry) : Registry × List Log.Entry × Option Error :=
  r.registerKinds id

def builtin : Registry :=
  (registerBuiltins empty).1

end Registry

end BugArchive
