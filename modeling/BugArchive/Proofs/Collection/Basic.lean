import BugArchive.Collection
import Mathlib.Tactic.Lemma

namespace BugArchive.Collection

def insert (fs : List Finding) (f : Finding) : List Finding :=
  if fs.contains f then fs
  else insertAt fs (insertionPoint f.key (fs.map Finding.key).toArray 0 fs.length) f

lemma add_eq (c : Collection) (f : Finding) :
    c.add f = { c with findings := insert c.findings f } := by
  unfold add insert contains
  split
  · rfl
  · simp

lemma foldl_add (fs : List Finding) (c : Collection) :
    fs.foldl add c = { c with findings := fs.foldl insert c.findings } := by
  induction fs generalizing c with
  | nil => rfl
  | cons f fs ih => rw [List.foldl_cons, add_eq, ih, List.foldl_cons]

lemma foldl_addError (ms : List String) (c : Collection) :
    ms.foldl addError c = { c with errors := c.errors ++ ms } := by
  induction ms generalizing c with
  | nil => rw [List.append_nil]; rfl
  | cons m ms ih =>
    rw [List.foldl_cons, ih]
    simp [addError]

def insertNames (ns names : List String) : List String :=
  names.foldl (fun ns n => insertName n ns) ns

lemma foldl_addMissing (names : List String) (c : Collection) :
    names.foldl addMissing c = { c with missing := insertNames c.missing names } := by
  induction names generalizing c with
  | nil => rfl
  | cons n names ih =>
    rw [List.foldl_cons, ih]
    rfl

def setFlags (cs classes : List (String × Bool)) : List (String × Bool) :=
  classes.foldl (fun cs k => setFlag k.1 k.2 cs) cs

lemma foldl_addClass (classes : List (String × Bool)) (c : Collection) :
    classes.foldl (fun c k => c.addClass k.1 k.2) c =
      { c with classes := setFlags c.classes classes } := by
  induction classes generalizing c with
  | nil => rfl
  | cons k classes ih =>
    rw [List.foldl_cons, ih]
    rfl

end BugArchive.Collection
