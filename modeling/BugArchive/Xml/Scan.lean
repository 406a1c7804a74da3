import BugArchive.Xml.Letter
/-!
Pieces of markup at the front of a text: blanks, names, text up to a mark. What a scanner leaves
is always an end of what it was given.
-/
namespace BugArchive.Xml

abbrev Scanner (α : Type) := List Char → Option (α × List Char)

def skipBlanks (cs : List Char) : List Char :=
  cs.dropWhile isBlank

theorem skipBlanks_suffix (cs : List Char) : skipBlanks cs <:+ cs :=
  List.dropWhile_suffix _

def startsBlank (cs : List Char) : Bool :=
  cs.head?.any isBlank

theorem length_skipBlanks_lt {cs : List Char} (h : startsBlank cs) :
    (skipBlanks cs).length < cs.length := by
  cases cs with
  | nil => simp [startsBlank] at h
  | cons c cs =>
    have hc : isBlank c = true := h
    rw [skipBlanks, List.dropWhile_cons, if_pos hc]
    exact Nat.lt_succ_of_le (skipBlanks_suffix cs).length_le

def simpleName (a : Alphabet) : Scanner (List Char)
  | [] => none
  | c :: cs =>
    if a.isNameStart c then some (c :: cs.takeWhile a.isNameChar, cs.dropWhile a.isNameChar)
    else none

theorem simpleName_suffix {a : Alphabet} {cs n r : List Char}
    (h : simpleName a cs = some (n, r)) : r <:+ cs := by
  cases cs with
  | nil => simp [simpleName] at h
  | cons c cs =>
    simp only [simpleName] at h
    split at h
    · obtain ⟨-, rfl⟩ := Prod.mk.inj (Option.some.inj h)
      exact (List.dropWhile_suffix _).trans (List.suffix_cons c cs)
    · cases h

def qualifiedName (a : Alphabet) : Scanner (List Char) := fun cs =>
  match simpleName a cs with
  | some (q, ':' :: r) => (simpleName a r).map fun n => (q ++ ':' :: n.1, n.2)
  | n => n

theorem qualifiedName_suffix {a : Alphabet} {cs n r : List Char}
    (h : qualifiedName a cs = some (n, r)) : r <:+ cs := by
  unfold qualifiedName at h
  split at h
  · rename_i q s hs
    obtain ⟨m, hm, hr⟩ := Option.map_eq_some_iff.mp h
    obtain ⟨-, rfl⟩ := Prod.mk.inj hr
    exact ((simpleName_suffix hm).trans (List.suffix_cons _ _)).trans (simpleName_suffix hs)
  · exact simpleName_suffix h

def upTo (mark : List Char) (acc : List Char) : Scanner (List Char)
  | [] => none
  | c :: cs =>
    if mark.isPrefixOf (c :: cs) then some (acc.reverse, (c :: cs).drop mark.length)
    else upTo mark (c :: acc) cs

theorem upTo_suffix {mark acc cs n r : List Char} (h : upTo mark acc cs = some (n, r)) :
    r <:+ cs := by
  induction cs generalizing acc with
  | nil => simp [upTo] at h
  | cons c cs ih =>
    simp only [upTo] at h
    split at h
    · obtain ⟨-, rfl⟩ := Prod.mk.inj (Option.some.inj h)
      exact List.drop_suffix _ _
    · exact (ih h).trans (List.suffix_cons c cs)

def before (mark : String) : Scanner (List Char) :=
  upTo mark.toList []

def cutAfter (mark : String) (cs : List Char) : List Char × List Char :=
  match before mark cs with
  | some (front, r) => (front ++ mark.toList, r)
  | none => (cs, [])

theorem cutAfter_suffix (mark : String) (cs : List Char) : (cutAfter mark cs).2 <:+ cs := by
  unfold cutAfter
  split
  · exact upTo_suffix ‹_›
  · exact List.nil_suffix

def startsWith (mark : String) (cs : List Char) : Bool :=
  mark.toList.isPrefixOf cs

end BugArchive.Xml
