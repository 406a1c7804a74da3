import BugArchive.Xml.Scan

namespace BugArchive.Xml

inductive Reference where
  | char (c : Char)
  | entity (name : List Char)
deriving DecidableEq, Repr

def predefined? (name : List Char) : Option Char :=
  if name = ['l', 't'] then some '<'
  else if name = ['g', 't'] then some '>'
  else if name = ['a', 'm', 'p'] then some '&'
  else if name = ['q', 'u', 'o', 't'] then some '"'
  else if name = ['a', 'p', 'o', 's'] then some '\''
  else none

def hexValue? (c : Char) : Option Nat :=
  if '0' ≤ c ∧ c ≤ '9' then some (c.toNat - '0'.toNat)
  else if 'a' ≤ c ∧ c ≤ 'f' then some (c.toNat - 'a'.toNat + 10)
  else if 'A' ≤ c ∧ c ≤ 'F' then some (c.toNat - 'A'.toNat + 10)
  else none

def decimalValue? (c : Char) : Option Nat :=
  if '0' ≤ c ∧ c ≤ '9' then some (c.toNat - '0'.toNat) else none

def charOf? (n : Nat) : Option Char :=
  if h : n.isValidChar then
    let c := Char.ofNatAux n h
    if isLegal c then some c else none
  else none

def charNumber (base : Nat) (digit? : Char → Option Nat) : Scanner Char := fun cs =>
  let digits := cs.takeWhile fun c => (digit? c).isSome
  if digits.isEmpty then none
  else match cs.dropWhile fun c => (digit? c).isSome with
    | ';' :: r => (charOf? (digits.foldl (fun n d => base * n + (digit? d).getD 0) 0)).map (·, r)
    | _ => none

def Reference.scan (a : Alphabet) : Scanner Reference
  | '#' :: 'x' :: cs => (charNumber 16 hexValue? cs).map fun r => (.char r.1, r.2)
  | '#' :: cs => (charNumber 10 decimalValue? cs).map fun r => (.char r.1, r.2)
  | cs =>
    match simpleName a cs with
    | some (n, ';' :: r) => some (.entity n, r)
    | _ => none

theorem charNumber_suffix {base : Nat} {digit? : Char → Option Nat} {cs r : List Char} {c : Char}
    (h : charNumber base digit? cs = some (c, r)) : r <:+ cs := by
  unfold charNumber at h
  dsimp only at h
  split at h
  · cases h
  split at h
  · rename_i s hs
    obtain ⟨d, -, hd⟩ := Option.map_eq_some_iff.mp h
    obtain ⟨-, rfl⟩ := Prod.mk.inj hd
    exact (List.suffix_cons _ _).trans (hs ▸ List.dropWhile_suffix _)
  · cases h

theorem Reference.scan_suffix {a : Alphabet} {cs r : List Char} {ref : Reference}
    (h : Reference.scan a cs = some (ref, r)) : r <:+ cs := by
  unfold Reference.scan at h
  split at h
  · obtain ⟨n, hn, hr⟩ := Option.map_eq_some_iff.mp h
    obtain ⟨-, rfl⟩ := Prod.mk.inj hr
    exact ((charNumber_suffix hn).trans (List.suffix_cons _ _)).trans (List.suffix_cons _ _)
  · obtain ⟨n, hn, hr⟩ := Option.map_eq_some_iff.mp h
    obtain ⟨-, rfl⟩ := Prod.mk.inj hr
    exact (charNumber_suffix hn).trans (List.suffix_cons _ _)
  · split at h
    · rename_i n s hs
      obtain ⟨-, rfl⟩ := Prod.mk.inj (Option.some.inj h)
      exact (List.suffix_cons _ _).trans (simpleName_suffix hs)
    · cases h

end BugArchive.Xml
