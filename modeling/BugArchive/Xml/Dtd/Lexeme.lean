import BugArchive.Xml.Scan

namespace BugArchive.Xml

inductive Lexeme where
  | name (cs : List Char)
  | qualified (cs : List Char)
  | word (cs : List Char)
  | repeated
  | keyword (cs : List Char)
  | literal (cs : List Char)
  | opening
  | closing (suffix : Option Char)
  | bar
  | comma
  | percent
deriving DecidableEq, Repr

namespace Lexeme

def isRepetition (c : Char) : Bool := c == '?' || c == '*' || c == '+'

def isOneOf (marks : String) : List Char → Bool
  | [] => false
  | c :: _ => isBlank c || marks.toList.contains c

def isWordChar (a : Alphabet) (c : Char) : Bool := a.isNameChar c || c == ':'

def ofRun (a : Alphabet) (run : List Char) : Lexeme :=
  match simpleName a run with
  | some (_, []) => .name run
  | some (_, ':' :: c :: cs) => if (c :: cs).all a.isNameChar then .qualified run else .word run
  | _ => .word run

def isName : Lexeme → Bool
  | .name _ => true
  | .qualified _ => true
  | _ => false

def next (a : Alphabet) (c : Char) (cs : List Char) : Option (Lexeme × List Char) :=
  if c = '"' ∨ c = '\'' then
    match upTo [c] [] cs with
    | some (v, r) => if isOneOf ">%[" r then some (.literal v, r) else none
    | none => none
  else if c = '(' then some (.opening, cs)
  else if c = ')' then
    match cs with
    | s :: r =>
      if s = '?' ∨ s = '*' ∨ s = '+' then some (.closing s, r)
      else if isOneOf ">,|)" cs then some (.closing none, cs) else none
    | [] => none
  else if c = '|' then some (.bar, cs)
  else if c = ',' then some (.comma, cs)
  else if c = '%' then if isOneOf "" cs then some (.percent, cs) else none
  else if c = '#' then
    match simpleName a cs with
    | some (n, r) => if isOneOf ")>%|" r then some (.keyword n, r) else none
    | none => none
  else if isWordChar a c then
    let l := ofRun a (c :: cs.takeWhile (isWordChar a))
    let r := cs.dropWhile (isWordChar a)
    if isOneOf ">),|[%" r then some (l, r)
    else if l.isName && r.head?.any isRepetition then some (.repeated, r.drop 1)
    else none
  else none

theorem ofRun_ne_literal {a : Alphabet} {run v : List Char} : ofRun a run ≠ .literal v := by
  unfold ofRun
  split
  · exact Lexeme.noConfusion
  · split
    · exact Lexeme.noConfusion
    · exact Lexeme.noConfusion
  · exact Lexeme.noConfusion

theorem next_spec {a : Alphabet} {c : Char} {cs r : List Char} {l : Lexeme}
    (h : next a c cs = some (l, r)) :
    r <:+ cs ∧ ∀ v, l = .literal v → upTo [c] [] cs = some (v, r) := by
  have other {l' : Lexeme} {r' : List Char} (he : some (l', r') = some (l, r)) (hr : r' <:+ cs)
      (hl : ∀ v, l' ≠ .literal v) :
      r <:+ cs ∧ ∀ v, l = .literal v → upTo [c] [] cs = some (v, r) := by
    obtain ⟨rfl, rfl⟩ := Prod.mk.inj (Option.some.inj he)
    exact ⟨hr, fun v hv => absurd hv (hl v)⟩
  unfold next at h
  dsimp only at h
  by_cases hq : c = '"' ∨ c = '\''
  · rw [if_pos hq] at h
    split at h
    · rename_i hs
      split at h
      · obtain ⟨rfl, rfl⟩ := Prod.mk.inj (Option.some.inj h)
        exact ⟨upTo_suffix hs, fun v hv => literal.inj hv ▸ hs⟩
      · cases h
    · cases h
  rw [if_neg hq] at h
  by_cases ho : c = '('
  · rw [if_pos ho] at h
    exact other h (List.suffix_refl _) fun _ => Lexeme.noConfusion
  rw [if_neg ho] at h
  by_cases hc : c = ')'
  · rw [if_pos hc] at h
    split at h
    · split at h
      · exact other h (List.suffix_cons _ _) fun _ => Lexeme.noConfusion
      split at h
      · exact other h (List.suffix_refl _) fun _ => Lexeme.noConfusion
      · cases h
    · cases h
  rw [if_neg hc] at h
  by_cases hb : c = '|'
  · rw [if_pos hb] at h
    exact other h (List.suffix_refl _) fun _ => Lexeme.noConfusion
  rw [if_neg hb] at h
  by_cases hm : c = ','
  · rw [if_pos hm] at h
    exact other h (List.suffix_refl _) fun _ => Lexeme.noConfusion
  rw [if_neg hm] at h
  by_cases hp : c = '%'
  · rw [if_pos hp] at h
    split at h
    · exact other h (List.suffix_refl _) fun _ => Lexeme.noConfusion
    · cases h
  rw [if_neg hp] at h
  by_cases hk : c = '#'
  · rw [if_pos hk] at h
    split at h
    · rename_i hs
      split at h
      · exact other h (simpleName_suffix hs) fun _ => Lexeme.noConfusion
      · cases h
    · cases h
  rw [if_neg hk] at h
  split at h
  · split at h
    · exact other h (List.dropWhile_suffix _) fun _ => ofRun_ne_literal
    split at h
    · exact other h ((List.drop_suffix _ _).trans (List.dropWhile_suffix _)) fun _ => Lexeme.noConfusion
    · cases h
  · cases h

def scan (a : Alphabet) (acc : List Lexeme) : List Char → Option (List Lexeme × List Char)
  | [] => none
  | c :: cs =>
    if c = '>' then some (acc.reverse, cs)
    else if isBlank c then scan a acc cs
    else match _ : next a c cs with
      | none => none
      | some (l, r) => scan a (l :: acc) r
termination_by cs => cs.length
decreasing_by
  · exact Nat.lt_succ_self _
  · exact Nat.lt_succ_of_le (next_spec ‹_›).1.length_le

end Lexeme

end BugArchive.Xml
