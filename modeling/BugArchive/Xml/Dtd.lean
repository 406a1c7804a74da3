import BugArchive.Xml.Token

namespace BugArchive.Xml

/-- The text that stands for an `internal` entity is part of the document; that of an `external`
one is not. -/
inductive Entity where
  | internal (text : List Char)
  | external
deriving DecidableEq, Repr

abbrev Entities := List (List Char × Entity)

/-- The declared entities. The set is partial when there may be declarations outside the document
that were not read. -/
structure EntitySet where
  entities : Entities
  isPartial : Bool
deriving Repr

structure AttributeRule where
  element : List Char
  name : List Char
  isCharacterData : Bool
  default : Option (List Char)
deriving Repr

structure Dtd where
  entitySet : EntitySet
  rules : List AttributeRule
deriving Repr

def normalizeLines : List Char → List Char → List Char
  | acc, [] => acc.reverse
  | acc, '\r' :: '\n' :: cs => normalizeLines ('\n' :: acc) cs
  | acc, '\r' :: cs => normalizeLines ('\n' :: acc) cs
  | acc, c :: cs => normalizeLines (c :: acc) cs

def blankToSpace (c : Char) : Char :=
  if isBlank c then ' ' else c

def Entities.without (es : Entities) (name : List Char) : Entities :=
  es.filter fun e => e.1 ≠ name

theorem Entities.length_without_lt {es : Entities} {name : List Char} {e : Entity}
    (h : es.lookup name = some e) : (es.without name).length < es.length := by
  induction es with
  | nil => simp at h
  | cons p es ih =>
    obtain ⟨n, f⟩ := p
    simp only [Entities.without, List.filter_cons, List.length_cons]
    by_cases hn : n = name
    · simp only [hn, ne_eq, not_true_eq_false, decide_false, Bool.false_eq_true, if_false]
      exact Nat.lt_succ_of_le (List.length_filter_le _ _)
    · rw [List.lookup_cons, beq_eq_false_iff_ne.mpr (Ne.symm hn)] at h
      simp only [ne_eq, hn, not_false_eq_true, decide_true, if_true, List.length_cons]
      exact Nat.succ_lt_succ (ih h)

/-- An attribute's value: blanks that stand in it become spaces, characters given by number stay
as they are, and entities are replaced by their text, of which the `available` ones are left. -/
def EntitySet.value (s : EntitySet) (a : Alphabet) (available : Entities) (cs : List Char) :
    Option (List Char) :=
  let run := cs.takeWhile (· != '&')
  if run.contains '<' then none
  else match _ : cs.dropWhile (· != '&') with
    | [] => some (run.map blankToSpace)
    | _ :: r =>
      match _ : Reference.scan a r with
      | none => none
      | some (.char c, r) =>
        (s.value a available r).map fun rest => run.map blankToSpace ++ c :: rest
      | some (.entity name, r) =>
        match predefined? name with
        | some c => (s.value a available r).map fun rest => run.map blankToSpace ++ c :: rest
        | none =>
          match _ : available.lookup name with
          | some (.internal text) =>
            match s.value .general (available.without name) text with
            | none => none
            | some inner =>
              (s.value a available r).map fun rest => run.map blankToSpace ++ inner ++ rest
          | some .external => none
          | none =>
            if s.isPartial && (s.entities.lookup name).isNone then
              (s.value a available r).map fun rest => run.map blankToSpace ++ rest
            else none
termination_by (available.length, cs.length)
decreasing_by
  all_goals
    first
    | exact Prod.Lex.left _ _ (Entities.length_without_lt ‹_›)
    | refine Prod.Lex.right _ (Nat.lt_of_le_of_lt (Reference.scan_suffix ‹_›).length_le ?_)
      have := (List.dropWhile_suffix (l := cs) (· != '&')).length_le
      rw [‹cs.dropWhile _ = _›] at this
      exact this

def collapse (cs : List Char) : List Char :=
  List.intercalate [' '] ((cs.splitOn ' ').filter fun word => !word.isEmpty)

namespace Dtd

def empty : Dtd := ⟨⟨[], false⟩, []⟩

def rule? (d : Dtd) (element name : List Char) : Option AttributeRule :=
  d.rules.find? fun r => r.element == element && r.name == name

def shape (rule : Option AttributeRule) (v : List Char) : List Char :=
  if rule.all (·.isCharacterData) then v else collapse v

def attributes (d : Dtd) (a : Alphabet) (element : List Char)
    (given : List (List Char × List Char)) : Option (List (List Char × List Char)) := do
  let values ← given.mapM fun g => do
    let v ← d.entitySet.value a d.entitySet.entities g.2
    return (g.1, shape (d.rule? element g.1) v)
  let added := d.rules.filterMap fun r =>
    if r.element == element && !given.any (·.1 == r.name) then r.default.map (r.name, ·) else none
  return values ++ added

end Dtd

end BugArchive.Xml
