import BugArchive.Xml.Dtd

namespace BugArchive.Xml

inductive Event where
  | text (cs : List Char) (spacing : Bool)
  | start (name : List Char) (attributes : List (List Char × List Char))
  | stop (name : List Char)
deriving DecidableEq, Repr

def Token.isBalanced : Nat → List Token → Bool
  | depth, [] => depth == 0
  | depth, .start _ _ :: ts => isBalanced (depth + 1) ts
  | 0, .stop _ :: _ => false
  | depth + 1, .stop _ :: ts => isBalanced depth ts
  | depth, _ :: ts => isBalanced depth ts

def Token.ofEntity (text : List Char) : Option (List Token) := do
  let ts ← Token.scan .general [] text
  guard (isBalanced 0 ts)
  return ts

def Event.ofTokens (d : Dtd) (a : Alphabet) (available : Entities) (inside : Bool)
    (acc : List Event) : List Token → Option (List Event)
  | [] => some acc
  | .plain cs :: ts => ofTokens d a available inside (.text cs (!inside) :: acc) ts
  | .given cs :: ts => ofTokens d a available inside (.text cs false :: acc) ts
  | .start name given :: ts =>
    match d.attributes a name given with
    | none => none
    | some attributes => ofTokens d a available inside (.start name attributes :: acc) ts
  | .stop name :: ts => ofTokens d a available inside (.stop name :: acc) ts
  | .entity name :: ts =>
    match _ : available.lookup name with
    | some (.internal content) =>
      match Token.ofEntity content with
      | none => none
      | some inner =>
        match ofTokens d .general (available.without name) true (.text [] false :: acc) inner with
        | none => none
        | some acc => ofTokens d a available inside acc ts
    | _ => none
termination_by ts => (available.length, ts.length)
decreasing_by
  all_goals
    first
    | exact Prod.Lex.right _ (Nat.lt_succ_self _)
    | exact Prod.Lex.left _ _ (Entities.length_without_lt ‹_›)

end BugArchive.Xml
