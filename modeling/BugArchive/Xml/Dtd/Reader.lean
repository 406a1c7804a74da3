import BugArchive.Xml.Dtd
import BugArchive.Xml.Dtd.Lexeme
/-!
Reading a document type: its name, its outside identifiers, and the declarations between its
brackets. Of two declarations of one entity or attribute the first counts.
-/
namespace BugArchive.Xml.Dtd

def isPublicChar (c : Char) : Bool :=
  c.isAlphanum || " \n\r-'()+,./:=?;!*#@$_%".toList.contains c

def isOutside : List Lexeme → Bool
  | [.name kind, .literal _] => kind == "SYSTEM".toList
  | [.name kind, .literal id, .literal _] => kind == "PUBLIC".toList && id.all isPublicChar
  | _ => false

def isNotation : List Lexeme → Bool
  | [.name _, .name kind, .literal id] =>
    kind == "SYSTEM".toList || (kind == "PUBLIC".toList && id.all isPublicChar)
  | .name _ :: ids => isOutside ids
  | _ => false

def choice (p : Lexeme → Bool) : List Lexeme → Option (List Lexeme)
  | l :: .bar :: ls => if p l then choice p ls else none
  | l :: .closing none :: ls => if p l then some ls else none
  | _ => none

def isModel : List (Option Lexeme) → List Lexeme → Bool
  | open_, .opening :: ls => isModel (none :: open_) ls
  | open_, l :: ls =>
    if l.isName || l == .repeated then afterItem open_ ls else false
  | _, [] => false
where
  afterItem : List (Option Lexeme) → List Lexeme → Bool
  | [_], [.closing _] => true
  | _ :: c :: open_, .closing _ :: ls => afterItem (c :: open_) ls
  | c :: open_, l :: ls =>
    if (l == .bar || l == .comma) && (c.isNone || c == some l) then isModel (some l :: open_) ls
    else false
  | _, _ => false

def isMixed : List Lexeme → Bool
  | [.closing suffix] => suffix.isNone || suffix == some '*'
  | ls => isMixedChoice ls
where
  isMixedChoice : List Lexeme → Bool
  | .bar :: l :: ls =>
    l.isName && (ls == [.closing (some '*')] || isMixedChoice ls)
  | _ => false

def isElement : List Lexeme → Bool
  | [n, .name kind] => n.isName && (kind == "EMPTY".toList || kind == "ANY".toList)
  | n :: .opening :: .keyword k :: ls => n.isName && k == "PCDATA".toList && isMixed ls
  | n :: .opening :: ls => n.isName && isModel [none] ls
  | _ => false

def nameOf? : Lexeme → Option (List Char)
  | .name cs => some cs
  | .qualified cs => some cs
  | _ => none

def isSimple : Lexeme → Bool
  | .name _ => true
  | _ => false

def isToken : Lexeme → Bool
  | .name _ => true
  | .qualified _ => true
  | .word _ => true
  | _ => false

def tokenizedTypes : List String :=
  ["ID", "IDREF", "IDREFS", "ENTITY", "ENTITIES", "NMTOKEN", "NMTOKENS"]

def attributeType : List Lexeme → Option (Bool × List Lexeme)
  | .opening :: ls => (choice isToken ls).map (false, ·)
  | .name kind :: .opening :: ls =>
    if kind = "NOTATION".toList then
      (choice isSimple ls).map (false, ·)
    else none
  | .name kind :: ls =>
    if kind = "CDATA".toList then some (true, ls)
    else if tokenizedTypes.contains (String.ofList kind) then some (false, ls)
    else none
  | _ => none

def attributeDefault : List Lexeme → Option (Option (List Char) × List Lexeme)
  | .literal v :: ls => some (some (normalizeLines [] v), ls)
  | .keyword k :: .literal v :: ls =>
    if k = "FIXED".toList then some (some (normalizeLines [] v), ls) else none
  | .keyword k :: ls =>
    if k = "IMPLIED".toList ∨ k = "REQUIRED".toList then some (none, ls) else none
  | _ => none

def entityText (a : Alphabet) (cs : List Char) : Option (List Char) :=
  go (cs.length + 1) (normalizeLines [] cs)
where
  go : Nat → List Char → Option (List Char)
  | 0, _ => none
  | fuel + 1, cs =>
    let run := cs.takeWhile (· != '&')
    if run.contains '%' then none
    else match cs.drop run.length with
      | [] => some run
      | _ :: r =>
        match Reference.scan a r with
        | none => none
        | some (.char c, s) => (go fuel s).map (run ++ c :: ·)
        | some (.entity n, s) => (go fuel s).map (run ++ '&' :: n ++ ';' :: ·)

structure DraftRule where
  element : List Char
  name : List Char
  isCharacterData : Bool
  written : Option (List Char)
  entitySet : EntitySet

def DraftRule.settle (a : Alphabet) (r : DraftRule) : Option AttributeRule :=
  match r.written with
  | none => some ⟨r.element, r.name, r.isCharacterData, none⟩
  | some cs =>
    (r.entitySet.value a r.entitySet.entities cs).map fun v =>
      ⟨r.element, r.name, r.isCharacterData, some (if r.isCharacterData then v else collapse v)⟩

structure Draft where
  entitySet : EntitySet
  rules : List DraftRule

def firstRules (rules : List AttributeRule) : List AttributeRule :=
  rules.foldl (fun kept r =>
    if kept.any fun k => k.element == r.element && k.name == r.name then kept else kept ++ [r]) []

def Draft.settle (a : Alphabet) (d : Draft) : Option Dtd :=
  (d.rules.mapM (DraftRule.settle a)).map fun rules => ⟨d.entitySet, firstRules rules⟩

/-- What is known inside the brackets. Declarations count until one that stands outside might
have come before them. -/
structure Subset where
  draft : Draft
  counts : Bool
  standalone : Bool

namespace Subset

def addEntity (s : Subset) (name : List Char) (e : Entity) : Subset :=
  let known := s.draft.entitySet
  if !s.counts || (known.entities.lookup name).isSome then s
  else
    { s with
      draft := { s.draft with
        entitySet := { known with entities := known.entities ++ [(name, e)] } } }

def addRule (s : Subset) (r : DraftRule) : Subset :=
  if !s.counts then s else { s with draft := { s.draft with rules := s.draft.rules ++ [r] } }

def leaveOut (s : Subset) : Subset :=
  { s with
    draft := { s.draft with entitySet := { s.draft.entitySet with isPartial := !s.standalone } }
    counts := s.counts && s.standalone }

variable (a : Alphabet)

def entity (s : Subset) : List Lexeme → Option Subset
  | [.percent, .name _, .literal v] =>
    if s.counts then (entityText a v).map fun _ => s else some s
  | .percent :: .name _ :: ids => if isOutside ids then some s else none
  | [.name n, .literal v] =>
    if s.counts then (entityText a v).map fun t => s.addEntity n (.internal t)
    else some s
  | [.name n, kind, id, .name data, .name _] =>
    if isOutside [kind, id] && data == "NDATA".toList then some (s.addEntity n .external) else none
  | [.name n, kind, id, id', .name data, .name _] =>
    if isOutside [kind, id, id'] && data == "NDATA".toList then some (s.addEntity n .external)
    else none
  | .name n :: ids => if isOutside ids then some (s.addEntity n .external) else none
  | _ => none

def attributeList (s : Subset) (element : List Char) : Nat → List Lexeme → Option Subset
  | _, [] => some s
  | 0, _ => none
  | fuel + 1, l :: ls =>
    match nameOf? l, attributeType ls with
    | some name, some (isText, ls) =>
      match attributeDefault ls with
      | none => none
      | some (v, ls) =>
        (s.addRule ⟨element, name, isText, v, s.draft.entitySet⟩).attributeList element fuel ls
    | _, _ => none

def declaration (s : Subset) (kind : List Char) (ls : List Lexeme) : Option Subset :=
  if kind = "ENTITY".toList then s.entity a ls
  else if kind = "ATTLIST".toList then
    match ls with
    | l :: ls => (nameOf? l).bind fun element => s.attributeList element ls.length ls
    | [] => none
  else if kind = "ELEMENT".toList then if isElement ls then some s else none
  else if kind = "NOTATION".toList then if isNotation ls then some s else none
  else none

def isUpperLetter (c : Char) : Bool := 'A' ≤ c && c ≤ 'Z'

def scan (s : Subset) : Nat → List Char → Option (Subset × List Char)
  | 0, _ => none
  | fuel + 1, cs =>
    match skipBlanks cs with
    | ']' :: r => some (s, r)
    | '%' :: r =>
      match simpleName a r with
      | some (_, ';' :: r) => s.leaveOut.scan fuel r
      | _ => none
    | '<' :: '!' :: '-' :: '-' :: r => (Token.comment r).bind (s.scan fuel)
    | '<' :: '?' :: r => (Token.instruction a r).bind (s.scan fuel)
    | '<' :: '!' :: r =>
      let kind := r.takeWhile isUpperLetter
      let body := r.dropWhile isUpperLetter
      if startsBlank body then
        match Lexeme.scan a [] body with
        | some (ls, r) => (s.declaration a kind ls).bind fun s => s.scan fuel r
        | none => none
      else none
    | _ => none

end Subset

variable (a : Alphabet)

def skipAsides : Nat → List Char → Option (List Char)
  | 0, _ => none
  | fuel + 1, cs =>
    match skipBlanks cs with
    | '<' :: '!' :: '-' :: '-' :: r => (Token.comment r).bind (skipAsides fuel)
    | '<' :: '?' :: r => (Token.instruction a r).bind (skipAsides fuel)
    | r => some r

def heading (cs : List Char) : Option (List Lexeme × Bool × List Char) :=
  go [] (cs.length + 1) cs
where
  go (acc : List Lexeme) : Nat → List Char → Option (List Lexeme × Bool × List Char)
  | 0, _ => none
  | fuel + 1, cs =>
    match skipBlanks cs with
    | '>' :: r => some (acc.reverse, false, r)
    | '[' :: r => some (acc.reverse, true, r)
    | c :: r => (Lexeme.next a c r).bind fun l => go (l.1 :: acc) fuel l.2
    | [] => none

def documentType (standalone : Bool) (cs : List Char) : Option (Draft × List Char) :=
  if !startsBlank cs then none
  else match heading a cs with
    | some (name :: ids, hasSubset, r) =>
      if name.isName && (ids.isEmpty || isOutside ids) then
        let draft := ⟨⟨[], !ids.isEmpty && !standalone⟩, []⟩
        if hasSubset then
          match Subset.scan a ⟨draft, true, standalone⟩ (r.length + 1) r with
          | none => none
          | some (s, r) =>
            match skipBlanks r with
            | '>' :: r => some (s.draft, r)
            | _ => none
        else some (draft, r)
      else none
    | _ => none

def scanProlog (standalone : Bool) (cs : List Char) : Option (Option Draft × List Char) :=
  match skipAsides a (cs.length + 1) cs with
  | none => none
  | some r =>
    if startsWith "<!DOCTYPE" r then
      (documentType a standalone (r.drop 9)).map fun d => (some d.1, d.2)
    else some (none, r)

end BugArchive.Xml.Dtd
