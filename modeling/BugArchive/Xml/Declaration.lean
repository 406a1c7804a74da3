import BugArchive.Xml.Token

namespace BugArchive.Xml

structure Declaration where
  encoding : Option String
  standalone : Bool
deriving DecidableEq, Repr

namespace Declaration

def isValueChar (c : Char) : Bool :=
  c.isAlphanum || c == '.' || c == '-' || c == '_'

def setting (cs : List Char) : Option ((List Char × List Char) × List Char) :=
  let name := cs.takeWhile fun c => c != '=' && !isBlank c
  match skipBlanks (cs.drop name.length) with
  | '=' :: r =>
    match Token.quoted (skipBlanks r) with
    | some (v, r) => if v.all isValueChar then some ((name, v), r) else none
    | none => none
  | _ => none

def settings : Nat → List Char → Option (List (List Char × List Char))
  | 0, _ => none
  | fuel + 1, cs =>
    let r := skipBlanks cs
    if r.isEmpty then some []
    else if !startsBlank cs then none
    else match setting r with
      | none => none
      | some (s, r) => (settings fuel r).map (s :: ·)

def isEncodingName : List Char → Bool
  | [] => false
  | c :: _ => c.isAlpha

def isStandalone? (v : List Char) : Option Bool :=
  if v = "yes".toList then some true else if v = "no".toList then some false else none

def ofSettings? : List (List Char × List Char) → Option Declaration
  | (version, _) :: rest => do
    guard (version = "version".toList)
    let (encoding, rest) ← match rest with
      | (name, v) :: more =>
        if name = "encoding".toList then
          if isEncodingName v then some (some (String.ofList v), more) else none
        else some (none, rest)
      | [] => some (none, rest)
    match rest with
    | [] => return ⟨encoding, false⟩
    | [(name, v)] =>
      guard (name = "standalone".toList)
      return ⟨encoding, ← isStandalone? v⟩
    | _ => none
  | [] => none

def isOpening : List Char → Bool
  | '<' :: '?' :: 'x' :: 'm' :: 'l' :: c :: _ => isBlank c || c == '?'
  | _ => false

def read? (cs : List Char) : Option Declaration :=
  match before "?>" (cs.drop 5) with
  | some (body, []) => (settings (body.length + 1) body).bind ofSettings?
  | _ => none

end Declaration

end BugArchive.Xml
