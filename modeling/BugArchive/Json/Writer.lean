import BugArchive.Json.Value

namespace BugArchive.Json

structure Layout where
  newline : Nat → List Char
  colon : List Char

def Layout.compact : Layout := ⟨fun _ => [], [':']⟩

def Layout.indented : Layout :=
  ⟨fun level => '\n' :: List.replicate (2 * level) ' ', [':', ' ']⟩

def hexDigit (n : Nat) : Char := Nat.digitChar (n % 16)

def escape (c : Char) : List Char :=
  if c = '"' then ['\\', '"']
  else if c = '\\' then ['\\', '\\']
  else if c = '\x08' then ['\\', 'b']
  else if c = '\x0c' then ['\\', 'f']
  else if c = '\n' then ['\\', 'n']
  else if c = '\r' then ['\\', 'r']
  else if c = '\t' then ['\\', 't']
  else if c.toNat < 0x20 then ['\\', 'u', '0', '0', hexDigit (c.toNat / 16), hexDigit c.toNat]
  else [c]

def writeText (s : String) (rest : List Char) : List Char :=
  '"' :: s.toList.flatMap escape ++ '"' :: rest

def writeInt (n : Int) (rest : List Char) : List Char :=
  (if n < 0 then ['-'] else []) ++ Nat.toDigits 10 n.natAbs ++ rest

variable (l : Layout)

mutual

def write (level : Nat) : Value → List Char → List Char
  | .null, rest => "null".toList ++ rest
  | .bool true, rest => "true".toList ++ rest
  | .bool false, rest => "false".toList ++ rest
  | .int n, rest => writeInt n rest
  | .decimal m e, rest => writeInt m ('e' :: writeInt e rest)
  | .nonFinite, rest => "NaN".toList ++ rest
  | .text s, rest => writeText s rest
  | .list [], rest => '[' :: ']' :: rest
  | .list (v :: vs), rest =>
    '[' :: l.newline (level + 1) ++
      write (level + 1) v (writeItems (level + 1) vs (l.newline level ++ ']' :: rest))
  | .object [], rest => '{' :: '}' :: rest
  | .object ((name, v) :: fs), rest =>
    '{' :: l.newline (level + 1) ++
      writeText name (l.colon ++
        write (level + 1) v (writeFields (level + 1) fs (l.newline level ++ '}' :: rest)))

def writeItems (level : Nat) : List Value → List Char → List Char
  | [], rest => rest
  | v :: vs, rest => ',' :: l.newline level ++ write level v (writeItems level vs rest)

def writeFields (level : Nat) : List (String × Value) → List Char → List Char
  | [], rest => rest
  | (name, v) :: fs, rest =>
    ',' :: l.newline level ++
      writeText name (l.colon ++ write level v (writeFields level fs rest))

end

def Value.compact (v : Value) : String :=
  String.ofList (write .compact 0 v [])

def Value.indented (v : Value) : String :=
  String.ofList (write .indented 0 v [])

end BugArchive.Json
