import BugArchive.Xml.Element
/-!
Writing elements. Every writer puts its text in front of the text that follows. How the characters
of an element's own text are written is left open.
-/
namespace BugArchive.Xml

open Text (CodePoint Spelled)

def escapeText : Char → List Char
  | '&' => "&amp;".toList
  | '<' => "&lt;".toList
  | '>' => "&gt;".toList
  | c => [c]

def escapeAttribute : Char → List Char
  | '&' => "&amp;".toList
  | '<' => "&lt;".toList
  | '>' => "&gt;".toList
  | '"' => "&quot;".toList
  | '\r' => "&#13;".toList
  | '\n' => "&#10;".toList
  | '\t' => "&#09;".toList
  | c => [c]

/-- A code point that is no character can only be told by its number. -/
def spell (escape : Char → List Char) (p : CodePoint) : List Char :=
  match p.char? with
  | some c => escape c
  | none => '&' :: '#' :: (Nat.toDigits 10 p.value ++ [';'])

section Write

variable {σ : Type} [Spelled σ]

def spellAll (escape : Char → List Char) (text : σ) : List Char :=
  (Spelled.points text).flatMap (spell escape)

abbrev Layout := Nat → List Char

def Layout.compact : Layout := fun _ => []

def Layout.indented (width : Nat) : Layout :=
  fun level => '\n' :: List.replicate (level * width) ' '

def writeAttributes : List (String × σ) → List Char → List Char
  | [], rest => rest
  | (name, value) :: as, rest =>
    ' ' :: name.toList ++ '=' :: '"' :: spellAll escapeAttribute value ++
      '"' :: writeAttributes as rest

def writeEnd (tag : String) (rest : List Char) : List Char :=
  '<' :: '/' :: tag.toList ++ '>' :: rest

variable (layout : Layout) (escape : Char → List Char)

mutual

def write (level : Nat) : Element σ → List Char → List Char
  | ⟨tag, attributes, text, []⟩, rest =>
    '<' :: tag.toList ++ writeAttributes attributes
      (if (Spelled.points text).isEmpty then ' ' :: '/' :: '>' :: rest
      else '>' :: spellAll escape text ++ writeEnd tag rest)
  | ⟨tag, attributes, text, e :: es⟩, rest =>
    '<' :: tag.toList ++ writeAttributes attributes
      ('>' :: ((if (Spelled.points text).isEmpty then layout (level + 1)
          else spellAll escape text) ++
        write (level + 1) e (writeRest (level + 1) es (layout level ++ writeEnd tag rest))))

def writeRest (level : Nat) : List (Element σ) → List Char → List Char
  | [], rest => rest
  | e :: es, rest => layout level ++ write level e (writeRest level es rest)

end

end Write

def Element.compact (e : Element) : String :=
  String.ofList (write .compact escapeText 0 e [])

end BugArchive.Xml
