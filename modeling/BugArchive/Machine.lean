import BugArchive.Xml.Element
/-!
What archives take of a machine: calls that are open at the same time, and memory.
-/
namespace BugArchive

/-- While an element under the root of a document is decoded, `room` calls may be open, which is
enough for findings as they are written. Whether memory `holds` the text of an element depends on
the width of its indentation too. -/
class Machine where
  room : Nat
  enough : 4 ≤ room
  holds {σ : Type} : Nat → Xml.Element σ → Bool

abbrev Machine.usual : Machine :=
  ⟨1000, by decide, fun _ _ => true⟩

end BugArchive
