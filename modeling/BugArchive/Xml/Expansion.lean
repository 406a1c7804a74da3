import BugArchive.Rounding
import BugArchive.Xml.Dtd
import BugArchive.Xml.Dtd.Stretch
/-!
How much text entities may bring into a document. A document counts with its own octets, piece by
piece, and the text of an entity counts again wherever it is referred to. Up to eight mebioctets
in all are always allowed, and more than that as long as it is at most a hundred times what was
read of the document itself.
-/
namespace BugArchive.Xml

/-- What is read of a text at once, with the names of the entities it refers to. In `text` a
reading can pause. -/
structure Piece where
  size : Nat
  isText : Bool
  references : List (List Char)
deriving Repr

namespace Piece

def referred (cs : List Char) : List (List Char) :=
  ((cs.splitOn '&').drop 1).filterMap fun part =>
    let name := part.takeWhile (· != ';')
    if name.head? = some '#' then none else some name

variable (size : Char → Nat)

def total (cs : List Char) : Nat :=
  cs.foldl (fun n c => n + size c) 0

def markup (cs : List Char) : Piece := ⟨total size cs, false, []⟩

def lines (acc : List Piece) (n : Nat) : List Char → List Piece
  | [] => ⟨n, true, []⟩ :: acc
  | '\r' :: '\n' :: cs => lines (markup size ['\r', '\n'] :: ⟨n, true, []⟩ :: acc) 0 cs
  | c :: cs =>
    if c = '\r' ∨ c = '\n' then lines (markup size [c] :: ⟨n, true, []⟩ :: acc) 0 cs
    else lines acc (n + size c) cs

def tag (n : Nat) (names : List (List Char)) : List Char → Piece × List Char
  | [] => (⟨n, false, names⟩, [])
  | c :: cs =>
    if c = '>' then (⟨n + size c, false, names⟩, cs)
    else if Dtd.Stretch.isQuote c then
      let r := cutAfter (String.singleton c) cs
      tag (n + size c + total size r.1) (names ++ referred r.1) r.2
    else tag (n + size c) names cs
termination_by cs => cs.length
decreasing_by
  · exact Nat.lt_succ_of_le (cutAfter_suffix _ _).length_le
  · exact Nat.lt_succ_self _

theorem length_tag_le (n : Nat) (names : List (List Char)) (cs : List Char) :
    (tag size n names cs).2.length ≤ cs.length := by
  fun_induction tag size n names cs with
  | case1 => exact Nat.le_refl _
  | case2 => exact Nat.le_succ _
  | case3 _ _ _ _ _ _ _ ih =>
    exact Nat.le_succ_of_le (Nat.le_trans ih (cutAfter_suffix _ _).length_le)
  | case4 _ _ _ _ _ _ ih => exact Nat.le_succ_of_le ih

def isPlain (c : Char) : Bool := c != '<' && c != '&'

def ofContent (acc : List Piece) : List Char → List Piece
  | [] => acc
  | c :: cs =>
    if c = '&' then
      let r := cutAfter ";" cs
      ofContent (⟨size c + total size r.1, false, referred (c :: r.1)⟩ :: acc) r.2
    else if c = '<' then
      if startsWith "!--" cs then
        let r := cutAfter "-->" cs
        ofContent (markup size (c :: r.1) :: acc) r.2
      else if startsWith "?" cs then
        let r := cutAfter "?>" cs
        ofContent (markup size (c :: r.1) :: acc) r.2
      else if startsWith "![CDATA[" cs then
        let r := cutAfter "]]>" cs
        let body := (r.1.drop 8).take (r.1.length - 11)
        ofContent (markup size "]]>".toList ::
          lines size (markup size "<![CDATA[".toList :: acc) 0 body) r.2
      else
        let r := tag size (size c) [] cs
        ofContent (r.1 :: acc) r.2
    else ofContent (lines size acc 0 (c :: cs.takeWhile isPlain)) (cs.dropWhile isPlain)
termination_by cs => cs.length
decreasing_by
  · exact Nat.lt_succ_of_le (cutAfter_suffix _ _).length_le
  · exact Nat.lt_succ_of_le (cutAfter_suffix _ _).length_le
  · exact Nat.lt_succ_of_le (cutAfter_suffix _ _).length_le
  · exact Nat.lt_succ_of_le (cutAfter_suffix _ _).length_le
  · exact Nat.lt_succ_of_le (length_tag_le size _ _ _)
  · exact Nat.lt_succ_of_le (List.dropWhile_suffix _).length_le

def ofStretch : Dtd.Stretch → Piece
  | .markup cs => markup size cs
  | .literal cs isDefault => ⟨total size cs, false, if isDefault then referred cs else []⟩

def ofDocument (front : List Char) (stretches : List Dtd.Stretch) (content : List Char) :
    List Piece :=
  markup size front :: stretches.map (ofStretch size) ++ (ofContent size [] content).reverse

end Piece

namespace Expansion

structure Cost where
  total : Nat
  peak : Nat
deriving Repr

def Cost.andThen (a b : Cost) : Cost :=
  ⟨a.total + b.total, max a.peak (a.total + b.peak)⟩

abbrev Costs := List (List Char × Cost)

def texts (es : Entities) : List (List Char × List Piece) :=
  es.filterMap fun e =>
    match e.2 with
    | .internal cs => some (e.1, (Piece.ofContent Char.utf8Size [] cs).reverse)
    | .external => none

/-- The cost of a reference. Costs that are known already are not computed again, and an entity
costs nothing inside of itself. A predefined entity costs one octet, which is not looked at before
the next piece. -/
def cost (ts : List (List Char × List Piece)) : Nat → List Char → StateM Costs Cost
  | 0, _ => pure ⟨0, 0⟩
  | fuel + 1, name => do
    if (predefined? name).isSome then return ⟨1, 0⟩
    match (← get).lookup name, ts.lookup name with
    | some known, _ => return known
    | none, none => return ⟨0, 0⟩
    | none, some pieces =>
      modify ((name, ⟨0, 0⟩) :: ·)
      let sum ← pieces.foldlM (fun sum p => do
        let own ← p.references.foldlM
          (fun (own : Cost) n => return own.andThen (← cost ts fuel n)) ⟨p.size, p.size⟩
        return sum.andThen own) (⟨0, 0⟩ : Cost)
      modify ((name, sum) :: ·)
      return sum

def costs (es : Entities) : Costs :=
  let ts := texts es
  ((ts.forM fun t => discard (cost ts (ts.length + 1) t.1)).run []).2

structure Tally where
  direct : Nat
  indirect : Nat
deriving Repr

def allowance : Nat := 8 * 1024 * 1024

/-- The ratio is that of two numbers of 24 significant bits, itself rounded to 24 bits, so that it
exceeds a hundred only from half of its last place on. -/
def Tally.isTolerable (t : Tally) : Bool :=
  let all := t.direct + t.indirect
  all < allowance ||
    Rounding.toBits 24 all * Rounding.powerOfTwo 18 ≤
      Rounding.toBits 24 t.direct * (100 * Rounding.powerOfTwo 18 + 1)

/-- Up to where a text of `size` octets is read at once. Where readings of the document end, a text
is looked at too; only the first such place beyond the allowance can matter. -/
def Tally.pause (t : Tally) (reading size : Nat) : Nat :=
  let least := max (t.direct + 1) (allowance - t.indirect)
  min (t.direct + size) ((least + reading - 1) / reading * reading)

def Tally.include (costs : Costs) (t : Tally) (name : List Char) : Option Tally :=
  if (predefined? name).isSome then some { t with indirect := t.indirect + 1 }
  else
    let c := (costs.lookup name).getD ⟨0, 0⟩
    if Tally.isTolerable ⟨t.direct, t.indirect + c.peak⟩ then
      some ⟨t.direct, t.indirect + c.total⟩
    else none

def Tally.add (reading : Option Nat) (costs : Costs) (t : Tally) (p : Piece) : Option Tally :=
  let after : Tally := ⟨t.direct + p.size, t.indirect⟩
  let pause : Tally :=
    match p.isText, reading with
    | true, some r => ⟨t.pause r p.size, t.indirect⟩
    | _, _ => after
  if p.size = 0 then some t
  else if pause.isTolerable && after.isTolerable then
    p.references.foldlM (Tally.include costs) after
  else none

def isAllowed (reading : Option Nat) (start : Nat) (es : Entities) (pieces : List Piece) : Bool :=
  (pieces.foldlM (Tally.add reading (costs es)) ⟨start, 0⟩).isSome

end Expansion

end BugArchive.Xml
