import BugArchive.Xml.Scan
/-!
A document type cut into stretches: values in quotation marks that declarations give, and the
markup around them. The cuts are those of a well-formed document type; any other is cut somehow.
Together the stretches are the text that was cut.
-/
namespace BugArchive.Xml.Dtd

inductive Stretch where
  | markup (cs : List Char)
  | literal (cs : List Char) (isDefault : Bool)
deriving DecidableEq, Repr

namespace Stretch

def text : Stretch → List Char
  | markup cs => cs
  | literal cs _ => cs

def isQuote (c : Char) : Bool := c == '"' || c == '\''

def ofDeclaration (isDefault : Bool) (acc : List Stretch) (run : List Char) :
    List Char → List Stretch × List Char
  | [] => (.markup run.reverse :: acc, [])
  | c :: cs =>
    if c = '>' then (.markup (c :: run).reverse :: acc, cs)
    else if isQuote c then
      let r := cutAfter (String.singleton c) cs
      ofDeclaration isDefault (.literal (c :: r.1) isDefault :: .markup run.reverse :: acc) [] r.2
    else ofDeclaration isDefault acc (c :: run) cs
termination_by cs => cs.length
decreasing_by
  · exact Nat.lt_succ_of_le (cutAfter_suffix _ _).length_le
  · exact Nat.lt_succ_self _

theorem length_ofDeclaration_le (isDefault : Bool) (acc : List Stretch) (run cs : List Char) :
    (ofDeclaration isDefault acc run cs).2.length ≤ cs.length := by
  induction h : cs.length using Nat.strongRecOn generalizing acc run cs with
  | _ n ih =>
    subst h
    cases cs with
    | nil => simp [ofDeclaration]
    | cons c cs =>
      have lower {r : List Char} (acc : List Stretch) (run : List Char) (hr : r <:+ cs) :
          (ofDeclaration isDefault acc run r).2.length ≤ (c :: cs).length :=
        Nat.le_trans (ih _ (Nat.lt_succ_of_le hr.length_le) acc run r rfl)
          (Nat.le_succ_of_le hr.length_le)
      unfold ofDeclaration
      split
      · exact Nat.le_succ _
      split
      · exact lower _ _ (cutAfter_suffix _ _)
      · exact lower _ _ (List.suffix_refl _)

/-- The declarations up to the closing bracket. Defaults are told from other literals as long as
they count: behind a reference to declarations outside they do only in a document that stands
alone. -/
def ofSubset (standalone counts : Bool) (acc : List Stretch) :
    List Char → List Stretch × List Char
  | [] => (acc, [])
  | c :: cs =>
    if c = ']' then (.markup [c] :: acc, cs)
    else if c = '%' then
      let r := cutAfter ";" cs
      ofSubset standalone (counts && standalone) (.markup (c :: r.1) :: acc) r.2
    else if c = '<' then
      if startsWith "!--" cs then
        let r := cutAfter "-->" cs
        ofSubset standalone counts (.markup (c :: r.1) :: acc) r.2
      else if startsWith "?" cs then
        let r := cutAfter "?>" cs
        ofSubset standalone counts (.markup (c :: r.1) :: acc) r.2
      else
        let r := ofDeclaration (counts && startsWith "!ATTLIST" cs) acc [c] cs
        ofSubset standalone counts r.1 r.2
    else ofSubset standalone counts (.markup [c] :: acc) cs
termination_by cs => cs.length
decreasing_by
  · exact Nat.lt_succ_of_le (cutAfter_suffix _ _).length_le
  · exact Nat.lt_succ_of_le (cutAfter_suffix _ _).length_le
  · exact Nat.lt_succ_of_le (cutAfter_suffix _ _).length_le
  · exact Nat.lt_succ_of_le (length_ofDeclaration_le _ _ _ _)
  · exact Nat.lt_succ_self _

def ofHeading (run : List Char) : List Char → Stretch × Bool × List Char
  | [] => (.markup run.reverse, false, [])
  | c :: cs =>
    if c = '>' ∨ c = '[' then (.markup (c :: run).reverse, c = '[', cs)
    else if isQuote c then
      let r := cutAfter (String.singleton c) cs
      ofHeading (r.1.reverse ++ c :: run) r.2
    else ofHeading (c :: run) cs
termination_by cs => cs.length
decreasing_by
  · exact Nat.lt_succ_of_le (cutAfter_suffix _ _).length_le
  · exact Nat.lt_succ_self _

def ofDocumentType (standalone : Bool) (cs : List Char) : List Stretch × List Char :=
  let (heading, hasSubset, r) := ofHeading [] cs
  if hasSubset then
    let (stretches, r) := ofSubset standalone true [heading] r
    let (ending, r) := cutAfter ">" r
    ((.markup ending :: stretches).reverse, r)
  else ([heading], r)

end Stretch

end BugArchive.Xml.Dtd
