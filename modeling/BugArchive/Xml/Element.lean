import BugArchive.Text.CodePoint
/-!
Elements: a tag, attributes in the order they were set, the text before the first child, and the
children. Text between and after children carries no meaning and is not kept.
-/
namespace BugArchive.Xml

structure Element (σ : Type := String) where
  tag : String
  attributes : List (String × σ)
  text : σ
  children : List (Element σ)
deriving Inhabited, Repr

namespace Element

variable {σ : Type}

def get? (e : Element) (name : String) : Option String :=
  e.attributes.lookup name

def leaf [Text.Spelled σ] (tag : String) (attributes : List (String × σ)) : Element σ :=
  ⟨tag, attributes, Text.Spelled.ofString "", []⟩

def ofText (tag : String) (text : σ) : Element σ :=
  ⟨tag, [], text, []⟩

mutual

def nodes : Element σ → List (Element σ)
  | ⟨tag, attributes, text, children⟩ => ⟨tag, attributes, text, children⟩ :: nodesOf children

def nodesOf : List (Element σ) → List (Element σ)
  | [] => []
  | e :: es => nodes e ++ nodesOf es

end

end Element

end BugArchive.Xml
