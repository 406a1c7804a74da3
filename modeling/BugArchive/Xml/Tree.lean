import BugArchive.Xml.Element
import BugArchive.Xml.Event
import BugArchive.Xml.Namespace

namespace BugArchive.Xml

/-- An open element. Its text is kept in pieces, and pieces and children are last first. -/
structure Frame where
  name : List Char
  tag : String
  attributes : List (String × String)
  text : List (List Char)
  children : List Element
  scope : Scope

def Frame.close (f : Frame) : Element :=
  ⟨f.tag, f.attributes, String.ofList f.text.reverse.flatten, f.children.reverse⟩

def Frame.addText (f : Frame) (cs : List Char) : Frame :=
  if f.children.isEmpty then { f with text := cs :: f.text } else f

def Frame.addChild (f : Frame) (e : Element) : Frame :=
  { f with children := e :: f.children }

structure Tree where
  stack : List Frame
  root : Option Element

namespace Tree

def empty : Tree := ⟨[], none⟩

def hasDuplicates : List (List Char) → Bool
  | [] => false
  | n :: ns => ns.contains n || hasDuplicates ns

def openFrame (scope : Scope) (name : List Char) (attributes : List (List Char × List Char)) :
    Option Frame := do
  guard (!hasDuplicates (attributes.map (·.1)))
  let scope ← scope.extend attributes
  let tag ← scope.elementName name
  let attributes ← scope.attributes attributes
  guard (!hasDuplicates (attributes.map (·.1)))
  return ⟨name, String.ofList tag,
    attributes.map fun a => (String.ofList a.1, String.ofList a.2), [], [], scope⟩

def step (t : Tree) : Event → Option Tree
  | .text cs spacing =>
    match t.stack with
    | [] => if spacing && cs.all isBlank then some t else none
    | f :: fs => some { t with stack := f.addText cs :: fs }
  | .start name attributes =>
    if t.stack.isEmpty && t.root.isSome then none
    else
      let scope := (t.stack.head?.map (·.scope)).getD Scope.initial
      (openFrame scope name attributes).map fun f => { t with stack := f :: t.stack }
  | .stop name =>
    match t.stack with
    | [] => none
    | f :: fs =>
      if f.name = name then
        match fs with
        | [] => some ⟨[], some f.close⟩
        | g :: gs => some { t with stack := g.addChild f.close :: gs }
      else none

def ofEvents? (es : List Event) : Option Element := do
  let t ← es.foldlM step empty
  guard t.stack.isEmpty
  t.root

end Tree

end BugArchive.Xml
