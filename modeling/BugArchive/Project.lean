import BugArchive.Error
import BugArchive.Xml.Element

namespace BugArchive

open Xml (Element)

inductive PathKind where
  | jar
  | auxClasspath
  | sourceDir
deriving DecidableEq, Repr

namespace PathKind

def all : List PathKind := [jar, auxClasspath, sourceDir]

def tag : PathKind → String
  | jar => "Jar"
  | auxClasspath => "AuxClasspathEntry"
  | sourceDir => "SrcDir"

def ofTag? (tag : String) : Option PathKind :=
  all.find? fun k => k.tag == tag

end PathKind

structure Project (σ : Type := String) where
  filename : Option σ
  jars : List σ
  auxClasspath : List σ
  sourceDirs : List σ
  modified : Bool
deriving DecidableEq, Repr

namespace Project

def empty : Project := ⟨none, [], [], [], false⟩

def paths {σ : Type} (p : Project σ) : PathKind → List σ
  | .jar => p.jars
  | .auxClasspath => p.auxClasspath
  | .sourceDir => p.sourceDirs

def setPaths (p : Project) (k : PathKind) (paths : List String) : Project :=
  match k with
  | .jar => { p with jars := paths }
  | .auxClasspath => { p with auxClasspath := paths }
  | .sourceDir => { p with sourceDirs := paths }

def lists (p : Project) (k : PathKind) (path : String) : Bool :=
  (p.paths k).contains path

def list (p : Project) (k : PathKind) (path : String) : Project :=
  if p.lists k path then p else p.setPaths k (p.paths k ++ [path])

def add (p : Project) (k : PathKind) (path : String) : Bool × Project :=
  if p.lists k path then (false, p) else (true, { p.list k path with modified := true })

def setModified (p : Project) (modified : Bool) : Project :=
  { p with modified := modified }

def validate : List Element → Except Error Unit
  | [] => .ok ()
  | e :: es =>
    match PathKind.ofTag? e.tag with
    | some _ => validate es
    | none => .error (.unknownElement e.tag)

def toElement {σ : Type} [Text.Spelled σ] (p : Project σ) : Element σ :=
  ⟨"Project", (p.filename.map ("filename", ·)).toList, Text.Spelled.ofString "",
    PathKind.all.flatMap fun k => (p.paths k).map (Element.ofText k.tag)⟩

end Project

end BugArchive
