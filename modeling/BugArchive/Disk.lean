import BugArchive.Error
/-!
The files that a command sees: a tree of directories under the working directory, by paths of
names. The working directory itself has the empty path. Links that lead round in a circle are left
out.
-/
namespace BugArchive

/-- A `sink` takes whatever is written to it and stays empty. -/
inductive Node where
  | file (content : List UInt8)
  | directory
  | sink
deriving DecidableEq, Repr

/-- A link is one more name of a place, be it another entry for the same file, a symbolic link to
what may or may not be there, or the name of the working directory from the top. It leads to the
place itself, not to another name of it. -/
structure Disk where
  nodes : List (List String × Node)
  links : List (List String × List String)
deriving Repr

namespace Disk

def empty : Disk := ⟨[], []⟩

def names (path : String) : List String :=
  ((path.toList.splitOn '/').map String.ofList).filter (· ≠ "")

def origin (path : String) : List String :=
  if path.toList.head? = some '/' then ["/"] else []

def up (place : List String) : List String :=
  match place.getLast? with
  | none => [".."]
  | some last =>
    if last = "/" then place else if last = ".." then place ++ [".."] else place.dropLast

def settle (d : Disk) (place : List String) : List String :=
  (d.links.lookup place).getD place

def step (d : Disk) (place : List String) (name : String) : List String :=
  if name = "." then place
  else d.settle (if name = ".." then up place else place ++ [name])

def way (d : Disk) (place : List String) : List String → List (List String)
  | [] => []
  | n :: ns => place :: d.way (d.step place n) ns

def parents (d : Disk) (path : String) : List (List String) :=
  d.way (origin path) (names path)

def target (d : Disk) (path : String) : List String :=
  (names path).foldl d.step (origin path)

/-- The directories in which a place is. After links they need not be on the way to it. -/
def above (place : List String) : List (List String) :=
  (List.range place.length).map place.take

def isAbove (place : List String) : Bool :=
  place = ["/"] || place.all (· == "..")

def node? (d : Disk) (place : List String) : Option Node :=
  if isAbove place then some .directory
  else match d.nodes.lookup place with
    | some n => some n
    | none =>
      if d.nodes.any fun n => place.isPrefixOf n.1 then some .directory else none

def wantsDirectory (path : String) : Bool :=
  path.toList.getLast? = some '/'

def maxPathSize : Nat := 4095

def maxNameSize : Nat := 255

def endsTooLong (place : List String) : Bool :=
  place.getLast?.any fun name => maxNameSize < name.utf8ByteSize

def wayFault (d : Disk) (path : String) : Option Error :=
  if path.toList.contains '\x00' then some .nullInPath
  else if path = "" then some (.noSuchFile path)
  else if maxPathSize < path.utf8ByteSize then some (.pathTooLong path)
  else (d.parents path ++ above (d.target path)).findSome? fun p =>
    if endsTooLong p then some (.pathTooLong path)
    else match d.node? p with
      | some .directory => none
      | some _ => some (.notDirectory path)
      | none => some (.noSuchFile path)

def read (d : Disk) (path : String) : Except Error (List UInt8) :=
  match d.wayFault path with
  | some e => .error e
  | none =>
    if endsTooLong (d.target path) then .error (.pathTooLong path)
    else match d.node? (d.target path) with
      | none => .error (.noSuchFile path)
      | some .directory => .error (.isDirectory path)
      | some (.file content) =>
        if wantsDirectory path then .error (.notDirectory path) else .ok content
      | some .sink => if wantsDirectory path then .error (.notDirectory path) else .ok []

def put (d : Disk) (place : List String) (content : List UInt8) : Disk :=
  { d with nodes :=
    if d.nodes.any fun n => n.1 == place then
      d.nodes.map fun n => if n.1 == place then (place, .file content) else n
    else d.nodes ++ [(place, .file content)] }

def write (d : Disk) (path : String) (content : List UInt8) : Except Error Disk :=
  match d.wayFault path with
  | some e => .error e
  | none =>
    if wantsDirectory path then .error (.isDirectory path)
    else if endsTooLong (d.target path) then .error (.pathTooLong path)
    else match d.node? (d.target path) with
      | some .directory => .error (.isDirectory path)
      | some .sink => .ok d
      | _ => .ok (d.put (d.target path) content)

def contents (d : Disk) : List (List String × List UInt8) :=
  d.nodes.filterMap fun n =>
    match n.2 with
    | .file content => some (n.1, content)
    | _ => none

def isInside (place : List String) : Bool :=
  place.head?.all fun name => name != "/" && name != ".."

def files (d : Disk) : List (String × List UInt8) :=
  (d.contents.filter (isInside ·.1)).map fun f => (String.intercalate "/" f.1, f.2)

def shownOrigin (path : String) : String :=
  match path.toList.takeWhile (· == '/') with
  | [] => ""
  | [_, _] => "//"
  | _ => "/"

def tidy (path : String) : String :=
  let shown := shownOrigin path ++ String.intercalate "/" ((names path).filter (· ≠ "."))
  if shown = "" then "." else shown

end Disk

end BugArchive
