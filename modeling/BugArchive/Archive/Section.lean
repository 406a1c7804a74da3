import BugArchive.Finding.Decode
import BugArchive.Project

namespace BugArchive

open Xml (Element)

inductive Section where
  | sourceMap (entry : Option (String × String))
  | project (e : Element)
  | errors (messages missing : List String)
  | appClass (name : String) (isInterface : Bool)
  | finding (f : Finding)
deriving Repr

namespace Section

def sourceMapEntry (e : Element) : Option (String × String) := do
  return (← e.get? "classname", ← e.get? "srcfile")

def errorLists : List Element → Except Error (List String × List String)
  | [] => .ok ([], [])
  | e :: es =>
    if e.tag = "AnalysisError" then (errorLists es).map fun r => (e.text :: r.1, r.2)
    else if e.tag = "MissingClass" then (errorLists es).map fun r => (r.1, e.text :: r.2)
    else .error (.unknownElement e.tag)

def ofElement [Machine] (r : Registry) (e : Element) : Except Error Section :=
  if e.tag = "SrcMap" then .ok (.sourceMap (sourceMapEntry e))
  else if e.tag = "Project" then (Project.validate e.children).map fun _ => .project e
  else if e.tag = "Errors" then (errorLists e.children).map fun l => .errors l.1 l.2
  else if e.tag = "AppClass" then .ok (.appClass e.text (Decode.isTrue e "interface"))
  else (Decode.topLevel r e).map .finding

def entry? : Section → Option (String × String)
  | sourceMap entry => entry
  | _ => none

def project? : Section → Option Element
  | project e => some e
  | _ => none

def messages : Section → List String
  | errors ms _ => ms
  | _ => []

def missing : Section → List String
  | errors _ ns => ns
  | _ => []

def appClass? : Section → Option (String × Bool)
  | appClass name isInterface => some (name, isInterface)
  | _ => none

def finding? : Section → Option Finding
  | finding f => some f
  | _ => none

def note? : Section → Option Log.Entry
  | sourceMap none => some .incompleteSourceMap
  | _ => none

def decodeAll [Machine] (r : Registry) : List Element → List Section × Option Error
  | [] => ([], none)
  | e :: es =>
    match ofElement r e with
    | .error err => ([], some err)
    | .ok s =>
      let (ss, err) := decodeAll r es
      (s :: ss, err)

end Section

end BugArchive
