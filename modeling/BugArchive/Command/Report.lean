import BugArchive.Archive.Basic

namespace BugArchive.Command

def tally (names : List String) : List (String × Nat) :=
  (names.eraseDups.mergeSort fun a b => a ≤ b).map fun n => (n, names.count n)

def projectLines (p : Project) : List String :=
  let name := p.filename.getD ""
  ["Project: " ++ (if name.isEmpty then "(unnamed)" else name)] ++
    (if p.jars.isEmpty then [] else ["  Files analyzed: " ++ toString p.jars.length]) ++
    (if p.sourceDirs.isEmpty then []
      else ["  Source dirs:    " ++ String.intercalate ", " p.sourceDirs])

def summaryLines (a : Archive) : List String :=
  let c := a.collection
  projectLines a.project ++
    ["Application classes: " ++ toString c.classes.length ++ " (" ++
        toString (c.classes.countP Prod.snd) ++ " interface(s))",
      "Bug instances: " ++ toString c.findings.length] ++
    (tally (c.findings.map (·.type))).map (fun t => "  " ++ t.1 ++ ": " ++ toString t.2) ++
    ["Analysis errors: " ++ toString c.errors.length,
      "Missing classes: " ++ toString c.missing.length]

end BugArchive.Command
