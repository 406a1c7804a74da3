import BugArchive.Command.Arguments
import BugArchive.Command.Process
import BugArchive.Command.Report
import BugArchive.Contract.Writer
/-!
Commands on the files of a disk. Whatever a command prints of its work comes after it.
-/
namespace BugArchive.Command

section Work

variable [Machine]

def load (d : Disk) (path : String) : Outcome Archive :=
  Archive.load Registry.builtin d path Archive.empty

def loaded (path : String) : Process Archive := do
  let w ← get
  Process.ofOutcome (load w.disk path)

def check (path : String) : Process (List String) := do
  let w ← get
  let content ← Process.ofExcept .archive (w.disk.read path)
  let checked := Signature.check Signature.window (Stream.ofContent content)
  Process.ofOutcome ⟨checked.log, checked.result⟩
  return ["OK: " ++ path ++ " looks like a saved bug collection"]

def countLine (verb : String) (a : Archive) (path : String) : String :=
  verb ++ " " ++ toString a.collection.findings.length ++ " bug instance(s) to " ++ path

/-- That there is no output is noticed only when there is something to write. -/
def upgraded (width : Nat) (output : Option String) (a : Archive) : Process (List String) :=
  match output with
  | some path => do
    let note ← Process.ofWriting (a.writeTo width (.path path))
    Process.note [note]
    return [countLine "Wrote" a path]
  | none => do
    let _ ← Process.ofExcept .archive (a.write width)
    throw .lostOutput

def upgrade (width : Nat) (input : String) (output : Option String) : Process (List String) := do
  upgraded width output (← loaded input)

def exported (output : Option String) (a : Archive) (c : Contract.Collection) :
    Process (List String) :=
  let text := c.toJson.indented
  let path := output.getD ""
  if path = "" then return [text]
  else do
    let content := Text.Utf8.encode (text.toList ++ ['\n'])
    Process.ofWriting (Sink.put content (.path (Disk.tidy path)))
    return [countLine "Exported" a path]

def exportJson (path : String) (output : Option String) : Process (List String) := do
  let a ← loaded path
  let c ← Process.ofExcept .contract (Contract.Collection.ofArchive a)
  exported output a c

def work (width : Nat) : Action → Process (List String)
  | .check path => check path
  | .summary path => do return summaryLines (← loaded path)
  | .upgrade input output => upgrade width input output
  | .exportJson path output => exportJson path output

def perform (console : Console) (width : Nat) (action : Action) : Process Unit := do
  let lines ← work width action
  lines.forM (Process.print console)

end Work

inductive Ending where
  | status (code : Nat)
  | failure (f : Failure)
deriving DecidableEq, Repr

structure Result where
  ending : Ending
  output : List String
  notes : List String
  disk : Disk

structure Environment where
  indent : Option String
  logLevel : Option String

def shown (level : Int) (log : List Log.Entry) : List String :=
  (log.filter fun e => level ≤ e.level.value).map Log.Entry.line

/-- The status of a process. A failure is told on the same console, which may fail again. -/
def status (console : Console) (m : Process Unit) : Process Nat :=
  tryCatch (do m; return 0) fun f =>
    if f.isTold then do
      Process.print console ("Error: " ++ f.message)
      return 1
    else throw f

def conclude (console : Console) (level : Int) (m : Process Unit) (d : Disk) : Result :=
  match (status console m).apply ⟨d, [], []⟩ with
  | (.ok code, w) => ⟨.status code, w.lines, shown level w.log, w.disk⟩
  | (.error f, w) => ⟨.failure f, w.lines, shown level w.log, w.disk⟩

def levelFor (env : Environment) (verbose : Bool) : Except Settings.Fault Int :=
  if verbose then .ok Log.Level.debug.value else Settings.logLevel env.logLevel

variable [Machine]

def runOn (console : Console) (env : Environment) (arguments : List String) (d : Disk) : Result :=
  match Request.ofArguments arguments with
  | .help => ⟨.status 0, [], [], d⟩
  | .misuse => ⟨.status 2, [], [], d⟩
  | .run ⟨verbose, action⟩ =>
    match levelFor env verbose with
    | .error f => ⟨.failure (.setting f), [], [], d⟩
    | .ok level =>
      conclude console level (perform console (Settings.indent env.indent) action) d

def run (env : Environment) (arguments : List String) (d : Disk) : Result :=
  runOn .willing env arguments d

end BugArchive.Command
