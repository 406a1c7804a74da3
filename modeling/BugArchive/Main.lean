import BugArchive.Command.Run

namespace BugArchive

def nodeAt (path : String) : IO (Option Node) := do
  try
    let content ← IO.FS.readBinFile path
    return some (.file content.toList)
  catch
    | .noFileOrDirectory .. => return none
    | _ => return some .directory

def diskFor (arguments : List String) : IO Disk := do
  let mut nodes := []
  for a in arguments do
    let path := ((Command.Argument.splitValue a).2).getD a
    for p in Disk.empty.parents path ++ [Disk.empty.target path] do
      let path := String.intercalate "/" p
      if let some node ← nodeAt path then
        nodes := nodes ++ [(p, node)]
  return ⟨nodes, []⟩

end BugArchive

open BugArchive in
def main (arguments : List String) : IO UInt32 := do
  let env := {
    indent := ← IO.getEnv "BUG_PLATFORM_XML_INDENT"
    logLevel := ← IO.getEnv "BUG_PLATFORM_LOG_LEVEL" }
  let disk ← diskFor arguments
  let result := @Command.run .usual env arguments disk
  for note in result.notes do
    IO.eprintln note
  for (place, content) in result.disk.contents do
    if !disk.contents.contains (place, content) then
      IO.FS.writeBinFile (String.intercalate "/" place) content.toByteArray
  for line in result.output do
    IO.println line
  match result.ending with
  | .status code => return code.toUInt32
  | .failure f =>
    IO.eprintln f.message
    return 1
