/- The program: reads the words, the files and the clock, and prints what the command comes to. -/
import Std.Time.DateTime.Timestamp
import CertAudit.Command.Run
namespace CertAudit.Command

/-- Reads the file or directory at a path. -/
partial def readTree (path : String) : IO (Option FileTree) := do
  let place := (← IO.currentDir) / path
  if !(← place.pathExists) then return none
  if !(← place.isDir) then return some (.file (← IO.FS.readBinFile place).data.toList)
  let mut entries := []
  for e in ← place.readDir do
    if let some t ← readTree (FileTree.entryPath path e.fileName) then
      entries := (e.fileName, t) :: entries
  return some (.directory entries)

/-- Reads a stream to its end. -/
partial def readToEnd (stream : IO.FS.Stream) (done : ByteArray) : IO ByteArray := do
  let chunk ← stream.read 65536
  if chunk.isEmpty then return done else readToEnd stream (done ++ chunk)

/-- Finds what a command needs. -/
def surroundings (command : Command) : IO Surroundings := do
  let trees ← command.paths.mapM fun path => return (path, ← readTree path)
  let input ← if command.readsInput then readToEnd (← IO.getStdin) .empty else pure .empty
  let now ← Std.Time.Timestamp.now
  return { find := fun path => (trees.lookup path).join
           input := input.data.toList
           now := { seconds := now.toSecondsSinceUnixEpoch.val } }

/-- Runs a command and prints what it comes to. -/
def perform (command : Command) : IO UInt32 := do
  let outcome := run (← surroundings command) command
  IO.print outcome.output
  for c in outcome.complaints do IO.eprintln c.line
  return outcome.status.code.toUInt32

/-- Runs the command that the words ask for. -/
def answer (words : List String) : IO UInt32 := do
  match ofWords words with
  | .ok command =>
    try perform command
    catch e =>
      IO.eprintln ("Error: " ++ toString e)
      return ExitStatus.stopped.code.toUInt32
  | .error reason =>
    IO.eprintln ("Commands: " ++ ", ".intercalate names)
    return if reason = .help then 0 else ExitStatus.stopped.code.toUInt32

end CertAudit.Command

/-- The program. -/
def main (words : List String) : IO UInt32 := CertAudit.Command.answer words
