import RouteMap.CommandLine

/-!
# The program

Performs the session of the command line on the files of the machine.
-/

namespace RouteMap.Main

/-- The error of the library for an error of the machine. -/
def fileError : IO.Error → FileError
  | .noFileOrDirectory _ _ _ => .notFound
  | .noSuchThing _ _ _ => .notFound
  | .inappropriateType _ 20 _ => .notDirectory
  | .inappropriateType _ 21 _ => .isDirectory
  | e => .other (toString e)

/-- The kind of what was opened. A directory can be opened, but not read. -/
def kindOfOpened (h : IO.FS.Handle) : IO FileKind := do
  try
    discard <| h.read 1
    return .file
  catch _ => return .directory

/-- What a path leads to. -/
def kindOf (path : String) : IO (Option FileKind) := do
  try
    return some (← kindOfOpened (← IO.FS.Handle.mk path .read))
  catch _ => return none

/-- The text of a file. -/
def readText (path : String) : IO (Except FileError String) := do
  try
    let bytes ← IO.FS.readBinFile path
    match String.fromUTF8? bytes with
    | some text => return .ok text
    | none => return .error .notText
  catch e => return .error (fileError e)

/-- Puts a text into a file. -/
def writeText (path content : String) : IO (Except FileError Unit) := do
  try
    IO.FS.writeFile path content
    return .ok ()
  catch e => return .error (fileError e)

/-- Performs a session, and collects its events behind earlier ones. -/
def perform {α : Type} (events : Array Log.Event) : Session α → IO (α × Array Log.Event)
  | .done value => return (value, events)
  | .look path next => do perform events (next (← kindOf path))
  | .read path next => do perform events (next (← readText path))
  | .write path content next => do perform events (next (← writeText path content))
  | .report event next => perform (events.push event) next

/-- The pieces of some bytes, each of which a zero byte ends. -/
def pieces (bs : ByteArray) : List ByteArray :=
  (bs.data.toList.splitOn 0).dropLast.map fun piece => ⟨piece.toArray⟩

/-- The name and the value in an assignment. A name is not empty, so an equals sign in the
first place belongs to it. -/
def assignment? (bs : ByteArray) : Option (RawText × RawText) := do
  let place ← (bs.data.toList.drop 1).idxOf? '='.toUInt8
  return (.ofBytes (bs.extract 0 (place + 1)), .ofBytes (bs.extract (place + 2) bs.size))

/-- The variables of the process. -/
def assignments : IO (List (RawText × RawText)) := do
  try
    return (pieces (← IO.FS.readBinFile "/proc/self/environ")).filterMap assignment?
  catch _ => return []

/-- The command line of the process, or else what the runtime makes of it. -/
def commandLine (decoded : List String) : IO (List RawText) := do
  try
    return (pieces (← IO.FS.readBinFile "/proc/self/cmdline")).map .ofBytes
  catch _ => return CommandLine.programName :: decoded.map .text

/-- The environment of the process. -/
def environment : IO Environment := do
  let directory ← IO.currentDir
  return {
    assignments := ← assignments
    depth := (Path.components directory.toString).length }

end RouteMap.Main

open RouteMap in
/-- Runs the program with the arguments of the process. -/
def main (arguments : List String) : IO UInt32 := do
  let session := CommandLine.program (← Main.environment) (← Main.commandLine arguments)
  let (result, events) ← Main.perform #[] session
  let err ← IO.getStderr
  for e in events do
    if result.log.shows e then err.putStrLn (e.line result.log.format)
  IO.print result.output
  IO.eprint result.errors
  return result.code
