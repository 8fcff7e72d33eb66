import LineLexer.CommandLine.Run

/-!
# The program

Takes a picture of the files that the command line names, carries the command out on it, and writes
what the command has to say.
-/

namespace LineLexer

open CommandLine Diagnostics Files

/-- What has been seen of the files so far. -/
abbrev Picture := StateT Entry IO

namespace Picture

/-- The fault that an error of the system is. -/
def fault : IO.Error → Fault
  | .noFileOrDirectory .. => .noSuchFile
  | .permissionDenied .. => .permissionDenied
  | error => ⟨.other, toString error⟩

/-- A file that cannot be read still has its size. -/
def unreadable (size : Nat) (fault : Fault) : Content :=
  { Content.plain ⟨Array.replicate size 0⟩ with reading := some fault }

/-- Looks at what stands under the names from the root, and says whether it is a folder. -/
def look (names : List String) : Picture Bool := do
  let place := (← IO.currentDir) / ("/" ++ "/".intercalate names)
  match ← place.metadata.toBaseIO with
  | .error _ => return false
  | .ok metadata =>
    if metadata.type == .dir then
      modify (Entry.makeFolder names)
      return true
    let regular := metadata.type == .file
    let content ← match ← (IO.FS.readBinFile place).toBaseIO with
      | .ok bytes => pure (.plain bytes)
      | .error error => pure (unreadable metadata.byteSize.toNat (fault error))
    modify (Entry.put (.file { content with regular }) names)
    return false

/-- Follows a path and looks at every place on it; the answer is the names of its end. -/
def walk (names : List String) : List String → Picture (List String)
  | [] => return names
  | segment :: rest =>
    match segment with
    | "" | "." => walk names rest
    | ".." => walk names.dropLast rest
    | name => do
      discard (look (names ++ [name]))
      walk (names ++ [name]) rest

/-- Looks at all that is below a place. -/
partial def lookBelow (names : List String) : Picture Unit := do
  if ← look names then
    let place := (← IO.currentDir) / ("/" ++ "/".intercalate names)
    match ← place.readDir.toBaseIO with
    | .ok entries =>
      for entry in entries do
        lookBelow (names ++ [entry.fileName])
    | .error error => modify (Entry.lock (fault error) names)

def follow (working : List String) (path : Path) : Picture (List String) :=
  walk (if path.isAbsolute then [] else working) (path.segments.map String.ofList)

/-- Looks at all that a command needs. -/
def ofCommand (working : List String) (command : Command) : Picture Unit := do
  for path in command.files do
    discard (follow working path)
  if let some path := command.folder? then
    lookBelow (← follow working path)

end Picture

/-- The files that a command sees. -/
def filesFor (request : Request) : IO FileSystem := do
  let working := ((← IO.currentDir).toString.splitOn "/").filter (· ≠ "")
  let look : Picture Unit := do
    discard (Picture.walk [] working)
    if let .run command := request then Picture.ofCommand working command
  let ((), root) ← look.run .empty
  return ⟨root, working, .common⟩

/-- The number of processors, as far as it can be known. -/
def processorCount : IO Nat := do
  match ← (IO.FS.readFile "/proc/cpuinfo").toBaseIO with
  | .ok text => return max 1 ((text.splitOn "\n").countP (·.startsWith "processor"))
  | .error _ => return 1

/-- The choices that the environment holds. -/
def environmentChoices : IO Variables :=
  variableNames.filterMapM fun name => do return (← IO.getEnv name).map (name, ·)

/-- Carries out the words of the command line. -/
def runProgram (words : List String) : IO UInt32 := do
  let cores ← processorCount
  let files ← filesFor (.ofWords cores words)
  let journal := Journal.ofVariables (← environmentChoices)
  let (code, journal) := (runWords files cores words).run journal
  IO.print journal.answers
  IO.eprint journal.messages
  return code.toUInt32

end LineLexer

def main (words : List String) : IO UInt32 := LineLexer.runProgram words
