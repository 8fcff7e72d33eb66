import LineLexer.Files.Fault
import LineLexer.Files.Path

/-!
# Trees of files

Folders hold entries by name; a file holds bytes. A path is followed from the folder in which the
program runs, or from the root if it is absolute. Not every file can be read, nor every folder be
listed or passed: what the system refuses stands with the file or the folder.
-/

namespace LineLexer.Files

/-- What stands under a name and is no folder, with the faults that its path is resolved, and it is
measured and read with. -/
structure Content where
  /-- It is a regular file, and no device or pipe. -/
  regular : Bool
  bytes : ByteArray
  resolving : Option Fault
  measuring : Option Fault
  reading : Option Fault

/-- A regular file that nothing is wrong with. -/
def Content.plain (bytes : ByteArray) : Content := ⟨true, bytes, none, none, none⟩

/-- Where the listing of a folder breaks off. -/
structure Break where
  /-- The number of entries that are not listed; if it is that of all, listing does not even start. -/
  left : Nat
  fault : Fault

/-- What the system does not let the program do with a folder. -/
structure Access where
  /-- The fault of every path that leads through the folder. -/
  barred : Option Fault
  broken : Option Break

namespace Access

/-- Nothing is refused. -/
def full : Access := ⟨none, none⟩

/-- Lists the next entry, or sees that there is none. -/
def list (access : Access) (left : Nat) : Except Fault Unit :=
  match access.broken with
  | some broken => if left ≤ broken.left then .error broken.fault else .ok ()
  | none => .ok ()

end Access

/-- A file or a folder. A folder's entries stand in the order in which it lists them. -/
inductive Entry where
  | file (content : Content)
  | folder (entries : List (String × Entry)) (access : Access)

namespace Entry

/-- A folder with nothing in it. -/
def empty : Entry := folder [] .full

instance : Inhabited Entry := ⟨empty⟩

def isFile : Entry → Bool
  | file content => content.regular
  | folder .. => false

def isFolder : Entry → Bool
  | file _ => false
  | folder .. => true

def entries : Entry → List (String × Entry)
  | file _ => []
  | folder entries _ => entries

def access : Entry → Access
  | file _ => .full
  | folder _ access => access

def find? (entry : Entry) (name : String) : Option Entry :=
  (entry.entries.find? (·.1 = name)).map (·.2)

/-- Changes what stands at the end of a path of names, where there may be nothing so far. Folders
that are missing on the way are made. -/
def update (change : Option Entry → Entry) : List String → Option Entry → Entry
  | [], here => change here
  | name :: names, here =>
    let before := here.getD empty
    let next := before.find? name
    .folder (before.entries.filter (·.1 ≠ name) ++ [(name, update change names next)]) before.access

/-- Puts an entry in its place. -/
def put (entry : Entry) (names : List String) (tree : Entry) : Entry :=
  update (fun _ => entry) names (some tree)

/-- Makes a folder, unless there is something in its place. -/
def makeFolder (names : List String) (tree : Entry) : Entry :=
  update (·.getD empty) names (some tree)

/-- Makes a folder one that cannot be listed. -/
def lock (fault : Fault) (names : List String) (tree : Entry) : Entry :=
  update (fun here =>
    let entries := (here.getD empty).entries
    .folder entries ⟨none, some ⟨entries.length, fault⟩⟩) names (some tree)

end Entry

/-- The greatest lengths of the names and of the paths that the system follows, in bytes. -/
structure PathLimits where
  name : Nat
  path : Nat
deriving DecidableEq, Repr

namespace PathLimits

/-- Those of the common systems. -/
def common : PathLimits := ⟨255, 4095⟩

/-- Whether a text is followed as a path. -/
def check (limits : PathLimits) (path : Path) : Except Fault Unit :=
  if path.text.toList.contains '\x00' then .error .zeroByte
  else if path.text = "" then .error .noSuchFile
  else if limits.path < path.text.utf8ByteSize then .error .nameTooLong
  else .ok ()

end PathLimits

/-- Where a path has led: the names and the folders on the way, the innermost one first, and the
entry. -/
structure Trail where
  names : List String
  folders : List Entry
  here : Entry

namespace Trail

/-- At the outermost folder. -/
def atRoot (root : Entry) : Trail := ⟨[], [], root⟩

/-- Goes into an entry of a folder. -/
def enter (trail : Trail) (name : String) : Except Fault Trail :=
  match trail.here.find? name with
  | some entry => .ok ⟨name :: trail.names, trail.here :: trail.folders, entry⟩
  | none => .error .noSuchFile

/-- Leaves a folder. Above the outermost folder there is no other one. -/
def leave (trail : Trail) : Trail :=
  match trail.folders with
  | outer :: folders => ⟨trail.names.tail, folders, outer⟩
  | [] => trail

/-- One step from a folder. -/
def step (limits : PathLimits) (trail : Trail) (segment : String) : Except Fault Trail :=
  match trail.here with
  | .file _ => .error .notADirectory
  | .folder _ access =>
    if segment = "" then .ok trail
    else
      match access.barred with
      | some fault => .error fault
      | none =>
        if segment = "." then .ok trail
        else if segment = ".." then .ok trail.leave
        else if limits.name < segment.utf8ByteSize then .error .nameTooLong
        else trail.enter segment

/-- The absolute path of the place, without dots. -/
def path (trail : Trail) : Path :=
  if trail.names.isEmpty then ⟨"/"⟩ else ⟨String.join (trail.names.reverse.map ("/" ++ ·))⟩

end Trail

/-- What the program can see of the files. -/
structure FileSystem where
  root : Entry
  /-- The names that lead from the root to the folder in which the program runs. -/
  working : List String
  limits : PathLimits

namespace FileSystem

/-- Where a path starts. The folder in which the program runs is open to it, whatever has become of
the way there. -/
def start (files : FileSystem) (path : Path) : Except Fault Trail :=
  if path.isAbsolute then .ok (.atRoot files.root)
  else files.working.foldlM Trail.enter (.atRoot files.root)

/-- Follows a path. A slash at its end asks for a folder. -/
def follow (files : FileSystem) (path : Path) : Except Fault Trail := do
  files.limits.check path
  (path.segments.map String.ofList).foldlM (Trail.step files.limits) (← files.start path)

/-- Whatever stands under a path, unless it is a folder. -/
def contentAt (files : FileSystem) (path : Path) : Except Fault Content := do
  match (← files.follow path).here with
  | .folder .. => throw .isADirectory
  | .file content => return content

/-- The absolute path of a file, without dots. -/
def resolve (files : FileSystem) (path : Path) : Except Fault Path := do
  let content ← files.contentAt path
  Fault.raise? content.resolving
  return (← files.follow path).path

/-- The size of a file, in bytes. -/
def sizeOf (files : FileSystem) (path : Path) : Except Fault Nat := do
  let content ← files.contentAt path
  Fault.raise? content.measuring
  return content.bytes.size

/-- Reads the text of a file. -/
def readText (files : FileSystem) (path : Path) : Except Fault String := do
  let content ← files.contentAt path
  Fault.raise? content.reading
  match String.fromUTF8? content.bytes with
  | some text => return text
  | none => throw .notText

end FileSystem

end LineLexer.Files
