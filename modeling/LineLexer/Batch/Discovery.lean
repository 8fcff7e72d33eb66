import LineLexer.Batch.Config
import LineLexer.Batch.Error
import LineLexer.Diagnostics.Journal
import LineLexer.Files.Tree

/-!
# Finding the files of a batch

The files below a folder that the batch takes, in the order of their paths. Folders that are visited
have to let themselves be listed.
-/

namespace LineLexer.Batch

open Diagnostics Files

/-- Whether something can be seen of an entry of a folder: what kind of thing it is. -/
def sees (limits : PathLimits) (path : Path) (access : Access) (name : String) : Bool :=
  access.barred.isNone && name.utf8ByteSize ≤ limits.name && (limits.check (path.child name)).isOk

/-- Visits a folder, and those below it if the batch is recursive, and gathers the files that it
takes in the order in which they are listed. The first folder whose listing breaks off ends the visit.
What cannot be seen is passed over. -/
def visit (limits : PathLimits) (config : Config) (path : Path) (access : Access) :
    List (String × Entry) → Except Fault (List Path)
  | [] => do
    access.list 0
    return []
  | (name, .file content) :: rest => do
    access.list (rest.length + 1)
    let place := path.child name
    let taken := sees limits path access name && content.regular && config.accepts place
    return (if taken then [place] else []) ++ (← visit limits config path access rest)
  | (name, .folder entries inner) :: rest => do
    access.list (rest.length + 1)
    let below ←
      if sees limits path access name && config.recursive then
        visit limits config (path.child name) inner entries
      else pure []
    return below ++ (← visit limits config path access rest)

/-- The files of a batch: those that are accepted, in the order of their paths. -/
def discover? (files : FileSystem) (config : Config) (path : Path) :
    Except BatchError (List Path) :=
  match files.follow path with
  | .ok ⟨_, _, .folder entries access⟩ =>
    match visit files.limits config path access entries with
    | .error fault => .error (.unlistable fault.message)
    | .ok found =>
      if found.isEmpty then .error (.noFilesFound path.text)
      else if Limits.filesPerBatch < found.length then
        .error (.tooManyFiles found.length Limits.filesPerBatch)
      else .ok (found.mergeSort Path.le)
  | _ => .error (.directoryNotFound path.text)

/-- What is told when there is no folder, or when there are too many files. -/
def BatchError.event? (path : Path) : BatchError → Option Event
  | directoryNotFound _ =>
    some (.error .directoryNotFound "Batch directory not found" [("directory", path.text)])
  | tooManyFiles count limit =>
    some (.error .tooManyFiles "Batch exceeds file limit"
      [("files_found", toString count), ("limit", toString limit)])
  | _ => none

/-- At most as many files as asked for. -/
def Config.cut (config : Config) (found : List Path) : List Path :=
  match config.maxFiles with
  | some limit => found.take limit
  | none => found

/-- What is told if there are more files than asked for. -/
def Config.cutEvents (config : Config) (found : List Path) : List Event :=
  match config.maxFiles with
  | some limit =>
    if limit < found.length then
      [.warning .plainWarning "Reached maximum file limit"
        [("files_found", toString found.length), ("limit", toString limit)]]
    else []
  | none => []

/-- Finds the files of a batch and tells of it. -/
def discover (files : FileSystem) (config : Config) (path : Path) :
    Logged (Except BatchError (List Path)) := do
  note (.info "Starting file discovery"
    [("directory", path.text), ("recursive", toString config.recursive)])
  match discover? files config path with
  | .error error =>
    noteAll (error.event? path).toList
    return .error error
  | .ok found =>
    noteAll (config.cutEvents found)
    let taken := config.cut found
    note (.debug "File discovery completed"
      [("files_found", toString taken.length), ("directory", path.text)])
    return .ok taken

end LineLexer.Batch
