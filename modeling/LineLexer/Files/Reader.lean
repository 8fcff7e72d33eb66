import LineLexer.Decimal.Fixed
import LineLexer.Diagnostics.Steps
import LineLexer.Duration
import LineLexer.Files.Error
import LineLexer.Files.Tree
import LineLexer.Text.Lines

/-!
# Reading files

A file is read if it is a regular one, not too large, UTF-8 text and of not too many lines, and if the
system lets it be found, measured and read. What was learned on the way is told to the journal, and
each check that fails tells one error.
-/

namespace LineLexer.Files

open Diagnostics

/-! ## Sizes -/

/-- Divides by 1024 until less than that is left, or the units are used up. -/
def scaleSize : (units : List String) → (unit : String) → Float → Float × String
  | [], unit, size => (size, unit)
  | next :: units, unit, size =>
    if size < 1024.0 then (size, unit) else scaleSize units next (size / 1024.0)

/-- A size in the largest unit of which there is one at least. -/
def humanSize (bytes : Nat) : String :=
  if bytes < 1024 then s!"{bytes} B"
  else
    let (size, unit) := scaleSize ["KB", "MB", "GB"] "B" (Float.ofNat bytes)
    Decimal.fixed 2 size ++ " " ++ unit

/-- What is known of a file. -/
structure Metadata where
  /-- The absolute path without dots. -/
  path : Path
  size : Nat
  /-- The extension in small letters. -/
  extension : Option String
  lineCount : Nat
deriving DecidableEq, Repr

namespace Metadata

def humanSize (metadata : Metadata) : String := Files.humanSize metadata.size

def isLarge (metadata : Metadata) : Bool := Limits.largeFile < metadata.size

end Metadata

/-- The text of a file with what is known of it. -/
structure FileText where
  source : String
  metadata : Metadata
deriving DecidableEq, Repr

def FileText.charCount (text : FileText) : Nat := text.source.length

/-- Characters for each millisecond of a duration. -/
def processingRate (chars : Nat) (duration : Duration) : Float :=
  let millis := duration.inSeconds * 1000.0
  if 0.0 < millis then Float.ofNat chars / millis else 0.0

/-! ## Checks -/

/-- What a check finds: an answer, or an error and how it is told. -/
abbrev Checked (α : Type) := Except (FileError × Event) α

/-- An error, told under its own code. -/
def refuse {α : Type} (error : FileError) (message : String) (details : List (String × String)) :
    Checked α :=
  .error (error, .error error.code message details)

/-- Goes on with what the file system answers about a place, or tells its fault. -/
def attempt {α : Type} (answer : Except Fault α) (place : Path) (action message : String)
    (details : List (String × String)) : Checked α :=
  match answer with
  | .ok value => .ok value
  | .error fault =>
    refuse (.ofFault fault place.text action) message (details ++ [("io_error", fault.message)])

/-- Finds the regular file under a path; the answer is its absolute path without dots. -/
def locate (files : FileSystem) (path : Path) : Checked Path :=
  match files.follow path with
  | .error _ => refuse (.notFound path.text) "File not found" [("path", path.text)]
  | .ok trail =>
    if trail.here.isFile then
      attempt (files.resolve path) path "resolve path" "Failed to canonicalize path"
        [("path", path.text)]
    else refuse (.notAFile path.text) "Path is not a file" [("path", path.text)]

/-- What is known of the file in a place before its text is read. -/
def measure (files : FileSystem) (place : Path) : Checked Metadata := do
  let size ← attempt (files.sizeOf place) place "read metadata for" "Failed to read file metadata"
    [("path", place.text)]
  return ⟨place, size, place.extension?.map Text.lowercase, 0⟩

/-- `path` is the path as it was given. -/
def checkSize (path : Path) (metadata : Metadata) : Checked Unit :=
  if Limits.fileSize < metadata.size then
    refuse (.tooLarge metadata.size Limits.fileSize) "File exceeds maximum size limit"
      [("file", path.text), ("size_bytes", toString metadata.size),
        ("size_human", metadata.humanSize), ("limit_bytes", toString Limits.fileSize),
        ("limit_human", humanSize Limits.fileSize)]
  else .ok ()

/-- Reads the text of the file in a place. -/
def readSource (files : FileSystem) (path place : Path) : Checked String :=
  attempt (files.readText place) place "read file" "Failed to read file" [("file", path.text)]

def checkLines (path : Path) (lineCount : Nat) : Checked Unit :=
  if Limits.linesPerFile < lineCount then
    refuse (.tooManyLines lineCount Limits.linesPerFile) "File exceeds maximum line count"
      [("file", path.text), ("lines", toString lineCount),
        ("max_lines", toString Limits.linesPerFile)]
  else .ok ()

/-! ## Events -/

def Metadata.event (metadata : Metadata) : Event :=
  .debug "File metadata collected"
    [("size_bytes", toString metadata.size), ("size_human", metadata.humanSize),
      ("extension", metadata.extension.getD "none"), ("is_large_file", toString metadata.isLarge)]

def largeFileEvent (path : Path) (metadata : Metadata) : Event :=
  .warning .plainWarning "Large file; tokenization may be slow"
    [("file", path.text), ("size_human", metadata.humanSize),
      ("threshold_bytes", toString Limits.largeFile)]

/-- What is told of a file that was read. -/
def FileText.event (text : FileText) (path : Path) (performance : Bool) : Event :=
  let metadata := text.metadata
  if performance then
    .success .fileProcessed "File processed successfully with performance metrics"
      [("file", path.text), ("size_bytes", toString metadata.size),
        ("size_human", metadata.humanSize), ("lines", toString metadata.lineCount),
        ("chars", toString text.charCount), ("duration_ms", untimed), ("chars_per_ms", untimed)]
  else
    .success .fileProcessed "File processed successfully"
      [("file", path.text), ("lines", toString metadata.lineCount), ("duration_ms", untimed)]

/-! ## Reading -/

/-- Tells the bounds that files have to keep to. -/
def tellLimits : Logged Unit :=
  note (.debug "File processor limits loaded"
    [("max_file_size", toString Limits.fileSize),
      ("large_file_threshold", toString Limits.largeFile),
      ("max_line_count", toString Limits.linesPerFile)])

/-- Goes on with a check's answer, or tells its error. -/
def proceed {α β : Type} (check : Checked α) (next : α → Steps (Except FileError β)) :
    Steps (Except FileError β) :=
  match check with
  | .ok answer => next answer
  | .error (error, event) => do
    Steps.note event
    return .error error

/-- Reads a file and tells of it. -/
def loadText (files : FileSystem) (preferences : FilePreferences) (path : Path) :
    Steps (Except FileError FileText) := do
  Steps.note (.debug "Starting file processing" [("file", path.text)])
  proceed (locate files path) fun place =>
    proceed (measure files place) fun metadata => do
      Steps.note metadata.event
      proceed (checkSize path metadata) fun _ => do
        if preferences.warnOfLargeFiles && metadata.isLarge then
          Steps.note (largeFileEvent path metadata)
        proceed (readSource files path place) fun source => do
          let lineCount := Text.lineCount source.toList
          proceed (checkLines path lineCount) fun _ => do
            let text : FileText := ⟨source, { metadata with lineCount }⟩
            Steps.note (text.event path preferences.performance)
            return .ok text

end LineLexer.Files
