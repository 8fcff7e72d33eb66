import LineLexer.Files.Fault
import LineLexer.Limits

/-!
# Faults of files

Why the text of a file is not read.
-/

namespace LineLexer.Files

open Diagnostics

/-- The causes for which a file is refused. -/
inductive FileError where
  | notFound (path : String)
  | notAFile (path : String)
  | tooLarge (size limit : Nat)
  | tooManyLines (lines limit : Nat)
  | permissionDenied (path : String)
  | invalidEncoding (path : String)
  | unreadable (message : String)
deriving DecidableEq, Repr

namespace FileError

def message : FileError → String
  | notFound path => s!"File not found: {path}"
  | notAFile path => s!"Not a regular file: {path}"
  | tooLarge size limit => s!"File too large: {size} bytes (max: {limit})"
  | tooManyLines lines limit => s!"File exceeds maximum line count: {lines} (max: {limit})"
  | permissionDenied path => s!"Permission denied: {path}"
  | invalidEncoding path => s!"Invalid UTF-8 encoding in file: {path}"
  | unreadable message => s!"I/O error reading file: {message}"

def code : FileError → Code
  | notFound _ => .fileNotFound
  | notAFile _ => .notAFile
  | tooLarge .. => .fileTooLarge
  | tooManyLines .. => .tooManyLines
  | permissionDenied _ => .permissionDenied
  | invalidEncoding _ => .invalidEncoding
  | unreadable _ => .readFailed

/-- The error that a fault of the file system is for a file, met while doing something to it. -/
def ofFault (fault : Fault) (path action : String) : FileError :=
  match fault.kind with
  | .notFound => .notFound path
  | .permissionDenied => .permissionDenied path
  | .invalidData => .invalidEncoding path
  | .other => .unreadable s!"Failed to {action} '{path}': {fault.message}"

end FileError

end LineLexer.Files
