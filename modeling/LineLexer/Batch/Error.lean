import LineLexer.Files.Error
import LineLexer.Tokenize.Error

/-!
# Faults of batches

Why a batch is not run, and why one file of a batch has no tokens.
-/

namespace LineLexer.Batch

open Diagnostics Files

/-- The causes for which a batch is not run to its end. -/
inductive BatchError where
  | directoryNotFound (path : String)
  | noFilesFound (path : String)
  /-- A worker has gone down. Nothing that workers do with a file makes them go down, so no batch is
  answered with it. -/
  | workerFailed (message : String)
  | tooManyFiles (count limit : Nat)
  | unlistable (message : String)
deriving DecidableEq, Repr

namespace BatchError

def message : BatchError → String
  | directoryNotFound path => s!"Directory not found: {path}"
  | noFilesFound path => s!"No matching files found in directory: {path}"
  | workerFailed message => s!"Worker thread failed: {message}"
  | tooManyFiles count limit => s!"Too many files found: {count} (max: {limit})"
  | unlistable message => s!"I/O error during directory traversal: {message}"

def code : BatchError → Code
  | directoryNotFound _ => .directoryNotFound
  | noFilesFound _ => .noFilesFound
  | workerFailed _ => .workerFailed
  | tooManyFiles .. => .tooManyFiles
  | unlistable _ => .readFailed

end BatchError

/-- Why one file has no tokens. -/
inductive Failure where
  | file (error : FileError)
  | tokenize (error : TokenizeError)
deriving DecidableEq, Repr

namespace Failure

def message : Failure → String
  | file error => error.message
  | tokenize error => error.message

def code : Failure → Code
  | file error => error.code
  | tokenize error => error.code

end Failure

end LineLexer.Batch
