import LineLexer.Batch.Results
import LineLexer.Files.Reader
import LineLexer.Tokenize.Tell

/-!
# The files of a batch as jobs

Every file of a batch is read and tokenized, whoever does it. What becomes of it is counted, or the
failure is told.
-/

namespace LineLexer.Batch

open Diagnostics Files

/-- Tokenizes the text of a file and tells of it. -/
def tokenizeText (grammar : Grammar) (text : FileText) : Steps (Except TokenizeError Buffer) := do
  Steps.note (.debug "Starting tokenization"
    [("file", text.metadata.path.text), ("grammar", grammar.name),
      ("line_count", toString text.metadata.lineCount),
      ("file_size_bytes", toString text.metadata.size)])
  Buffer.ofTextLogged grammar text.source

/-- Counts the tokens of a file. -/
def FileStats.ofBuffer (buffer : Buffer) (sizeBytes : Nat) : FileStats where
  lines := buffer.lineCount
  tokens := buffer.tokens.length
  unmatched := buffer.tokens.countP (·.kind = buffer.grammar.defaultKind)
  sizeBytes := sizeBytes
  endsInitial := buffer.finalState.isInitial

/-- Files of a batch are told without rates. -/
def filePreferences : FilePreferences := ⟨false, true⟩

/-- Reads and tokenizes a file. -/
def tokenizeFile (files : FileSystem) (grammar : Grammar) (path : Path) :
    Steps (Except Failure FileStats) := do
  match ← loadText files filePreferences path with
  | .error error => return .error (.file error)
  | .ok text =>
    match ← tokenizeText grammar text with
    | .error error => return .error (.tokenize error)
    | .ok buffer => return .ok (.ofBuffer buffer text.metadata.size)

/-- A file of a batch with its index. -/
structure Job where
  path : Path
  index : Nat
deriving DecidableEq, Repr

/-- The file as the current one of whoever does the job. -/
def Job.context (job : Job) : FileContext := ⟨job.path, job.index⟩

/-- The files of a list, the first of which has the index `first`. -/
def jobsFrom (first : Nat) (paths : List Path) : List Job :=
  (paths.zipIdx first).map fun (path, index) => ⟨path, index⟩

def jobsOf (found : List Path) : List Job := jobsFrom 0 found

/-- What is told of a file that has failed. -/
def failureEvent (path : Path) (failure : Failure) : Event :=
  .error failure.code "File tokenization failed" [("file", path.text), ("error", failure.message)]

/-- Processes a file; a failure is told once more. -/
def processJob (files : FileSystem) (grammar : Grammar) (job : Job) :
    Steps (Except Failure FileStats) := do
  let outcome ← tokenizeFile files grammar job.path
  if let .error failure := outcome then Steps.note (failureEvent job.path failure)
  return outcome

end LineLexer.Batch
