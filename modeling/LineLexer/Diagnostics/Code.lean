/-!
# Codes

Every kind of event has a short code. A table says for the known codes how grave they are, whether
work can go on, and what to do about them; an unknown code has cautious answers.
-/

namespace LineLexer.Diagnostics

/-- The short name of a kind of event. -/
structure Code where
  text : String
deriving DecidableEq, Repr, Inhabited

inductive Severity where
  | critical
  | high
  | medium
  | low
deriving DecidableEq, Repr

def Severity.name : Severity → String
  | .critical => "Critical"
  | .high => "High"
  | .medium => "Medium"
  | .low => "Low"

/-- What is known about a code. -/
structure CodeEntry where
  code : Code
  category : String
  severity : Severity
  recoverable : Bool
  requiresHalt : Bool
  description : String
  action : String
deriving DecidableEq, Repr

namespace Code

/-! ## Files -/

def fileNotFound : Code := ⟨"E005"⟩
def notAFile : Code := ⟨"E006"⟩
def fileTooLarge : Code := ⟨"E007"⟩
def tooManyLines : Code := ⟨"E008"⟩
def permissionDenied : Code := ⟨"E009"⟩
def invalidEncoding : Code := ⟨"E010"⟩
def readFailed : Code := ⟨"E011"⟩

/-! ## Grammars -/

def grammarUnreadable : Code := ⟨"G001"⟩
def initialStateMissing : Code := ⟨"G002"⟩
def pushTargetUnknown : Code := ⟨"G003"⟩
def stateEmpty : Code := ⟨"G004"⟩
def patternInvalid : Code := ⟨"G005"⟩
def actionInvalid : Code := ⟨"G006"⟩
def labelEmpty : Code := ⟨"G007"⟩
def bracketsMissing : Code := ⟨"G008"⟩
def bracketInvalid : Code := ⟨"G009"⟩
def limitExceeded : Code := ⟨"G010"⟩
def formatUnsupported : Code := ⟨"G011"⟩
def languageUnknown : Code := ⟨"G012"⟩
def stateUnreachable : Code := ⟨"G020"⟩

/-! ## Lines -/

def stateUnknown : Code := ⟨"K001"⟩
def lineOutOfRange : Code := ⟨"K002"⟩
def lineBreakEmbedded : Code := ⟨"K003"⟩
def lineTooLong : Code := ⟨"K011"⟩
def stackDepthExceeded : Code := ⟨"K012"⟩

/-! ## Batches -/

def directoryNotFound : Code := ⟨"B001"⟩
def noFilesFound : Code := ⟨"B002"⟩
def workerFailed : Code := ⟨"B003"⟩
def tooManyFiles : Code := ⟨"B004"⟩

/-! ## Successes -/

def journalOpened : Code := ⟨"I004"⟩
def fileProcessed : Code := ⟨"I006"⟩
def grammarLoaded : Code := ⟨"I010"⟩
def linesTokenized : Code := ⟨"I020"⟩
def linesUpdated : Code := ⟨"I021"⟩
def batchCompleted : Code := ⟨"I030"⟩

/-! ## Events without a code of their own -/

def plainWarning : Code := ⟨"W000"⟩
def plainInfo : Code := ⟨"I000"⟩
def plainDebug : Code := ⟨"D000"⟩

/-! ## The table -/

/-- The known codes. -/
def table : List CodeEntry := [
  ⟨⟨"ERR001"⟩, "System", .critical, false, true,
    "Critical internal error",
    "File a bug report with the input that triggered it"⟩,
  ⟨⟨"ERR002"⟩, "System", .critical, false, true,
    "System initialization failure",
    "Check logging configuration and environment variables"⟩,
  ⟨⟨"E005"⟩, "FileProcessing", .medium, false, true,
    "File not found at specified path",
    "Check file path and ensure file exists"⟩,
  ⟨⟨"E006"⟩, "FileProcessing", .medium, false, true,
    "Path does not refer to a regular file",
    "Pass a file, or use the batch command for directories"⟩,
  ⟨⟨"E007"⟩, "FileProcessing", .medium, false, true,
    "File exceeds maximum size limit",
    "Split the document or build with a larger limit profile"⟩,
  ⟨⟨"E008"⟩, "FileProcessing", .medium, false, true,
    "File exceeds maximum line count",
    "Split the document or build with a larger limit profile"⟩,
  ⟨⟨"E009"⟩, "FileProcessing", .medium, false, true,
    "Permission denied accessing file",
    "Check file permissions and user access rights"⟩,
  ⟨⟨"E010"⟩, "FileProcessing", .medium, false, true,
    "Invalid UTF-8 encoding in file",
    "Convert file to UTF-8 encoding"⟩,
  ⟨⟨"E011"⟩, "FileProcessing", .medium, false, true,
    "I/O error during file operation",
    "Check disk space, permissions, and file system integrity"⟩,
  ⟨⟨"G001"⟩, "Grammar", .high, false, true,
    "Grammar document could not be parsed",
    "Fix the TOML or JSON syntax of the grammar document"⟩,
  ⟨⟨"G002"⟩, "Grammar", .high, false, true,
    "Initial state is not defined",
    "Define the initial state or set `initial` to an existing state"⟩,
  ⟨⟨"G003"⟩, "Grammar", .high, false, true,
    "Rule pushes a state that is not defined",
    "Define the target state or correct the push target name"⟩,
  ⟨⟨"G004"⟩, "Grammar", .high, false, true,
    "Reachable state has no rules",
    "Add at least one rule to the state"⟩,
  ⟨⟨"G005"⟩, "Grammar", .high, false, true,
    "Rule pattern is not a valid regular expression",
    "Fix the pattern syntax"⟩,
  ⟨⟨"G006"⟩, "Grammar", .high, false, true,
    "Rule must set exactly one of `token` or `brackets`",
    "Give the rule a token label or mark it as a bracket rule"⟩,
  ⟨⟨"G007"⟩, "Grammar", .high, false, true,
    "Token label is empty",
    "Use a non-empty token label"⟩,
  ⟨⟨"G008"⟩, "Grammar", .high, false, true,
    "Bracket rule in a grammar without a bracket table",
    "Add [[brackets]] entries to the grammar"⟩,
  ⟨⟨"G009"⟩, "Grammar", .high, false, true,
    "Bracket pair is malformed",
    "Use non-empty open and close delimiters and a non-empty token"⟩,
  ⟨⟨"G010"⟩, "Grammar", .high, false, true,
    "Grammar exceeds a configured limit",
    "Reduce the grammar size or build with a larger limit profile"⟩,
  ⟨⟨"G011"⟩, "Grammar", .medium, false, true,
    "Grammar file format not recognised",
    "Use a .toml or .json grammar file"⟩,
  ⟨⟨"G012"⟩, "Grammar", .medium, false, true,
    "No built-in grammar with that name",
    "Run `hilite languages` to list built-in grammars"⟩,
  ⟨⟨"G020"⟩, "Grammar", .low, true, false,
    "State cannot be reached from the initial state",
    "Remove the state or add a rule that pushes it"⟩,
  ⟨⟨"K001"⟩, "Tokenizer", .high, false, true,
    "State stack names a state absent from the grammar",
    "Reset the session or tokenize from the initial stack"⟩,
  ⟨⟨"K002"⟩, "Tokenizer", .medium, false, true,
    "Line index outside the document",
    "Use an index below the document line count"⟩,
  ⟨⟨"K003"⟩, "Tokenizer", .medium, false, true,
    "Replacement text for a single line contains a line break",
    "Split the text and insert each line separately"⟩,
  ⟨⟨"K010"⟩, "Tokenizer", .low, true, false,
    "Input not matched by any rule of the current state",
    "Add a rule covering the input if it should be classified"⟩,
  ⟨⟨"K011"⟩, "Tokenizer", .low, true, false,
    "Line exceeds the tokenization length limit",
    "Line is emitted as a single default span"⟩,
  ⟨⟨"K012"⟩, "Tokenizer", .high, false, true,
    "A push would take the state stack past its depth limit",
    "Check the grammar for pushes without matching pops"⟩,
  ⟨⟨"B001"⟩, "Batch", .medium, false, true,
    "Batch directory not found",
    "Check the directory path"⟩,
  ⟨⟨"B002"⟩, "Batch", .medium, true, false,
    "No matching files found",
    "Check the directory contents and extension filter"⟩,
  ⟨⟨"B003"⟩, "Batch", .high, false, true,
    "Worker thread failed",
    "Rerun sequentially to isolate the failing file"⟩,
  ⟨⟨"B004"⟩, "Batch", .medium, false, true,
    "Too many files for one batch",
    "Narrow the directory or raise the file limit"⟩,
  ⟨⟨"I001"⟩, "System", .low, true, false,
    "Operation completed successfully",
    "No action required"⟩,
  ⟨⟨"I004"⟩, "System", .low, true, false,
    "Logging system initialized",
    "No action required"⟩,
  ⟨⟨"I006"⟩, "FileProcessing", .low, true, false,
    "File read successfully",
    "No action required"⟩,
  ⟨⟨"I010"⟩, "Grammar", .low, true, false,
    "Grammar loaded",
    "No action required"⟩,
  ⟨⟨"I011"⟩, "Grammar", .low, true, false,
    "Grammar validation passed",
    "No action required"⟩,
  ⟨⟨"I020"⟩, "Tokenizer", .low, true, false,
    "Document tokenized",
    "No action required"⟩,
  ⟨⟨"I021"⟩, "Tokenizer", .low, true, false,
    "Document retokenized after edit",
    "No action required"⟩,
  ⟨⟨"I030"⟩, "Batch", .low, true, false,
    "Batch processing finished",
    "No action required"⟩]

def entry? (code : Code) : Option CodeEntry := table.find? (·.code = code)

def severity (code : Code) : Severity := (code.entry?.map (·.severity)).getD .medium

def isRecoverable (code : Code) : Bool := (code.entry?.map (·.recoverable)).getD true

def requiresHalt (code : Code) : Bool := (code.entry?.map (·.requiresHalt)).getD false

def description (code : Code) : String :=
  (code.entry?.map (·.description)).getD "Unknown error"

/-- What stands for the action of a code without one. -/
def noAction : String := "No specific action available"

def action (code : Code) : String := (code.entry?.map (·.action)).getD noAction

def category (code : Code) : String := (code.entry?.map (·.category)).getD "Unknown"

end Code

end LineLexer.Diagnostics
