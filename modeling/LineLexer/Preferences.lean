import LineLexer.Datum.Basic
import LineLexer.Diagnostics.Event
import LineLexer.Text.Lowercase

/-!
# Preferences

What a user can choose. Choices are read from environment variables; a variable that is not set, or
does not hold a choice, leaves the default.
-/

namespace LineLexer

open Datum Diagnostics

structure FilePreferences where
  /-- Events about files tell sizes and rates. -/
  performance : Bool
  warnOfLargeFiles : Bool
deriving DecidableEq, Repr

structure GrammarPreferences where
  warnOfUnreachable : Bool
  /-- A compiled grammar is told with its counts. -/
  statistics : Bool
deriving DecidableEq, Repr

structure TokenizerPreferences where
  collectMetrics : Bool
  /-- Every unmatched character is told. -/
  tellUnmatched : Bool
  positionsInErrors : Bool
deriving DecidableEq, Repr

structure JournalPreferences where
  /-- Events are written as records. -/
  structured : Bool
  /-- Events are written as lines of text. -/
  console : Bool
  /-- The least grave level that is written. -/
  least : Level
  /-- Edits of a buffer are told. -/
  performance : Bool
  /-- A failed batch ends with a report. -/
  report : Bool
  /-- Events tell the file that they are about. -/
  fileContext : Bool
deriving DecidableEq, Repr

structure Preferences where
  files : FilePreferences
  grammars : GrammarPreferences
  tokenizer : TokenizerPreferences
  journal : JournalPreferences
deriving DecidableEq, Repr

/-! ## Variables -/

/-- Environment variables with their values. -/
abbrev Variables := List (String × String)

namespace Variables

def value? (environment : Variables) (name : String) : Option String :=
  (environment.find? (·.1 = name)).map (·.2)

/-- A choice of yes or no. -/
def flag (environment : Variables) (name : String) (default : Bool) : Bool :=
  match environment.value? name with
  | some "true" => true
  | some "false" => false
  | _ => default

end Variables

/-- The names of the variables that hold choices. -/
def variableNames : List String :=
  ["HILITE_ENABLE_PERFORMANCE_LOGGING", "HILITE_WARN_ON_LARGE_FILES",
    "HILITE_GRAMMAR_WARN_UNREACHABLE", "HILITE_GRAMMAR_LOG_STATISTICS",
    "HILITE_TOKENIZER_COLLECT_METRICS", "HILITE_TOKENIZER_LOG_UNMATCHED",
    "HILITE_TOKENIZER_INCLUDE_POSITIONS", "HILITE_LOGGING_USE_STRUCTURED",
    "HILITE_LOGGING_ENABLE_CONSOLE", "HILITE_LOGGING_MIN_LEVEL", "HILITE_LOGGING_LOG_PERFORMANCE",
    "HILITE_LOGGING_CARGO_STYLE", "HILITE_LOGGING_INCLUDE_FILE_CONTEXT"]

/-- The level that a text names, by word or number, in any case of letters. -/
def levelOfText? (text : String) : Option Level :=
  match Text.lowercase text with
  | "error" | "0" => some .error
  | "warning" | "warn" | "1" => some .warning
  | "info" | "2" => some .info
  | "debug" | "3" => some .debug
  | _ => none

namespace Preferences

def ofVariables (environment : Variables) : Preferences where
  files := {
    performance := environment.flag "HILITE_ENABLE_PERFORMANCE_LOGGING" true
    warnOfLargeFiles := environment.flag "HILITE_WARN_ON_LARGE_FILES" true }
  grammars := {
    warnOfUnreachable := environment.flag "HILITE_GRAMMAR_WARN_UNREACHABLE" true
    statistics := environment.flag "HILITE_GRAMMAR_LOG_STATISTICS" false }
  tokenizer := {
    collectMetrics := environment.flag "HILITE_TOKENIZER_COLLECT_METRICS" true
    tellUnmatched := environment.flag "HILITE_TOKENIZER_LOG_UNMATCHED" false
    positionsInErrors := environment.flag "HILITE_TOKENIZER_INCLUDE_POSITIONS" true }
  journal := {
    structured := environment.flag "HILITE_LOGGING_USE_STRUCTURED" false
    console := environment.flag "HILITE_LOGGING_ENABLE_CONSOLE" false
    least := ((environment.value? "HILITE_LOGGING_MIN_LEVEL").bind levelOfText?).getD .info
    performance := environment.flag "HILITE_LOGGING_LOG_PERFORMANCE" true
    report := environment.flag "HILITE_LOGGING_CARGO_STYLE" true
    fileContext := environment.flag "HILITE_LOGGING_INCLUDE_FILE_CONTEXT" true }

end Preferences

/-! ## Preferences as data -/

/-- The name of a level as a choice. -/
def levelName : Level → String
  | .error => "Error"
  | .warning => "Warning"
  | .info => "Info"
  | .debug => "Debug"

def decodeLevel (datum : Datum) : Except DecodeError Level := do
  let (name, content) ← asVariant datum
  match name with
  | "Error" => noContent .json content; return .error
  | "Warning" => noContent .json content; return .warning
  | "Info" => noContent .json content; return .info
  | "Debug" => noContent .json content; return .debug
  | other => throw (.variantUnknown other)

namespace FilePreferences

def names : List String := ["enable_performance_logging", "warn_on_large_files"]

def toDatum (p : FilePreferences) : Datum :=
  .record (names.zip [.boolean p.performance, .boolean p.warnOfLargeFiles])

def decode (datum : Datum) : Except DecodeError FilePreferences := do
  let values ← fields .json false names datum
  let performance ← required "enable_performance_logging" asBoolean (values[0]?.join)
  let warnOfLargeFiles ← required "warn_on_large_files" asBoolean (values[1]?.join)
  return { performance, warnOfLargeFiles }

end FilePreferences

namespace GrammarPreferences

def names : List String := ["warn_unreachable_states", "log_compile_statistics"]

def toDatum (p : GrammarPreferences) : Datum :=
  .record (names.zip [.boolean p.warnOfUnreachable, .boolean p.statistics])

def decode (datum : Datum) : Except DecodeError GrammarPreferences := do
  let values ← fields .json false names datum
  let warnOfUnreachable ← required "warn_unreachable_states" asBoolean (values[0]?.join)
  let statistics ← required "log_compile_statistics" asBoolean (values[1]?.join)
  return { warnOfUnreachable, statistics }

end GrammarPreferences

namespace TokenizerPreferences

def names : List String :=
  ["collect_metrics", "log_unmatched_input", "include_position_in_errors"]

def toDatum (p : TokenizerPreferences) : Datum :=
  .record (names.zip
    [.boolean p.collectMetrics, .boolean p.tellUnmatched, .boolean p.positionsInErrors])

def decode (datum : Datum) : Except DecodeError TokenizerPreferences := do
  let values ← fields .json false names datum
  let collectMetrics ← required "collect_metrics" asBoolean (values[0]?.join)
  let tellUnmatched ← required "log_unmatched_input" asBoolean (values[1]?.join)
  let positionsInErrors ← required "include_position_in_errors" asBoolean (values[2]?.join)
  return { collectMetrics, tellUnmatched, positionsInErrors }

end TokenizerPreferences

namespace JournalPreferences

def names : List String :=
  ["use_structured_logging", "enable_console_logging", "min_log_level", "log_performance_events",
    "enable_cargo_style_output", "include_file_context"]

def toDatum (p : JournalPreferences) : Datum :=
  .record (names.zip
    [.boolean p.structured, .boolean p.console, .text (levelName p.least), .boolean p.performance,
      .boolean p.report, .boolean p.fileContext])

def decode (datum : Datum) : Except DecodeError JournalPreferences := do
  let values ← fields .json false names datum
  let structured ← required "use_structured_logging" asBoolean (values[0]?.join)
  let console ← required "enable_console_logging" asBoolean (values[1]?.join)
  let least ← required "min_log_level" decodeLevel (values[2]?.join)
  let performance ← required "log_performance_events" asBoolean (values[3]?.join)
  let report ← required "enable_cargo_style_output" asBoolean (values[4]?.join)
  let fileContext ← required "include_file_context" asBoolean (values[5]?.join)
  return { structured, console, least, performance, report, fileContext }

end JournalPreferences

namespace Preferences

def names : List String := ["file_processor", "grammar", "tokenizer", "logging"]

def toDatum (p : Preferences) : Datum :=
  .record (names.zip [p.files.toDatum, p.grammars.toDatum, p.tokenizer.toDatum, p.journal.toDatum])

def decode (datum : Datum) : Except DecodeError Preferences := do
  let values ← fields .json false names datum
  let files ← required "file_processor" FilePreferences.decode (values[0]?.join)
  let grammars ← required "grammar" GrammarPreferences.decode (values[1]?.join)
  let tokenizer ← required "tokenizer" TokenizerPreferences.decode (values[2]?.join)
  let journal ← required "logging" JournalPreferences.decode (values[3]?.join)
  return { files, grammars, tokenizer, journal }

end Preferences

end LineLexer
