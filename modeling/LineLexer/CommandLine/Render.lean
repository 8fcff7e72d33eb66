import LineLexer.Batch.Config
import LineLexer.Batch.Results
import LineLexer.CommandLine.Help
import LineLexer.Datum.Json
import LineLexer.Diagnostics.Collector
import LineLexer.Grammar.Registry
import LineLexer.Position.SourceMap
import LineLexer.Text.Quoted
import LineLexer.Tokenize.Buffer

/-!
# Answers

The text of what the program answers.
-/

namespace LineLexer.CommandLine

open Diagnostics

/-! ## Tokens -/

/-- A token on one line, with its text in quotes. -/
def tokenLine (line : BufferLine) (token : Token) : String :=
  token.display ++ " " ++ Text.quoted ((token.text? line.text).getD "")

def bufferText (buffer : Buffer) : String :=
  unlines (buffer.lines.flatMap fun line => line.tokens.map (tokenLine line))

def tokenDatum (line : BufferLine) (token : Token) : Datum :=
  .recordOf [("start", some (.ofNat token.span.start.offset)),
    ("end", some (.ofNat token.span.stop.offset)), ("kind", some (.text token.kind)),
    ("text", some (.text ((token.text? line.text).getD ""))),
    ("bracket", token.bracket.map fun side => .text side.name)]

def bufferDatum (buffer : Buffer) : Datum :=
  .record [("grammar", .text buffer.grammar.name),
    ("lines", .list (buffer.lines.zipIdx.map fun (line, index) =>
      .record [("line", .ofNat (index + 1)), ("tokens", .list (line.tokens.map (tokenDatum line))),
        ("end_state", (buffer.endState line).toDatum)]))]

/-- The tokens that carry the grammar's default kind. -/
def defaultTokens (buffer : Buffer) : List Token :=
  buffer.tokens.filter (·.kind = buffer.grammar.defaultKind)

/-- A report for each token of the default kind, with its line of the source. -/
def unmatchedReports (buffer : Buffer) (source : String) : List String :=
  let map := SourceMap.ofText source
  let message := s!"input not matched by grammar '{buffer.grammar.name}'"
  (defaultTokens buffer).filterMap fun token => map.report? token.span message

/-! ## Grammars -/

def summaryText (summary : Grammar.Summary) : String :=
  let states := summary.states.map fun (name, rules) => s!"    {name}: {rules} rules"
  let unreachable := if summary.unreachable.isEmpty then []
    else ["  Unreachable states: " ++ ", ".intercalate summary.unreachable]
  unlines ([s!"Grammar '{summary.name}' is valid", s!"  Initial state: {summary.initial}",
      s!"  Default token: {summary.defaultKind}", s!"  Ignore case: {summary.ignoreCase}",
      s!"  States: {summary.states.length} ({summary.ruleCount} rules)"]
    ++ states
    ++ [s!"  Bracket pairs: {summary.bracketPairs}",
      "  Token kinds: " ++ ", ".intercalate summary.kinds]
    ++ unreachable)

def languageLine (registry : Registry) (name : String) : Option String :=
  (registry.find? name).map fun grammar =>
    let aliases := registry.aliasesOf name
    let note := if aliases.isEmpty then "" else " (aliases: " ++ ", ".intercalate aliases ++ ")"
    s!"  {name}{note}: {grammar.states.length} states, {grammar.ruleCount} rules"

def languagesText (registry : Registry) : String :=
  unlines ("Built-in grammars:" :: registry.names.filterMap (languageLine registry))

/-! ## Batches -/

def batchHead (directory : String) (grammar : Grammar) (config : Batch.Config) : String :=
  unlines [s!"Starting batch tokenization: {directory}",
    s!"Configuration: grammar={grammar.name}, {config.maxThreads} threads, "
      ++ s!"recursive={config.recursive}, fail_fast={config.failFast}"]

/-- The greatest number of successful files that are listed. -/
def listedFiles : Nat := 10

/-- Bytes and tokens for each second, if a time was measured. -/
def rateLines (results : Batch.Results) : List String :=
  let seconds := results.duration.inSeconds
  if 0.0 < seconds && !results.successful.isEmpty then
    let bytes := Decimal.fixed 0 (Float.ofNat results.totalBytes / seconds)
    let tokens := Decimal.fixed 0 (Float.ofNat results.totalTokens / seconds)
    [s!"  Processing rate: {bytes} bytes/sec, {tokens} tokens/sec"]
  else []

def failedLines (results : Batch.Results) : List String :=
  if results.failed.isEmpty then []
  else ["", "Failed Files:"] ++ results.failed.map fun (path, failure) =>
    s!"  {path.text}: [{failure.code.text}] {failure.message}"

def successfulLines (results : Batch.Results) : List String :=
  let count := results.successCount
  if 0 < count && count ≤ listedFiles then
    ["", "Successful Files:"] ++ results.successful.map fun (path, stats) =>
      s!"  {path.text}: {stats.lines} lines, {stats.tokens} tokens, {stats.unmatched} unmatched"
  else []

def resultsText (results : Batch.Results) : String :=
  unlines (["Batch Tokenization Summary:", s!"  Files discovered: {results.discovered}",
      s!"  Files processed: {results.processed}",
      s!"  Successful: {results.successCount} ({results.successPercent}%)",
      s!"  Failed: {results.failureCount}",
      s!"  Tokens: {results.totalTokens} ({results.totalUnmatched} unmatched)",
      s!"  Total time: {results.durationText}s"]
    ++ rateLines results ++ failedLines results ++ successfulLines results)

/-- The counts of errors and warnings; nothing if there was no file. -/
def tallyText (tally : Tally) : String :=
  if tally.files = 0 then ""
  else
    let counts := if tally.hasErrors || tally.hasWarnings then
        [s!"  Logged: {tally.errors} errors, {tally.warnings} warnings"]
      else []
    unlines (["", "Diagnostics:",
      s!"  Files: {tally.clean} clean, {tally.withWarnings} with warnings, "
        ++ s!"{tally.withErrors} with errors"] ++ counts)

end LineLexer.CommandLine
