import LineLexer.Diagnostics.Steps
import LineLexer.Text.Quoted
import LineLexer.Tokenize.Buffer
import LineLexer.Tokenize.Session

/-!
# Telling of lines

The answers of scans, sessions and buffers, with the events that a scan gives rise to told to the
journal: lines that are too long, characters that no rule has taken, and stacks without room.
-/

namespace LineLexer

open Diagnostics

/-! ## Lines -/

/-- What is told of a line that is too long to be taken apart. -/
def overlongEvent (line : String) (number : Nat) : Event :=
  .warning .lineTooLong "Line exceeds tokenization limit; emitting one span"
    [("line", toString number), ("length", toString line.utf8ByteSize),
      ("limit", toString Limits.lineLength)]

namespace Unmatched

def event (char : Unmatched) : Event :=
  .debug "Unmatched input"
    [("line", toString char.position.line), ("column", toString char.position.column),
      ("state", char.state), ("char", Text.escaped char.char)]

end Unmatched

namespace Scan

/-- What is told of a line that was taken apart. -/
def events (scan : Scan) (grammar : Grammar) (preferences : TokenizerPreferences) : List Event :=
  let unmatched := if preferences.tellUnmatched then scan.unmatched.map Unmatched.event else []
  let refused := scan.refused.toList.map fun state =>
    Event.debug "State stack full; rejecting push"
      [("grammar", grammar.name), ("pushed", state), ("limit", toString Limits.stackDepth)]
  unmatched ++ refused

/-- Tells of the scan of a line. -/
def tell (scan : Scan) (grammar : Grammar) (line : String) (number : Nat) : Steps Unit := do
  if scan.overlong then Steps.note (overlongEvent line number)
  else Steps.noteAll (scan.events grammar (← Steps.preferences))

end Scan

/-- Tells of the scans of lines; the first one has the index `start`. -/
def tellLines (grammar : Grammar) (start : Nat) (lines : List ScannedLine) : Steps Unit :=
  lines.zipIdx.forM fun (line, offset) =>
    line.scan.tell grammar line.text (lineNumber (start + offset))

namespace Grammar

def tokenizeLineAtLogged (grammar : Grammar) (stack : StateStack) (line : String) (number : Nat) :
    Logged (Except TokenizeError LineTokens) := do
  match stack.resolve grammar with
  | .error fault => return .error fault
  | .ok frames =>
    let scan := grammar.scan (some Limits.stackDepth) frames line number
    (scan.tell grammar line number).run
    return scan.toLineTokens grammar

end Grammar

/-! ## Sessions -/

/-- Takes the next line, as `Session.feed` does. -/
def Session.feedLogged (session : Session) (line : String) :
    Logged (Except TokenizeError (List Token) × Session) := do
  return session.advance
    (← session.grammar.tokenizeLineAtLogged session.stack line session.nextLine)

/-! ## Buffers -/

namespace Buffer

/-- What is told of a new buffer, if counts were asked for. -/
def events (buffer : Buffer) : List Event :=
  buffer.metrics.toList.map fun metrics =>
    .success .linesTokenized "Document tokenized"
      [("grammar", buffer.grammar.name), ("lines", toString metrics.lines),
        ("tokens", toString metrics.tokens), ("unmatched", toString metrics.unmatched),
        ("duration_ms", untimed)]

def ofLinesLogged (grammar : Grammar) (texts : List String) :
    Steps (Except TokenizeError Buffer) := do
  let preferences ← Steps.preferences
  let lines := grammar.scanLines texts
  tellLines grammar 0 lines
  let result := ofScans grammar preferences.collectMetrics lines
  if let .ok buffer := result then Steps.noteAll buffer.events
  return result

def ofTextLogged (grammar : Grammar) (text : String) : Steps (Except TokenizeError Buffer) :=
  ofLinesLogged grammar (documentLines text)

/-- What is told of an edit. -/
def editEvents (buffer : Buffer) (range : LineRange) (performance : Bool) : List Event :=
  let rescanned := Event.debug "Document retokenized"
    [("grammar", buffer.grammar.name), ("from", toString range.start),
      ("to", toString range.stop), ("lines", toString buffer.lineCount)]
  let updated := Event.success .linesUpdated "Document updated"
    [("retokenized", toString range.length)]
  if performance then [rescanned, updated] else [rescanned]

/-- Makes a change, as `Buffer.edit` does. -/
def editLogged (buffer : Buffer) (change : Edit) :
    Logged (Except TokenizeError LineRange × Buffer) := do
  match buffer.draft change with
  | .error fault => return (.error fault, buffer)
  | .ok draft =>
    let rescan := draft.rescan buffer.grammar
    (tellLines buffer.grammar draft.start (rescan.scanned.map (·.toScannedLine))).run
    let (result, after) := buffer.commit draft rescan
    if let .ok range := result then
      noteAll (after.editEvents range (← get).preferences.journal.performance)
    return (result, after)

end Buffer

end LineLexer
