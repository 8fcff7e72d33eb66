import LineLexer.Text.Lines
import LineLexer.Tokenize.Scan

/-!
# Buffers

A buffer holds the lines of a document with their tokens and the stack after each. A line may be
changed, put in or taken out. From there on lines are scanned again until one ends with the stack
that it had before: all lines behind it start as they did, so they keep their tokens. The outcome
is the same as if the whole document had been scanned anew. An edit changes the lines first and
scans them afterwards; if that fails the change is taken back.
-/

namespace LineLexer

/-- A line with what its scan has found. -/
structure BufferLine where
  text : String
  tokens : List Token
  /-- The stack with which the next line starts, by the names of its states. -/
  endState : StateStack
  /-- The same stack as the scan of the next line takes it. -/
  frames : Frames
deriving DecidableEq, Repr

/-- Counts over a document. -/
structure Metrics where
  lines : Nat
  tokens : Nat
  /-- Characters that no rule has taken. -/
  unmatched : Nat
  stackDepth : Nat
  /-- Lines that edits have caused to be scanned again. -/
  rescanned : Nat
deriving DecidableEq, Repr

/-- The lines of a document under a grammar. -/
structure Buffer where
  grammar : Grammar
  lines : List BufferLine
  /-- Counts of the scan that has made the buffer, if they were asked for. -/
  metrics : Option Metrics
deriving DecidableEq, Repr

/-- The number of the line with an index; numbers stay within their bound. -/
def lineNumber (index : Nat) : Nat := min (index + 1) (Limits.numberSize - 1)

/-- A line and its scan. -/
structure ScannedLine where
  text : String
  scan : Scan
deriving DecidableEq, Repr

def ScannedLine.toBufferLine (grammar : Grammar) (line : ScannedLine) : BufferLine :=
  ⟨line.text, line.scan.tokens, .ofFrames grammar line.scan.frames, line.scan.frames⟩

/-- The fault of the last line of a run; only the last one can have one. -/
def faultOf (lines : List ScannedLine) : Option TokenizeError :=
  lines.getLast?.bind (·.scan.fault?)

namespace Metrics

def zero : Metrics := ⟨0, 0, 0, 0, 0⟩

def add (metrics : Metrics) (scan : Scan) : Metrics where
  lines := metrics.lines + 1
  tokens := metrics.tokens + scan.tokens.length
  unmatched := metrics.unmatched + scan.unmatched.length
  stackDepth := max metrics.stackDepth scan.depth
  rescanned := metrics.rescanned

def ofScans (lines : List ScannedLine) : Metrics := lines.foldl (fun m line => m.add line.scan) zero

end Metrics

namespace Grammar

/-- Scans the line with an index. -/
def scanLine (grammar : Grammar) (frames : Frames) (index : Nat) (text : String) : ScannedLine :=
  ⟨text, grammar.scan (some Limits.stackDepth) frames text (lineNumber index)⟩

/-- Goes on scanning; `done` holds the lines before, the last one first. -/
def scanLinesFrom (grammar : Grammar) :
    (done : List ScannedLine) → Frames → (index : Nat) → List String → List ScannedLine
  | done, _, _, [] => done.reverse
  | done, frames, index, text :: rest =>
    let line := grammar.scanLine frames index text
    if line.scan.refused.isSome then (line :: done).reverse
    else grammar.scanLinesFrom (line :: done) line.scan.frames (index + 1) rest

/-- Scans lines in order, each from the stack that the one before it has left; a line with a fault
is the last one. -/
def scanLines (grammar : Grammar) (texts : List String) : List ScannedLine :=
  grammar.scanLinesFrom [] [] 0 texts

end Grammar

/-- The lines of a text, as a document holds them. -/
def documentLines (text : String) : List String :=
  (Text.splitLines text.toList).map fun line => String.ofList (Text.dropReturn line)

namespace Buffer

/-- The buffer of lines that have been scanned without a fault. -/
def ofScans (grammar : Grammar) (collect : Bool) (lines : List ScannedLine) :
    Except TokenizeError Buffer :=
  match faultOf lines with
  | some fault => .error fault
  | none => .ok ⟨grammar, lines.map (·.toBufferLine grammar),
      if collect then some (.ofScans lines) else none⟩

/-- Scans the lines of a document; `collect` asks for counts. -/
def ofLines (grammar : Grammar) (collect : Bool) (texts : List String) :
    Except TokenizeError Buffer :=
  ofScans grammar collect (grammar.scanLines texts)

def ofText (grammar : Grammar) (collect : Bool) (text : String) : Except TokenizeError Buffer :=
  ofLines grammar collect (documentLines text)

def lineCount (buffer : Buffer) : Nat := buffer.lines.length

def texts (buffer : Buffer) : List String := buffer.lines.map (·.text)

def text (buffer : Buffer) : String := "\n".intercalate buffer.texts

def tokens (buffer : Buffer) : List Token := buffer.lines.flatMap (·.tokens)

/-- The stack after a line. -/
def endState (_ : Buffer) (line : BufferLine) : StateStack := line.endState

/-- The stack after the last line. -/
def finalState (buffer : Buffer) : StateStack :=
  (buffer.lines.getLast?.map buffer.endState).getD .initial

end Buffer

/-! ## Edits -/

/-- A change of one line. Lines count from zero. -/
inductive Edit where
  | update (index : Nat) (text : String)
  /-- Puts a line before the one with the index, or behind the last one. -/
  | insert (index : Nat) (text : String)
  | remove (index : Nat)
deriving DecidableEq, Repr

/-- How the change of the lines that an edit begins with is taken back. -/
inductive Undo where
  | restore (index : Nat) (text : String)
  | takeOut (index : Nat)
  | putBack (index : Nat) (line : BufferLine)
deriving DecidableEq, Repr

def Undo.apply : Undo → List BufferLine → List BufferLine
  | restore index text, lines => lines.modify index ({ · with text := text })
  | takeOut index, lines => lines.eraseIdx index
  | putBack index line, lines => lines.insertIdx index line

/-- An edit that has been made on the lines of a buffer, before anything is scanned. -/
structure Draft where
  /-- The lines after the edit; their tokens and stacks are still those before it. -/
  lines : List BufferLine
  /-- The first line to be scanned again. -/
  start : Nat
  /-- The first index at which a stack may be found unchanged. -/
  compareFrom : Nat
  /-- The edit has moved the lines behind it. -/
  shifted : Bool
  undo : Undo
deriving DecidableEq, Repr

/-- The text of one line, without a carriage return at its end. -/
def singleLine (index : Nat) (text : String) : Except TokenizeError String :=
  let line := Text.dropReturn text.toList
  if line.any (fun c => c = '\n' || c = '\r') then .error (.lineBreakEmbedded index)
  else .ok (String.ofList line)

namespace Buffer

/-- Refuses an index that is not below a bound, and else answers that it is. -/
def checkIndex (buffer : Buffer) (index bound : Nat) :
    Except TokenizeError (PLift (index < bound)) :=
  if h : index < bound then .ok ⟨h⟩ else .error (.lineOutOfRange index buffer.lineCount)

/-- Checks an edit and makes it on the lines. A new line has no stack to compare with. -/
def draft (buffer : Buffer) : Edit → Except TokenizeError Draft
  | .update index text => do
    let ⟨_⟩ ← buffer.checkIndex index buffer.lines.length
    let text ← singleLine index text
    return ⟨buffer.lines.modify index ({ · with text := text }), index, index, false,
      .restore index buffer.lines[index].text⟩
  | .insert index text => do
    let _ ← buffer.checkIndex index (buffer.lines.length + 1)
    let text ← singleLine index text
    return ⟨buffer.lines.insertIdx index ⟨text, [], .initial, []⟩, index, index + 1, true,
      .takeOut index⟩
  | .remove index => do
    let ⟨_⟩ ← buffer.checkIndex index buffer.lines.length
    return ⟨buffer.lines.eraseIdx index, index, index, true, .putBack index buffer.lines[index]⟩

end Buffer

/-- A line that was scanned again. -/
structure RescannedLine where
  /-- The line as it was before. -/
  line : BufferLine
  scan : Scan
  /-- The line has ended with the stack that it had before. -/
  settled : Bool
deriving DecidableEq, Repr

namespace RescannedLine

def toScannedLine (line : RescannedLine) : ScannedLine := ⟨line.line.text, line.scan⟩

/-- The line with its new tokens; its stack is written only if it is a new one. -/
def toBufferLine (grammar : Grammar) (line : RescannedLine) : BufferLine :=
  if line.settled then { line.line with tokens := line.scan.tokens }
  else line.toScannedLine.toBufferLine grammar

end RescannedLine

/-- What scanning again has found, up to the line with an unchanged stack or a fault. -/
structure Rescan where
  scanned : List RescannedLine
  /-- The lines behind, as they were. -/
  kept : List BufferLine
deriving DecidableEq, Repr

/-- The fault that has ended scanning again, if there was one. -/
def Rescan.fault? (rescan : Rescan) : Option TokenizeError :=
  faultOf (rescan.scanned.map (·.toScannedLine))

namespace Draft

/-- Goes on scanning again; `done` holds the lines before, the last one first. -/
def rescanFrom (grammar : Grammar) (compareFrom : Nat) :
    (done : List RescannedLine) → Frames → (index : Nat) → List BufferLine → Rescan
  | done, _, _, [] => ⟨done.reverse, []⟩
  | done, frames, index, line :: rest =>
    let scan := (grammar.scanLine frames index line.text).scan
    let settled := compareFrom ≤ index && scan.frames = line.frames
    if scan.refused.isSome || settled then ⟨(⟨line, scan, settled⟩ :: done).reverse, rest⟩
    else rescanFrom grammar compareFrom (⟨line, scan, settled⟩ :: done) scan.frames (index + 1) rest

/-- The stack with which the first line to be scanned again starts. -/
def startFrames (draft : Draft) : Frames :=
  ((draft.lines.take draft.start).getLast?.map (·.frames)).getD []

def rescan (draft : Draft) (grammar : Grammar) : Rescan :=
  rescanFrom grammar draft.compareFrom [] draft.startFrames draft.start
    (draft.lines.drop draft.start)

end Draft

/-- Lines from `start` up to `stop`, which is not among them. -/
structure LineRange where
  start : Nat
  stop : Nat
deriving DecidableEq, Repr

def LineRange.length (range : LineRange) : Nat := range.stop - range.start

/-- Gives the tokens of lines the numbers that their indices ask for. -/
def renumberFrom (index : Nat) (lines : List BufferLine) : List BufferLine :=
  lines.zipIdx.map fun (line, offset) =>
    { line with tokens := line.tokens.map (·.onLine (lineNumber (index + offset))) }

namespace Buffer

/-- Writes back what was scanned again. If a line has a fault nothing is written, and the change of
the lines is taken back. -/
def commit (buffer : Buffer) (draft : Draft) (rescan : Rescan) :
    Except TokenizeError LineRange × Buffer :=
  match rescan.fault? with
  | some fault => (.error fault, { buffer with lines := draft.undo.apply draft.lines })
  | none =>
    let stop := draft.start + rescan.scanned.length
    let kept := if draft.shifted then renumberFrom stop rescan.kept else rescan.kept
    let metrics := buffer.metrics.map fun metrics =>
      { metrics with rescanned := metrics.rescanned + rescan.scanned.length }
    (.ok ⟨draft.start, stop⟩,
      { buffer with
        lines := draft.lines.take draft.start
          ++ rescan.scanned.map (·.toBufferLine buffer.grammar) ++ kept
        metrics })

/-- Makes an edit: the lines that were scanned again or why there are none, and the buffer after
it. -/
def edit (buffer : Buffer) (change : Edit) : Except TokenizeError LineRange × Buffer :=
  match buffer.draft change with
  | .error fault => (.error fault, buffer)
  | .ok draft => buffer.commit draft (draft.rescan buffer.grammar)

end Buffer

end LineLexer
