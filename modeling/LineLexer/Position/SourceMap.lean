import LineLexer.Position.Basic
import LineLexer.Text.Lines

/-!
# Source maps

The lines of a text, found again from byte offsets and line numbers, and the report that shows a
place of the text with its line.
-/

namespace LineLexer

/-- One line of a text, without its line feed, and the byte offset at which it starts. -/
structure SourceLine where
  start : Nat
  text : List Char
deriving DecidableEq, Repr

/-- A text as its lines, with the place of each. -/
structure SourceMap where
  lines : Array SourceLine
deriving DecidableEq, Repr

namespace SourceMap

/-- Places lines one behind the other; a line feed stands between two of them. -/
def place (lines : List (List Char)) : Array SourceLine :=
  (lines.foldl (fun (placed, start) line =>
    (placed.push ⟨start, line⟩, start + Text.byteLength line + 1)) (#[], 0)).1

def ofText (source : String) : SourceMap := ⟨place (Text.splitLines source.toList)⟩

def lineCount (map : SourceMap) : Nat := map.lines.size

/-- The position of a byte offset of the whole text; none if the offset is past the end of the text
or inside a character. -/
def positionAt? (map : SourceMap) (offset : Nat) : Option Position := do
  let after := (map.lines.findIdx? (offset < ·.start)).getD map.lines.size
  let line ← map.lines[after - 1]?
  let (front, _) ← Text.splitBytes (offset - line.start) line.text
  return ⟨offset - line.start, after, front.length + 1⟩

/-- Drops carriage returns at the end. -/
def trimReturns (line : List Char) : List Char :=
  (line.reverse.dropWhile (· = '\r')).reverse

/-- The line with a number, without what ends it; none if there is no such line. -/
def line? (map : SourceMap) (number : Nat) : Option String :=
  if number = 0 then none
  else (map.lines[number - 1]?).map fun line => String.ofList (trimReturns line.text)

def blanks (count : Nat) : String := String.ofList (List.replicate count ' ')

/-- Shows a place with its line and a row of carets under it; none if the span ends in a column
before its start. -/
def report? (map : SourceMap) (span : Span) (message : String) : Option String := do
  let head := "warning: " ++ message ++ "\n  --> " ++ span.start.display ++ "\n"
  match map.line? span.start.line with
  | none => return head
  | some line =>
    let length ← span.charLength?
    let number := toString span.start.line
    let margin := blanks number.length
    let carets := String.ofList (List.replicate (max length 1) '^')
    return head ++ margin ++ " |\n" ++ number ++ " | " ++ line ++ "\n"
      ++ margin ++ " | " ++ blanks (span.start.column - 1) ++ carets ++ "\n"

end SourceMap

end LineLexer
