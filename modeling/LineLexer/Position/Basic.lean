import LineLexer.Text.Bytes
import LineLexer.Limits

/-!
# Positions and spans

A position is a place on a line: its byte offset from the line's start, the number of the line, and
the column, which counts characters. Lines and columns count from one. A span reaches from one
position up to another one.
-/

namespace LineLexer

/-- A place on a line. -/
structure Position where
  offset : Nat
  line : Nat
  column : Nat
deriving DecidableEq, Repr, Inhabited

namespace Position

/-- The start of a line. -/
def lineStart (line : Nat) : Position := ⟨0, line, 1⟩

/-- The place behind a character. -/
def advance (pos : Position) (c : Char) : Position :=
  { pos with offset := pos.offset + c.utf8Size, column := pos.column + 1 }

/-- The place behind a run of text without a line break. -/
def advanceOver (pos : Position) (text : List Char) : Position := text.foldl advance pos

/-- All numbers of the position are within their bounds. -/
def Fits (pos : Position) : Prop :=
  pos.offset < Limits.wordSize ∧ pos.line < Limits.numberSize ∧ pos.column < Limits.numberSize

instance (pos : Position) : Decidable pos.Fits := inferInstanceAs (Decidable (_ ∧ _ ∧ _))

/-- The place as line and column. -/
def display (pos : Position) : String := s!"{pos.line}:{pos.column}"

theorem advanceOver_eq (pos : Position) (text : List Char) :
    pos.advanceOver text =
      ⟨pos.offset + Text.byteLength text, pos.line, pos.column + text.length⟩ := by
  induction text generalizing pos with
  | nil => rfl
  | cons c rest ih =>
    have h := ih (pos.advance c)
    rw [advanceOver, List.foldl_cons]
    rw [advanceOver] at h
    rw [h]
    simp [advance]
    omega

end Position

/-- The text from one position up to another one. -/
structure Span where
  start : Position
  stop : Position
deriving DecidableEq, Repr, Inhabited

namespace Span

/-- The span of a text that begins at a position and holds no line break. -/
def covering (start : Position) (text : List Char) : Span := ⟨start, start.advanceOver text⟩

/-- The span of a text, unless its end is out of bounds. -/
def covering? (start : Position) (text : List Char) : Option Span :=
  let span := covering start text
  if span.stop.Fits then some span else none

/-- The length in bytes; none if the span ends before its start. -/
def length? (span : Span) : Option Nat :=
  if span.stop.offset < span.start.offset then none
  else some (span.stop.offset - span.start.offset)

def isEmpty (span : Span) : Bool := span.start.offset = span.stop.offset

/-- The length in characters, as the columns tell it; none if the end has the smaller column. -/
def charLength? (span : Span) : Option Nat :=
  if span.stop.column < span.start.column then none
  else some (span.stop.column - span.start.column)

/-- The position is on the line of the span's start and within its bytes. -/
def contains (span : Span) (pos : Position) : Bool :=
  pos.line = span.start.line && span.start.offset ≤ pos.offset && pos.offset < span.stop.offset

/-- The text of the span on its line; none if it leaves the line or cuts a character. -/
def slice? (span : Span) (line : String) : Option String :=
  (Text.sliceBytes span.start.offset span.stop.offset line.toList).map String.ofList

/-- The span as its places; the line is given once if start and end share it. -/
def display (span : Span) : String :=
  if span.start.line = span.stop.line then
    s!"{span.start.line}:{span.start.column}-{span.stop.column}"
  else span.start.display ++ "-" ++ span.stop.display

end Span

/-- A value with the place where it stands. -/
structure Spanned (α : Type) where
  value : α
  span : Span
deriving DecidableEq, Repr

/-- Changes the value and keeps its place. -/
def Spanned.map {α β : Type} (f : α → β) (spanned : Spanned α) : Spanned β :=
  ⟨f spanned.value, spanned.span⟩

end LineLexer
