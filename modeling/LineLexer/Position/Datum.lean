import LineLexer.Datum.Basic
import LineLexer.Position.Basic

/-!
# Positions as data

Positions and spans are written as records of their parts.
-/

namespace LineLexer

open Datum

namespace Position

def toDatum (pos : Position) : Datum :=
  .record [("offset", .ofNat pos.offset), ("line", .ofNat pos.line), ("column", .ofNat pos.column)]

def decode (datum : Datum) : Except DecodeError Position := do
  let values ← fields .json false ["offset", "line", "column"] datum
  let offset ← required "offset" (asNat Limits.wordSize) (values[0]?.join)
  let line ← required "line" (asNat Limits.numberSize) (values[1]?.join)
  let column ← required "column" (asNat Limits.numberSize) (values[2]?.join)
  return ⟨offset, line, column⟩

end Position

namespace Span

def toDatum (span : Span) : Datum :=
  .record [("start", span.start.toDatum), ("end", span.stop.toDatum)]

def decode (datum : Datum) : Except DecodeError Span := do
  let values ← fields .json false ["start", "end"] datum
  let start ← required "start" Position.decode (values[0]?.join)
  let stop ← required "end" Position.decode (values[1]?.join)
  return ⟨start, stop⟩

end Span

namespace Spanned

def toDatum (spanned : Spanned String) : Datum :=
  .record [("value", .text spanned.value), ("span", spanned.span.toDatum)]

def decode (datum : Datum) : Except DecodeError (Spanned String) := do
  let values ← fields .json false ["value", "span"] datum
  let value ← required "value" asText (values[0]?.join)
  let span ← required "span" Span.decode (values[1]?.join)
  return ⟨value, span⟩

end Spanned

end LineLexer
