import LineLexer.Grammar.Basic
import LineLexer.Position.Datum

/-!
# Tokens

A token is a span of a line with its kind; a bracket tells its side too.
-/

namespace LineLexer

open Datum

/-- A span of a line with its kind. -/
structure Token where
  span : Span
  kind : String
  bracket : Option BracketSide
deriving DecidableEq, Repr

namespace Token

/-- The token of a text that begins at a position. -/
def covering (start : Position) (text : List Char) (kind : String) (bracket : Option BracketSide) :
    Token :=
  ⟨.covering start text, kind, bracket⟩

/-- The token's text on its line; none if the span leaves the line or cuts a character. -/
def text? (token : Token) (line : String) : Option String := token.span.slice? line

def display (token : Token) : String := token.span.display ++ " " ++ token.kind

/-- The same token on another line. -/
def onLine (token : Token) (number : Nat) : Token :=
  { token with
    span := ⟨{ token.span.start with line := number }, { token.span.stop with line := number }⟩ }

end Token

/-! ## Tokens as data -/

def BracketSide.name : BracketSide → String
  | .opening => "open"
  | .closing => "close"

def BracketSide.decode (datum : Datum) : Except DecodeError BracketSide := do
  let (name, content) ← asVariant datum
  match name with
  | "open" => noContent .json content; return .opening
  | "close" => noContent .json content; return .closing
  | other => throw (.variantUnknown other)

namespace Token

/-- The side is left out where there is none. -/
def toDatum (token : Token) : Datum :=
  recordOf [("span", some token.span.toDatum), ("kind", some (.text token.kind)),
    ("bracket", token.bracket.map fun side => .text side.name)]

def decode (datum : Datum) : Except DecodeError Token := do
  let values ← fields .json false ["span", "kind", "bracket"] datum
  let span ← required "span" Span.decode (values[0]?.join)
  let kind ← required "kind" asText (values[1]?.join)
  let bracket ← withDefault none (asOption BracketSide.decode) (values[2]?.join)
  return ⟨span, kind, bracket⟩

end Token

end LineLexer
