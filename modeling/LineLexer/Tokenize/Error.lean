import LineLexer.Diagnostics.Code

/-!
# Faults of tokenizing

Why lines are not taken apart. Input that no rule matches is no fault.
-/

namespace LineLexer

open Diagnostics

/-- The causes for which a call on lines or documents fails. Lines count from zero. -/
inductive TokenizeError where
  | stateUnknown (grammar state : String)
  | lineOutOfRange (index lineCount : Nat)
  | lineBreakEmbedded (index : Nat)
  /-- There is no room on the stack for the state. -/
  | stackDepthExceeded (state : String) (limit : Nat)
deriving DecidableEq, Repr

namespace TokenizeError

def message : TokenizeError → String
  | stateUnknown grammar state =>
    s!"State stack names '{state}', which grammar '{grammar}' does not define"
  | lineOutOfRange index lineCount =>
    s!"Line {index} is out of range (document has {lineCount} lines)"
  | lineBreakEmbedded index => s!"Text for line {index} contains a line break"
  | stackDepthExceeded state limit =>
    s!"Pushing '{state}' would exceed the state stack limit of {limit}"

def code : TokenizeError → Code
  | stateUnknown .. => .stateUnknown
  | lineOutOfRange .. => .lineOutOfRange
  | lineBreakEmbedded .. => .lineBreakEmbedded
  | stackDepthExceeded .. => .stackDepthExceeded

end TokenizeError

end LineLexer
