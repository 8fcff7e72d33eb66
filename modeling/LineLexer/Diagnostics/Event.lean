import LineLexer.Datum.Json
import LineLexer.Diagnostics.Code
import LineLexer.Limits
import LineLexer.Position.Basic
import LineLexer.SortedMap
import LineLexer.Text.Bytes

/-!
# Events

An event tells that something has happened: how grave it is, its code, a message, where, and named
details. It is shown as one line of text or as a record.
-/

namespace LineLexer.Diagnostics

/-- How grave an event is. -/
inductive Level where
  | error
  | warning
  | info
  | debug
deriving DecidableEq, Repr

namespace Level

/-- Graver levels have lower ranks. -/
def rank : Level → Nat
  | error => 0
  | warning => 1
  | info => 2
  | debug => 3

def name : Level → String
  | error => "ERROR"
  | warning => "WARN"
  | info => "INFO"
  | debug => "DEBUG"

/-- The event is at least as grave as the level asks for. -/
def admits (least level : Level) : Bool := level.rank ≤ least.rank

end Level

/-- Something that has happened. -/
structure Event where
  level : Level
  code : Code
  message : String
  span : Option Span
  /-- Details by name. -/
  context : SortedMap String String
deriving DecidableEq, Repr

namespace Event

/-- The longest front of a message that is short enough, marked if it is not the whole. -/
def shorten (message : String) : String :=
  if message.utf8ByteSize ≤ Limits.messageLength then message
  else String.ofList (Text.frontWithin Limits.messageLength message.toList) ++ "..."

/-- An event with named details; of two with the same name the later one stays. -/
def make (level : Level) (code : Code) (message : String) (details : List (String × String)) :
    Event :=
  ⟨level, code, shorten message, none, .ofList details⟩

def error (code : Code) (message : String) (details : List (String × String)) : Event :=
  make .error code message details

def warning (code : Code) (message : String) (details : List (String × String)) : Event :=
  make .warning code message details

/-- Tells that something has gone well. -/
def success (code : Code) (message : String) (details : List (String × String)) : Event :=
  make .info code message details

def info (message : String) (details : List (String × String)) : Event :=
  make .info .plainInfo message details

def debug (message : String) (details : List (String × String)) : Event :=
  make .debug .plainDebug message details

def withSpan (event : Event) (span : Span) : Event := { event with span := some span }

def withDetail (event : Event) (key value : String) : Event :=
  { event with context := event.context.insert key value }

def isError (event : Event) : Bool := event.level = .error

def isWarning (event : Event) : Bool := event.level = .warning

/-- Errors and warnings are what a reader has to look into. -/
def isProblem (event : Event) : Bool := event.isError || event.isWarning

/-- The event on one line. -/
def display (event : Event) : String :=
  let place := match event.span with
    | some span => " at " ++ span.start.display
    | none => ""
  let details := event.context.entries.map fun (key, value) => key ++ "=" ++ value
  let details := if details.isEmpty then "" else " \x7b" ++ ", ".intercalate details ++ "\x7d"
  s!"[{event.level.name}] {event.code.text} - {event.message}" ++ place ++ details

/-- The event as a record. Errors tell what their code stands for. -/
def toDatum (event : Event) : Datum :=
  let error := if event.isError then
      [("severity", .text event.code.severity.name),
        ("requires_halt", .boolean event.code.requiresHalt),
        ("recommended_action", .text event.code.action)]
    else []
  let place := match event.span with
    | some span => [("line", .ofNat span.start.line), ("column", .ofNat span.start.column)]
    | none => []
  let details := if event.context.isEmpty then [] else
    [("context", .record (event.context.entries.map fun (key, value) => (key, .text value)))]
  .record ([("level", .text event.level.name), ("code", .text event.code.text),
    ("category", .text event.code.category), ("message", .text event.message)]
    ++ error ++ place ++ details)

end Event

end LineLexer.Diagnostics
