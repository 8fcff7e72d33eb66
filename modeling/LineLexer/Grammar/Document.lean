import LineLexer.Datum.Json
import LineLexer.Datum.Toml
import LineLexer.Grammar.Error
import LineLexer.SortedMap

/-!
# Grammar documents

What is written down of a grammar: states with their rules, and a table of brackets. A document is read
from TOML or JSON and written as JSON. Nothing is checked here beyond the shape.
-/

namespace LineLexer

/-- What happens to the stack of states after a rule has matched. -/
inductive Next where
  | stay
  | push (state : String)
  | pop
  | popAll
deriving DecidableEq, Repr

/-- A pair of delimiters and the label of both. -/
structure BracketEntry where
  opening : String
  closing : String
  token : String
deriving DecidableEq, Repr

/-- One rule of a state. -/
structure RuleEntry where
  pattern : String
  token : Option String
  /-- The match is labelled by the table of brackets. -/
  brackets : Bool
  next : Next
  /-- Stands above the grammar's own choice. -/
  ignoreCase : Option Bool
deriving DecidableEq, Repr

/-- A grammar as it is written down. -/
structure GrammarDocument where
  name : Option String
  initial : String
  /-- The label of input that no rule matches. -/
  defaultToken : Option String
  ignoreCase : Bool
  brackets : List BracketEntry
  states : SortedMap String (List RuleEntry)
deriving DecidableEq, Repr

/-- The initial state of a document that names none. -/
def defaultInitial : String := "root"

/-- The label of unmatched input in a document that names none. -/
def defaultUnmatched : String := "unmatched"

open Datum

/-! ## Reading -/

def Next.decode (shape : Shape) (datum : Datum) : Except DecodeError Next := do
  let (name, content) ← asVariant datum
  match name with
  | "stay" => noContent shape content; return .stay
  | "push" => return .push (← required "push" asText content)
  | "pop" => noContent shape content; return .pop
  | "pop_all" => noContent shape content; return .popAll
  | other => throw (.variantUnknown other)

def BracketEntry.decode (shape : Shape) (datum : Datum) : Except DecodeError BracketEntry := do
  let values ← fields shape true ["open", "close", "token"] datum
  let opening ← required "open" asText (values[0]?.join)
  let closing ← required "close" asText (values[1]?.join)
  let token ← required "token" asText (values[2]?.join)
  return ⟨opening, closing, token⟩

def RuleEntry.decode (shape : Shape) (datum : Datum) : Except DecodeError RuleEntry := do
  let values ← fields shape true ["pattern", "token", "brackets", "next", "ignore_case"] datum
  let pattern ← required "pattern" asText (values[0]?.join)
  let token ← withDefault none (asOption asText) (values[1]?.join)
  let brackets ← withDefault false asBoolean (values[2]?.join)
  let next ← withDefault .stay (Next.decode shape) (values[3]?.join)
  let ignoreCase ← withDefault none (asOption asBoolean) (values[4]?.join)
  return ⟨pattern, token, brackets, next, ignoreCase⟩

namespace GrammarDocument

def decodeRules (shape : Shape) (datum : Datum) : Except DecodeError (List RuleEntry) := do
  (← asList datum).mapM (RuleEntry.decode shape)

/-- Of two states with one name the later one stays. -/
def decodeStates (shape : Shape) (datum : Datum) :
    Except DecodeError (SortedMap String (List RuleEntry)) := do
  let entries ← (← asRecord datum).mapM fun (name, rules) =>
    return (name, ← decodeRules shape rules)
  return .ofList entries

def decode (shape : Shape) (datum : Datum) : Except DecodeError GrammarDocument := do
  let values ← fields shape true
    ["name", "initial", "default_token", "ignore_case", "brackets", "states"] datum
  let name ← withDefault none (asOption asText) (values[0]?.join)
  let initial ← withDefault defaultInitial asText (values[1]?.join)
  let defaultToken ← withDefault none (asOption asText) (values[2]?.join)
  let ignoreCase ← withDefault false asBoolean (values[3]?.join)
  let brackets ← withDefault [] asList (values[4]?.join)
  let brackets ← brackets.mapM (BracketEntry.decode shape)
  let states ← required "states" (decodeStates shape) (values[5]?.join)
  return ⟨name, initial, defaultToken, ignoreCase, brackets, states⟩

/-- The formats in which a document may be written. -/
inductive Format where
  | toml
  | json
deriving DecidableEq, Repr

def Format.name : Format → String
  | .toml => "TOML"
  | .json => "JSON"

def ofToml (source : String) : Except GrammarError GrammarDocument := do
  let datum ← (Toml.parse source).mapError fun fault => .unreadable "TOML" fault.message
  (decode .toml datum).mapError fun fault => .unreadable "TOML" fault.message

def ofJson (source : String) : Except GrammarError GrammarDocument := do
  let datum ← (Json.parse source).mapError fun fault => .unreadable "JSON" fault.message
  (decode .json datum).mapError fun fault => .unreadable "JSON" fault.message

def ofSource : Format → String → Except GrammarError GrammarDocument
  | .toml => ofToml
  | .json => ofJson

end GrammarDocument

/-! ## Writing -/

def Next.toDatum : Next → Datum
  | .stay => .text "stay"
  | .push state => .record [("push", .text state)]
  | .pop => .text "pop"
  | .popAll => .text "pop_all"

def BracketEntry.toDatum (entry : BracketEntry) : Datum :=
  .record [("open", .text entry.opening), ("close", .text entry.closing),
    ("token", .text entry.token)]

def RuleEntry.toDatum (entry : RuleEntry) : Datum :=
  .record [("pattern", .text entry.pattern), ("token", textOrNull entry.token),
    ("brackets", .boolean entry.brackets), ("next", entry.next.toDatum),
    ("ignore_case", (entry.ignoreCase.map .boolean).getD .null)]

namespace GrammarDocument

def toDatum (document : GrammarDocument) : Datum :=
  .record [("name", textOrNull document.name), ("initial", .text document.initial),
    ("default_token", textOrNull document.defaultToken),
    ("ignore_case", .boolean document.ignoreCase),
    ("brackets", .list (document.brackets.map BracketEntry.toDatum)),
    ("states", .record (document.states.entries.map fun (name, rules) =>
      (name, .list (rules.map RuleEntry.toDatum))))]

def toJson (document : GrammarDocument) : String := Json.compact document.toDatum

def ruleCount (document : GrammarDocument) : Nat :=
  (document.states.values.map List.length).foldr (· + ·) 0

end GrammarDocument

end LineLexer
