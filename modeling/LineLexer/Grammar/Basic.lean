import LineLexer.Datum.Basic
import LineLexer.Pattern.Search
import LineLexer.SortedMap
import LineLexer.Text.Bytes

/-!
# Grammars

A grammar is a machine with a stack of states. The rules of the state on top are tried in order on
the text that is left of a line; a rule that matches gives the matched text a kind and changes the
stack. States are named by their index.
-/

namespace LineLexer

open Pattern

/-- What happens to the stack after a rule has matched. -/
inductive Transition where
  | stay
  | push (target : Nat) (name : String)
  | pop
  | popAll
deriving DecidableEq, Repr

/-- How matched text gets its kind. -/
inductive TokenAction where
  | token (kind : String)
  /-- The kind is looked up in the grammar's table of brackets. -/
  | brackets
deriving DecidableEq, Repr

/-- The side of a pair of brackets. -/
inductive BracketSide where
  | opening
  | closing
deriving DecidableEq, Repr

/-- A pattern with what its match means. -/
structure Rule where
  /-- The pattern as it was written. -/
  pattern : String
  program : Program
  /-- The rule is tried at the start of a line only. -/
  lineStartOnly : Bool
  action : TokenAction
  transition : Transition
deriving DecidableEq, Repr

/-- The rules that are tried, in order, while the state is on top of the stack. -/
structure State where
  name : String
  rules : List Rule
deriving DecidableEq, Repr

/-- Two delimiters and the kind of both. -/
structure BracketPair where
  opening : String
  closing : String
  kind : String
deriving DecidableEq, Repr

/-- A grammar that is ready for use. The states stand in the order of their names. -/
structure Grammar where
  name : String
  initial : Nat
  states : List State
  /-- The indices of the states by their names. -/
  index : SortedMap String Nat
  /-- The kind of input that no rule matches. -/
  defaultKind : String
  ignoreCase : Bool
  brackets : List BracketPair
  /-- The names of the states that are never pushed, starting from the initial one. -/
  unreachable : List String
deriving DecidableEq, Repr

/-- The length in characters of the rule's match at the front of `rest`, the text that is left of
a line; `atLineStart` tells that this is the whole line. -/
def Rule.match? (rule : Rule) (atLineStart : Bool) (rest : List Char) : Option Nat :=
  if rule.lineStartOnly && !atLineStart then none else rule.program.matchEnd? rest

/-- The length in bytes of the rule's match at the front of a text. -/
def Rule.matchBytes? (rule : Rule) (atLineStart : Bool) (rest : List Char) : Option Nat :=
  (rule.match? atLineStart rest).map fun count => Text.byteLength (rest.take count)

/-- The side on which a text stands in a pair. -/
def BracketPair.side? (pair : BracketPair) (text : String) : Option BracketSide :=
  if pair.opening = text then some .opening
  else if pair.closing = text then some .closing
  else none

namespace Grammar

def state? (grammar : Grammar) (id : Nat) : Option State := grammar.states[id]?

def stateName (grammar : Grammar) (id : Nat) : String :=
  ((grammar.state? id).map (·.name)).getD ""

def rulesOf (grammar : Grammar) (id : Nat) : List Rule :=
  ((grammar.state? id).map (·.rules)).getD []

/-- The index of the state with a name. -/
def stateId? (grammar : Grammar) (name : String) : Option Nat :=
  grammar.index.find? name

def initialName (grammar : Grammar) : String := grammar.stateName grammar.initial

def ruleCount (grammar : Grammar) : Nat := 
  (grammar.states.map (·.rules.length)).foldr (· + ·) 0

/-- The kind that the table of brackets gives a text: that of the first pair with this delimiter,
or the default kind. -/
def bracketKind (grammar : Grammar) (text : String) : String × Option BracketSide :=
  (grammar.brackets.findSome? fun pair => (pair.side? text).map (pair.kind, some ·)).getD
    (grammar.defaultKind, none)

/-- The kind of matched text under an action. -/
def classify (grammar : Grammar) (action : TokenAction) (text : String) :
    String × Option BracketSide :=
  match action with
  | .token kind => (kind, none)
  | .brackets => grammar.bracketKind text

/-! ## Summary -/

/-- The kinds that rules and bracket pairs declare, in the order of the document. -/
def declaredKinds (grammar : Grammar) : List String :=
  (grammar.states.flatMap fun state => state.rules.filterMap fun rule =>
    match rule.action with
    | .token kind => some kind
    | .brackets => none) ++ grammar.brackets.map (·.kind)

/-- The shape of a grammar, for reports. -/
structure Summary where
  name : String
  initial : String
  defaultKind : String
  ignoreCase : Bool
  /-- The names of the states with their numbers of rules. -/
  states : List (String × Nat)
  ruleCount : Nat
  bracketPairs : Nat
  /-- Every declared kind once, in order. -/
  kinds : List String
  unreachable : List String
deriving DecidableEq, Repr

/-- The texts in order, each once. -/
def sortedOnce (texts : List String) : List String :=
  (texts.mergeSort fun a b => decide (a ≤ b)).eraseReps

def summary (grammar : Grammar) : Summary where
  name := grammar.name
  initial := grammar.initialName
  defaultKind := grammar.defaultKind
  ignoreCase := grammar.ignoreCase
  states := grammar.states.map fun state => (state.name, state.rules.length)
  ruleCount := grammar.ruleCount
  bracketPairs := grammar.brackets.length
  kinds := sortedOnce grammar.declaredKinds
  unreachable := grammar.unreachable

/-- The number of different kinds that tokens can have. -/
def kindCount (grammar : Grammar) : Nat :=
  (sortedOnce (grammar.defaultKind :: grammar.declaredKinds)).length

def Summary.toDatum (summary : Summary) : Datum :=
  .record [("name", .text summary.name), ("initial", .text summary.initial),
    ("default_token", .text summary.defaultKind), ("ignore_case", .boolean summary.ignoreCase),
    ("states", .list (summary.states.map fun (name, rules) =>
      .record [("name", .text name), ("rules", .ofNat rules)])),
    ("rule_count", .ofNat summary.ruleCount), ("bracket_pairs", .ofNat summary.bracketPairs),
    ("token_kinds", .list (summary.kinds.map .text)),
    ("unreachable_states", .list (summary.unreachable.map .text))]

end Grammar

end LineLexer
