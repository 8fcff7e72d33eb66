import LineLexer.Grammar.Basic
import LineLexer.Grammar.Document
import LineLexer.Limits
import LineLexer.Pattern.Footprint
import LineLexer.Pattern.Parser
import LineLexer.Unicode.Property

/-!
# From documents to grammars

A document becomes a grammar if it passes every check; the checks are made in a fixed order, so of
several faults always the same one is named. First come the checks of the whole document, then
state by state and rule by rule, then the brackets, then the states that can be reached.
-/

namespace LineLexer

open Pattern

/-- Nothing but white space. -/
def isBlankText (text : String) : Bool := text.toList.all Unicode.Property.whiteSpace.contains

/-! ## Patterns -/

/-- The pattern without a caret at its front, and whether there was one. -/
def splitLineStart : List Char → List Char × Bool
  | '^' :: body => (body, true)
  | body => (body, false)

/-- Binds a pattern to the start of the text in front of it. -/
def anchorPattern (body : List Char) : List Char := "\\A(?:".toList ++ body ++ [')']

/-- Reads a rule's pattern, for which there has to be room. A caret at its front binds the rule to the
start of a line, and every pattern is bound to the place where it is tried. -/
def compilePattern (ignoreCase : Bool) (pattern : String) : Except PatternError (Program × Bool) := do
  let (body, lineStartOnly) := splitLineStart pattern.toList
  let expr ← Pattern.parse ignoreCase (anchorPattern body)
  expr.checkRoom
  return (.ofExpr expr, lineStartOnly)

/-! ## Rules and states -/

/-- What a rule needs to know of its document, and where in it the rule stands. -/
structure RulePlace where
  document : GrammarDocument
  /-- The indices of the document's states by their names. -/
  index : SortedMap String Nat
  state : String
  rule : Nat

namespace RuleEntry

def compileAction (entry : RuleEntry) (place : RulePlace) : Except GrammarError TokenAction :=
  match entry.token, entry.brackets with
  | some label, false =>
    if isBlankText label then .error (.labelEmpty place.state place.rule) else .ok (.token label)
  | none, true =>
    if place.document.brackets.isEmpty then .error (.bracketsMissing place.state place.rule)
    else .ok .brackets
  | _, _ => .error (.actionInvalid place.state place.rule)

def compileTransition (entry : RuleEntry) (place : RulePlace) : Except GrammarError Transition :=
  match entry.next with
  | .stay => .ok .stay
  | .pop => .ok .pop
  | .popAll => .ok .popAll
  | .push target =>
    match place.index.find? target with
    | some id => .ok (.push id target)
    | none => .error (.pushTargetUnknown place.state place.rule target)

/-- Checks a rule: the length of its pattern, its action, its push target, and the pattern. -/
def compile (entry : RuleEntry) (place : RulePlace) : Except GrammarError Rule := do
  let length := entry.pattern.utf8ByteSize
  if Limits.patternLength < length then
    throw (.patternTooLong place.state place.rule length Limits.patternLength)
  let action ← entry.compileAction place
  let transition ← entry.compileTransition place
  let ignoreCase := entry.ignoreCase.getD place.document.ignoreCase
  let (program, lineStartOnly) ← (compilePattern ignoreCase entry.pattern).mapError
    fun fault => .patternInvalid place.state place.rule entry.pattern fault
  return ⟨entry.pattern, program, lineStartOnly, action, transition⟩

end RuleEntry

/-- Checks a state: the number of its rules, then each of them. -/
def compileState (document : GrammarDocument) (index : SortedMap String Nat) (name : String)
    (rules : List RuleEntry) : Except GrammarError State := do
  if Limits.rulesPerState < rules.length then
    throw (.tooManyRules name rules.length Limits.rulesPerState)
  let rules ← rules.zipIdx.mapM fun (entry, rule) => entry.compile ⟨document, index, name, rule⟩
  return ⟨name, rules⟩

/-! ## Brackets -/

/-- What is wrong with a pair of brackets. -/
def BracketEntry.fault? (entry : BracketEntry) : Option String :=
  if entry.opening = "" then some "open delimiter is empty"
  else if entry.closing = "" then some "close delimiter is empty"
  else if entry.opening = entry.closing then some "open and close delimiters are identical"
  else if isBlankText entry.token then some "token label is empty"
  else none

def BracketEntry.compile (entry : BracketEntry) (index : Nat) : Except GrammarError BracketPair :=
  match entry.fault? with
  | some reason => .error (.bracketInvalid index reason)
  | none => .ok ⟨entry.opening, entry.closing, entry.token⟩

/-! ## Reachable states -/

/-- The states that a state's rules push. -/
def State.targets (state : State) : List Nat :=
  state.rules.filterMap fun rule =>
    match rule.transition with
    | .push target _ => some target
    | _ => none

/-- A search of states. -/
structure StateSearch where
  /-- The states whose rules are still to be looked at. -/
  queue : List Nat
  /-- For each state, whether it has been put there. -/
  marks : List Bool
deriving DecidableEq, Repr

namespace StateSearch

/-- Puts a state at the end of the queue, the first time only; none if there is no such state. -/
def enqueue (search : StateSearch) (target : Nat) : Option StateSearch := do
  let marked ← search.marks[target]?
  return if marked then search else ⟨search.queue ++ [target], search.marks.set target true⟩

/-- Looks at the rules of the states in the queue, until it is empty. -/
def run (states : List State) : (fuel : Nat) → StateSearch → Option StateSearch
  | fuel + 1, ⟨id :: queue, marks⟩ => do
    let state ← states[id]?
    run states fuel (← state.targets.foldlM enqueue ⟨queue, marks⟩)
  | _, search => return search

end StateSearch

/-- For each state, whether it can come onto the stack, or be current on an empty one; none if a state
is missed. Pops lead back to states that are on the stack already, so only pushes count. A state is put
into the queue once, so there are no more rounds than states. -/
def reachableStates? (states : List State) (initial : Nat) : Option (List Bool) := do
  let start ← StateSearch.enqueue ⟨[], List.replicate states.length false⟩ initial
  return (← start.run states states.length).marks

/-! ## The whole document -/

namespace Grammar

/-- The name of a grammar whose document has none. -/
def unnamed : String := "grammar"

/-- The first state, in order, that is marked as reachable and has no rules. -/
def emptyState? (states : List State) (marks : List Bool) : Option String :=
  (states.zip marks).findSome? fun (state, marked) =>
    if marked && state.rules.isEmpty then some state.name else none

/-- The names of the states that are not marked. -/
def unreachableNames (states : List State) (marks : List Bool) : List String :=
  (states.zip marks).filterMap fun (state, marked) => if marked then none else some state.name

/-- The indices of names by their places in a list. -/
def indexNames (names : List String) : SortedMap String Nat := .ofList names.zipIdx

/-- Makes a grammar of a document; `fallbackName` is its name if the document gives none. -/
def compile (document : GrammarDocument) (fallbackName : String) :
    Except GrammarError Grammar := do
  let count := document.states.size
  if Limits.statesPerGrammar < count then throw (.tooManyStates count Limits.statesPerGrammar)
  if !document.states.contains document.initial then
    throw (.initialStateMissing document.initial)
  let defaultKind := document.defaultToken.getD defaultUnmatched
  if isBlankText defaultKind then throw .defaultLabelEmpty
  let index := indexNames document.states.keys
  let states ← document.states.entries.mapM fun (name, rules) =>
    compileState document index name rules
  let brackets ← document.brackets.zipIdx.mapM fun (entry, index) => entry.compile index
  let some initial := index.find? document.initial
    | throw (.initialStateMissing document.initial)
  -- every target is the index of a state, so the search misses none
  let marks := (reachableStates? states initial).getD []
  if let some name := emptyState? states marks then throw (.stateEmpty name)
  return {
    name := document.name.getD fallbackName
    initial, states, index, defaultKind, brackets
    ignoreCase := document.ignoreCase
    unreachable := unreachableNames states marks }

def ofToml (source : String) : Except GrammarError Grammar := do
  compile (← GrammarDocument.ofToml source) unnamed

def ofJson (source : String) : Except GrammarError Grammar := do
  compile (← GrammarDocument.ofJson source) unnamed

end Grammar

end LineLexer
