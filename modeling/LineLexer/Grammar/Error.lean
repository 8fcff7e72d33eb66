import LineLexer.Files.Fault
import LineLexer.Pattern.Error

/-!
# Faults of a grammar

Why a document is refused as a grammar, or why there is no grammar under a name or a path.
-/

namespace LineLexer

open Diagnostics Files Pattern

/-- The causes for which no grammar is made. Rules and bracket pairs count from zero. -/
inductive GrammarError where
  | unreadable (format detail : String)
  | initialStateMissing (initial : String)
  | pushTargetUnknown (state : String) (rule : Nat) (target : String)
  | stateEmpty (state : String)
  | patternInvalid (state : String) (rule : Nat) (pattern : String) (fault : PatternError)
  | actionInvalid (state : String) (rule : Nat)
  | labelEmpty (state : String) (rule : Nat)
  | defaultLabelEmpty
  | bracketsMissing (state : String) (rule : Nat)
  | bracketInvalid (index : Nat) (reason : String)
  | tooManyStates (count limit : Nat)
  | tooManyRules (state : String) (count limit : Nat)
  | patternTooLong (state : String) (rule length limit : Nat)
  | formatUnsupported (path : String)
  | fileUnreadable (path : String) (fault : Fault)
  | languageUnknown (name : String)
deriving DecidableEq, Repr

namespace GrammarError

/-- The message without what another part of the library adds to it. -/
def headline : GrammarError → String
  | unreadable format _ => s!"Failed to parse {format} grammar"
  | initialStateMissing initial => s!"Initial state '{initial}' is not defined"
  | pushTargetUnknown state rule target =>
    s!"Rule {rule} of state '{state}' pushes undefined state '{target}'"
  | stateEmpty state => s!"State '{state}' is reachable but has no rules"
  | patternInvalid state rule pattern _ =>
    s!"Rule {rule} of state '{state}' has an invalid pattern /{pattern}/"
  | actionInvalid state rule =>
    s!"Rule {rule} of state '{state}' must set exactly one of `token` or `brackets`"
  | labelEmpty state rule => s!"Rule {rule} of state '{state}' has an empty token label"
  | defaultLabelEmpty => "Grammar default token label is empty"
  | bracketsMissing state rule =>
    s!"Rule {rule} of state '{state}' classifies brackets but the grammar defines none"
  | bracketInvalid index reason => s!"Bracket pair {index} is malformed: {reason}"
  | tooManyStates count limit => s!"Grammar defines {count} states (max: {limit})"
  | tooManyRules state count limit => s!"State '{state}' defines {count} rules (max: {limit})"
  | patternTooLong state rule length limit =>
    s!"Rule {rule} of state '{state}' has a {length}-byte pattern (max: {limit})"
  | formatUnsupported path =>
    s!"Unsupported grammar file format: {path} (expected .toml or .json)"
  | fileUnreadable path fault => s!"Failed to read grammar file {path}: {fault.message}"
  | languageUnknown name => s!"Unknown language '{name}'"

/-- What another part of the library adds to the headline. -/
def detail? : GrammarError → Option String
  | unreadable _ detail => some detail
  | patternInvalid _ _ _ fault => some fault.message
  | _ => none

def message (error : GrammarError) : String :=
  match error.detail? with
  | some detail => error.headline ++ ": " ++ detail
  | none => error.headline

def code : GrammarError → Code
  | unreadable .. => .grammarUnreadable
  | initialStateMissing .. => .initialStateMissing
  | pushTargetUnknown .. => .pushTargetUnknown
  | stateEmpty .. => .stateEmpty
  | patternInvalid .. => .patternInvalid
  | actionInvalid .. => .actionInvalid
  | labelEmpty .. | defaultLabelEmpty => .labelEmpty
  | bracketsMissing .. => .bracketsMissing
  | bracketInvalid .. => .bracketInvalid
  | tooManyStates .. | tooManyRules .. | patternTooLong .. => .limitExceeded
  | formatUnsupported .. => .formatUnsupported
  | fileUnreadable _ fault => fault.kind.code
  | languageUnknown .. => .languageUnknown

end GrammarError

end LineLexer
