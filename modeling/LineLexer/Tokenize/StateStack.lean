import LineLexer.Grammar.Basic
import LineLexer.Limits
import LineLexer.Tokenize.Error

/-!
# Stacks of states

Between two lines a stack is kept by the names of its states, so it can be stored and handed to a
grammar again. While a line is taken apart the grammar's indices stand for the names.
-/

namespace LineLexer

open Datum

/-- State names, the bottom one first. The empty stack stands for the initial state. -/
structure StateStack where
  names : List String
deriving DecidableEq, Repr, Inhabited

/-- The indices of the states on a stack, the top one first. -/
abbrev Frames := List Nat

namespace StateStack

def initial : StateStack := ⟨[]⟩

/-- The stack of a grammar's states. -/
def ofFrames (grammar : Grammar) (frames : Frames) : StateStack :=
  ⟨(frames.map grammar.stateName).reverse⟩

def isInitial (stack : StateStack) : Bool := stack.names.isEmpty

def depth (stack : StateStack) : Nat := stack.names.length

def top? (stack : StateStack) : Option String := stack.names.getLast?

/-- The name of the state in which the next line starts. -/
def current (stack : StateStack) (grammar : Grammar) : String :=
  stack.top?.getD grammar.initialName

def resolveName (grammar : Grammar) (name : String) : Except TokenizeError Nat :=
  match grammar.stateId? name with
  | some id => .ok id
  | none => .error (.stateUnknown grammar.name name)

/-- Finds every name in the grammar, from the bottom up. A stack deeper than any that a line leaves
behind is refused at once. -/
def resolve (stack : StateStack) (grammar : Grammar) : Except TokenizeError Frames := do
  if Limits.stackDepth < stack.depth then
    throw (.stackDepthExceeded (stack.top?.getD "") Limits.stackDepth)
  return (← stack.names.mapM (resolveName grammar)).reverse

def display (stack : StateStack) : String :=
  if stack.isInitial then "<initial>" else " > ".intercalate stack.names

def toDatum (stack : StateStack) : Datum := .list (stack.names.map .text)

def decode (datum : Datum) : Except DecodeError StateStack := do
  return ⟨← (← asList datum).mapM asText⟩

end StateStack

end LineLexer
