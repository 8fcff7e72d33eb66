import LineLexer.Tokenize.Scan

/-!
# Sessions

A session is fed a document line by line and keeps the stack and the line number between the calls.
-/

namespace LineLexer

/-- A document that is being fed to a grammar. -/
structure Session where
  grammar : Grammar
  stack : StateStack
  /-- The number of the line to come. -/
  nextLine : Nat
deriving DecidableEq, Repr

namespace Session

def start (grammar : Grammar) : Session := ⟨grammar, .initial, 1⟩

/-- Goes on from a stack that was stored. -/
def resume (grammar : Grammar) (stack : StateStack) : Except TokenizeError Session := do
  let _ ← stack.resolve grammar
  return ⟨grammar, stack, 1⟩

/-- Goes on behind a line; a session that fails stays as it was. -/
def advance (session : Session) (line : Except TokenizeError LineTokens) :
    Except TokenizeError (List Token) × Session :=
  match line with
  | .error fault => (.error fault, session)
  | .ok result => (.ok result.tokens, ⟨session.grammar, result.endState, session.nextLine + 1⟩)

/-- Takes the next line: its tokens, or its fault, and the session behind it. -/
def feed (session : Session) (line : String) : Except TokenizeError (List Token) × Session :=
  session.advance (session.grammar.tokenizeLineAt session.stack line session.nextLine)

/-- Back to the initial stack and the first line. -/
def reset (session : Session) : Session := start session.grammar

end Session

end LineLexer
