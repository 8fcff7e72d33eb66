import LineLexer.Limits
import LineLexer.Tokenize.StateStack
import LineLexer.Tokenize.Token

/-!
# Scanning a line

A line is taken apart from left to right. At each place the rules of the current state are tried in
order and the first one that matches gets the text it matched. A character that no rule takes, or
that a rule matches only with nothing, becomes a token of the default kind. So the tokens cover the
line without a gap.
-/

namespace LineLexer

/-- A character that no rule has taken, and the state that was current. -/
structure Unmatched where
  position : Position
  state : String
  char : Char
deriving DecidableEq, Repr

/-- What the scan of a line has found. -/
structure Scan where
  tokens : List Token
  unmatched : List Unmatched
  /-- The stack after the line. -/
  frames : Frames
  /-- The greatest depth that the stack has had. -/
  depth : Nat
  /-- The state that could not be pushed on a full stack; the scan has ended there. -/
  refused : Option String
  /-- The line was too long to be taken apart. -/
  overlong : Bool
deriving DecidableEq, Repr

/-- The stack after a rule has matched; the name of the state to push if there is no room for it.
Without a limit there is always room. -/
def Transition.apply (limit : Option Nat) (frames : Frames) : Transition → Except String Frames
  | .stay => .ok frames
  | .push target name =>
    if limit.any (· ≤ frames.length) then .error name else .ok (target :: frames)
  | .pop => .ok frames.tail
  | .popAll => .ok []

namespace Scan

/-- The end of a line. -/
def finished (frames : Frames) : Scan := ⟨[], [], frames, frames.length, none, false⟩

/-- The place where a state could not be pushed. -/
def stopped (frames : Frames) (state : String) : Scan :=
  ⟨[], [], frames, frames.length, some state, false⟩

/-- Puts a token that a rule has made before what follows it. -/
def matched (token : Token) (depth : Nat) (rest : Scan) : Scan :=
  { rest with tokens := token :: rest.tokens, depth := max depth rest.depth }

/-- Puts an unmatched character before what follows it. -/
def skipped (token : Token) (char : Unmatched) (rest : Scan) : Scan :=
  { rest with tokens := token :: rest.tokens, unmatched := char :: rest.unmatched }

end Scan

namespace Grammar

/-- The state that is current on a stack. -/
def currentState (grammar : Grammar) (frames : Frames) : Nat := frames.headD grammar.initial

/-- The first rule in order that matches the front of a text, with the length of its match. -/
def firstMatch? (rules : List Rule) (atLineStart : Bool) (rest : List Char) : Option (Rule × Nat) :=
  rules.findSome? fun rule => (rule.match? atLineStart rest).map (rule, ·)

/-- Takes apart what is left of a line, from a position on. Every round takes a character at least,
so `fuel` characters are enough for `fuel` rounds. -/
def scanFrom (grammar : Grammar) (limit : Option Nat) :
    (fuel : Nat) → Frames → Position → (rest : List Char) → Scan
  | 0, frames, _, _ => .finished frames
  | _, frames, _, [] => .finished frames
  | fuel + 1, frames, position, c :: rest =>
    let state := grammar.currentState frames
    match firstMatch? (grammar.rulesOf state) (position.offset = 0) (c :: rest) with
    | some (rule, length + 1) =>
      let text := c :: rest.take length
      let (kind, bracket) := grammar.classify rule.action (String.ofList text)
      let token := Token.covering position text kind bracket
      match rule.transition.apply limit frames with
      | .ok after =>
        (grammar.scanFrom limit fuel after token.span.stop (rest.drop length)).matched token
          frames.length
      | .error name => (Scan.stopped frames name).matched token frames.length
    | _ =>
      let token := Token.covering position [c] grammar.defaultKind none
      (grammar.scanFrom limit fuel frames token.span.stop rest).skipped token
        ⟨position, grammar.stateName state, c⟩

/-- Takes a line apart, from the stack that the line before it has left. A line that is too long
becomes one token and leaves the stack alone. -/
def scan (grammar : Grammar) (limit : Option Nat) (frames : Frames) (line : String)
    (number : Nat) : Scan :=
  let start := Position.lineStart number
  let chars := line.toList
  if Limits.lineLength < line.utf8ByteSize then
    ⟨[Token.covering start chars grammar.defaultKind none], [], frames, frames.length, none, true⟩
  else grammar.scanFrom limit chars.length frames start chars

end Grammar

/-- The tokens of a line and the stack with which the next line starts. -/
structure LineTokens where
  tokens : List Token
  endState : StateStack
deriving DecidableEq, Repr

/-- The fault that has ended the scan, if there was one. -/
def Scan.fault? (scan : Scan) : Option TokenizeError :=
  scan.refused.map (.stackDepthExceeded · Limits.stackDepth)

/-- The tokens and the stack of a scan that came to the line's end. -/
def Scan.toLineTokens (scan : Scan) (grammar : Grammar) : Except TokenizeError LineTokens :=
  match scan.fault? with
  | some fault => .error fault
  | none => .ok ⟨scan.tokens, .ofFrames grammar scan.frames⟩

namespace Grammar

/-- Takes apart the line with a number. Lines count from one. -/
def tokenizeLineAt (grammar : Grammar) (stack : StateStack) (line : String) (number : Nat) :
    Except TokenizeError LineTokens := do
  let frames ← stack.resolve grammar
  (grammar.scan (some Limits.stackDepth) frames line number).toLineTokens grammar

/-- Takes a line apart as the first one. -/
def tokenizeLine (grammar : Grammar) (stack : StateStack) (line : String) :
    Except TokenizeError LineTokens :=
  grammar.tokenizeLineAt stack line 1

end Grammar

end LineLexer
