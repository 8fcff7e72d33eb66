import LineLexer.Pattern.Expr

/-!
# Programs

An expression is searched for by a program: instructions that consume a character, test a place, or
split into a preferred way and another one. The code of an expression is laid out after the code
that follows it, so each instruction names addresses that are already taken; a loop takes its
address first and learns its body later.
-/

namespace LineLexer.Pattern

open Unicode

/-- One instruction; the addresses index the program's code. -/
inductive Instr where
  | consume (set : CharSet) (next : Nat)
  | test (condition : Look) (next : Nat)
  /-- Both ways are open, the first is preferred. -/
  | split (first second : Nat)
  | accept
deriving DecidableEq, Repr, Inhabited

/-- The code of a pattern and where it starts. -/
structure Program where
  code : Array Instr
  start : Nat
  /-- No match can begin after the start of the text. -/
  anchored : Bool
deriving DecidableEq, Repr, Inhabited

/-- Code under construction, with the address that the next piece of code goes on to. -/
abbrev Layout := Nat × Array Instr

namespace Layout

/-- Adds one instruction and goes on from it. -/
def emit (instr : Instr) (code : Array Instr) : Layout := (code.size, code.push instr)

/-- A split that prefers `first` if greedy and `second` if not. -/
def choice (greedy : Bool) (first second : Nat) : Instr :=
  if greedy then .split first second else .split second first

/-- Lays out `n` copies, one before the other. -/
def copies (lay : Layout → Layout) : Nat → Layout → Layout
  | 0, layout => layout
  | n + 1, layout => copies lay n (lay layout)

/-- Lays out up to `n` copies, each one able to leave for `exit'`. -/
def optional (lay : Layout → Layout) (greedy : Bool) (exit' : Nat) : Nat → Layout → Layout
  | 0, layout => layout
  | n + 1, layout =>
    let (first, code) := lay (optional lay greedy exit' n layout)
    emit (choice greedy first exit') code

/-- Lays out one copy or more: a split after the copy leads back to its start. -/
def atLeastOne (lay : Layout → Layout) (greedy : Bool) : Layout → Layout
  | (next, code) =>
    let back := code.size
    let (first, code) := lay (back, code.push .accept)
    (first, code.setIfInBounds back (choice greedy first next))

/-- Lays out any number of copies of an expression that always consumes. -/
def starConsuming (lay : Layout → Layout) (greedy : Bool) : Layout → Layout
  | (next, code) =>
    let back := code.size
    let (first, code) := lay (back, code.push .accept)
    (back, code.setIfInBounds back (choice greedy first next))

/-- Lays out any number of copies: none, or one and more. -/
def star (lay : Layout → Layout) (greedy : Bool) : Layout → Layout
  | (next, code) =>
    let (first, code) := atLeastOne lay greedy (next, code)
    emit (choice greedy first next) code

end Layout

open Layout in
/-- Lays out the code of an expression before what follows it. -/
def Expr.layOut : Expr → Layout → Layout
  | .empty, layout => layout
  | .chars set, (next, code) => emit (.consume set next) code
  | .look condition, (next, code) => emit (.test condition next) code
  | .seq a b, layout => a.layOut (b.layOut layout)
  | .alt a b, (next, code) =>
    let (second, code) := b.layOut (next, code)
    let (first, code) := a.layOut (next, code)
    emit (.split first second) code
  | .loop body min none greedy, layout =>
    match min with
    | 0 =>
      if body.alwaysConsumes then starConsuming body.layOut greedy layout
      else star body.layOut greedy layout
    | n + 1 => copies body.layOut n (atLeastOne body.layOut greedy layout)
  | .loop body min (some max) greedy, (next, code) =>
    copies body.layOut min (optional body.layOut greedy next (max - min) (next, code))
  | .group _ body, layout => body.layOut layout

/-- The program of an expression. -/
def Program.ofExpr (e : Expr) : Program :=
  let (start, code) := e.layOut (0, #[.accept])
  ⟨code, start, e.startsAnchored⟩

end LineLexer.Pattern
