import LineLexer.Unicode.Property

/-!
# Expressions

What a pattern denotes once its notation has been read: character sets, conditions on a place in
the text, and the ways to put expressions together. Choice is ordered: the left alternative, and
the repetition that its greed asks for, is preferred.
-/

namespace LineLexer.Pattern

open Unicode

/-- The places of a text that lie at the edge of a word or off it. -/
inductive WordEdge where
  /-- A word starts or ends here. -/
  | boundary
  /-- No word starts or ends here. -/
  | inside
  | start
  | finish
  /-- No word character stands before. -/
  | startHalf
  /-- No word character stands after. -/
  | finishHalf
deriving DecidableEq, Repr

/-- A condition on a place in the text; it consumes nothing. -/
inductive Look where
  | textStart
  | textEnd
  | lineStart
  | lineEnd
  /-- As `lineStart`, where a carriage return ends a line too. -/
  | lineStartReturn
  /-- As `lineEnd`, where a carriage return ends a line too. -/
  | lineEndReturn
  /-- With `unicode` off, only ASCII letters, digits and the underscore make a word. -/
  | word (edge : WordEdge) (unicode : Bool)
deriving DecidableEq, Repr

/-- Letters, digits and the underscore of ASCII. -/
def asciiWord : CharSet := ⟨[(0x30, 0x39), (0x41, 0x5A), (0x5F, 0x5F), (0x61, 0x7A)]⟩

/-- Whether the neighbour exists and is a word character. -/
def isWordChar (unicode : Bool) : Option Char → Bool
  | none => false
  | some c => if unicode then Property.word.contains c else asciiWord.contains c

def WordEdge.holds : WordEdge → (before after : Bool) → Bool
  | .boundary, before, after => before != after
  | .inside, before, after => before == after
  | .start, before, after => !before && after
  | .finish, before, after => before && !after
  | .startHalf, before, _ => !before
  | .finishHalf, _, after => !after

/-- Whether the condition holds between two neighbours; an end of the text has none. -/
def Look.holds : Look → (before after : Option Char) → Bool
  | .textStart, before, _ => before.isNone
  | .textEnd, _, after => after.isNone
  | .lineStart, before, _ => before.isNone || before = some '\n'
  | .lineEnd, _, after => after.isNone || after = some '\n'
  | .lineStartReturn, before, after =>
    before.isNone || before = some '\n' || (before = some '\r' && after != some '\n')
  | .lineEndReturn, before, after =>
    after.isNone || after = some '\r' || (after = some '\n' && before != some '\r')
  | .word edge unicode, before, after =>
    edge.holds (isWordChar unicode before) (isWordChar unicode after)

/-- The expressions that patterns denote. -/
inductive Expr where
  | empty
  | chars (set : CharSet)
  | look (condition : Look)
  | seq (first second : Expr)
  /-- The first alternative is preferred. -/
  | alt (first second : Expr)
  /-- Between `min` and `max` copies, without an upper bound for `none`; a greedy repetition
  prefers more of them. -/
  | loop (body : Expr) (min : Nat) (max : Option Nat) (greedy : Bool)
  /-- The group that is the `index`th to be opened; it matches as its body does. -/
  | group (index : Nat) (body : Expr)
deriving DecidableEq, Repr

namespace Expr

/-! ## Lengths of matches -/

/-- No match of the expression consumes a character. -/
def consumesNothing : Expr → Bool
  | .empty | .look _ => true
  | .chars _ => false
  | .seq a b | .alt a b => a.consumesNothing && b.consumesNothing
  | .loop body _ max _ => body.consumesNothing || max = some 0
  | .group _ body => body.consumesNothing

/-- The least number of characters in a match, if no part is a set without members. -/
def leastLength? : Expr → Option Nat
  | .empty | .look _ => some 0
  | .chars set => if set.isEmpty then none else some 1
  | .seq a b => do return (← a.leastLength?) + (← b.leastLength?)
  | .alt a b => do return min (← a.leastLength?) (← b.leastLength?)
  | .loop body min _ _ => do return min * (← body.leastLength?)
  | .group _ body => body.leastLength?

/-- Every match of the expression consumes a character. -/
def alwaysConsumes (e : Expr) : Bool := e.leastLength?.any (0 < ·)

/-- Every match of the expression begins at the start of the text. -/
def startsAnchored : Expr → Bool
  | .look .textStart => true
  | .empty | .chars _ | .look _ => false
  | .seq a b => a.startsAnchored || (a.consumesNothing && b.startsAnchored)
  | .alt a b => a.startsAnchored && b.startsAnchored
  | .loop body min _ _ => 0 < min && body.startsAnchored
  | .group _ body => body.startsAnchored

/-- Every match of the expression stops at the end of the text. -/
def endsAnchored : Expr → Bool
  | .look .textEnd => true
  | .empty | .chars _ | .look _ => false
  | .seq a b => b.endsAnchored || (b.consumesNothing && a.endsAnchored)
  | .alt a b => a.endsAnchored && b.endsAnchored
  | .loop body min _ _ => 0 < min && body.endsAnchored
  | .group _ body => body.endsAnchored

/-! ## Sequences -/

/-- The parts of a sequence. -/
def items : Expr → List Expr
  | .empty => []
  | .seq a b => a :: b.items
  | e => [e]

def ofItems : List Expr → Expr
  | [] => .empty
  | [e] => e
  | e :: rest => .seq e (ofItems rest)

/-- One after the other, as one sequence without a sequence in it. -/
def seqs (parts : List Expr) : Expr := ofItems (parts.flatMap items)

/-- The character that an expression stands for if it stands for just one. -/
def literal? : Expr → Option Char
  | .chars set => set.single?
  | _ => none

/-- Parts a list of expressions into runs of single characters and lone other ones. -/
def pieces : List Expr → List (List Expr)
  | [] => []
  | e :: rest =>
    match pieces rest with
    | (next :: run) :: others =>
      if e.literal?.isSome && next.literal?.isSome then (e :: next :: run) :: others
      else [e] :: (next :: run) :: others
    | others => [e] :: others

/-! ## Alternatives -/

/-- The branches of a choice. -/
def branches : Expr → List Expr
  | .alt a b => a :: b.branches
  | e => [e]

def ofBranches : List Expr → Expr
  | [] => .chars .empty
  | [e] => e
  | e :: rest => .alt e (ofBranches rest)

/-- The set of an expression that is a set with members other than just one. -/
def class? : Expr → Option CharSet
  | .chars set => if set.single?.isSome then none else some set
  | _ => none

/-- One out of some branches: single characters make a set, as sets do. -/
def choice (branches : List Expr) : Expr :=
  if branches.length < 2 then ofBranches branches
  else
    match branches.mapM literal?, branches.mapM class? with
    | some letters, _ => .chars (.ofList letters)
    | none, some sets => .chars (.unions sets)
    | none, none => ofBranches branches

/-- The common front of two lists. -/
def commonFront (a b : List (List Expr)) : List (List Expr) :=
  ((a.zip b).takeWhile fun (x, y) => x == y).map (·.1)

/-- The pieces that all branches begin with, if each branch has several. -/
def sharedFront (branches : List (List (List Expr))) : List (List Expr) :=
  match branches with
  | first :: rest =>
    if branches.all (2 ≤ ·.length) then rest.foldl commonFront first else []
  | [] => []

/-- One out of some alternatives, as one choice without a choice in it. A front that all of them
share is put before the choice. -/
def alts (alternatives : List Expr) : Expr :=
  let all := alternatives.flatMap branches
  match choice all with
  | .alt a b =>
    let parted := all.map fun e => pieces e.items
    let front := sharedFront parted
    if front.isEmpty then .alt a b
    else
      let suffixes := parted.map fun branch => ofItems (branch.drop front.length).flatten
      seqs (front.flatten ++ [choice (suffixes.flatMap branches)])
  | e => e

/-! ## Repetitions -/

/-- A repetition in its simplest form: what consumes nothing need not be tried twice, no copies
are nothing, and one copy is the expression itself. -/
def repeated (body : Expr) (min : Nat) (max : Option Nat) (greedy : Bool) : Expr :=
  let (min, max) : Nat × Option Nat :=
    if body.consumesNothing then (Nat.min min 1, some ((max.map (Nat.min · 1)).getD 1))
    else (min, max)
  if min = 0 && max = some 0 then .empty
  else if min = 1 && max = some 1 then body
  else .loop body min max greedy

end Expr

end LineLexer.Pattern
