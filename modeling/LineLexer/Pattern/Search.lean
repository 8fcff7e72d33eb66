import LineLexer.Pattern.Program

/-!
# Search

All ways through a program are followed in step, one character at a time, in order of preference.
An address that a preferred way has reached at the same place is not entered again, so a search
takes time in proportion to the code and the text. Where a way accepts, the less preferred ones are
given up and the preferred ones go on.
-/

namespace LineLexer.Pattern

open Unicode

/-- What the ways at one place wait for: the sets and addresses of the consuming instructions, in
order of preference and up to the first one that accepts, and whether there is such a one. -/
structure Frontier where
  waiting : List (CharSet × Nat)
  accepted : Bool
deriving DecidableEq, Repr

def Frontier.wait (set : CharSet) (next : Nat) (frontier : Frontier) : Frontier :=
  { frontier with waiting := (set, next) :: frontier.waiting }

/-- Follows the instructions that consume nothing, between the neighbours `before` and `after`.
`seen` is the set of the addresses entered before, one bit for each. -/
def frontier (code : Array Instr) (before after : Option Char) :
    (fuel : Nat) → List Nat → (seen : Nat) → Frontier
  | 0, _, _ => ⟨[], false⟩
  | _ + 1, [], _ => ⟨[], false⟩
  | fuel + 1, address :: rest, seen =>
    if seen.testBit address then frontier code before after fuel rest seen
    else
      let seen := seen ||| (1 <<< address)
      match code[address]? with
      | some (.consume set next) => (frontier code before after fuel rest seen).wait set next
      | some (.test condition next) =>
        if condition.holds before after then frontier code before after fuel (next :: rest) seen
        else frontier code before after fuel rest seen
      | some (.split first second) =>
        frontier code before after fuel (first :: second :: rest) seen
      | some .accept => ⟨[], true⟩
      | none => frontier code before after fuel rest seen

/-- The frontier of a list of addresses. Each step takes one address off the list, and an address
puts at most two on it, once. -/
def Program.frontier (program : Program) (before after : Option Char) (addresses : List Nat) :
    Frontier :=
  Pattern.frontier program.code before after (addresses.length + 2 * program.code.size + 1)
    addresses 0

/-- The addresses that the waiting ways go on to after a character. -/
def Frontier.advance (frontier : Frontier) (c : Char) : List Nat :=
  frontier.waiting.filterMap fun (set, next) => if set.contains c then some next else none

/-- Runs the ways from `addresses` on: the number of characters up to the end of the preferred
match, or `best` if nothing better is found. `passed` characters have been consumed so far. -/
def Program.run (program : Program) :
    (addresses : List Nat) → (before : Option Char) → (rest : List Char) → (passed : Nat) →
      (best : Option Nat) → Option Nat
  | addresses, before, [], passed, best =>
    if (program.frontier before none addresses).accepted then some passed else best
  | addresses, before, c :: rest, passed, best =>
    let frontier := program.frontier before (some c) addresses
    let best := if frontier.accepted then some passed else best
    match frontier.advance c with
    | [] => best
    | addresses => program.run addresses (some c) rest (passed + 1) best

/-- The end of the preferred match that begins right here, in characters from here. -/
def Program.matchHere? (program : Program) (before : Option Char) (rest : List Char) :
    Option Nat :=
  program.run [program.start] before rest 0 none

/-- The end of the leftmost match from here on, in characters from here. -/
def Program.searchFrom? (program : Program) : Option Char → List Char → Option Nat
  | before, [] => program.matchHere? before []
  | before, c :: rest =>
    (program.matchHere? before (c :: rest)).or ((program.searchFrom? (some c) rest).map (· + 1))

/-- The end of the leftmost match in a text, in characters from its start. -/
def Program.matchEnd? (program : Program) (text : List Char) : Option Nat :=
  if program.anchored then program.matchHere? none text else program.searchFrom? none text

end LineLexer.Pattern
