import LineLexer.Unicode.ByteRanges
import Std.Data.TreeMap

/-!
# Room for states

A pattern is laid out in states that read one byte each. This module counts the room that they take
and finds the states of a character set and of a list of words, in both directions of reading. The
states of a set are shared where they go on in the same way, as far as they are remembered.
-/

namespace LineLexer.Pattern

open Unicode

/-- The room that is taken: the number of states, and the bytes of the lists that they hold. -/
structure Room where
  states : Nat
  listed : Nat
deriving DecidableEq, Repr

namespace Room

/-- The bytes that a state takes, one of the ranges that lead on from it, and one of its ways that
read nothing. -/
def stateSize : Nat := 32
def rangeSize : Nat := 8
def waySize : Nat := 4

/-- The bytes that there are for a pattern. -/
def limit : Nat := 10485760

def bytes (room : Room) : Nat := stateSize * room.states + room.listed

/-- Room in which some states and lists are added. -/
def add (room : Room) (states listed : Nat) : Room := ⟨room.states + states, room.listed + listed⟩

/-- The room itself, unless it is more than there is. -/
def within? (room : Room) : Option Room := if room.bytes ≤ limit then some room else none

end Room

/-! ## Shared states -/

/-- States that are remembered by what they do, one in each slot. -/
abbrev Shelf := Std.TreeMap Nat (List Nat × Nat)

/-- The slot that some numbers fall to. -/
def slotOf (slots : Nat) (numbers : List Nat) : Nat :=
  let mixed := numbers.foldl (fun mixed n => (mixed ^^^ n.toUInt64) * 1099511628211)
    (14695981039346656037 : UInt64)
  mixed.toNat % slots

/-- The state that does what the numbers tell: a remembered one, or a new one, which takes the place
of another in its slot. -/
def shareState (slots : Nat) (numbers : List Nat) (listed : Nat) (shelf : Shelf) (room : Room) :
    Nat × Shelf × Room :=
  let slot := slotOf slots numbers
  let fresh := (room.states, shelf.insert slot (numbers, room.states), room.add 1 listed)
  match shelf[slot]? with
  | some (numbers', state) => if numbers' = numbers then (state, shelf, room) else fresh
  | none => fresh

/-! ## Sets read forwards -/

/-- Puts together the neighbours that begin with the same range, without it. -/
def groupByFirst : List ByteRanges → List ((Nat × Nat) × List ByteRanges)
  | [] => []
  | [] :: rest => groupByFirst rest
  | (range :: tail) :: rest =>
    match groupByFirst rest with
    | (range', tails) :: groups =>
      if range = range' then (range, tail :: tails) :: groups
      else (range, [tail]) :: (range', tails) :: groups
    | [] => [(range, [tail])]

/-- The number of states that are remembered while a set is laid out forwards. -/
def forwardSlots : Nat := 10000

/-- Lays out the state that reads one of some products of at most `depth` ranges each and goes on to
`target`; its numbers are those of its ranges and of the states that they lead to. -/
def layProducts (target : Nat) : (depth : Nat) → List ByteRanges → Shelf → Room → Nat × Shelf × Room
  | 0, _, shelf, room => (target, shelf, room)
  | depth + 1, products, shelf, room =>
    let groups := groupByFirst products
    let (numbers, shelf, room) := groups.foldl
      (fun (numbers, shelf, room) (range, tails) =>
        let (next, shelf, room) : Nat × Shelf × Room :=
          if tails.all List.isEmpty then (target, shelf, room)
          else layProducts target depth tails shelf room
        (numbers ++ [range.1, range.2, next], shelf, room))
      ([], shelf, room)
    shareState forwardSlots numbers (Room.rangeSize * groups.length) shelf room

/-- The most bytes that a character has. -/
def maxBytes : Nat := 4

/-- The room after a set that is read forwards: an end, and the states before it. -/
def layForwards (products : List ByteRanges) (room : Room) : Room :=
  let (_, _, room) := layProducts room.states maxBytes products ∅ (room.add 1 0)
  room

/-! ## Sets read backwards -/

/-- The number of states that are remembered while a set is laid out backwards. -/
def backwardSlots : Nat := 1000

/-- Lays out one product, first range last: each state reads one range and leads to the one before. -/
def layProduct (last : Nat) : ByteRanges → Shelf → Room → Shelf × Room
  | [], shelf, room => (shelf, room)
  | (lo, hi) :: rest, shelf, room =>
    let (state, shelf, room) := shareState backwardSlots [last, lo, hi] 0 shelf room
    layProduct state rest shelf room

/-- The room after a set that is read backwards: a state with a way for each product, an end, and
the states between them. -/
def layBackwards (products : List ByteRanges) (room : Room) : Room :=
  let last := room.states + 1
  let (_, room) := products.foldl (fun (shelf, room) product => layProduct last product shelf room)
    ((∅ : Shelf), room.add 2 (Room.waySize * products.length))
  room

/-! ## Sets in either direction -/

/-- The order in which a pattern's bytes are read. -/
inductive Direction where
  | forward
  | backward
deriving DecidableEq, Repr

/-- The room after a set. A single character takes a state for each of its bytes, and ranges of
ASCII are listed in one state before an end. -/
def laySet (direction : Direction) (set : CharSet) (room : Room) : Room :=
  match set.single? with
  | some c => room.add c.utf8Size 0
  | none =>
    if set.isAscii then room.add 2 (Room.rangeSize * set.ranges.length)
    else
      match direction with
      | .forward => layForwards set.bytes room
      | .backward => layBackwards set.bytes room

/-! ## Words -/

/-- The stretches of words between those that are used up. -/
def stretches : List (List UInt8) → List (List (List UInt8))
  | [] => [[]]
  | [] :: rest => [] :: stretches rest
  | word :: rest =>
    match stretches rest with
    | first :: others => (word :: first) :: others
    | [] => [[word]]

/-- At the front of a list, words that are used up count once. -/
def dropRepeatedEnds : List (List UInt8) → List (List UInt8)
  | [] :: rest => [] :: rest.dropWhile List.isEmpty
  | words => words

/-- What follows a byte in those words that begin with it. -/
def tailsAfter (byte : UInt8) (words : List (List UInt8)) : List (List UInt8) :=
  words.filterMap fun word =>
    match word with
    | [] => none
    | first :: tail => if first = byte then some tail else none

/-- The room after the states that tell apart words of less than `depth` bytes. Each place where
words go on has a state for each stretch of them, and one more with a way to each stretch and to the
end of each word. -/
def layTree : (depth : Nat) → List (List UInt8) → Room → Room
  | 0, _, room => room
  | depth + 1, words, room =>
    let parts := stretches (dropRepeatedEnds words)
    let firsts := (parts.map fun part => (part.filterMap List.head?).eraseDups)
    let room := (parts.zip firsts).foldl
      (fun room (part, bytes) =>
        let room := bytes.foldl
          (fun room byte =>
            let tails := tailsAfter byte part
            if tails.all List.isEmpty then room else layTree depth tails room)
          room
        match bytes with
        | [] => room
        | [_] => room.add 1 0
        | _ => room.add 1 (Room.rangeSize * bytes.length))
      room
    let ways := (firsts.filter (!·.isEmpty)).length + (parts.length - 1)
    room.add 1 (Room.waySize * ways)

/-- The room after a choice of words: an end, and the states that tell them apart. -/
def layWords (direction : Direction) (words : List (List Char)) (room : Room) : Room :=
  let bytes := words.map fun word => word.flatMap String.utf8EncodeChar
  let bytes := match direction with
    | .forward => bytes
    | .backward => bytes.map List.reverse
  layTree ((bytes.map List.length).foldl max 0 + 1) bytes (room.add 1 0)

end LineLexer.Pattern
