import Std.Data.TreeSet

/-!
# Character sets

A set of characters is an ascending list of ranges of code points, so that a look-up of a small
code point stops at once. This module holds the membership test and the set algebra; the tables
of the Unicode properties and the classes of a pattern are values of this type.
-/

namespace LineLexer.Unicode

/-- A set of characters, given by the closed ranges of their code points in ascending order. The
codes that stand for no character are in none of the ranges. -/
structure CharSet where
  ranges : List (Nat × Nat)
deriving DecidableEq, Repr, Inhabited

namespace CharSet

/-- The greatest code point. -/
def maxCode : Nat := 0x10FFFF

/-- The first and the last code in the block of those that stand for no character. -/
def firstSurrogate : Nat := 0xD800
def lastSurrogate : Nat := 0xDFFF

/-- The search through ascending ranges stops at the first one that begins after the code. -/
def covers : List (Nat × Nat) → Nat → Bool
  | [], _ => false
  | (lo, hi) :: rest, code => if code < lo then false else code ≤ hi || covers rest code

def contains (set : CharSet) (c : Char) : Bool := covers set.ranges c.toNat

instance : Membership Char CharSet := ⟨fun set c => set.contains c = true⟩

def empty : CharSet := ⟨[]⟩

/-- The characters whose codes lie between two bounds, both included. -/
def codes (lo hi : Nat) : CharSet :=
  if hi < firstSurrogate ∨ lastSurrogate < lo then ⟨[(lo, hi)]⟩
  else
    ⟨(if lo < firstSurrogate then [(lo, firstSurrogate - 1)] else [])
      ++ (if lastSurrogate < hi then [(lastSurrogate + 1, hi)] else [])⟩

def all : CharSet := codes 0 maxCode

def isEmpty (set : CharSet) : Bool := set.ranges.isEmpty

/-- The characters from `lo` to `hi`, both included. -/
def range (lo hi : Char) : CharSet := codes lo.toNat hi.toNat

def singleton (c : Char) : CharSet := ⟨[(c.toNat, c.toNat)]⟩

/-- The only character of a set, if it has just one. -/
def single? (set : CharSet) : Option Char :=
  match set.ranges with
  | [(lo, hi)] => if lo = hi then some (Char.ofNat lo) else none
  | _ => none

/-! ## Set algebra -/

/-- Joins those of the ascending ranges that overlap or touch, beginning with the one given. -/
def joinFrom (lo hi : Nat) : List (Nat × Nat) → List (Nat × Nat)
  | [] => [(lo, hi)]
  | (lo', hi') :: rest =>
    if lo' ≤ hi + 1 then joinFrom lo (max hi hi') rest else (lo, hi) :: joinFrom lo' hi' rest

/-- The set of ranges that ascend by their lower ends. -/
def ofAscending : List (Nat × Nat) → CharSet
  | [] => empty
  | (lo, hi) :: rest => ⟨joinFrom lo hi rest⟩

/-- Puts a range among ascending ones; `behind` puts the ranges after it among what is left. -/
def mergeAt (range : Nat × Nat) (behind : List (Nat × Nat) → List (Nat × Nat)) :
    List (Nat × Nat) → List (Nat × Nat)
  | [] => range :: behind []
  | next :: rest =>
    if range.1 ≤ next.1 then range :: behind (next :: rest) else next :: mergeAt range behind rest

/-- The ranges of two lists that ascend by their lower ends, as one such list. -/
def merge : List (Nat × Nat) → List (Nat × Nat) → List (Nat × Nat)
  | [], ranges => ranges
  | range :: rest, ranges => mergeAt range (merge rest) ranges

def union (a b : CharSet) : CharSet := ofAscending (merge a.ranges b.ranges)

/-- The gaps between ascending ranges, from the code `start` on. -/
def gaps (start : Nat) : List (Nat × Nat) → List (Nat × Nat)
  | [] => if start ≤ maxCode then [(start, maxCode)] else []
  | (lo, hi) :: rest =>
    if start < lo then (start, lo - 1) :: gaps (hi + 1) rest
    else gaps (max start (hi + 1)) rest

/-- All characters outside the set. -/
def complement (set : CharSet) : CharSet :=
  ⟨gaps 0 (merge set.ranges [(firstSurrogate, lastSurrogate)])⟩

def inter (a b : CharSet) : CharSet := (a.complement.union b.complement).complement

def diff (a b : CharSet) : CharSet := a.inter b.complement

/-- The characters in exactly one of the two sets. -/
def symmDiff (a b : CharSet) : CharSet := (a.union b).diff (a.inter b)

/-- The characters with the given codes, in any order. -/
def ofCodes (codes : List Nat) : CharSet :=
  ofAscending ((Std.TreeSet.ofList codes).toList.map fun code => (code, code))

def ofList (chars : List Char) : CharSet := ofCodes (chars.map Char.toNat)

def unions (sets : List CharSet) : CharSet := sets.foldl union empty

/-- All members are ASCII. -/
def isAscii (set : CharSet) : Bool := set.ranges.all (·.2 < 128)

end CharSet

end LineLexer.Unicode
