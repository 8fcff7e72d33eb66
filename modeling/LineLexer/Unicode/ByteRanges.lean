import LineLexer.Unicode.CharSet

/-!
# Character sets as bytes

In UTF-8 a character is one to four bytes, of which all but the first carry a digit to the base 64. A
range of characters falls into products of byte ranges; the products of a set ascend as its
characters do.
-/

namespace LineLexer.Unicode

/-- Ranges of digits to the base 64, the most significant one first. -/
abbrev DigitRanges := List (Nat × Nat)

/-- Parts the numbers from `lo` to `hi` into products of ranges, for a leading digit and `n` further
ones. -/
def digitRanges : (n : Nat) → (lo hi : Nat) → List DigitRanges
  | 0, lo, hi => [[(lo, hi)]]
  | n + 1, lo, hi =>
    let unit := Nat.pow 64 (n + 1)
    let first := lo / unit
    let last := hi / unit
    let led (digit lo hi : Nat) : List DigitRanges :=
      (digitRanges n lo hi).map ((digit, digit) :: ·)
    if first = last then led first (lo % unit) (hi % unit)
    else
      let cutFront := lo % unit != 0
      let cutBack := hi % unit != unit - 1
      let start := if cutFront then first + 1 else first
      let stop := if cutBack then last else last + 1
      (if cutFront then led first (lo % unit) (unit - 1) else [])
        ++ (if start < stop then [(start, stop - 1) :: List.replicate (n + 1) (0, 63)] else [])
        ++ (if cutBack then led last 0 (hi % unit) else [])

/-- The ranges of the bytes of some characters, the first byte first. -/
abbrev ByteRanges := List (Nat × Nat)

/-- The bytes that carry digits: the first one tells how many follow, and those have a mark. -/
def bytesOfDigits (lead : Nat) : DigitRanges → ByteRanges
  | [] => []
  | (lo, hi) :: rest => (lead + lo, lead + hi) :: rest.map fun (lo, hi) => (0x80 + lo, 0x80 + hi)

/-- The codes that take one byte, two, three and four: the number of bytes after the first, the
first byte of the digit zero, and the bounds. -/
def encodedLengths : List (Nat × Nat × Nat × Nat) :=
  [(0, 0x00, 0x00, 0x7F), (1, 0xC0, 0x80, 0x7FF), (2, 0xE0, 0x800, 0xFFFF),
   (3, 0xF0, 0x10000, CharSet.maxCode)]

/-- The products of byte ranges that make up a range of codes. -/
def rangeBytes (range : Nat × Nat) : List ByteRanges :=
  encodedLengths.flatMap fun (n, lead, lo, hi) =>
    let lo := max lo range.1
    let hi := min hi range.2
    if lo ≤ hi then (digitRanges n lo hi).map (bytesOfDigits lead) else []

/-- The products of byte ranges that make up a set. -/
def CharSet.bytes (set : CharSet) : List ByteRanges := set.ranges.flatMap rangeBytes

end LineLexer.Unicode
