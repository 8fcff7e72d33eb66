/-!
# Numerals

The numbers that a TOML document may hold: whole numbers to the bases ten, sixteen, eight and two,
which fit 64 bits with a sign, and decimal fractions. An underscore may stand between two digits.
A numeral is read to its plain decimal text, without underscores and without a plus in front.
-/

namespace LineLexer.Toml

/-! ## Digits -/

/-- The value of a digit to a base of at most sixteen. -/
def digit? (base : Nat) (c : Char) : Option Nat :=
  let value :=
    if '0' ≤ c ∧ c ≤ '9' then c.toNat - '0'.toNat
    else if 'a' ≤ c ∧ c ≤ 'f' then c.toNat - 'a'.toNat + 10
    else if 'A' ≤ c ∧ c ≤ 'F' then c.toNat - 'A'.toNat + 10
    else base
  if value < base then some value else none

def isDigit (base : Nat) (c : Char) : Bool := (digit? base c).isSome

/-- The number that digits stand for. -/
def valueOf (base : Nat) (digits : List Char) : Nat :=
  digits.foldl (fun value c => base * value + (digit? base c).getD 0) 0

/-- Takes digits, at least one, where an underscore may stand between two of them. -/
def readDigits? (base : Nat) : List Char → Option (List Char × List Char)
  | [] => none
  | [c] => if isDigit base c then some ([c], []) else none
  | c :: '_' :: rest => do
    if !isDigit base c then none
    let (digits, rest) ← readDigits? base rest
    return (c :: digits, rest)
  | c :: d :: rest => do
    if !isDigit base c then none
    if !isDigit base d then return ([c], d :: rest)
    let (digits, rest) ← readDigits? base (d :: rest)
    return (c :: digits, rest)

/-- Takes the sign of a numeral, if there is one, and tells whether it is a minus. -/
def readSign : List Char → Bool × List Char
  | '+' :: rest => (false, rest)
  | '-' :: rest => (true, rest)
  | text => (false, text)

def signed (negative : Bool) (digits : List Char) : List Char :=
  if negative then '-' :: digits else digits

/-! ## Size -/

/-- The first number that whole numbers with a sign do not reach. -/
def wholeBound : Nat := 0x8000000000000000

/-- Whole numbers reach one further below zero than above. -/
def fitsWhole (negative : Bool) (value : Nat) : Bool :=
  if negative then value ≤ wholeBound else value < wholeBound

/-- The least number that is nearer to two to the 1024th than to any fraction of 53 bits below. -/
def fractionBound : Nat := Nat.pow 2 1024 - Nat.pow 2 970

/-- Whether the digits of a whole number, times a power of ten, stay below the bound of fractions.
The bound has 309 digits, so numbers with more or fewer need no calculation. -/
def fitsFraction (digits : List Char) (exponent : Int) : Bool :=
  let digits := digits.dropWhile (· == '0')
  let width := exponent + digits.length
  if digits.isEmpty || width < 309 then true
  else if 309 < width then false
  else
    let value := valueOf 10 digits
    if 0 ≤ exponent then value * Nat.pow 10 exponent.toNat < fractionBound
    else value < fractionBound * Nat.pow 10 (-exponent).toNat

/-! ## Numerals -/

/-- Takes the whole part of a decimal numeral; it has no leading zeros. -/
def readWhole? : List Char → Option (List Char × List Char)
  | '0' :: rest => some (['0'], rest)
  | text => readDigits? 10 text

/-- Takes the digits of a fraction behind its point, if there is one. -/
def readFraction? : List Char → Option (List Char × List Char)
  | '.' :: rest => readDigits? 10 rest
  | text => some ([], text)

/-- Takes an exponent, if there is one: whether it is negative, and its digits. -/
def readExponent? : List Char → Option ((Bool × List Char) × List Char)
  | [] => some ((false, []), [])
  | c :: rest =>
    if c = 'e' ∨ c = 'E' then do
      let (below, rest) := readSign rest
      let (digits, rest) ← readDigits? 10 rest
      return ((below, digits), rest)
    else some ((false, []), c :: rest)

/-- Reads a decimal numeral. Below zero a fraction may be as large as it likes. -/
def readDecimal? (text : List Char) : Option (String × List Char) := do
  let (negative, rest) := readSign text
  let (whole, rest) ← readWhole? rest
  let (fraction, rest) ← readFraction? rest
  let ((below, exponent), rest) ← readExponent? rest
  let power := Int.ofNat (valueOf 10 exponent)
  let power := (if below then -power else power) - Int.ofNat fraction.length
  let fits :=
    if fraction.isEmpty && exponent.isEmpty then fitsWhole negative (valueOf 10 whole)
    else negative || fitsFraction (whole ++ fraction) power
  if !fits then none
  let fraction := if fraction.isEmpty then [] else '.' :: fraction
  let exponent := if exponent.isEmpty then [] else 'e' :: signed below exponent
  return (String.ofList (signed negative (whole ++ fraction ++ exponent)), rest)

/-- Reads the digits of a whole number to another base, behind the mark of the base. -/
def readBased? (base : Nat) (text : List Char) : Option (String × List Char) := do
  let (digits, rest) ← readDigits? base text
  let value := valueOf base digits
  if fitsWhole false value then return (toString value, rest) else none

/-- Reads a numeral and what follows it. -/
def readNumeral? : List Char → Option (String × List Char)
  | '0' :: 'x' :: rest => readBased? 16 rest
  | '0' :: 'o' :: rest => readBased? 8 rest
  | '0' :: 'b' :: rest => readBased? 2 rest
  | text => readDecimal? text

/-- Passes over a number that is infinite or none at all. -/
def skipUnbounded? (text : List Char) : Option (List Char) :=
  match (readSign text).2 with
  | 'i' :: 'n' :: 'f' :: rest => some rest
  | 'n' :: 'a' :: 'n' :: rest => some rest
  | _ => none

end LineLexer.Toml
