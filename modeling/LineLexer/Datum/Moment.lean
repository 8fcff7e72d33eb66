import LineLexer.Datum.Numeral

/-!
# Dates and times

A TOML document may hold dates, times of day, and dates with a time, which may tell how far it is
ahead of universal time. No field of this library takes one, so they are checked and passed over:
each function answers what follows.
-/

namespace LineLexer.Toml

/-- Reads a number that is written with a fixed count of digits and lies between two bounds. -/
def readPart? (width least greatest : Nat) (text : List Char) : Option (Nat × List Char) :=
  let digits := text.take width
  let value := valueOf 10 digits
  let written := digits.length = width ∧ digits.all (isDigit 10)
  if written ∧ least ≤ value ∧ value ≤ greatest then some (value, text.drop width) else none

/-- What follows a character that has to stand in front. -/
def skip? (c : Char) : List Char → Option (List Char)
  | d :: rest => if d = c then some rest else none
  | [] => none

def isLeapYear (year : Nat) : Bool := year % 4 == 0 && (year % 100 != 0 || year % 400 == 0)

def daysInMonth (year month : Nat) : Nat :=
  if month = 2 then if isLeapYear year then 29 else 28
  else if month = 4 ∨ month = 6 ∨ month = 9 ∨ month = 11 then 30
  else 31

/-- Passes over a date: year, month and day. -/
def skipDate? (text : List Char) : Option (List Char) := do
  let (year, rest) ← readPart? 4 0 9999 text
  let (month, rest) ← readPart? 2 1 12 (← skip? '-' rest)
  let (_, rest) ← readPart? 2 1 (daysInMonth year month) (← skip? '-' rest)
  return rest

/-- Passes over hours and minutes. -/
def skipMinutes? (text : List Char) : Option (List Char) := do
  let (_, rest) ← readPart? 2 0 23 text
  let (_, rest) ← readPart? 2 0 59 (← skip? ':' rest)
  return rest

/-- Passes over the digits behind the point of the seconds, if there are any. -/
def skipPart : List Char → List Char
  | '.' :: c :: rest =>
    if isDigit 10 c then rest.dropWhile (isDigit 10) else '.' :: c :: rest
  | text => text

/-- Passes over a time of day. A minute may have a leap second. -/
def skipTime? (text : List Char) : Option (List Char) := do
  let rest ← skipMinutes? text
  let (_, rest) ← readPart? 2 0 60 (← skip? ':' rest)
  return skipPart rest

/-- Passes over the distance from universal time, if there is one. -/
def skipOffset? : List Char → Option (List Char)
  | [] => some []
  | c :: rest =>
    if c = 'Z' ∨ c = 'z' then some rest
    else if c = '+' ∨ c = '-' then skipMinutes? rest
    else some (c :: rest)

/-- Passes over a date, which a letter or a blank may join to a time. -/
def skipMoment? (text : List Char) : Option (List Char) :=
  match skipDate? text with
  | none => skipTime? text
  | some [] => some []
  | some (c :: rest) =>
    if c = 'T' ∨ c = 't' ∨ c = ' ' then
      match skipTime? rest with
      | some rest => skipOffset? rest
      | none => some (c :: rest)
    else some (c :: rest)

end LineLexer.Toml
