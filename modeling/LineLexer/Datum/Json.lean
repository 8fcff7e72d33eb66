import LineLexer.Datum.Basic

/-!
# JSON

Reading and writing of JSON texts. The reader takes exactly the standard's grammar, which lets a
string hold one half of a pair of surrogates: such a string is no text, but a field that is passed
over may hold it. The two writers put nothing, or line breaks and two blanks for each level, between
the elements.
-/

namespace LineLexer.Json

/-- Why a text is not JSON. -/
inductive SyntaxError where
  | unexpectedEnd
  | unexpected (c : Char)
  | controlCharacter
  | escape
  | trailing
deriving DecidableEq, Repr

def SyntaxError.message : SyntaxError → String
  | .unexpectedEnd => "EOF while parsing a value"
  | .unexpected c => "unexpected character " ++ c.toString
  | .controlCharacter => "control character found while parsing a string"
  | .escape => "invalid escape"
  | .trailing => "trailing characters"

/-! ## Reading -/

def isSpace (c : Char) : Bool := c = ' ' || c = '\n' || c = '\t' || c = '\r'

def skipSpace (text : List Char) : List Char := text.dropWhile isSpace

/-- The value of a hexadecimal digit. -/
def hexDigit? (c : Char) : Option Nat :=
  if '0' ≤ c ∧ c ≤ '9' then some (c.toNat - '0'.toNat)
  else if 'a' ≤ c ∧ c ≤ 'f' then some (c.toNat - 'a'.toNat + 10)
  else if 'A' ≤ c ∧ c ≤ 'F' then some (c.toNat - 'A'.toNat + 10)
  else none

/-- Reads the four digits of a code unit. -/
def readUnit : List Char → Except SyntaxError (Nat × List Char)
  | a :: b :: c :: d :: rest =>
    match hexDigit? a, hexDigit? b, hexDigit? c, hexDigit? d with
    | some a, some b, some c, some d => .ok (((a * 16 + b) * 16 + c) * 16 + d, rest)
    | _, _, _, _ => .error .escape
  | _ => .error .unexpectedEnd

/-- Reads an escape after its backslash. -/
def readEscape : List Char → Except SyntaxError (Nat × List Char)
  | [] => .error .unexpectedEnd
  | c :: rest =>
    match c with
    | '"' => .ok ('"'.toNat, rest)
    | '\\' => .ok ('\\'.toNat, rest)
    | '/' => .ok ('/'.toNat, rest)
    | 'b' => .ok (0x08, rest)
    | 'f' => .ok (0x0C, rest)
    | 'n' => .ok ('\n'.toNat, rest)
    | 'r' => .ok ('\r'.toNat, rest)
    | 't' => .ok ('\t'.toNat, rest)
    | 'u' => readUnit rest
    | _ => .error .escape

/-- Reads the codes of a string after its opening quote; `taken` holds those in front, last one
first. A code is a character or, from an escape, half of a pair of surrogates. -/
def readCodes : (fuel : Nat) → (taken : List Nat) → List Char →
    Except SyntaxError (List Nat × List Char)
  | 0, _, _ => .error .unexpectedEnd
  | _ + 1, _, [] => .error .unexpectedEnd
  | fuel + 1, taken, c :: rest =>
    if c = '"' then .ok (taken.reverse, rest)
    else if c = '\\' then do
      let (code, rest) ← readEscape rest
      readCodes fuel (code :: taken) rest
    else if c.toNat < 0x20 then .error .controlCharacter
    else readCodes fuel (c.toNat :: taken) rest

def isLeading (code : Nat) : Bool := 0xD800 ≤ code && code < 0xDC00

def isTrailing (code : Nat) : Bool := 0xDC00 ≤ code && code < 0xE000

/-- The character that a pair of surrogates stands for. -/
def pairChar (leading trailing : Nat) : Char :=
  Char.ofNat (0x10000 + (leading - 0xD800) * 0x400 + (trailing - 0xDC00))

/-- The text of codes behind the characters in `taken`, last one first. There is none if half of a
pair of surrogates stands alone. -/
def textOf? : (taken : List Char) → List Nat → Option String
  | taken, [] => some (String.ofList taken.reverse)
  | taken, [code] =>
    if isLeading code || isTrailing code then none else textOf? (Char.ofNat code :: taken) []
  | taken, code :: next :: rest =>
    if isLeading code && isTrailing next then textOf? (pairChar code next :: taken) rest
    else if isLeading code || isTrailing code then none
    else textOf? (Char.ofNat code :: taken) (next :: rest)

/-- Reads a string after its opening quote; it need not be a text. -/
def readString (text : List Char) : Except SyntaxError (Option String × List Char) := do
  let (codes, rest) ← readCodes (text.length + 1) [] text
  return (textOf? [] codes, rest)

/-! ### Numbers -/

/-- Takes a run of digits, at least one. -/
def readDigits (text : List Char) : Except SyntaxError (List Char × List Char) :=
  match text.span Char.isDigit with
  | ([], c :: _) => .error (.unexpected c)
  | ([], []) => .error .unexpectedEnd
  | (digits, rest) => .ok (digits, rest)

/-- Takes the whole part of a number; it has no leading zeros. -/
def readWhole : List Char → Except SyntaxError (List Char × List Char)
  | '0' :: c :: rest => if c.isDigit then .error (.unexpected c) else .ok (['0'], c :: rest)
  | text => readDigits text

/-- Takes the fraction of a number, if there is one. -/
def readFraction : List Char → Except SyntaxError (List Char × List Char)
  | '.' :: rest => do
    let (digits, rest) ← readDigits rest
    return ('.' :: digits, rest)
  | text => .ok ([], text)

/-- Takes the exponent of a number, if there is one. -/
def readExponent : List Char → Except SyntaxError (List Char × List Char)
  | c :: rest =>
    if c = 'e' ∨ c = 'E' then
      match rest with
      | '+' :: rest => do let (digits, rest) ← readDigits rest; return ('e' :: '+' :: digits, rest)
      | '-' :: rest => do let (digits, rest) ← readDigits rest; return ('e' :: '-' :: digits, rest)
      | rest => do let (digits, rest) ← readDigits rest; return ('e' :: digits, rest)
    else .ok ([], c :: rest)
  | [] => .ok ([], [])

/-- Takes the text of a number. -/
def readNumber (text : List Char) : Except SyntaxError (String × List Char) := do
  let (sign, rest) := match text with
    | '-' :: rest => (['-'], rest)
    | text => ([], text)
  let (whole, rest) ← readWhole rest
  let (fraction, rest) ← readFraction rest
  let (exponent, rest) ← readExponent rest
  return (String.ofList (sign ++ whole ++ fraction ++ exponent), rest)

/-! ### Values -/

/-- A string as data. -/
def stringDatum : Option String → Datum
  | some value => .text value
  | none => .foreign

/-- Fields as data; a name that is no text belongs to no field. -/
def recordDatum (fields : List (Option String × Datum)) : Datum :=
  match fields.mapM fun (name, value) => name.map (·, value) with
  | some fields => .record fields
  | none => .foreign

mutual

/-- Reads one value and what follows it. -/
def readValue : (fuel : Nat) → List Char → Except SyntaxError (Datum × List Char)
  | 0, _ => .error .unexpectedEnd
  | fuel + 1, text =>
    match skipSpace text with
    | [] => .error .unexpectedEnd
    | 'n' :: 'u' :: 'l' :: 'l' :: rest => .ok (.null, rest)
    | 't' :: 'r' :: 'u' :: 'e' :: rest => .ok (.boolean true, rest)
    | 'f' :: 'a' :: 'l' :: 's' :: 'e' :: rest => .ok (.boolean false, rest)
    | '"' :: rest => do
      let (value, rest) ← readString rest
      return (stringDatum value, rest)
    | '[' :: rest =>
      match skipSpace rest with
      | ']' :: rest => .ok (.list [], rest)
      | rest => do
        let (items, rest) ← readItems fuel rest
        return (.list items, rest)
    | '{' :: rest =>
      match skipSpace rest with
      | '}' :: rest => .ok (.record [], rest)
      | rest => do
        let (fields, rest) ← readFields fuel rest
        return (recordDatum fields, rest)
    | c :: rest =>
      if c = '-' || c.isDigit then do
        let (literal, rest) ← readNumber (c :: rest)
        return (.number literal, rest)
      else .error (.unexpected c)

/-- Reads the items of a list up to its closing bracket. -/
def readItems : (fuel : Nat) → List Char → Except SyntaxError (List Datum × List Char)
  | 0, _ => .error .unexpectedEnd
  | fuel + 1, text => do
    let (item, rest) ← readValue fuel text
    match skipSpace rest with
    | ',' :: rest => do
      let (items, rest) ← readItems fuel rest
      return (item :: items, rest)
    | ']' :: rest => return ([item], rest)
    | c :: _ => throw (.unexpected c)
    | [] => throw .unexpectedEnd

/-- Reads the fields of a record up to its closing brace. -/
def readFields : (fuel : Nat) → List Char →
    Except SyntaxError (List (Option String × Datum) × List Char)
  | 0, _ => .error .unexpectedEnd
  | fuel + 1, text => do
    let (name, rest) ← match skipSpace text with
      | '"' :: rest => readString rest
      | c :: _ => throw (.unexpected c)
      | [] => throw .unexpectedEnd
    let rest ← match skipSpace rest with
      | ':' :: rest => pure rest
      | c :: _ => throw (.unexpected c)
      | [] => throw .unexpectedEnd
    let (value, rest) ← readValue fuel rest
    match skipSpace rest with
    | ',' :: rest => do
      let (fields, rest) ← readFields fuel rest
      return ((name, value) :: fields, rest)
    | '}' :: rest => return ([(name, value)], rest)
    | c :: _ => throw (.unexpected c)
    | [] => throw .unexpectedEnd

end

/-- Reads a text that holds one value. -/
def parse (text : String) : Except SyntaxError Datum := do
  let chars := text.toList
  let (value, rest) ← readValue (chars.length + 1) chars
  if (skipSpace rest).isEmpty then return value else throw .trailing

/-! ## Writing -/

def hexDigit (n : Nat) : Char := Nat.digitChar n

/-- How a character is written inside a string. -/
def escapeChar (c : Char) : List Char :=
  if c = '"' then ['\\', '"']
  else if c = '\\' then ['\\', '\\']
  else if c = '\n' then ['\\', 'n']
  else if c = '\r' then ['\\', 'r']
  else if c = '\t' then ['\\', 't']
  else if c = '\x08' then ['\\', 'b']
  else if c = '\x0c' then ['\\', 'f']
  else if c.toNat < 0x20 then
    ['\\', 'u', '0', '0', hexDigit (c.toNat / 16), hexDigit (c.toNat % 16)]
  else [c]

def quote (value : String) : String :=
  String.ofList ('"' :: (value.toList.flatMap escapeChar ++ ['"']))

/-- What stands between the elements of lists and records: the line breaks and margins, or nothing,
and a blank after a colon, or nothing. -/
structure Spacing where
  margin : Nat → String
  colon : String

def Spacing.compact : Spacing := ⟨fun _ => "", ":"⟩

def Spacing.pretty : Spacing := ⟨fun level => String.ofList ('\n' :: List.replicate (2 * level) ' '), ": "⟩

/-- The elements of a list or record at a level, in their brackets. -/
def bracketed (spacing : Spacing) (level : Nat) (opening closing : String)
    (elements : List String) : String :=
  if elements.isEmpty then opening ++ closing
  else
    opening ++ spacing.margin (level + 1)
      ++ String.intercalate ("," ++ spacing.margin (level + 1)) elements
      ++ spacing.margin level ++ closing

mutual

/-- The text of a value; what JSON has no form for is written as null. -/
def write (spacing : Spacing) (level : Nat) : Datum → String
  | .null | .foreign => "null"
  | .boolean true => "true"
  | .boolean false => "false"
  | .number literal => literal
  | .text value => quote value
  | .list items => bracketed spacing level "[" "]" (writeItems spacing (level + 1) items)
  | .record fields =>
    bracketed spacing level "\x7b" "\x7d" (writeFields spacing (level + 1) fields)

def writeItems (spacing : Spacing) (level : Nat) : List Datum → List String
  | [] => []
  | item :: items => write spacing level item :: writeItems spacing level items

def writeFields (spacing : Spacing) (level : Nat) : List (String × Datum) → List String
  | [] => []
  | (name, value) :: fields =>
    (quote name ++ spacing.colon ++ write spacing level value) :: writeFields spacing level fields

end

/-- The text of a value on one line. -/
def compact (value : Datum) : String := write .compact 0 value

/-- The text of a value with one element on each line. -/
def pretty (value : Datum) : String := write .pretty 0 value

end LineLexer.Json
