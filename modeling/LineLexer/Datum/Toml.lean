import LineLexer.Datum.Basic
import LineLexer.Datum.Moment

/-!
# TOML

Reading of TOML documents. Arrays and inline tables nest, and the parts of a dotted key lead, to a
bounded depth.

A document is a sequence of headers and of lines that give a key a value. The reader keeps the
tables that are complete and the one that is being filled, and knows of each table how it came to
be: by its header, as a step on the way to another one, or through a dotted key.
-/

namespace LineLexer.Toml

/-- Why a text is not a document. -/
inductive SyntaxError where
  | unexpectedEnd
  | unexpected (c : Char)
  | controlCharacter
  | escape
  | keyTwice (key : String)
  | notATable (key : String)
  | noValue
  | tooDeep
deriving DecidableEq, Repr

def SyntaxError.message : SyntaxError → String
  | .unexpectedEnd => "unexpected end of input"
  | .unexpected c => "unexpected character " ++ c.toString
  | .controlCharacter => "control character"
  | .escape => "invalid escape sequence"
  | .keyTwice key => "duplicate key " ++ key
  | .notATable key => "dotted key " ++ key ++ " attempted to extend a value"
  | .noValue => "expected a value"
  | .tooDeep => "recursion limit exceeded"

/-! ## Tables -/

/-- An entry of a table under construction. -/
inductive Node where
  | value (datum : Datum)
  /-- A table; `passing` ones came to be on the way to another table or to a dotted key, `dotted`
  ones through a dotted key. -/
  | table (passing dotted : Bool) (entries : List (String × Node))
  /-- The tables of an array of tables, last one first. -/
  | tables (tables : List (List (String × Node)))

abbrev Entries := List (String × Node)

mutual

def Node.toDatum : Node → Datum
  | .value datum => datum
  | .table _ _ entries => .record (entriesToFields entries)
  | .tables tables => .list (tablesToData tables).reverse

def entriesToFields : List (String × Node) → List (String × Datum)
  | [] => []
  | (key, node) :: rest => (key, node.toDatum) :: entriesToFields rest

def tablesToData : List (List (String × Node)) → List Datum
  | [] => []
  | entries :: rest => .record (entriesToFields entries) :: tablesToData rest

end

def lookup? (key : String) (entries : Entries) : Option Node :=
  (entries.find? (·.1 == key)).map (·.2)

/-- Gives a key a value, in its old place or at the end. -/
def put (key : String) (node : Node) : Entries → Entries
  | [] => [(key, node)]
  | (key', node') :: rest =>
    if key' == key then (key, node) :: rest else (key', node') :: put key node rest

def remove (key : String) (entries : Entries) : Entries := entries.filter (·.1 != key)

/-- Acts on the table at the end of a path, making the tables on the way, and hands on what the
action finds there. `dotted` says that the path comes from a dotted key; such a path leads only
through tables that have no header of their own. The action is told whether it ends in a table made
by a dotted key. -/
def within {α : Type} (dotted : Bool) (act : Bool → Entries → Except SyntaxError (α × Entries)) :
    (path : List String) → (atDotted : Bool) → Entries → Except SyntaxError (α × Entries)
  | [], atDotted, entries => act atDotted entries
  | key :: path, _, entries =>
    match lookup? key entries with
    | none => do
      let (found, inner) ← within dotted act path dotted []
      return (found, put key (.table true dotted inner) entries)
    | some (.value _) => throw (.notATable key)
    | some (.table passing byDot inner) => do
      if dotted && !passing then throw (.keyTwice key)
      let (found, inner) ← within dotted act path byDot inner
      return (found, put key (.table passing byDot inner) entries)
    | some (.tables []) => throw (.notATable key)
    | some (.tables (last :: earlier)) => do
      let (found, last) ← within dotted act path false last
      return (found, put key (.tables (last :: earlier)) entries)

/-- Acts on the table at the end of a path for the sake of the change alone. -/
def change (dotted : Bool) (act : Bool → Entries → Except SyntaxError Entries)
    (path : List String) (entries : Entries) : Except SyntaxError Entries := do
  let ((), entries) ← within dotted
    (fun atDotted entries => (act atDotted entries).map ((), ·)) path false entries
  return entries

/-- Gives the last key of a dotted key its value. A table is filled either by dotted keys or in its
own right, and no key is given twice. -/
def insertDotted (path : List String) (key : String) (value : Datum) (entries : Entries) :
    Except SyntaxError Entries :=
  change true
    (fun atDotted entries =>
      if atDotted == path.isEmpty || (lookup? key entries).isSome then .error (.keyTwice key)
      else .ok (put key (.value value) entries))
    path entries

/-! ## Characters -/

def isBlank (c : Char) : Bool := c = ' ' || c = '\t'

def skipBlanks (text : List Char) : List Char := text.dropWhile isBlank

/-- Characters that may stand in comments and, save the signs of the notation, in strings. -/
def isPlain (c : Char) : Bool := c = '\t' || (0x20 ≤ c.toNat && c.toNat != 0x7F)

/-- What follows a line break. -/
def lineBreak? : List Char → Option (List Char)
  | '\n' :: rest => some rest
  | '\r' :: '\n' :: rest => some rest
  | _ => none

/-- Drops blanks and a comment. -/
def skipComment (text : List Char) : List Char :=
  match skipBlanks text with
  | '#' :: rest => rest.dropWhile isPlain
  | rest => rest

/-- Drops what may stand behind an element up to the end of its line. -/
def readLineEnd (text : List Char) : Except SyntaxError (List Char) :=
  match skipComment text with
  | [] => .ok []
  | c :: rest =>
    match lineBreak? (c :: rest) with
    | some rest => .ok rest
    | none => .error (.unexpected c)

/-- Drops blanks, comments and line breaks. -/
def skipLines : (fuel : Nat) → List Char → List Char
  | 0, text => text
  | fuel + 1, text =>
    let rest := skipComment text
    match lineBreak? rest with
    | some rest => skipLines fuel rest
    | none => rest

/-! ## Strings -/

/-- Reads a character given by a fixed number of hexadecimal digits. -/
def readCode (width : Nat) (text : List Char) : Except SyntaxError (Char × List Char) :=
  let digits := text.take width
  let code := valueOf 16 digits
  if digits.length = width ∧ digits.all (isDigit 16) ∧ code.isValidChar then
    .ok (Char.ofNat code, text.drop width)
  else .error .escape

/-- Reads an escape after its backslash. -/
def readEscape : List Char → Except SyntaxError (Char × List Char)
  | [] => .error .unexpectedEnd
  | c :: rest =>
    match c with
    | '"' => .ok ('"', rest)
    | '\\' => .ok ('\\', rest)
    | 'b' => .ok ('\x08', rest)
    | 'f' => .ok ('\x0c', rest)
    | 'n' => .ok ('\n', rest)
    | 'r' => .ok ('\r', rest)
    | 't' => .ok ('\t', rest)
    | 'u' => readCode 4 rest
    | 'U' => readCode 8 rest
    | _ => .error .escape

/-- Reads a string on one line after its opening quote; a string in apostrophes has no escapes. -/
def readString (quote : Char) : (fuel : Nat) → (taken : List Char) → List Char →
    Except SyntaxError (String × List Char)
  | 0, _, _ => .error .unexpectedEnd
  | _ + 1, _, [] => .error .unexpectedEnd
  | fuel + 1, taken, c :: rest =>
    if c = quote then .ok (String.ofList taken.reverse, rest)
    else if c = '\\' && quote == '"' then do
      let (c, rest) ← readEscape rest
      readString quote fuel (c :: taken) rest
    else if isPlain c then readString quote fuel (c :: taken) rest
    else .error .controlCharacter

/-- Drops blanks and line breaks. -/
def skipBreaks : (fuel : Nat) → List Char → List Char
  | 0, text => text
  | fuel + 1, text =>
    let rest := skipBlanks text
    match lineBreak? rest with
    | some rest => skipBreaks fuel rest
    | none => rest

/-- The line break that a backslash takes away, with all blanks and line breaks behind it. -/
def foldedBreak? (text : List Char) : Option (List Char) :=
  (lineBreak? (skipBlanks text)).map (skipBreaks text.length)

/-- Reads a string over several lines after its opening quotes. Up to two quotes may stand inside;
of five at the end, the last three close the string. -/
def readLongString (quote : Char) : (fuel : Nat) → (taken : List Char) → List Char →
    Except SyntaxError (String × List Char)
  | 0, _, _ => .error .unexpectedEnd
  | _ + 1, _, [] => .error .unexpectedEnd
  | fuel + 1, taken, c :: rest =>
    if c = quote then
      let run := (c :: rest).takeWhile (· == quote)
      let behind := (c :: rest).dropWhile (· == quote)
      if run.length < 3 then readLongString quote fuel (run ++ taken) behind
      else if run.length ≤ 5 then
        .ok (String.ofList ((run.drop 3) ++ taken).reverse, behind)
      else .error (.unexpected c)
    else if c = '\\' && quote == '"' then
      match foldedBreak? rest with
      | some rest => readLongString quote fuel taken rest
      | none => do
        let (c, rest) ← readEscape rest
        readLongString quote fuel (c :: taken) rest
    else
      match lineBreak? (c :: rest) with
      | some rest => readLongString quote fuel ('\n' :: taken) rest
      | none =>
        if isPlain c then readLongString quote fuel (c :: taken) rest
        else .error .controlCharacter

/-- Drops a line break right behind the opening quotes. -/
def dropFirstBreak (text : List Char) : List Char := (lineBreak? text).getD text

/-! ## Keys -/

def isBareKeyChar (c : Char) : Bool := c.isAlphanum || c = '_' || c = '-'

/-- Reads one part of a key: a bare word or a string on one line. -/
def readSimpleKey (text : List Char) : Except SyntaxError (String × List Char) :=
  match text with
  | '"' :: rest => readString '"' (rest.length + 1) [] rest
  | '\'' :: rest => readString '\'' (rest.length + 1) [] rest
  | text =>
    match text.span isBareKeyChar with
    | ([], c :: _) => .error (.unexpected c)
    | ([], []) => .error .unexpectedEnd
    | (word, rest) => .ok (String.ofList word, rest)

/-- How deep arrays and inline tables may nest, and how many parts a key may have. -/
def greatestDepth : Nat := 79

/-- Reads a key of at most so many parts: the parts before its last one, the last one, and what
follows. -/
def readKey : (parts : Nat) → List Char → Except SyntaxError (List String × String × List Char)
  | 0, _ => .error .tooDeep
  | parts + 1, text => do
    let (key, rest) ← readSimpleKey (skipBlanks text)
    match skipBlanks rest with
    | '.' :: rest => do
      let (path, last, rest) ← readKey parts rest
      return (key :: path, last, rest)
    | rest => return ([], key, rest)

/-- Reads a key and the equals sign behind it. -/
def readAssigned (text : List Char) : Except SyntaxError (List String × String × List Char) := do
  let (path, key, rest) ← readKey greatestDepth text
  match rest with
  | '=' :: rest => return (path, key, skipBlanks rest)
  | c :: _ => throw (.unexpected c)
  | [] => throw .unexpectedEnd

/-! ## Values -/

/-- Reads a value that has no values inside: a string, a boolean, a number, a date or a time. -/
def readScalar (text : List Char) : Except SyntaxError (Datum × List Char) :=
  match text with
  | [] => .error .unexpectedEnd
  | '"' :: '"' :: '"' :: rest => do
    let (value, rest) ← readLongString '"' (rest.length + 1) [] (dropFirstBreak rest)
    return (.text value, rest)
  | '\'' :: '\'' :: '\'' :: rest => do
    let (value, rest) ← readLongString '\'' (rest.length + 1) [] (dropFirstBreak rest)
    return (.text value, rest)
  | '"' :: rest => do
    let (value, rest) ← readString '"' (rest.length + 1) [] rest
    return (.text value, rest)
  | '\'' :: rest => do
    let (value, rest) ← readString '\'' (rest.length + 1) [] rest
    return (.text value, rest)
  | 't' :: 'r' :: 'u' :: 'e' :: rest => .ok (.boolean true, rest)
  | 'f' :: 'a' :: 'l' :: 's' :: 'e' :: rest => .ok (.boolean false, rest)
  | text =>
    match (skipMoment? text).or (skipUnbounded? text) with
    | some rest => .ok (.foreign, rest)
    | none =>
      match readNumeral? text with
      | some (literal, rest) => .ok (.number literal, rest)
      | none => .error .noValue

mutual

/-- Reads one value and what follows it; `depth` tells how deep arrays and inline tables may
nest in it. -/
def readValue : (fuel depth : Nat) → List Char → Except SyntaxError (Datum × List Char)
  | 0, _, _ => .error .unexpectedEnd
  | fuel + 1, depth, text =>
    match text, depth with
    | '[' :: _, 0 => .error .tooDeep
    | '{' :: _, 0 => .error .tooDeep
    | '[' :: rest, depth + 1 => do
      let (items, rest) ← readItems fuel depth rest
      return (.list items, rest)
    | '{' :: rest, depth + 1 =>
      match skipBlanks rest with
      | '}' :: rest => .ok (.record [], rest)
      | rest => do
        let (entries, rest) ← readInline fuel depth [] rest
        return (.record (entriesToFields entries), rest)
    | text, _ => readScalar text

/-- Reads the items of an array up to its closing bracket; a comma may stand behind the last. -/
def readItems : (fuel depth : Nat) → List Char → Except SyntaxError (List Datum × List Char)
  | 0, _, _ => .error .unexpectedEnd
  | fuel + 1, depth, text =>
    match skipLines (text.length + 1) text with
    | ']' :: rest => .ok ([], rest)
    | rest => do
      let (item, rest) ← readValue fuel depth rest
      match skipLines (rest.length + 1) rest with
      | ',' :: rest => do
        let (items, rest) ← readItems fuel depth rest
        return (item :: items, rest)
      | ']' :: rest => return ([item], rest)
      | c :: _ => throw (.unexpected c)
      | [] => throw .unexpectedEnd

/-- Reads the entries of an inline table up to its closing brace. -/
def readInline : (fuel depth : Nat) → Entries → List Char →
    Except SyntaxError (Entries × List Char)
  | 0, _, _, _ => .error .unexpectedEnd
  | fuel + 1, depth, entries, text => do
    let (path, key, rest) ← readAssigned text
    let (value, rest) ← readValue fuel depth rest
    let entries ← insertDotted path key value entries
    match skipBlanks rest with
    | ',' :: rest => readInline fuel depth entries rest
    | '}' :: rest => return (entries, rest)
    | c :: _ => throw (.unexpected c)
    | [] => throw .unexpectedEnd

end

/-! ## Documents -/

/-- The tables that are complete, and the one that is being filled with its path. -/
structure Reader where
  root : Entries := []
  path : List String := []
  inArray : Bool := false
  current : Entries := []

namespace Reader

/-- Adds a table to the array of tables at the end of a path. -/
def pushTable (key : String) (table : Entries) (entries : Entries) : Except SyntaxError Entries :=
  match lookup? key entries with
  | none => .ok (put key (.tables [table]) entries)
  | some (.tables tables) => .ok (put key (.tables (table :: tables)) entries)
  | some _ => .error (.keyTwice key)

/-- Puts the table that is being filled into its place. -/
def complete (reader : Reader) : Except SyntaxError Entries :=
  match reader.path.getLast? with
  | none => .ok reader.current
  | some key =>
    change false
      (fun _ entries =>
        if reader.inArray then pushTable key reader.current entries
        else .ok (put key (.table false false reader.current) entries))
      reader.path.dropLast reader.root

/-- Begins the table of a header. It may have come to be on the way to another one; then it is taken
over with what it holds. -/
def openTable (reader : Reader) (path : List String) (key : String) :
    Except SyntaxError Reader := do
  let root ← reader.complete
  let (held, root) ← within false
    (fun _ entries => match lookup? key entries with
      | none => .ok ([], entries)
      | some (.table true false inner) => .ok (inner, remove key entries)
      | some _ => .error (.keyTwice key))
    path false root
  return { root := root, path := path ++ [key], inArray := false, current := held }

/-- Begins the next table of an array of tables. -/
def openArrayTable (reader : Reader) (path : List String) (key : String) :
    Except SyntaxError Reader := do
  let root ← reader.complete
  let root ← change false
    (fun _ entries => match lookup? key entries with
      | none => .ok entries
      | some (.tables _) => .ok entries
      | some _ => .error (.keyTwice key))
    path root
  return { root := root, path := path ++ [key], inArray := true, current := [] }

/-- Reads the rest of a header, which `closing` ends. -/
def readHeader (closing text : List Char) :
    Except SyntaxError (List String × String × List Char) := do
  let (path, key, rest) ← readKey greatestDepth text
  if closing.isPrefixOf rest then return (path, key, ← readLineEnd (rest.drop closing.length))
  else throw .unexpectedEnd

/-- Reads one line: nothing, a header, or a key with its value. -/
def readLine (reader : Reader) (text : List Char) : Except SyntaxError (Reader × List Char) := do
  match skipBlanks text with
  | '[' :: '[' :: rest => do
    let (path, key, rest) ← readHeader [']', ']'] rest
    return (← reader.openArrayTable path key, rest)
  | '[' :: rest => do
    let (path, key, rest) ← readHeader [']'] rest
    return (← reader.openTable path key, rest)
  | text =>
    let ended := skipComment text
    if ended.isEmpty || (lineBreak? ended).isSome then return (reader, ← readLineEnd text)
    let (path, key, rest) ← readAssigned text
    let (value, rest) ← readValue (rest.length + 1) greatestDepth rest
    let current ← insertDotted path key value reader.current
    return ({ reader with current := current }, ← readLineEnd rest)

/-- Reads the lines up to the end of the text. -/
def readLines : (fuel : Nat) → Reader → List Char → Except SyntaxError Entries
  | 0, reader, _ => reader.complete
  | _ + 1, reader, [] => reader.complete
  | fuel + 1, reader, text => do
    let (reader, rest) ← reader.readLine text
    readLines fuel reader rest

end Reader

/-- Reads a document; a byte order mark in front of it is dropped. -/
def parse (text : String) : Except SyntaxError Datum := do
  let chars := match text.toList with
    | '\uFEFF' :: rest => rest
    | chars => chars
  let entries ← Reader.readLines (chars.length + 1) {} chars
  return .record (entriesToFields entries)

end LineLexer.Toml
