import LineLexer.Pattern.Expr
import LineLexer.Pattern.Error
import LineLexer.Unicode.CaseFold
import LineLexer.Unicode.ClassName

/-!
# Notation: flags, escapes and single characters

The flags in force decide what a character, a dot or an escape stands for. This module reads one
such element off the front of a text and says what it denotes.
-/

namespace LineLexer.Pattern

open Unicode

/-- The flags in force at a place of a pattern. -/
structure Flags where
  ignoreCase : Bool := false
  /-- The signs for the ends of the text also stand for the ends of its lines. -/
  multiLine : Bool := false
  /-- The dot stands for a line feed too. -/
  dotAll : Bool := false
  /-- The sign for reluctance stands for greed, and its absence for reluctance. -/
  swapGreed : Bool := false
  unicode : Bool := true
  /-- A carriage return ends a line too. -/
  returns : Bool := false
  /-- Blanks and comments may stand between the elements. -/
  extended : Bool := false
deriving DecidableEq, Repr

/-- Sets the flag that a letter names. -/
def Flags.set (flags : Flags) (letter : Char) (value : Bool) : Option Flags :=
  match letter with
  | 'i' => some { flags with ignoreCase := value }
  | 'm' => some { flags with multiLine := value }
  | 's' => some { flags with dotAll := value }
  | 'U' => some { flags with swapGreed := value }
  | 'u' => some { flags with unicode := value }
  | 'R' => some { flags with returns := value }
  | 'x' => some { flags with extended := value }
  | _ => none

/-! ## Blanks and comments -/

def isBlank (c : Char) : Bool := Property.whiteSpace.contains c

/-- Drops blanks and comments; a comment runs from a number sign to the end of its line. -/
def skipComments : (inComment : Bool) → List Char → List Char
  | _, [] => []
  | true, c :: rest => skipComments (c != '\n') rest
  | false, c :: rest =>
    if isBlank c then skipComments false rest
    else if c = '#' then skipComments true rest
    else c :: rest

/-- Drops what may stand between two elements. -/
def Flags.skip (flags : Flags) (text : List Char) : List Char :=
  if flags.extended then skipComments false text else text

/-- Takes characters of a kind, with blanks and comments between them where those are allowed. -/
def Flags.takeWhile (flags : Flags) (kind : Char → Bool) :
    (inComment : Bool) → List Char → List Char × List Char
  | _, [] => ([], [])
  | true, c :: rest => flags.takeWhile kind (c != '\n') rest
  | false, c :: rest =>
    if flags.extended && isBlank c then flags.takeWhile kind false rest
    else if flags.extended && c = '#' then flags.takeWhile kind true rest
    else if kind c then
      let (taken, rest) := flags.takeWhile kind false rest
      (c :: taken, rest)
    else ([], c :: rest)

/-- Takes what stands up to a closing brace and drops the brace. -/
def Flags.takeBraced (flags : Flags) (text : List Char) : Option (List Char × List Char) :=
  match flags.takeWhile (· != '}') false text with
  | (taken, _ :: rest) => some (taken, rest)
  | (_, []) => none

/-! ## Sets -/

def asciiDigit : CharSet := ⟨[(0x30, 0x39)]⟩

def asciiSpace : CharSet := ⟨[(0x09, 0x0D), (0x20, 0x20)]⟩

/-- The classes of ASCII characters that have a name. -/
def asciiClass? : String → Option CharSet
  | "alnum" => some ⟨[(0x30, 0x39), (0x41, 0x5A), (0x61, 0x7A)]⟩
  | "alpha" => some ⟨[(0x41, 0x5A), (0x61, 0x7A)]⟩
  | "ascii" => some ⟨[(0x00, 0x7F)]⟩
  | "blank" => some ⟨[(0x09, 0x09), (0x20, 0x20)]⟩
  | "cntrl" => some ⟨[(0x00, 0x1F), (0x7F, 0x7F)]⟩
  | "digit" => some asciiDigit
  | "graph" => some ⟨[(0x21, 0x7E)]⟩
  | "lower" => some ⟨[(0x61, 0x7A)]⟩
  | "print" => some ⟨[(0x20, 0x7E)]⟩
  | "punct" => some ⟨[(0x21, 0x2F), (0x3A, 0x40), (0x5B, 0x60), (0x7B, 0x7E)]⟩
  | "space" => some asciiSpace
  | "upper" => some ⟨[(0x41, 0x5A)]⟩
  | "word" => some asciiWord
  | "xdigit" => some ⟨[(0x30, 0x39), (0x41, 0x46), (0x61, 0x66)]⟩
  | _ => none

def isAsciiLetter (c : Char) : Bool := c.isUpper || c.isLower

/-- The part of a set between two codes, with each code moved. -/
def movePart (set : CharSet) (lo hi : Nat) (move : Nat → Nat) : CharSet :=
  ⟨set.ranges.filterMap fun range =>
    let first := max range.1 lo
    let last := min range.2 hi
    if first ≤ last then some (move first, move last) else none⟩

/-- Closes a set under the case of ASCII letters. -/
def closeCaseAscii (set : CharSet) : CharSet :=
  (set.union (movePart set 0x41 0x5A (· + 0x20))).union (movePart set 0x61 0x7A (· - 0x20))

/-- Closes a set under letter case if case is ignored. -/
def Flags.closeCase (flags : Flags) (set : CharSet) : CharSet :=
  if !flags.ignoreCase then set
  else if flags.unicode then set.closeCase else closeCaseAscii set

/-- Closes a set under letter case, then turns it into its complement if it is negated. Without
Unicode a complement would hold parts of characters. -/
def Flags.finishSet (flags : Flags) (negated : Bool) (set : CharSet) :
    Except PatternError CharSet :=
  if !negated then .ok (flags.closeCase set)
  else if flags.unicode then .ok (flags.closeCase set).complement
  else .error .partOfCharacter

/-- The set that a character stands for. -/
def Flags.literal (flags : Flags) (c : Char) : CharSet :=
  if !flags.ignoreCase then .singleton c
  else if flags.unicode then .ofList (c :: (caseVariants c.toNat).map Char.ofNat)
  else if isAsciiLetter c then .ofList [c.toLower, c.toUpper]
  else .singleton c

/-- The set that the dot stands for. -/
def Flags.dot (flags : Flags) : Except PatternError CharSet :=
  if !flags.unicode then .error .partOfCharacter
  else if flags.dotAll then .ok .all
  else if flags.returns then .ok (CharSet.ofList ['\n', '\r']).complement
  else .ok (CharSet.singleton '\n').complement

/-- The condition that the sign for the start of the text stands for. -/
def Flags.lineStart (flags : Flags) : Look :=
  if !flags.multiLine then .textStart
  else if flags.returns then .lineStartReturn else .lineStart

/-- The condition that the sign for the end of the text stands for. -/
def Flags.lineEnd (flags : Flags) : Look :=
  if !flags.multiLine then .textEnd
  else if flags.returns then .lineEndReturn else .lineEnd

/-! ## Numbers -/

/-- The value of a digit in bases up to sixteen. -/
def digitValue? (c : Char) : Option Nat :=
  if '0' ≤ c ∧ c ≤ '9' then some (c.toNat - '0'.toNat)
  else if 'a' ≤ c ∧ c ≤ 'f' then some (c.toNat - 'a'.toNat + 10)
  else if 'A' ≤ c ∧ c ≤ 'F' then some (c.toNat - 'A'.toNat + 10)
  else none

/-- The number that hexadecimal digits write. -/
def hexValue? (digits : List Char) : Option Nat :=
  digits.foldlM (fun value c => (digitValue? c).map (16 * value + ·)) 0

/-- The character with the given code. -/
def charOfCode? (code : Nat) : Option Char :=
  if code.isValidChar then some (Char.ofNat code) else none

/-- The greatest count that a repetition may name. -/
def maxCount : Nat := 4294967295

/-- Reads a decimal number, with blanks around it. -/
def Flags.readCount (flags : Flags) (text : List Char) : Option Nat × List Char :=
  let (digits, rest) := flags.takeWhile Char.isDigit false (text.dropWhile isBlank)
  let rest := flags.skip (rest.dropWhile isBlank)
  if digits.isEmpty then (none, rest)
  else (some (digits.foldl (fun value c => 10 * value + (c.toNat - '0'.toNat)) 0), rest)

/-! ## Escapes -/

/-- A single element: a character, a class or a condition. -/
inductive Element where
  /-- `byte` marks a character written by two hexadecimal digits, which without Unicode stand for
  a byte. -/
  | char (c : Char) (byte : Bool)
  | set (set : CharSet)
  | look (condition : Look)

/-- The characters that have a meaning of their own somewhere in a pattern. -/
def metaChars : List Char := "\\.+*?()|[]\x7b\x7d^$#&-~".toList

/-- Any ASCII character may be escaped to stand for itself, save letters, digits and the signs for
the ends of a word. -/
def escapesItself (c : Char) : Bool :=
  metaChars.contains c || (c.toNat < 128 && !c.isAlphanum && c != '<' && c != '>')

/-- Reads a fixed number of hexadecimal digits. -/
def Flags.readHexDigits (flags : Flags) :
    Nat → List Char → Except PatternError (List Char × List Char)
  | 0, text => .ok ([], text)
  | _ + 1, [] => .error .escapeUnfinished
  | n + 1, c :: rest => do
    if (digitValue? c).isNone then throw .hexDigit
    let (digits, rest) ← flags.readHexDigits n (flags.skip rest)
    return (c :: digits, rest)

def hexChar (digits : List Char) : Except PatternError Char :=
  match (hexValue? digits).bind charOfCode? with
  | some c => .ok c
  | none => .error .hexNoCharacter

/-- Reads a character given by its code, `width` digits long or in braces. -/
def Flags.readHex (flags : Flags) (width : Nat) (text : List Char) :
    Except PatternError (Element × List Char) :=
  match flags.skip text with
  | [] => .error .escapeUnfinished
  | '{' :: rest =>
    match flags.takeBraced rest with
    | none => .error .escapeUnfinished
    | some (digits, rest) => do
      if digits.isEmpty then throw .hexEmpty
      if !digits.all (digitValue? · |>.isSome) then throw .hexDigit
      return (.char (← hexChar digits) false, flags.skip rest)
  | text => do
    let (digits, rest) ← flags.readHexDigits width text
    return (.char (← hexChar digits) (width = 2), rest)

/-- Splits at the first place where the separator stands. -/
def splitAt? (separator : List Char) : List Char → Option (List Char × List Char)
  | [] => none
  | c :: rest =>
    if separator.isPrefixOf (c :: rest) then some ([], (c :: rest).drop separator.length)
    else (splitAt? separator rest).map fun (front, back) => (c :: front, back)

/-- The set that the name in a class escape stands for, and whether an unequal sign in it turns the
escape into its opposite. -/
def namedClass (name : List Char) : Except PatternError (CharSet × Bool) :=
  let (found, unequal) : Option CharSet × Bool :=
    match splitAt? ['!', '='] name with
    | some (property, value) => (ClassName.ofValue? property value, true)
    | none =>
      match (splitAt? [':'] name).or (splitAt? ['='] name) with
      | some (property, value) => (ClassName.ofValue? property value, false)
      | none => (ClassName.named? name, false)
  match found with
  | some set => .ok (set, unequal)
  | none => .error (.propertyUnknown (String.ofList name))

/-- Reads the name in a class escape: one character, or any number of them in braces. -/
def Flags.readProperty (flags : Flags) (negated : Bool) (text : List Char) :
    Except PatternError (Element × List Char) := do
  let (name, rest) ← match flags.skip text with
    | [] => throw .escapeUnfinished
    | '{' :: rest =>
      match flags.takeBraced rest with
      | none => throw .escapeUnfinished
      | some (name, rest) => pure (name, rest)
    | '\\' :: _ => throw .escapeUnfinished
    | c :: rest => pure ([c], flags.skip rest)
  if !flags.unicode then throw .unicodeOff
  let (set, unequal) ← namedClass name
  return (.set (← flags.finishSet (negated != unequal) set), rest)

/-- The class of digits, blanks or word characters. These are closed under letter case. -/
def Flags.commonClass (flags : Flags) (negated : Bool) (whole ascii : CharSet) :
    Except PatternError Element :=
  if flags.unicode then .ok (.set (if negated then whole.complement else whole))
  else if negated then .error .partOfCharacter
  else .ok (.set ascii)

/-- The edges of a word that braces may name. -/
def wordEdge? : String → Option WordEdge
  | "start" => some .start
  | "end" => some .finish
  | "start-half" => some .startHalf
  | "end-half" => some .finishHalf
  | _ => none

/-- Reads what may follow the sign for an edge of a word: the name of a special edge in braces.
Anything else in braces is left for the reader of counts. -/
def Flags.readWordEdge (flags : Flags) (text : List Char) :
    Except PatternError (Element × List Char) :=
  let isNameChar (c : Char) : Bool := isAsciiLetter c || c == '-'
  let plain : Element × List Char := (.look (.word .boundary flags.unicode), text)
  match text with
  | '{' :: rest =>
    match flags.skip rest with
    | [] => .error .wordEdgeUnclosed
    | c :: rest =>
      if !isNameChar c then .ok plain
      else
        match flags.takeWhile isNameChar false (c :: rest) with
        | (name, '}' :: rest) =>
          match wordEdge? (String.ofList name) with
          | some edge => .ok (.look (.word edge flags.unicode), rest)
          | none => .error (.wordEdgeUnknown (String.ofList name))
        | _ => .error .wordEdgeUnclosed
  | _ => .ok plain

/-- Reads an escape, after its backslash. -/
def Flags.readEscape (flags : Flags) : List Char → Except PatternError (Element × List Char)
  | [] => .error .escapeUnfinished
  | c :: rest =>
    if c.isDigit then .error .backreference
    else if escapesItself c then .ok (.char c false, rest)
    else match c with
      | 'x' => flags.readHex 2 rest
      | 'u' => flags.readHex 4 rest
      | 'U' => flags.readHex 8 rest
      | 'p' => flags.readProperty false rest
      | 'P' => flags.readProperty true rest
      | 'd' => do return (← flags.commonClass false Category.decimalNumber asciiDigit, rest)
      | 'D' => do return (← flags.commonClass true Category.decimalNumber asciiDigit, rest)
      | 's' => do return (← flags.commonClass false Property.whiteSpace asciiSpace, rest)
      | 'S' => do return (← flags.commonClass true Property.whiteSpace asciiSpace, rest)
      | 'w' => do return (← flags.commonClass false Property.word asciiWord, rest)
      | 'W' => do return (← flags.commonClass true Property.word asciiWord, rest)
      | 'a' => .ok (.char '\x07' false, rest)
      | 'f' => .ok (.char '\x0c' false, rest)
      | 't' => .ok (.char '\t' false, rest)
      | 'n' => .ok (.char '\n' false, rest)
      | 'r' => .ok (.char '\r' false, rest)
      | 'v' => .ok (.char '\x0b' false, rest)
      | 'A' => .ok (.look .textStart, rest)
      | 'z' => .ok (.look .textEnd, rest)
      | 'b' => flags.readWordEdge rest
      | 'B' => .ok (.look (.word .inside flags.unicode), rest)
      | '<' => .ok (.look (.word .start flags.unicode), rest)
      | '>' => .ok (.look (.word .finish flags.unicode), rest)
      | c => .error (.escapeUnknown c)

/-- The expression that an element denotes outside a class. -/
def Flags.denote (flags : Flags) : Element → Except PatternError Expr
  | .char c byte =>
    if byte && !flags.unicode && 127 < c.toNat then .error .partOfCharacter
    else .ok (.chars (flags.literal c))
  | .set set => .ok (.chars set)
  | .look condition => .ok (.look condition)

end LineLexer.Pattern
