import LineLexer.Pattern.Notation

/-!
# Classes in brackets

A class lists characters, ranges and other classes; classes may be nested and combined. The reader
keeps the open brackets and the pending operators on a stack, innermost first.
-/

namespace LineLexer.Pattern

open Unicode

/-- The operations on the sets left and right of a double sign. -/
inductive SetOperator where
  | intersection
  | difference
  | symmetricDifference
deriving DecidableEq, Repr

def SetOperator.apply : SetOperator → CharSet → CharSet → CharSet
  | .intersection => CharSet.inter
  | .difference => CharSet.diff
  | .symmetricDifference => CharSet.symmDiff

/-- A part of a class, and how deeply classes are nested in it. -/
structure ClassPart where
  set : CharSet
  depth : Nat

namespace ClassPart

def ofSet (set : CharSet) : ClassPart := ⟨set, 0⟩

/-- All parts together, last one first in the list. -/
def join : List ClassPart → ClassPart
  | [] => ⟨.empty, 0⟩
  | [part] => part
  | parts => ⟨.unions (parts.map (·.set)), 1 + (parts.map (·.depth)).foldl max 0⟩

def combine (flags : Flags) (operator : SetOperator) (left right : ClassPart) : ClassPart :=
  ⟨operator.apply (flags.closeCase left.set) (flags.closeCase right.set),
    1 + max left.depth right.depth⟩

end ClassPart

/-- What waits for the end of the innermost class. -/
inductive ClassFrame where
  /-- A bracket that is open: the parts before it, and whether its class is negated. -/
  | bracket (before : List ClassPart) (negated : Bool)
  /-- An operator with its left side. -/
  | operator (operator : SetOperator) (left : ClassPart)

/-- Applies a pending operator to the part that ends here. -/
def applyPending (flags : Flags) (right : ClassPart) :
    List ClassFrame → ClassPart × List ClassFrame
  | .operator operator left :: frames => (.combine flags operator left right, frames)
  | frames => (right, frames)

/-- Opens a class after its bracket: a caret negates it, and hyphens or one closing bracket at its
front stand for themselves. -/
def openClass (flags : Flags) (text : List Char) :
    Except PatternError (Bool × List ClassPart × List Char) := do
  let text := flags.skip text
  let (negated, text) := match text with
    | '^' :: rest => (true, flags.skip rest)
    | text => (false, text)
  let (hyphens, text) := flags.takeWhile (· == '-') false text
  let parts := hyphens.map fun c => ClassPart.ofSet (.singleton c)
  match parts, text with
  | _, [] => throw .classUnclosed
  | [], ']' :: rest =>
    if (flags.skip rest).isEmpty then throw .classUnclosed
    return (negated, [.ofSet (.singleton ']')], flags.skip rest)
  | parts, text => return (negated, parts, text)

/-- Reads a named class of ASCII characters, after its opening bracket. -/
def readAsciiClass? (text : List Char) : Option (Bool × CharSet × List Char) :=
  match text with
  | ':' :: rest =>
    let (negated, rest) := match rest with
      | '^' :: rest => (true, rest)
      | rest => (false, rest)
    let (name, rest) := rest.span (· != ':')
    match rest with
    | ':' :: ']' :: rest => (asciiClass? (String.ofList name)).map (negated, ·, rest)
    | _ => none
  | _ => none

/-- Reads one character of a class, or an escape in it. -/
def readClassElement (flags : Flags) : List Char → Except PatternError (Element × List Char)
  | [] => .error .classUnclosed
  | '\\' :: rest => flags.readEscape rest
  | c :: rest => .ok (.char c false, rest)

/-- The character at an end of a range. -/
def rangeEnd : Element → Except PatternError (Char × Bool)
  | .char c byte => .ok (c, byte)
  | _ => .error .classRangeEnd

/-- Without Unicode a class holds ASCII characters only. -/
def checkClassChar (flags : Flags) (c : Char) (byte : Bool) : Except PatternError Unit :=
  if flags.unicode || c.toNat < 128 then .ok ()
  else .error (if byte then .partOfCharacter else .unicodeOff)

/-- The next character that is neither blank nor the start of a comment; it decides whether a
hyphen makes a range. -/
def nextSignificant (flags : Flags) : (inComment : Bool) → List Char → Option Char
  | _, [] => none
  | inComment, c :: rest =>
    if !flags.extended then some c
    else if isBlank c then nextSignificant flags inComment rest
    else if !inComment && c = '#' then nextSignificant flags true rest
    else some c

/-- Reads a range of characters or a single part of a class. -/
def readClassPart (flags : Flags) (text : List Char) :
    Except PatternError (ClassPart × List Char) := do
  let (first, rest) ← readClassElement flags text
  let single (rest : List Char) : Except PatternError (ClassPart × List Char) :=
    match first with
    | .char c byte => do
      checkClassChar flags c byte
      return (.ofSet (.singleton c), rest)
    | .set set => .ok (.ofSet set, rest)
    | .look _ => .error .classEscape
  match flags.skip rest with
  | [] => throw .classUnclosed
  | '-' :: rest =>
    match nextSignificant flags false rest with
    | some ']' | some '-' => single ('-' :: rest)
    | _ => do
      let (last, rest) ← readClassElement flags (flags.skip rest)
      let (lo, loByte) ← rangeEnd first
      let (hi, hiByte) ← rangeEnd last
      if hi < lo then throw (.classRangeReversed lo hi)
      checkClassChar flags lo loByte
      checkClassChar flags hi hiByte
      return (.ofSet (.range lo hi), rest)
  | rest => single rest

/-- The operator that a character stands for when it is doubled. -/
def setOperator? : Char → Option SetOperator
  | '&' => some .intersection
  | '-' => some .difference
  | '~' => some .symmetricDifference
  | _ => none

/-- Reads the rest of a class: `parts` are those of the innermost one, last first, and `frames`
what waits for it. Each step takes at least one character. -/
def readClassFrom (flags : Flags) :
    (fuel : Nat) → List ClassFrame → List ClassPart → List Char →
      Except PatternError (ClassPart × List Char)
  | 0, _, _, _ => .error .classUnclosed
  | fuel + 1, frames, parts, text =>
    match flags.skip text with
    | [] => .error .classUnclosed
    | '[' :: rest =>
      match readAsciiClass? rest with
      | some (negated, set, rest) => do
        let set ← flags.finishSet negated set
        readClassFrom flags fuel frames (.ofSet set :: parts) rest
      | none => do
        let (negated, inner, rest) ← openClass flags rest
        readClassFrom flags fuel (.bracket parts negated :: frames) inner rest
    | ']' :: rest =>
      match applyPending flags (.join parts) frames with
      | (whole, .bracket before negated :: frames) => do
        let closed : ClassPart := ⟨← flags.finishSet negated whole.set, 1 + whole.depth⟩
        if frames.isEmpty then return (closed, rest)
        readClassFrom flags fuel frames (closed :: before) rest
      | _ => .error .classUnclosed
    | c :: rest =>
      match setOperator? c, rest with
      | some operator, c' :: rest' =>
        if c = c' then
          let (left, frames) := applyPending flags (.join parts) frames
          readClassFrom flags fuel (.operator operator left :: frames) [] rest'
        else do
          let (part, rest) ← readClassPart flags (c :: rest)
          readClassFrom flags fuel frames (part :: parts) rest
      | _, _ => do
        let (part, rest) ← readClassPart flags (c :: rest)
        readClassFrom flags fuel frames (part :: parts) rest

/-- Reads a class after its opening bracket. -/
def readClass (flags : Flags) (text : List Char) :
    Except PatternError (ClassPart × List Char) := do
  let (negated, parts, rest) ← openClass flags text
  readClassFrom flags (rest.length + 1) [.bracket [] negated] parts rest

end LineLexer.Pattern
