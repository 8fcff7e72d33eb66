import LineLexer.Pattern.Class
import LineLexer.Unicode.NextEdition

/-!
# Reading a pattern

A pattern is read from left to right. The state holds the parts of the current branch, its finished
sister branches and the open groups, innermost first; a closing parenthesis turns the innermost
group into one part of the branch around it.
-/

namespace LineLexer.Pattern

/-- A part of a branch: what it denotes, how deeply it is nested, and whether a sign of repetition
may follow it. -/
structure Part where
  expr : Expr
  depth : Nat := 0
  repeatable : Bool := true

namespace Part

/-- A setting of flags takes a place in its branch without denoting anything. -/
def setting : Part := ⟨.empty, 0, false⟩

/-- The parts of a branch, last one first in the list. -/
def ofBranch : List Part → Part
  | [] => ⟨.empty, 0, false⟩
  | [part] => part
  | parts => ⟨.seqs (parts.reverse.map (·.expr)), 1 + (parts.map (·.depth)).foldl max 0, true⟩

/-- The alternatives, last one first in the list. -/
def ofBranches : List Part → Part
  | [] => ⟨.empty, 0, false⟩
  | [part] => part
  | parts => ⟨.alts (parts.reverse.map (·.expr)), 1 + (parts.map (·.depth)).foldl max 0, true⟩

/-- What stands in parentheses; `index` is given if they count as a group. -/
def group (index : Option Nat) (part : Part) : Part :=
  let expr := match index with
    | some index => .group index part.expr
    | none => part.expr
  ⟨expr, part.depth + 1, true⟩

end Part

/-- Parentheses that are open: the number of their group if they count as one, what the branch around
them and its sister branches held before, and the flags that come back into force at the end. -/
structure OpenGroup where
  index : Option Nat
  parts : List Part
  branches : List Part
  flags : Flags

/-- What has been read so far. -/
structure ParseState where
  flags : Flags
  parts : List Part := []
  branches : List Part := []
  groups : List OpenGroup := []
  /-- How many groups have been opened. -/
  opened : Nat := 0
  /-- The names of the groups. -/
  names : List (List Char) := []

namespace ParseState

def add (st : ParseState) (part : Part) : ParseState := { st with parts := part :: st.parts }

/-- What the innermost group denotes if it ends here. -/
def current (st : ParseState) : Part := .ofBranches (.ofBranch st.parts :: st.branches)

/-- Begins another branch. -/
def nextBranch (st : ParseState) : ParseState :=
  { st with parts := [], branches := .ofBranch st.parts :: st.branches }

/-- Opens parentheses, in which other flags are in force. -/
def openParens (st : ParseState) (index : Option Nat) (flags : Flags) : ParseState :=
  { st with
    flags := flags, parts := [], branches := [],
    groups := ⟨index, st.parts, st.branches, st.flags⟩ :: st.groups }

/-- Opens parentheses that count as a group. -/
def openGroup (st : ParseState) : ParseState :=
  { st.openParens (some st.opened) st.flags with opened := st.opened + 1 }

def closeGroup (st : ParseState) : Except PatternError ParseState :=
  match st.groups with
  | [] => .error .groupUnopened
  | outer :: groups =>
    .ok { st with
      flags := outer.flags, parts := st.current.group outer.index :: outer.parts,
      branches := outer.branches, groups := groups }

/-! ## Groups -/

/-- Takes the letters of a group's flags up to the sign that ends them. `taken` holds those before,
last one first. -/
def readFlagLetters (taken : List Char) : List Char → Except PatternError (List Char × Char × List Char)
  | [] => .error .flagsUnclosed
  | c :: rest =>
    if c = ':' ∨ c = ')' then
      if taken.head? = some '-' then .error .flagsDangling else .ok (taken.reverse, c, rest)
    else if c ≠ '-' ∧ ((Flags.set {} c true).isNone) then .error (.flagUnknown c)
    else if taken.contains c then .error (.flagTwice c)
    else readFlagLetters (c :: taken) rest

/-- Sets the flags before a minus sign and clears those after it. -/
def applyFlags (flags : Flags) (value : Bool) : List Char → Flags
  | [] => flags
  | '-' :: rest => applyFlags flags false rest
  | c :: rest => applyFlags ((flags.set c value).getD flags) value rest

def isNameStart (c : Char) : Bool := c = '_' || Unicode.NextEdition.alphabetic.contains c

def isNameChar (c : Char) : Bool :=
  isNameStart c || c = '.' || c = '[' || c = ']' || Unicode.NextEdition.number.contains c

/-- Reads the name of a group up to its closing angle bracket. -/
def readGroupName (names : List (List Char)) (text : List Char) :
    Except PatternError (List Char × List Char) :=
  let (name, rest) := text.span (· != '>')
  match name, rest with
  | first :: others, '>' :: rest =>
    if !(isNameStart first && others.all isNameChar) then .error .groupNameInvalid
    else if names.contains name then .error (.groupNameTwice (String.ofList name))
    else .ok (name, rest)
  | _, _ => .error .groupNameInvalid

/-- Reads what opens a group, after its parenthesis, or a setting of flags. -/
def readGroup (st : ParseState) (text : List Char) :
    Except PatternError (ParseState × List Char) :=
  let named (rest : List Char) : Except PatternError (ParseState × List Char) := do
    let (name, rest) ← readGroupName st.names rest
    return ({ st.openGroup with names := name :: st.names }, rest)
  match st.flags.skip text with
  | '?' :: '=' :: _ | '?' :: '!' :: _ | '?' :: '<' :: '=' :: _ | '?' :: '<' :: '!' :: _ =>
    .error .lookaround
  | '?' :: 'P' :: '<' :: rest => named rest
  | '?' :: '<' :: rest => named rest
  | '?' :: rest => do
    let (letters, ending, rest) ← readFlagLetters [] rest
    let flags := applyFlags st.flags true letters
    if ending = ':' then return (st.openParens none flags, rest)
    if letters.isEmpty then throw .nothingToRepeat
    return ({ st.add .setting with flags := flags }, rest)
  | text => .ok (st.openGroup, text)

/-! ## Repetitions -/

/-- Repeats the last part of the branch. -/
def repeatLast (st : ParseState) (min : Nat) (max : Option Nat) (greedy : Bool) :
    Except PatternError ParseState :=
  match st.parts with
  | part :: parts =>
    if !part.repeatable then .error .nothingToRepeat
    else
      let expr := Expr.repeated part.expr min max (greedy != st.flags.swapGreed)
      .ok { st with parts := ⟨expr, part.depth + 1, true⟩ :: parts }
  | [] => .error .nothingToRepeat

/-- Drops the sign of reluctance, if it comes next, and says whether it was missing. -/
def readGreed : List Char → Bool × List Char
  | '?' :: rest => (false, rest)
  | rest => (true, rest)

/-- Repeats the last part as often as one of the short signs says. -/
def readRepetition (st : ParseState) (min : Nat) (max : Option Nat) (text : List Char) :
    Except PatternError (ParseState × List Char) := do
  let (greedy, rest) := readGreed text
  return (← st.repeatLast min max greedy, rest)

/-- Checks a count that was read. -/
def checkCount : Option Nat → Except PatternError Nat
  | none => .error .countEmpty
  | some count => if maxCount < count then .error .countTooLarge else .ok count

/-- Reads the bounds of a counted repetition up to its closing brace. -/
def readBounds (flags : Flags) (text : List Char) :
    Except PatternError (Nat × Option Nat × List Char) := do
  let (min, rest) := flags.readCount text
  let (max, rest) ← match rest with
    | [] => throw .countUnclosed
    | ',' :: rest =>
      match flags.skip rest with
      | [] => throw .countUnclosed
      | '}' :: rest => pure (none, '}' :: rest)
      | rest => do
        let (max, rest) := flags.readCount rest
        pure (some (← checkCount max), rest)
    | rest => do pure (some (← checkCount min), rest)
  let min ← checkCount min
  match rest with
  | '}' :: rest =>
    match max with
    | some bound => if bound < min then throw (.countReversed min bound)
    | none => pure ()
    return (min, max, rest)
  | _ => throw .countUnclosed

/-- Reads a counted repetition, after its opening brace. -/
def readCounted (st : ParseState) (text : List Char) :
    Except PatternError (ParseState × List Char) := do
  let (min, max, rest) ← readBounds st.flags (st.flags.skip text)
  let (greedy, rest) := readGreed (st.flags.skip rest)
  return (← st.repeatLast min max greedy, rest)

/-! ## The whole pattern -/

/-- Adds what a single element denotes. -/
def addElement (st : ParseState) (element : Element) : Except PatternError ParseState := do
  return st.add { expr := ← st.flags.denote element }

/-- Reads one element, sign or parenthesis, given by its first character. -/
def step (st : ParseState) (c : Char) (rest : List Char) :
    Except PatternError (ParseState × List Char) :=
  match c with
  | '(' => st.readGroup rest
  | ')' => do return (← st.closeGroup, rest)
  | '|' => .ok (st.nextBranch, rest)
  | '[' => do
    let (whole, rest) ← readClass st.flags rest
    return (st.add { expr := .chars whole.set, depth := whole.depth }, rest)
  | '?' => st.readRepetition 0 (some 1) rest
  | '*' => st.readRepetition 0 none rest
  | '+' => st.readRepetition 1 none rest
  | '{' => st.readCounted rest
  | '\\' => do
    let (element, rest) ← st.flags.readEscape rest
    return (← st.addElement element, rest)
  | '.' => do return (st.add { expr := .chars (← st.flags.dot) }, rest)
  | '^' => do return (← st.addElement (.look st.flags.lineStart), rest)
  | '$' => do return (← st.addElement (.look st.flags.lineEnd), rest)
  | c => do return (← st.addElement (.char c false), rest)

/-- How deeply the parts of a pattern may be nested. -/
def maxDepth : Nat := 250

/-- What the pattern denotes if it ends here. -/
def finish (st : ParseState) : Except PatternError Expr :=
  if !st.groups.isEmpty then .error .groupUnclosed
  else if maxDepth < st.current.depth then .error .nestedTooDeep
  else .ok st.current.expr

/-- Reads to the end of the text. Each step takes at least one character. -/
def readFrom : (fuel : Nat) → ParseState → List Char → Except PatternError Expr
  | 0, st, _ => st.finish
  | fuel + 1, st, text =>
    match st.flags.skip text with
    | [] => st.finish
    | c :: rest => do
      let (st, rest) ← st.step c rest
      readFrom fuel st rest

end ParseState

/-- Reads a pattern. -/
def parse (ignoreCase : Bool) (text : List Char) : Except PatternError Expr :=
  ParseState.readFrom (text.length + 1) { flags := { ignoreCase := ignoreCase } } text

end LineLexer.Pattern
