import LineLexer.Limits

/-!
# Options

A command is followed by options and by values that stand for themselves. An option has a long name
after two dashes and may have a letter after one; it is a switch or takes a value. After two dashes
alone everything is a value.
-/

namespace LineLexer.CommandLine

/-- What an option or a place takes for a value. -/
inductive ValueKind where
  | text
  /-- A path is not empty. -/
  | path
  /-- A whole number below the word size. -/
  | count
  /-- One of a few names; the first one is meant where none is given. -/
  | oneOf (names : List String)
deriving DecidableEq, Repr

/-- An option of a command. -/
structure OptionSpec where
  name : String
  letter : Option Char
  /-- A switch has none. -/
  value : Option ValueKind
  /-- The option may be given more than once. -/
  repeatable : Bool
  about : String
deriving DecidableEq, Repr

/-- A value that a command takes in its place, without an option. -/
structure Place where
  name : String
  kind : ValueKind
deriving DecidableEq, Repr

/-- The words of a command: its options and the values in their places. -/
structure CommandSpec where
  name : String
  about : String
  options : List OptionSpec
  places : List Place
  /-- The options of which exactly one has to be given; none if there is no such choice. -/
  choice : List String
deriving DecidableEq, Repr

/-- The options and the values that were given, in order. A switch has an empty value. -/
structure Given where
  options : List (String × String)
  values : List String
deriving DecidableEq, Repr

/-- Why the words do not make a command. -/
inductive Refusal where
  | help
  | unknown (word : String)
  | valueMissing (name : String)
  | valueInvalid (value : String)
  | valueUnexpected (word : String)
  | twice (name : String)
deriving DecidableEq, Repr

/-- The number that a text writes down; a plus at its front does not count. -/
def readCount (text : String) : Option Nat :=
  let digits := match text.toList with
    | '+' :: digits => digits
    | digits => digits
  if digits.isEmpty || !digits.all Char.isDigit then none
  else
    let value := digits.foldl (fun value c => 10 * value + (c.toNat - '0'.toNat)) 0
    if value < Limits.wordSize then some value else none

def ValueKind.admits : ValueKind → String → Bool
  | .text, _ => true
  | .path, value => value != ""
  | .count, value => (readCount value).isSome
  | .oneOf names, value => names.contains value

namespace Given

def empty : Given := ⟨[], []⟩

def has (given : Given) (name : String) : Bool := given.options.any (·.1 = name)

def value? (given : Given) (name : String) : Option String :=
  (given.options.find? (·.1 = name)).map (·.2)

def allValues (given : Given) (name : String) : List String :=
  given.options.filterMap fun (other, value) => if other = name then some value else none

/-- Adds an option; one that is not repeatable may be given once. -/
def addOption (given : Given) (option : OptionSpec) (value : String) : Except Refusal Given := do
  if let some kind := option.value then
    if !kind.admits value then throw (.valueInvalid value)
  if given.has option.name && !option.repeatable then throw (.twice option.name)
  return { given with options := given.options ++ [(option.name, value)] }

/-- Adds a value in its place. -/
def addValue (given : Given) (spec : CommandSpec) (value : String) : Except Refusal Given :=
  match spec.places[given.values.length]? with
  | none => .error (.valueUnexpected value)
  | some place =>
    if place.kind.admits value then .ok { given with values := given.values ++ [value] }
    else .error (.valueInvalid value)

end Given

/-- Splits a word at its first equals sign. -/
def splitEquals (word : List Char) : List Char × Option (List Char) :=
  match word.span (· != '=') with
  | (name, '=' :: value) => (name, some value)
  | (name, _) => (name, none)

/-- A word that stands for an option: a dash with something behind it. -/
def isOption (word : String) : Bool :=
  match word.toList with
  | '-' :: _ :: _ => true
  | _ => false

namespace CommandSpec

/-- What an option leaves to do: nothing, or to take the next word for its value. -/
abbrev Pending := Option OptionSpec

def readLong (spec : CommandSpec) (given : Given) (word : List Char) :
    Except Refusal (Given × Pending) := do
  let (name, value) := splitEquals word
  let name := String.ofList name
  let some option := spec.options.find? (·.name = name)
    | if name = "help" && value.isNone then throw .help else throw (.unknown name)
  match option.value, value with
  | none, none => return (← given.addOption option "", none)
  | none, some value => throw (.valueUnexpected (String.ofList value))
  | some _, some value => return (← given.addOption option (String.ofList value), none)
  | some _, none => return (given, some option)

/-- Reads letters behind one dash: switches, up to one that takes the rest for its value. -/
def readLetters (spec : CommandSpec) (given : Given) :
    List Char → Except Refusal (Given × Pending)
  | [] => .ok (given, none)
  | letter :: rest => do
    let some option := spec.options.find? (·.letter = some letter)
      | if letter = 'h' then throw .help else throw (.unknown letter.toString)
    match option.value, rest with
    | none, '=' :: value => throw (.valueUnexpected (String.ofList value))
    | none, rest => readLetters spec (← given.addOption option "") rest
    | some _, [] => return (given, some option)
    | some _, '=' :: value => return (← given.addOption option (String.ofList value), none)
    | some _, value => return (← given.addOption option (String.ofList value), none)

/-- Reads words; `pending` is an option that waits for its value. -/
def readWords (spec : CommandSpec) (given : Given) (pending : Pending) :
    List String → Except Refusal Given
  | [] =>
    match pending with
    | some option => .error (.valueMissing option.name)
    | none => .ok given
  | word :: rest =>
    match pending with
    | some option =>
      if isOption word then .error (.valueMissing option.name)
      else do readWords spec (← given.addOption option word) none rest
    | none =>
      match word.toList with
      | ['-', '-'] => rest.foldlM (Given.addValue · spec ·) given
      | '-' :: '-' :: name => do
        let (given, pending) ← spec.readLong given name
        readWords spec given pending rest
      | '-' :: letter :: letters => do
        let (given, pending) ← spec.readLetters given (letter :: letters)
        readWords spec given pending rest
      | _ => do readWords spec (← given.addValue spec word) none rest

def read (spec : CommandSpec) (words : List String) : Except Refusal Given :=
  spec.readWords .empty none words

end CommandSpec

end LineLexer.CommandLine
