import LineLexer.CommandLine.Command

/-!
# Help

The text that says how the program and its commands are called. Options and values stand in two
columns: how a thing is written, and what it is for.
-/

namespace LineLexer.CommandLine

/-- Lines with a line feed behind each. -/
def unlines (lines : List String) : String := String.join (lines.map (· ++ "\n"))

/-- How the program is called. -/
def programName : String := "hilite"

/-- What the program is for. -/
def programAbout : String := "Line-oriented lexical tokenizer driven by state-machine grammars"

def versionText : String := unlines [programName ++ " 0.1.0"]

/-! ## Columns -/

/-- A row of a table: how a thing is written, and what it is for. -/
abbrev Row := String × String

/-- The length of the longest entry of the left column. -/
def columnWidth (rows : List Row) : Nat := (rows.map fun row => row.1.length).foldl max 0

/-- Fills a text up with blanks. -/
def padRight (width : Nat) (text : String) : String :=
  text ++ String.ofList (List.replicate (width - text.length) ' ')

/-- Rows of equal indentation, with two blanks between the columns. -/
def table (rows : List Row) : List String :=
  rows.map fun (left, right) => "  " ++ padRight (columnWidth rows) left ++ "  " ++ right

/-- A titled table behind an empty line; without rows there is neither. -/
def tableSection (title : String) (rows : List Row) : List String :=
  if rows.isEmpty then [] else ["", title ++ ":"] ++ table rows

/-! ## Options and places -/

/-- What stands for the value of an option: its name in capitals. -/
def valueName (name : String) : String :=
  name.map fun c => if c = '-' then '_' else c.toUpper

/-- An option as it is written with its value. -/
def OptionSpec.written (option : OptionSpec) : String :=
  match option.value with
  | none => "--" ++ option.name
  | some _ => s!"--{option.name} <{valueName option.name}>"

def OptionSpec.row (option : OptionSpec) : Row :=
  let letter := match option.letter with
    | some c => s!"-{c}, "
    | none => "    "
  let about := match option.value with
    | some (.oneOf names) =>
      s!"[default: {names.headD default}] [possible values: " ++ ", ".intercalate names ++ "]"
    | _ => option.about
  (letter ++ option.written, about)

def helpRow : Row := ("-h, --help", "Print help")

def versionRow : Row := ("-V, --version", "Print version")

def Place.written (place : Place) : String := s!"<{place.name}>"

/-! ## Commands -/

/-- How a command is called: options, the choice that has to be made, and values. -/
def CommandSpec.usage (spec : CommandSpec) : String :=
  let others := spec.options.filter fun option => !spec.choice.contains option.name
  let options := if others.isEmpty then [] else ["[OPTIONS]"]
  let choices := (spec.options.filter fun option => spec.choice.contains option.name).map
    OptionSpec.written
  let choice := if choices.isEmpty then [] else ["<" ++ "|".intercalate choices ++ ">"]
  " ".intercalate (["Usage:", programName, spec.name] ++ options ++ choice
    ++ spec.places.map Place.written)

def CommandSpec.help (spec : CommandSpec) : String :=
  unlines ([spec.about, "", spec.usage]
    ++ tableSection "Arguments" (spec.places.map fun place => (place.written, ""))
    ++ tableSection "Options" (spec.options.map OptionSpec.row ++ [helpRow]))

/-- What the command that gives help is for. -/
def helpAbout : String := "Print this message or the help of the given subcommand(s)"

/-- Help on the program as a whole. -/
def programHelp : String :=
  unlines ([programAbout, "", s!"Usage: {programName} <COMMAND>"]
    ++ tableSection "Commands"
      (commandSpecs.map (fun spec => (spec.name, spec.about)) ++ [(helpName, helpAbout)])
    ++ tableSection "Options" [helpRow, versionRow])

/-- Help on the command that gives help. -/
def helpHelp : String :=
  unlines ([helpAbout, "", s!"Usage: {programName} {helpName} [COMMAND]..."]
    ++ tableSection "Arguments" [("[COMMAND]...", "Print help for the subcommand(s)")])

/-- Help on the program, or on the command of the given name. -/
def helpText : Option String → String
  | none => programHelp
  | some name =>
    match commandSpecs.find? (·.name = name) with
    | some spec => spec.help
    | none => helpHelp

end LineLexer.CommandLine
