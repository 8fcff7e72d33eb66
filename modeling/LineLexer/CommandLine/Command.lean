import LineLexer.Batch.Config
import LineLexer.CommandLine.Options

/-!
# Commands

What the words of a command line ask for.
-/

namespace LineLexer.CommandLine

open Files

/-- The form of an answer. -/
inductive OutputFormat where
  | text
  | json
deriving DecidableEq, Repr

/-- Where the grammar comes from. -/
inductive GrammarSource where
  | file (path : Path)
  | language (name : String)
deriving DecidableEq, Repr

/-- What the program is asked to do. -/
inductive Command where
  /-- Shows the tokens of a file, and its unmatched spans if asked for. -/
  | tokenize (file : Path) (source : GrammarSource) (format : OutputFormat) (report : Bool)
  /-- Checks a grammar document and shows its shape. -/
  | check (grammar : Path) (format : OutputFormat)
  /-- Lists the built-in grammars. -/
  | languages
  /-- Tokenizes the files of a folder. -/
  | batch (directory : Path) (source : GrammarSource) (config : Batch.Config)
deriving DecidableEq, Repr

def GrammarSource.files : GrammarSource → List Path
  | .file path => [path]
  | .language _ => []

/-- The files that a command names. -/
def Command.files : Command → List Path
  | .tokenize file source _ _ => file :: source.files
  | .check grammar _ => [grammar]
  | .languages => []
  | .batch _ source _ => source.files

/-- The folder that a command names. -/
def Command.folder? : Command → Option Path
  | .batch directory _ _ => some directory
  | _ => none

/-- What the words of a command line come to. -/
inductive Request where
  | run (command : Command)
  /-- Help on the program as a whole, or on the command of the given name. -/
  | help (command : Option String)
  | version
  | refused
deriving DecidableEq, Repr

/-! ## Options -/

def switch (name : String) (letter : Option Char) (about : String) : OptionSpec :=
  ⟨name, letter, none, false, about⟩

def setting (name : String) (letter : Option Char) (kind : ValueKind) (about : String) :
    OptionSpec :=
  ⟨name, letter, some kind, false, about⟩

def sourceOptions : List OptionSpec :=
  [setting "grammar" 'g' .path "Grammar document (.toml or .json)",
    setting "language" 'l' .text "Built-in grammar name or alias"]

def sourceChoice : List String := sourceOptions.map (·.name)

def formatOption : OptionSpec := setting "format" 'f' (.oneOf ["text", "json"]) ""

def tokenizeSpec : CommandSpec where
  name := "tokenize"
  about := "Tokenize one file and print its spans"
  options := sourceOptions ++
    [formatOption,
      switch "report-unmatched" none "Render every unmatched span with its source line"]
  places := [⟨"FILE", .path⟩]
  choice := sourceChoice

def checkSpec : CommandSpec where
  name := "check"
  about := "Load and validate a grammar document"
  options := [formatOption]
  places := [⟨"GRAMMAR", .path⟩]
  choice := []

def languagesSpec : CommandSpec where
  name := "languages"
  about := "List the built-in grammars"
  options := []
  places := []
  choice := []

def batchSpec : CommandSpec where
  name := "batch"
  about := "Tokenize every matching file under a directory"
  options := sourceOptions ++
    [⟨"extension", 'e', some .text, true, "Only files with this extension (repeatable)"⟩,
      setting "threads" 't' .count "Worker threads (default: available cores)",
      switch "sequential" none "",
      switch "no-recursive" none "Don't search subdirectories",
      setting "max-files" none .count "",
      switch "fail-fast" none "Stop at the first file that fails",
      switch "quiet" 'q' "Suppress progress reporting"]
  places := [⟨"DIRECTORY", .path⟩]
  choice := sourceChoice

/-- The commands in the order in which they are listed. -/
def commandSpecs : List CommandSpec := [tokenizeSpec, checkSpec, languagesSpec, batchSpec]

/-! ## Reading -/

/-- The grammar's source; exactly one has to be given. -/
def Given.source? (given : Given) : Option GrammarSource :=
  match given.value? "grammar", given.value? "language" with
  | some path, none => some (.file ⟨path⟩)
  | none, some name => some (.language name)
  | _, _ => none

def Given.format (given : Given) : OutputFormat :=
  if given.value? "format" = some "json" then .json else .text

/-- The only value of a command that takes one. -/
def Given.path? (given : Given) : Option Path :=
  match given.values with
  | [path] => some ⟨path⟩
  | _ => none

/-- How the batch is to be run; `cores` is the number of workers where none is given. -/
def Given.config (given : Given) (cores : Nat) : Batch.Config :=
  let threads := ((given.value? "threads").bind readCount).getD cores
  let config : Batch.Config := {
    maxThreads := if given.has "sequential" then 1 else max 1 (min threads Limits.workers)
    recursive := !given.has "no-recursive"
    extensions := []
    maxFiles := (given.value? "max-files").bind readCount
    progress := !given.has "quiet"
    failFast := given.has "fail-fast" }
  (given.allValues "extension").foldl (·.withExtension ·) config

/-- The request of a command, if all that it needs was given. -/
def requestOf (spec : CommandSpec) (words : List String) (command? : Given → Option Command) :
    Request :=
  match spec.read words with
  | .ok given => ((command? given).map .run).getD .refused
  | .error .help => .help spec.name
  | .error _ => .refused

/-- The request of the words behind the name of a command. -/
def requestFor (cores : Nat) (name : String) (words : List String) : Request :=
  match name with
  | "tokenize" => requestOf tokenizeSpec words fun given => do
    return .tokenize (← given.path?) (← given.source?) given.format (given.has "report-unmatched")
  | "check" => requestOf checkSpec words fun given => do
    return .check (← given.path?) given.format
  | "languages" => requestOf languagesSpec words fun _ => some .languages
  | "batch" => requestOf batchSpec words fun given => do
    return .batch (← given.path?) (← given.source?) (given.config cores)
  | _ => .refused

/-- The name of the command that gives help on the others. -/
def helpName : String := "help"

/-- The request for help on the command that the words name, if they name one. -/
def helpFor : List String → Request
  | [] => .help none
  | [name] =>
    if name = helpName || commandSpecs.any (·.name = name) then .help name else .refused
  | _ => .refused

/-- Reads the words of a command line. -/
def Request.ofWords (cores : Nat) : List String → Request
  | "help" :: words => helpFor words
  | "--help" :: _ => .help none
  | "--version" :: _ => .version
  | word :: words =>
    match word.toList with
    | '-' :: 'h' :: _ => .help none
    | '-' :: 'V' :: _ => .version
    | _ => requestFor cores word words
  | [] => .refused

end LineLexer.CommandLine
