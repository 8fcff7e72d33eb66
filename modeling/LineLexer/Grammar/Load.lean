import LineLexer.Diagnostics.Journal
import LineLexer.Files.Tree
import LineLexer.Grammar.Registry

/-!
# Loading grammars

Grammars come from documents, from files and from the languages of the library. Each one that is
compiled is told to the journal; a built-in one only the first time.
-/

namespace LineLexer

open Diagnostics Files

namespace Grammar

/-- What is told of a compiled grammar: the states that cannot be reached, then its counts. -/
def events (grammar : Grammar) (preferences : GrammarPreferences) : List Event :=
  let unreachable := if preferences.warnOfUnreachable then
      grammar.unreachable.map fun state =>
        Event.warning .stateUnreachable "State is never pushed from the initial state"
          [("grammar", grammar.name), ("state", state)]
    else []
  let counts := [("grammar", grammar.name), ("states", toString grammar.states.length),
    ("rules", toString grammar.ruleCount)]
  let compiled := if preferences.statistics then
      Event.success .grammarLoaded "Grammar compiled"
        (counts ++ [("token_kinds", toString grammar.kindCount), ("duration_ms", untimed)])
    else .debug "Grammar compiled" counts
  unreachable ++ [compiled]

/-- Tells of a grammar, if there is one. -/
def noteCompiled (result : Except GrammarError Grammar) : Logged (Except GrammarError Grammar) := do
  if let .ok grammar := result then
    noteAll (grammar.events (← grammarPreferences))
  return result

/-- Compiles a document and tells of it. -/
def compileLogged (document : GrammarDocument) (fallbackName : String) :
    Logged (Except GrammarError Grammar) :=
  noteCompiled (compile document fallbackName)

/-- Reads a document and compiles it. -/
def loadSource (format : GrammarDocument.Format) (source fallbackName : String) :
    Logged (Except GrammarError Grammar) :=
  match GrammarDocument.ofSource format source with
  | .error fault => return .error fault
  | .ok document => compileLogged document fallbackName

/-- The format that a file's extension names, in any case of ASCII letters. -/
def formatOf? (path : Path) : Option GrammarDocument.Format :=
  match path.extension?.map Text.lowercaseAscii with
  | some "toml" => some .toml
  | some "json" => some .json
  | _ => none

/-- Loads a grammar from a file. A grammar without a name takes the file's. -/
def loadFile (files : FileSystem) (path : Path) : Logged (Except GrammarError Grammar) := do
  match formatOf? path with
  | none => return .error (.formatUnsupported path.text)
  | some format =>
    note (.info "Loading grammar" [("path", path.text)])
    match files.readText path with
    | .error fault => return .error (.fileUnreadable path.text fault)
    | .ok source => loadSource format source (path.stem?.getD unnamed)

/-- The grammar of a built-in language, by name or alias. -/
def loadBuiltin (name : String) : Logged (Except GrammarError Grammar) := do
  match Language.named? name with
  | none => return .error (.languageUnknown name)
  | some language =>
    if (← get).compiled.contains language.name then return language.grammar
    modify fun journal => { journal with compiled := language.name :: journal.compiled }
    noteCompiled language.grammar

end Grammar

namespace Registry

def addLanguages : List Language → Registry → Logged (Except GrammarError Registry)
  | [], registry => return .ok registry
  | language :: rest, registry => do
    match ← Grammar.loadBuiltin language.name with
    | .error fault => return .error fault
    | .ok grammar => addLanguages rest (registry.addLanguage language grammar)

/-- The registry of the built-in languages with their aliases. -/
def withBuiltins : Logged (Except GrammarError Registry) := addLanguages Language.builtins .empty

end Registry

end LineLexer
