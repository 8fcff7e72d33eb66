import LineLexer.Diagnostics.Collector
import LineLexer.Diagnostics.Service
import LineLexer.Preferences

/-!
# The journal

The journal is what a run of the program tells beside its answers. Events go to a service, and those
about a file to a collector too, once the journal has been opened; before that they are dropped. The
journal also holds the choices that a run makes once: preferences that are fixed when they are first
asked for, and the languages whose grammars have been compiled.
-/

namespace LineLexer.Diagnostics

open Files

/-- The file that is being worked on, and its number. -/
structure FileContext where
  path : Path
  id : Nat
deriving DecidableEq, Repr

/-- Where events go in an open journal. -/
structure Recorder where
  service : Service
  collector : Collector
deriving DecidableEq, Repr

/-- What a run has told so far, and what it has settled. -/
structure Journal where
  preferences : Preferences
  /-- The choice for grammars, once it is fixed. -/
  grammars : Option GrammarPreferences
  /-- The choice for lines, once it is fixed. -/
  tokenizer : Option TokenizerPreferences
  recorder : Option Recorder
  /-- The file that is being worked on by whoever tells events. -/
  currentFile : Option FileContext
  /-- The names of the languages that have been compiled. -/
  compiled : List String
  /-- What was written beside the answers, the last text first. -/
  written : List String
  /-- What was printed as an answer, the last text first. -/
  printed : List String

/-- A computation that tells events. -/
abbrev Logged := StateM Journal

namespace Journal

/-- The journal at the start of a run. -/
def ofVariables (environment : Variables) : Journal :=
  ⟨.ofVariables environment, none, none, none, none, [], [], []⟩

def write (journal : Journal) (text : String) : Journal :=
  { journal with written := text :: journal.written }

def print (journal : Journal) (text : String) : Journal :=
  { journal with printed := text :: journal.printed }

/-- All that was written beside the answers. -/
def messages (journal : Journal) : String := String.join journal.written.reverse

/-- All that was printed. -/
def answers (journal : Journal) : String := String.join journal.printed.reverse

/-- Adds the file that is being worked on, if the user wants it. -/
def tag (journal : Journal) (event : Event) : Event :=
  match journal.currentFile with
  | some file =>
    if journal.preferences.journal.fileContext then
      (event.withDetail "file" file.path.text).withDetail "file_id" (toString file.id)
    else event
  | none => event

/-- Takes an event to the service, and to the collector if it is a problem of the current file. -/
def note (journal : Journal) (event : Event) : Journal :=
  match journal.recorder with
  | none => journal
  | some ⟨service, collector⟩ =>
    let event := journal.tag event
    let (service, line) := service.handle event
    let collector := match journal.currentFile with
      | some file => if event.isProblem then collector.record file.path event else collector
      | none => collector
    let journal := { journal with recorder := some ⟨service, collector⟩ }
    match line with
    | some line => journal.write (line ++ "\n")
    | none => journal

def noteAll (journal : Journal) (events : List Event) : Journal := events.foldl note journal

/-- The service that the preferences ask for; records stand above lines of text. -/
def service (preferences : JournalPreferences) : Service :=
  ⟨preferences.least,
    if preferences.structured then .structured
    else if preferences.console then .console
    else .silent⟩

/-- The errors and warnings about the files so far. -/
def tally (journal : Journal) : Tally :=
  (journal.recorder.map (·.collector.tally)).getD .zero

/-- The report on the files so far; none before the journal is open. -/
def report? (journal : Journal) : Option String := journal.recorder.map (·.collector.report)

end Journal

/-! ## Telling events -/

/-- What is told in the place of a duration: the journal has no clock. -/
def untimed : String := "_"

def note (event : Event) : Logged Unit := modify (·.note event)

def noteAll (events : List Event) : Logged Unit := modify (·.noteAll events)

def write (text : String) : Logged Unit := modify (·.write text)

def print (text : String) : Logged Unit := modify (·.print text)

def printLine (text : String) : Logged Unit := print (text ++ "\n")

/-- Opens the journal; it can be opened once. -/
def openJournal : Logged (Except String Unit) := do
  let journal ← get
  match journal.recorder with
  | some _ => return .error "Logging already initialized"
  | none =>
    let service := Journal.service journal.preferences.journal
    set { journal with recorder := some ⟨service, .empty⟩ }
    note (.success .journalOpened "Logging initialized" [])
    return .ok ()

/-! ## The file that is being worked on -/

/-- Counts a file and makes it the current one. The answer is the one before it. -/
def enterFile (file : FileContext) : Logged (Option FileContext) :=
  modifyGet fun journal => (journal.currentFile, { journal with
    recorder := journal.recorder.map fun recorder =>
      { recorder with collector := recorder.collector.startFile file.path }
    currentFile := some file })

/-- Goes back to the file that was the current one before. -/
def leaveFile (before : Option FileContext) : Logged Unit := modify ({ · with currentFile := before })

/-- Does work on a file: events are about this file until the work is done. -/
def withFile {α : Type} (file : FileContext) (work : Logged α) : Logged α := do
  let before ← enterFile file
  let result ← work
  leaveFile before
  return result

/-- Does work for somebody who has a current file of his own. This one stands in the place of the
journal's as long as the work goes on, and the answer comes with what has become of it. -/
def withOwnFile {α : Type} (own : Option FileContext) (work : Logged α) :
    Logged (α × Option FileContext) := do
  let outer := (← get).currentFile
  modify ({ · with currentFile := own })
  let answer ← work
  let after := (← get).currentFile
  modify ({ · with currentFile := outer })
  return (answer, after)

/-! ## Choices that are made once -/

/-- The preferences for grammars. Asking fixes them. -/
def grammarPreferences : Logged GrammarPreferences := do
  let journal ← get
  let choice := journal.grammars.getD journal.preferences.grammars
  set { journal with grammars := some choice }
  return choice

/-- The preferences for lines. Asking fixes them. -/
def tokenizerPreferences : Logged TokenizerPreferences := do
  let journal ← get
  let choice := journal.tokenizer.getD journal.preferences.tokenizer
  set { journal with tokenizer := some choice }
  return choice

/-- Fixes the preferences for grammars; false if they were fixed before. -/
def fixGrammarPreferences (choice : GrammarPreferences) : Logged Bool := do
  let journal ← get
  match journal.grammars with
  | some _ => return false
  | none =>
    set { journal with grammars := some choice }
    return true

/-- Fixes the preferences for lines; false if they were fixed before. -/
def fixTokenizerPreferences (choice : TokenizerPreferences) : Logged Bool := do
  let journal ← get
  match journal.tokenizer with
  | some _ => return false
  | none =>
    set { journal with tokenizer := some choice }
    return true

end LineLexer.Diagnostics
