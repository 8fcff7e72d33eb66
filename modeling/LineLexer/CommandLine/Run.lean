import LineLexer.Batch.Run
import LineLexer.CommandLine.Command
import LineLexer.CommandLine.Render
import LineLexer.Grammar.Load

/-!
# Running commands

A command prints its answer and tells what happens on the way; if it cannot be carried out, the last
thing it tells is why.
-/

namespace LineLexer.CommandLine

open Diagnostics Files

/-- The exit codes of the program. -/
def succeeded : Nat := 0
def failed : Nat := 1
def refused : Nat := 2

/-- Tells why a command is not carried out. -/
def fail (message : String) : Logged Nat := do
  write s!"error: {message}\n"
  return failed

def resolveGrammar (files : FileSystem) :
    GrammarSource → Logged (Except GrammarError Grammar)
  | .file path => Grammar.loadFile files path
  | .language name => do
    match ← Registry.withBuiltins with
    | .error fault => return .error fault
    | .ok registry => return registry.require name

/-- Files are read as the standard preferences say. -/
def filePreferences : FilePreferences := ⟨true, true⟩

def runTokenize (files : FileSystem) (file : Path) (source : GrammarSource) (format : OutputFormat)
    (report : Bool) : Logged Nat := do
  match ← resolveGrammar files source with
  | .error fault => fail fault.message
  | .ok grammar =>
    match ← (loadText files filePreferences file).run with
    | .error fault => fail fault.message
    | .ok text =>
      match ← (Batch.tokenizeText grammar text).run with
      | .error fault => fail fault.message
      | .ok buffer =>
        match format with
        | .text => print (bufferText buffer)
        | .json => printLine (Json.pretty (bufferDatum buffer))
        if report then (unmatchedReports buffer text.source).forM write
        return succeeded

def runCheck (files : FileSystem) (path : Path) (format : OutputFormat) : Logged Nat := do
  match ← Grammar.loadFile files path with
  | .error fault => fail fault.message
  | .ok grammar =>
    match format with
    | .text => print (summaryText grammar.summary)
    | .json => printLine (Json.pretty grammar.summary.toDatum)
    return succeeded

def runLanguages : Logged Nat := do
  match ← Registry.withBuiltins with
  | .error fault => fail fault.message
  | .ok registry =>
    print (languagesText registry)
    return succeeded

def runBatch (files : FileSystem) (directory : Path) (source : GrammarSource)
    (config : Batch.Config) : Logged Nat := do
  match ← resolveGrammar files source with
  | .error fault => fail fault.message
  | .ok grammar =>
    if config.progress then print (batchHead directory.text grammar config)
    match ← Batch.run files grammar config directory with
    | .error fault => fail fault.message
    | .ok results =>
      print (resultsText results)
      let journal ← get
      print (tallyText journal.tally)
      if results.failed.isEmpty then return succeeded
      if journal.preferences.journal.report then journal.report?.forM write
      fail s!"{results.failureCount} of {results.processed} files failed"

def runCommand (files : FileSystem) : Command → Logged Nat
  | .tokenize file source format report => runTokenize files file source format report
  | .check grammar format => runCheck files grammar format
  | .languages => runLanguages
  | .batch directory source config => runBatch files directory source config

/-- Carries out the words of a command line; the answer is the exit code. -/
def runWords (files : FileSystem) (cores : Nat) (words : List String) : Logged Nat := do
  match Request.ofWords cores words with
  | .refused =>
    write programHelp
    return refused
  | .help command =>
    print (helpText command)
    return succeeded
  | .version =>
    print versionText
    return succeeded
  | .run command =>
    match ← openJournal with
    | .error message => fail message
    | .ok () =>
      tellLimits
      runCommand files command

end LineLexer.CommandLine
