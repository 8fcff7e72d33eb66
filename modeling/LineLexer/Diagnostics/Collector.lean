import LineLexer.Diagnostics.Event
import LineLexer.Files.Path

/-!
# Collectors

A collector keeps the events of every file by itself, a front of them if they are many, and tells at
the end how the files fared.
-/

namespace LineLexer.Diagnostics

open Files

/-- A file and the events about it. -/
structure FileRecord where
  path : Path
  events : List Event
deriving DecidableEq, Repr

/-- The files in the order of their paths. -/
structure Collector where
  files : SortedMap (List String) FileRecord
deriving DecidableEq, Repr

/-- Counts over the files of a collector. -/
structure Tally where
  files : Nat
  clean : Nat
  withWarnings : Nat
  withErrors : Nat
  errors : Nat
  warnings : Nat
deriving DecidableEq, Repr

namespace FileRecord

/-- What stands at the end of the events of a file that has had too many. -/
def overflow : Event :=
  .warning .plainWarning s!"further events dropped (limit {Limits.eventsPerFile})" []

/-- Keeps an event while there is room; the first one without room leaves a mark. -/
def add (record : FileRecord) (event : Event) : FileRecord :=
  let count := record.events.length
  if count < Limits.eventsPerFile then { record with events := record.events ++ [event] }
  else if count = Limits.eventsPerFile then { record with events := record.events ++ [overflow] }
  else record

def errors (record : FileRecord) : Nat := record.events.countP (·.isError)

def warnings (record : FileRecord) : Nat := record.events.countP (·.isWarning)

end FileRecord

namespace Tally

def zero : Tally := ⟨0, 0, 0, 0, 0, 0⟩

def add (tally : Tally) (record : FileRecord) : Tally :=
  let errors := record.errors
  let warnings := record.warnings
  let isClean := errors = 0 && warnings = 0
  let onlyWarnings := errors = 0 && warnings != 0
  { files := tally.files + 1
    clean := tally.clean + if isClean then 1 else 0
    withWarnings := tally.withWarnings + if onlyWarnings then 1 else 0
    withErrors := tally.withErrors + if errors = 0 then 0 else 1
    errors := tally.errors + errors
    warnings := tally.warnings + warnings }

def hasErrors (tally : Tally) : Bool := 0 < tally.errors

def hasWarnings (tally : Tally) : Bool := 0 < tally.warnings

end Tally

namespace Collector

def empty : Collector := ⟨.empty⟩

def record? (collector : Collector) (path : Path) : Option FileRecord :=
  collector.files.find? path.orderKey

/-- The record of a file, a new one if there is none yet. -/
def recordOf (collector : Collector) (path : Path) : FileRecord :=
  (collector.record? path).getD ⟨path, []⟩

/-- Counts a file, even if nothing is ever told about it. -/
def startFile (collector : Collector) (path : Path) : Collector :=
  ⟨collector.files.insert path.orderKey (collector.recordOf path)⟩

/-- Keeps an event about a file. -/
def record (collector : Collector) (path : Path) (event : Event) : Collector :=
  ⟨collector.files.insert path.orderKey ((collector.recordOf path).add event)⟩

/-- The events that were kept for a file. -/
def eventsOf (collector : Collector) (path : Path) : List Event := (collector.recordOf path).events

def tally (collector : Collector) : Tally := collector.files.values.foldl Tally.add .zero

/-! ## Report -/

/-- The lines about one error or warning. Those about the file itself are left out. -/
def problemLines (path : Path) (event : Event) : List String :=
  let label := if event.isError then "error" else "warning"
  let place := match event.span with
    | some span => s!" --> {path.text}:" ++ span.start.display
    | none => ""
  let grade := if event.isError then
      [s!"  = severity: {event.code.severity.name}, category: {event.code.category}"]
    else []
  let details := event.context.entries.filterMap fun (key, value) =>
    if key = "file" || key = "file_id" then none else some s!"  = {key}: {value}"
  let action := event.code.action
  let help := if event.isError && action != Code.noAction then [s!"  = help: {action}"] else []
  s!"{label}[{event.code.text}]: {event.message}{place}" :: grade ++ details ++ help

/-- The lines about one file; a file without problems has none. -/
def fileLines (record : FileRecord) : List String :=
  match record.events.filter (·.isProblem) with
  | [] => []
  | problems => s!"Checking {record.path.text}..." :: problems.flatMap (problemLines record.path) ++ [""]

/-- A block for each file with problems, then the totals. -/
def report (collector : Collector) : String :=
  let tally := collector.tally
  let errors := if tally.hasErrors then [s!"Total errors: {tally.errors}"] else []
  let warnings := if tally.hasWarnings then [s!"Total warnings: {tally.warnings}"] else []
  String.join ((collector.files.values.flatMap fileLines ++ errors ++ warnings).map (· ++ "\n"))

end Collector

end LineLexer.Diagnostics
