import LineLexer.Proofs.Diagnostics.Kept
import Mathlib.Algebra.BigOperators.Group.Finset.Piecewise

/-!
# Errors in a report

A tally counts a file among those with errors if an error is at the front of its events, where there is
room for it (`Collector.withErrors_fileAll`). The report has a block for each file about which a
problem was kept (`Collector.hasBlock_report`), so a file about which an error was recorded always has
one: the block shows the error, or the mark that stands for what came too late.
-/

namespace LineLexer.Diagnostics

open Files

/-! ## Blocks -/

/-- What a report says of a problem before all else. -/
def Event.headline (event : Event) : String :=
  (if event.isError then "error" else "warning") ++ "[" ++ event.code.text ++ "]: " ++ event.message

/-- The text of lines, with a line feed behind each. -/
def textOfLines (lines : List String) : String := String.join (lines.map (· ++ "\n"))

/-- A report has a block about a file: a line with the path, then for each problem a line that begins
with its headline and the lines of its details, and an empty line at the end. -/
def HasBlock (report : String) (path : Path) (problems : List Event) : Prop :=
  ∃ (front back : List String) (place : Event → String) (details : Event → List String),
    report = textOfLines (front
      ++ (("Checking " ++ path.text ++ "...")
        :: problems.flatMap (fun event => (event.headline ++ place event) :: details event) ++ [""])
      ++ back)

namespace Collector

theorem exists_problemLines (path : Path) (event : Event) : ∃ (place : String) (details : List String),
    problemLines path event = (event.headline ++ place) :: details :=
  ⟨_, (problemLines path event).tail, rfl⟩

/-- A report is the lines about the files, in the order of their paths, and the totals behind. -/
theorem exists_report_eq (collector : Collector) : ∃ totals,
    collector.report = textOfLines (collector.files.values.flatMap fileLines ++ totals) := by
  unfold report textOfLines
  dsimp only
  rw [List.append_assoc]
  exact ⟨_, rfl⟩

/-- The report has a block for each file with problems. -/
theorem hasBlock_report {collector : Collector} {record : FileRecord}
    (h : record ∈ collector.files.values) (hne : record.events.filter (·.isProblem) ≠ []) :
    HasBlock collector.report record.path (record.events.filter (·.isProblem)) := by
  obtain ⟨before, after, hvalues⟩ := List.append_of_mem h
  obtain ⟨totals, hreport⟩ := exists_report_eq collector
  choose place details hlines using exists_problemLines record.path
  have hblock : fileLines record = ("Checking " ++ record.path.text ++ "...")
      :: (record.events.filter (·.isProblem)).flatMap
        (fun event => (event.headline ++ place event) :: details event) ++ [""] := by
    unfold fileLines
    split
    · rename_i hnil
      exact absurd hnil hne
    · rw [funext hlines]
      rfl
  refine ⟨before.flatMap fileLines, after.flatMap fileLines ++ totals, place, details, ?_⟩
  rw [hreport, hvalues, List.flatMap_append, List.flatMap_cons, hblock]
  simp only [List.append_assoc]

end Collector

/-! ## Errors at the front -/

namespace Filing

/-- The first events that were recorded about a file, as many as there is room for. -/
def early (filings : List Filing) (file : List Component) : List Event :=
  (recorded filings file).take Limits.eventsPerFile

/-- The problems of a file that are kept. -/
def problems (filings : List Filing) (file : List Component) : List Event :=
  (kept (recorded filings file)).filter (·.isProblem)

variable {filings : List Filing} {file : List Component}

theorem mem_files_of_mem_early {event : Event} (h : event ∈ early filings file) :
    file ∈ files filings :=
  mem_files_of_mem_recorded (List.mem_of_mem_take h)

theorem mem_problems_of_mem_early {event : Event} (h : event ∈ early filings file)
    (herror : event.isError = true) : event ∈ problems filings file := by
  unfold problems
  rw [List.mem_filter, Event.isProblem, herror]
  exact ⟨List.mem_append_left _ h, rfl⟩

theorem overflow_mem_problems (h : Limits.eventsPerFile < (recorded filings file).length) :
    FileRecord.overflow ∈ problems filings file := by
  unfold problems
  rw [List.mem_filter, kept_of_lt h]
  exact ⟨List.mem_append_right _ (List.mem_singleton_self _), rfl⟩

/-- An error for which there was no room has the mark in its place. -/
theorem problems_ne_nil {event : Event} (h : event ∈ recorded filings file)
    (herror : event.isError = true) : problems filings file ≠ [] := by
  by_cases hmore : Limits.eventsPerFile < (recorded filings file).length
  · exact List.ne_nil_of_mem (overflow_mem_problems hmore)
  · have hearly : event ∈ early filings file := by
      unfold early
      rwa [List.take_of_length_le (Nat.le_of_not_lt hmore)]
    exact List.ne_nil_of_mem (mem_problems_of_mem_early hearly herror)

end Filing

namespace Collector

variable {filings : List Filing} {file : List Component}

/-- The mark is no error. -/
theorem errors_recordAbout (filings : List Filing) (file : List Component) :
    (recordAbout filings file).errors = (Filing.early filings file).countP (·.isError) := by
  unfold FileRecord.errors recordAbout kept Filing.early
  rw [List.countP_append]
  split <;> rfl

theorem errors_recordAbout_eq_zero_iff :
    (recordAbout filings file).errors = 0
      ↔ ¬∃ event ∈ Filing.early filings file, event.isError = true := by
  rw [errors_recordAbout, List.countP_eq_zero]
  simp only [not_exists, not_and]

/-- The files with errors are those with an error at the front of their events. -/
theorem withErrors_fileAll (filings : List Filing) :
    (empty.fileAll filings).tally.withErrors = ((Filing.files filings).filter fun file =>
      ∃ event ∈ Filing.early filings file, event.isError = true).card := by
  have hsum := @tally_fileAll Tally.withErrors (fun record => if record.errors = 0 then 0 else 1)
    rfl (fun _ _ => rfl) filings
  rw [hsum, Finset.card_filter]
  apply Finset.sum_congr rfl
  intro file _
  simp only [errors_recordAbout_eq_zero_iff, ite_not]

theorem hasErrors_fileAll (filings : List Filing) :
    (empty.fileAll filings).tally.hasErrors = true
      ↔ ∃ file, ∃ event ∈ Filing.early filings file, event.isError = true := by
  have hsum := @tally_fileAll Tally.errors FileRecord.errors rfl (fun _ _ => rfl) filings
  unfold Tally.hasErrors
  rw [decide_eq_true_iff, hsum, Nat.pos_iff_ne_zero, ne_eq, Finset.sum_eq_zero_iff]
  constructor
  · intro h
    by_contra hnone
    apply h
    intro file _
    exact errors_recordAbout_eq_zero_iff.mpr (not_exists.mp hnone file)
  · intro ⟨file, event, hevent, herror⟩ hzero
    have hnone := hzero file (Filing.mem_files_of_mem_early hevent)
    exact errors_recordAbout_eq_zero_iff.mp hnone ⟨event, hevent, herror⟩

/-- The block of a file is under the path with which the file was entered first. -/
theorem hasBlock_fileAll {path : Path} (hpath : Filing.firstPath? filings file = some path)
    (hne : Filing.problems filings file ≠ []) :
    HasBlock (empty.fileAll filings).report path (Filing.problems filings file) := by
  have hfind := find?_fileAll_empty filings file
  rw [hpath, Option.map_some] at hfind
  exact @hasBlock_report _ ⟨path, kept (Filing.recorded filings file)⟩
    (SortedMap.mem_values_of_find? hfind) hne

/-- The files with errors are those with an error at the front of their events, where there is room for
it, and a tally has errors if there is such a file. Each file about which an error was recorded has a
block in the report. The block shows the errors at the front and, if there were more events than there
is room for, the mark that stands for these. -/
theorem reports_recorded_errors (filings : List Filing) :
    (empty.fileAll filings).tally.withErrors = ((Filing.files filings).filter fun file =>
        ∃ event ∈ Filing.early filings file, event.isError = true).card ∧
      ((empty.fileAll filings).tally.hasErrors = true
        ↔ ∃ file, ∃ event ∈ Filing.early filings file, event.isError = true) ∧
      ∀ file, (∃ event ∈ Filing.recorded filings file, event.isError = true) →
        ∃ path problems, Filing.firstPath? filings file = some path ∧
          HasBlock (empty.fileAll filings).report path problems ∧
          (∀ event ∈ Filing.early filings file, event.isError = true → event ∈ problems) ∧
          (Limits.eventsPerFile < (Filing.recorded filings file).length →
            FileRecord.overflow ∈ problems) := by
  refine ⟨withErrors_fileAll filings, hasErrors_fileAll filings, ?_⟩
  intro file ⟨error, hrecorded, herror⟩
  obtain ⟨path, hpath⟩ :=
    Filing.exists_firstPath?_iff.mpr (Filing.mem_files_of_mem_recorded hrecorded)
  have hblock := hasBlock_fileAll hpath (Filing.problems_ne_nil hrecorded herror)
  exact ⟨path, Filing.problems filings file, hpath, hblock,
    fun event hevent hlevel => Filing.mem_problems_of_mem_early hevent hlevel,
    Filing.overflow_mem_problems⟩

/-! ## Late errors -/

/-- The path of one file. -/
def latePath : Path := ⟨"a"⟩

/-- An error is recorded when there is no more room for it. -/
def lateFilings : List Filing :=
  List.replicate Limits.eventsPerFile (.keep latePath (.info "event" []))
    ++ [.keep latePath (.error .patternInvalid "late" [])]

theorem recorded_lateFilings : Filing.recorded lateFilings latePath.components
    = List.replicate Limits.eventsPerFile (.info "event" []) ++ [.error .patternInvalid "late" []] := by
  unfold lateFilings
  have hevent (event : Event) :
      (Filing.keep latePath event).event? latePath.components = some event := by
    rw [Filing.event?, if_pos rfl]
  rw [Filing.recorded_concat, hevent, Filing.recorded, List.filterMap_replicate_of_some (hevent _)]
  rfl

/-- An error may be recorded about a file, and no file counts among those with errors. -/
theorem late_error_not_counted :
    (∃ event ∈ Filing.recorded lateFilings latePath.components, event.isError = true) ∧
      (empty.fileAll lateFilings).tally.withErrors = 0 ∧
      (empty.fileAll lateFilings).tally.hasErrors = false := by
  have hearly : ∀ file, ¬∃ event ∈ Filing.early lateFilings file, event.isError = true := by
    intro file ⟨event, hevent, herror⟩
    have hfile : file = latePath.components := by
      obtain ⟨filing, hfiling, hpath⟩ := Filing.mem_files_iff.mp (Filing.mem_files_of_mem_early hevent)
      rw [lateFilings, List.mem_append, List.mem_replicate, List.mem_singleton] at hfiling
      obtain ⟨-, h⟩ | h := hfiling
      · rw [← hpath, h]
        rfl
      · rw [← hpath, h]
        rfl
    rw [hfile, Filing.early, recorded_lateFilings, List.take_left' (List.length_replicate ..)] at hevent
    rw [List.eq_of_mem_replicate hevent] at herror
    cases herror
  refine ⟨⟨.error .patternInvalid "late" [], ?_, rfl⟩, ?_, ?_⟩
  · rw [recorded_lateFilings]
    exact List.mem_append_right _ (List.mem_singleton_self _)
  · rw [withErrors_fileAll, Finset.card_eq_zero, Finset.filter_eq_empty_iff]
    exact fun file _ => hearly file
  · rw [← Bool.not_eq_true, hasErrors_fileAll]
    exact fun ⟨file, herror⟩ => hearly file herror

end Collector
end LineLexer.Diagnostics
