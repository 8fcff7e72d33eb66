import LineLexer.Proofs.Diagnostics.Collector
import LineLexer.Proofs.Files.PathOrder
import Mathlib.Algebra.BigOperators.Group.Finset.Basic
import Mathlib.Algebra.GroupWithZero.Nat

/-!
# The front that is kept of a file's events

Whatever is entered in a collector, it keeps for each file the front of the events that were recorded
about it, and one mark in place of all that came later (`kept`). One more event leads from the front of
some events to the front of these and one more (`FileRecord.add_kept`), so the record of a file can be
told from the entries alone (`Collector.find?_fileAll_empty`). A tally is a sum over the files that
entries were made about (`Collector.tally_fileAll`).
-/

namespace LineLexer.Diagnostics

open Files

/-! ## What was entered -/

namespace Filing

/-- The event that an entry keeps about a file. Paths with the same components lead to the same
file. -/
def event? (file : List Component) : Filing → Option Event
  | .start _ => none
  | .keep path event => if path.components = file then some event else none

/-- The events that were recorded about a file, in their order. -/
def recorded (filings : List Filing) (file : List Component) : List Event :=
  filings.filterMap (event? file)

/-- The path under which a file was entered first. -/
def firstPath? (filings : List Filing) (file : List Component) : Option Path :=
  (filings.map path).find? fun path => path.components = file

/-- The files that entries are about. -/
def files (filings : List Filing) : Finset (List Component) :=
  (filings.map (·.path.components)).toFinset

variable {filings : List Filing} {file : List Component}

theorem recorded_concat (filings : List Filing) (filing : Filing) (file : List Component) :
    recorded (filings ++ [filing]) file
      = recorded filings file ++ (filing.event? file).toList := by
  unfold recorded
  rw [List.filterMap_append]
  cases h : filing.event? file <;> simp [h]

theorem firstPath?_concat (filings : List Filing) (filing : Filing) (file : List Component) :
    firstPath? (filings ++ [filing]) file = (firstPath? filings file).or
      (if filing.path.components = file then some filing.path else none) := by
  unfold firstPath?
  rw [List.map_append, List.find?_append]
  by_cases h : filing.path.components = file <;> simp [h]

theorem event?_eq_none {filing : Filing} (h : filing.path.components ≠ file) :
    filing.event? file = none := by
  cases filing with
  | start path => rfl
  | keep path event => exact if_neg h

theorem mem_files_iff : file ∈ files filings ↔ ∃ filing ∈ filings, filing.path.components = file := by
  simp [files]

theorem mem_files_of_mem_recorded {event : Event} (h : event ∈ recorded filings file) :
    file ∈ files filings := by
  obtain ⟨filing, hfiling, hevent⟩ := List.mem_filterMap.mp h
  refine mem_files_iff.mpr ⟨filing, hfiling, ?_⟩
  by_contra hne
  rw [event?_eq_none hne] at hevent
  cases hevent

/-- A file has a first path just if it was entered. -/
theorem exists_firstPath?_iff :
    (∃ path, firstPath? filings file = some path) ↔ file ∈ files filings := by
  unfold firstPath?
  rw [← Option.isSome_iff_exists, List.find?_isSome, mem_files_iff]
  simp

/-- Nothing was recorded about a file that was never entered. -/
theorem recorded_eq_nil (h : firstPath? filings file = none) : recorded filings file = [] := by
  by_contra hne
  obtain ⟨event, hevent⟩ := List.exists_mem_of_ne_nil _ hne
  obtain ⟨path, hpath⟩ := exists_firstPath?_iff.mpr (mem_files_of_mem_recorded hevent)
  rw [h] at hpath
  cases hpath

end Filing

/-! ## The front -/

/-- What is kept of events: those at the front, and one warning if they are more. -/
def kept (events : List Event) : List Event :=
  events.take Limits.eventsPerFile
    ++ if Limits.eventsPerFile < events.length then [FileRecord.overflow] else []

theorem kept_of_le {events : List Event} (h : events.length ≤ Limits.eventsPerFile) :
    kept events = events := by
  unfold kept
  rw [if_neg (by omega), List.append_nil, List.take_of_length_le h]

theorem kept_of_lt {events : List Event} (h : Limits.eventsPerFile < events.length) :
    kept events = events.take Limits.eventsPerFile ++ [FileRecord.overflow] := by
  unfold kept
  rw [if_pos h]

namespace FileRecord

theorem isWarning_overflow : overflow.isWarning = true := rfl

/-- One more event leads to the front of one more event. -/
theorem add_kept (path : Path) (events : List Event) (event : Event) :
    (FileRecord.mk path (kept events)).add event = ⟨path, kept (events ++ [event])⟩ := by
  have hlength : (events ++ [event]).length = events.length + 1 := by simp
  unfold add
  obtain hlt | heq | hgt := Nat.lt_trichotomy events.length Limits.eventsPerFile
  · rw [kept_of_le (by omega), kept_of_le (by omega)]
    simp only [if_pos hlt]
  · rw [kept_of_le (by omega), kept_of_lt (by omega)]
    simp only [heq, Nat.lt_irrefl, if_true, if_false]
    rw [← heq, List.take_left]
  · -- the mark has taken the last place, so nothing changes
    have hcount : (kept events).length = Limits.eventsPerFile + 1 := by
      rw [kept_of_lt hgt, List.length_append, List.length_take, List.length_singleton]
      omega
    have hfront : kept (events ++ [event]) = kept events := by
      rw [kept_of_lt hgt, kept_of_lt (by omega), List.take_append_of_le_length (by omega)]
    simp only [hcount, hfront]
    rw [if_neg (by omega), if_neg (by omega)]

theorem file_kept (path : Path) (events : List Event) (filing : Filing) :
    (FileRecord.mk path (kept events)).file filing
      = ⟨path, kept (events ++ (filing.event? filing.path.components).toList)⟩ := by
  cases filing with
  | start other => simp [file, Filing.event?]
  | keep other event =>
    rw [file, add_kept]
    simp [Filing.event?, Filing.path]

end FileRecord

namespace Collector

/-- The record of a file: the path under which it was entered first, and the front of its events. -/
theorem find?_fileAll_empty (filings : List Filing) (file : List Component) :
    (empty.fileAll filings).files.find? (file.map Component.orderKey)
      = (Filing.firstPath? filings file).map fun first =>
          ⟨first, kept (Filing.recorded filings file)⟩ := by
  induction filings using List.reverseRecOn with
  | nil => rfl
  | append_singleton filings filing ih =>
    rw [fileAll_append, fileAll_cons, fileAll_nil, find?_file, ih, Filing.firstPath?_concat,
      Filing.recorded_concat]
    by_cases h : filing.path.components = file
    · subst h
      have hkey : filing.path.orderKey = filing.path.components.map Component.orderKey := rfl
      rw [if_pos hkey, if_pos rfl]
      cases hfirst : Filing.firstPath? filings filing.path.components with
      | none =>
        rw [Filing.recorded_eq_nil hfirst]
        exact congrArg some (FileRecord.file_kept filing.path [] filing)
      | some first => exact congrArg some (FileRecord.file_kept first _ filing)
    · have hkey : filing.path.orderKey ≠ file.map Component.orderKey := fun heq =>
        h (Component.map_orderKey_injective heq)
      rw [if_neg hkey, if_neg h, Filing.event?_eq_none h, Option.or_none, Option.toList_none,
        List.append_nil]

theorem eventsOf_fileAll (filings : List Filing) (path : Path) :
    (empty.fileAll filings).eventsOf path = kept (Filing.recorded filings path.components) := by
  have hfind := find?_fileAll_empty filings path.components
  unfold eventsOf recordOf record?
  rw [show path.orderKey = path.components.map Component.orderKey from rfl, hfind]
  cases hfirst : Filing.firstPath? filings path.components with
  | none =>
    rw [Filing.recorded_eq_nil hfirst]
    rfl
  | some first => rfl

/-! ## Counts over the files -/

/-- The record that entries lead to for a file. -/
def recordAbout (filings : List Filing) (file : List Component) : FileRecord :=
  ⟨(Filing.firstPath? filings file).getD default, kept (Filing.recorded filings file)⟩

/-- A collector has one record for each file that was entered. -/
theorem values_perm_records (filings : List Filing) :
    (empty.fileAll filings).files.values.Perm
      ((Filing.files filings).toList.map (recordAbout filings)) := by
  have hdistinct : ((Filing.files filings).toList.map (·.map Component.orderKey)).Nodup :=
    (Finset.nodup_toList _).map Component.map_orderKey_injective
  have hfind : ∀ file ∈ (Filing.files filings).toList,
      (empty.fileAll filings).files.find? (file.map Component.orderKey)
        = some (recordAbout filings file) := by
    intro file hfile
    obtain ⟨first, hfirst⟩ := Filing.exists_firstPath?_iff.mpr (Finset.mem_toList.mp hfile)
    rw [find?_fileAll_empty, recordAbout, hfirst]
    rfl
  have hkeys : ∀ {key : List String} {record : FileRecord},
      (empty.fileAll filings).files.find? key = some record →
        key ∈ (Filing.files filings).toList.map (·.map Component.orderKey) := by
    intro key record h
    obtain ⟨filing, hfiling, hkey⟩ := exists_filing_of_find? h
    have hfile := Filing.mem_files_iff.mpr ⟨filing, hfiling, rfl⟩
    exact List.mem_map.mpr ⟨filing.path.components, Finset.mem_toList.mpr hfile, hkey⟩
  have hperm := (SortedMap.entries_perm hdistinct hfind hkeys).map Prod.snd
  rwa [List.map_map] at hperm

end Collector

/-- A count that each record adds to is a sum over the records. -/
theorem Tally.foldl_add {count : Tally → Nat} {share : FileRecord → Nat}
    (hadd : ∀ tally record, count (tally.add record) = count tally + share record)
    (records : List FileRecord) (tally : Tally) :
    count (records.foldl add tally) = count tally + (records.map share).sum := by
  induction records generalizing tally with
  | nil => simp
  | cons record rest ih =>
    rw [List.foldl_cons, ih, hadd, List.map_cons, List.sum_cons]
    omega

/-- A count that each record adds to is a sum over the files that were entered. -/
theorem Collector.tally_fileAll {count : Tally → Nat} {share : FileRecord → Nat}
    (hzero : count .zero = 0)
    (hadd : ∀ tally record, count (tally.add record) = count tally + share record)
    (filings : List Filing) :
    count (empty.fileAll filings).tally
      = ∑ file ∈ Filing.files filings, share (recordAbout filings file) := by
  rw [tally_of_perm (values_perm_records filings), Tally.foldl_add hadd, hzero, Nat.zero_add,
    List.map_map]
  exact Finset.sum_map_toList (Filing.files filings) (share ∘ recordAbout filings)

/-- A record is clean, or has warnings and no error, or has errors. -/
theorem Tally.parts_add (tally : Tally) (record : FileRecord) :
    (tally.add record).clean + (tally.add record).withWarnings + (tally.add record).withErrors
      = tally.clean + tally.withWarnings + tally.withErrors + 1 := by
  unfold add
  by_cases herrors : record.errors = 0
  · by_cases hwarnings : record.warnings = 0 <;> simp [herrors, hwarnings] <;> omega
  · simp [herrors]
    omega

/-! ## Fronts and counts -/

/-- What a collector answers if these entries were made. -/
structure Collector.KeepsFronts (collector : Collector) (filings : List Filing) : Prop where
  /-- For each file there is the front of its events, whatever was entered about other files. -/
  eventsOf : ∀ path, collector.eventsOf path
    = (Filing.recorded filings path.components).take Limits.eventsPerFile
      ++ if Limits.eventsPerFile < (Filing.recorded filings path.components).length then
          [FileRecord.overflow] else []
  /-- The mark is a warning. -/
  overflow : FileRecord.overflow.isWarning = true
  /-- Each file that was entered counts once. -/
  files : collector.tally.files = (Filing.files filings).card
  parts : collector.tally.files
    = collector.tally.clean + collector.tally.withWarnings + collector.tally.withErrors
  errors : collector.tally.errors
    = ∑ file ∈ Filing.files filings, (kept (Filing.recorded filings file)).countP (·.isError)
  warnings : collector.tally.warnings
    = ∑ file ∈ Filing.files filings, (kept (Filing.recorded filings file)).countP (·.isWarning)

/-- Whatever is entered in a collector, it keeps the front of the events of each file, and its tally
counts the files and what it keeps. -/
theorem Collector.keepsFronts_fileAll (filings : List Filing) :
    (empty.fileAll filings).KeepsFronts filings := by
  have hfiles : (empty.fileAll filings).tally.files = (Filing.files filings).card := by
    have hsum := @tally_fileAll Tally.files (fun _ => 1) rfl (fun _ _ => rfl) filings
    rw [hsum, Finset.card_eq_sum_ones]
  have hparts : (empty.fileAll filings).tally.clean + (empty.fileAll filings).tally.withWarnings
      + (empty.fileAll filings).tally.withErrors = (Filing.files filings).card := by
    have hsum := @tally_fileAll (fun tally => tally.clean + tally.withWarnings + tally.withErrors)
      (fun _ => 1) rfl Tally.parts_add filings
    rw [Finset.card_eq_sum_ones]
    exact hsum
  constructor
  · exact eventsOf_fileAll filings
  · exact FileRecord.isWarning_overflow
  · exact hfiles
  · rw [hfiles, hparts]
  · exact @tally_fileAll Tally.errors FileRecord.errors rfl (fun _ _ => rfl) filings
  · exact @tally_fileAll Tally.warnings FileRecord.warnings rfl (fun _ _ => rfl) filings

end LineLexer.Diagnostics
