import LineLexer.Diagnostics.Collector
import LineLexer.Proofs.SortedMap
import Mathlib.Data.List.Perm.Basic

/-!
# What a collector keeps

The record of a file depends on what was entered about that file, and on nothing else that was
entered before, between or after (`find?_fileAll`). While there is room, a record keeps its events as
they came (`foldl_add_of_room`). So a collector in which the entries about some files were made, each
file's in order, has the records of these files, whatever the order was in which the files took turns
(`values_fileAll_perm`). A tally counts the records in any order (`tally_of_perm`).
-/

namespace LineLexer.Diagnostics

open Files

/-! ## Entries -/

/-- What is entered in a collector. -/
inductive Filing where
  /-- The file is counted. -/
  | start (path : Path)
  /-- An event about the file is kept. -/
  | keep (path : Path) (event : Event)
deriving DecidableEq, Repr

def Filing.path : Filing → Path
  | start path => path
  | keep path _ => path

namespace FileRecord

/-- The record with one more entry. -/
def file (record : FileRecord) : Filing → FileRecord
  | .start _ => record
  | .keep _ event => record.add event

/-- The entries that lead to a record: the file is counted, then it gets its events. -/
def filings (record : FileRecord) : List Filing :=
  .start record.path :: record.events.map (.keep record.path)

theorem path_of_mem_filings {record : FileRecord} {filing : Filing} (h : filing ∈ record.filings) :
    filing.path = record.path := by
  rw [filings, List.mem_cons, List.mem_map] at h
  obtain rfl | ⟨event, -, rfl⟩ := h <;> rfl

/-- Events that find room are kept as they come. -/
theorem foldl_add_of_room {record : FileRecord} {events : List Event}
    (h : record.events.length + events.length ≤ Limits.eventsPerFile) :
    events.foldl add record = { record with events := record.events ++ events } := by
  induction events generalizing record with
  | nil => simp
  | cons event rest ih =>
    rw [List.length_cons] at h
    have hadd : record.add event = { record with events := record.events ++ [event] } := by
      rw [add, if_pos (by omega)]
    rw [List.foldl_cons, hadd, ih (by simp; omega)]
    simp

/-- The record of a file behind one more entry about it. -/
def after (record? : Option FileRecord) (filing : Filing) : Option FileRecord :=
  some ((record?.getD ⟨filing.path, []⟩).file filing)

theorem foldl_after_filings {record : FileRecord}
    (h : record.events.length ≤ Limits.eventsPerFile) :
    record.filings.foldl after none = some record := by
  have hkept (events : List Event) (found : FileRecord) :
      (events.map (.keep record.path)).foldl after (some found) = some (events.foldl add found) := by
    induction events generalizing found with
    | nil => rfl
    | cons event rest ih => exact ih (found.add event)
  rw [filings, List.foldl_cons]
  show (record.events.map (.keep record.path)).foldl after (some ⟨record.path, []⟩) = some record
  rw [hkept, foldl_add_of_room (by simpa using h)]
  rfl

end FileRecord

namespace Collector

/-- Makes an entry. -/
def file (collector : Collector) : Filing → Collector
  | .start path => collector.startFile path
  | .keep path event => collector.record path event

def fileAll (collector : Collector) (filings : List Filing) : Collector := filings.foldl file collector

@[simp] theorem fileAll_nil (collector : Collector) : collector.fileAll [] = collector := rfl

@[simp] theorem fileAll_cons (collector : Collector) (filing : Filing) (rest : List Filing) :
    collector.fileAll (filing :: rest) = (collector.file filing).fileAll rest := rfl

@[simp] theorem fileAll_append (collector : Collector) (front back : List Filing) :
    collector.fileAll (front ++ back) = (collector.fileAll front).fileAll back :=
  List.foldl_append

theorem files_file (collector : Collector) (filing : Filing) :
    (collector.file filing).files
      = collector.files.insert filing.path.orderKey
          ((collector.recordOf filing.path).file filing) := by
  cases filing <;> rfl

theorem find?_file (collector : Collector) (filing : Filing) (key : List String) :
    (collector.file filing).files.find? key
      = if filing.path.orderKey = key then FileRecord.after (collector.files.find? key) filing
        else collector.files.find? key := by
  rw [files_file]
  split
  · rename_i h
    subst h
    exact SortedMap.find?_insert_self ..
  · rename_i h
    exact SortedMap.find?_insert_of_ne _ (Ne.symm h) _

/-- The record of a file comes from the entries about this file. -/
theorem find?_fileAll (collector : Collector) (filings : List Filing) (key : List String) :
    (collector.fileAll filings).files.find? key
      = (filings.filter fun filing => filing.path.orderKey = key).foldl FileRecord.after
          (collector.files.find? key) := by
  induction filings generalizing collector with
  | nil => rfl
  | cons filing rest ih =>
    rw [fileAll_cons, ih, find?_file, List.filter_cons]
    by_cases h : filing.path.orderKey = key <;> simp [h]

/-- A file has a record once an entry about it was made. -/
theorem isSome_find?_fileAll (collector : Collector) {filings : List Filing} {filing : Filing}
    (h : filing ∈ filings) :
    ((collector.fileAll filings).files.find? filing.path.orderKey).isSome := by
  have hsome (rest : List Filing) (record : FileRecord) :
      (rest.foldl FileRecord.after (some record)).isSome := by
    induction rest generalizing record with
    | nil => rfl
    | cons next rest ih => exact ih (record.file next)
  have hmem : filing ∈ filings.filter fun other => other.path.orderKey = filing.path.orderKey := by
    simpa using h
  rw [find?_fileAll]
  cases habout : filings.filter fun other => other.path.orderKey = filing.path.orderKey with
  | nil => simp [habout] at hmem
  | cons first rest => exact hsome rest _

theorem find?_fileAll_of_forall_ne {collector : Collector} {filings : List Filing}
    {key : List String} (h : ∀ filing ∈ filings, filing.path.orderKey ≠ key) :
    (collector.fileAll filings).files.find? key = collector.files.find? key := by
  have hnone : filings.filter (fun filing => filing.path.orderKey = key) = [] := by
    simpa [List.filter_eq_nil_iff] using h
  rw [find?_fileAll, hnone, List.foldl_nil]

/-- A record is about a file that an entry was made about. -/
theorem exists_filing_of_find? {filings : List Filing} {key : List String} {record : FileRecord}
    (h : (empty.fileAll filings).files.find? key = some record) :
    ∃ filing ∈ filings, filing.path.orderKey = key := by
  by_contra hnone
  rw [find?_fileAll_of_forall_ne fun filing hfiling heq => hnone ⟨filing, hfiling, heq⟩] at h
  cases h

/-- A collector has the records of the files that entries were made about. -/
theorem values_fileAll_perm {records : List FileRecord} {filings : List Filing}
    (hdistinct : (records.map (·.path.orderKey)).Nodup)
    (hroom : ∀ record ∈ records, record.events.length ≤ Limits.eventsPerFile)
    (habout : ∀ filing ∈ filings, ∃ record ∈ records, filing ∈ record.filings)
    (horder : ∀ record ∈ records,
      filings.filter (fun filing => filing.path.orderKey = record.path.orderKey) = record.filings) :
    (empty.fileAll filings).files.values.Perm records := by
  have hfind : ∀ record ∈ records,
      (empty.fileAll filings).files.find? record.path.orderKey = some record := by
    intro record hrecord
    rw [find?_fileAll, horder record hrecord]
    exact FileRecord.foldl_after_filings (hroom record hrecord)
  have hkeys {key : List String} {record : FileRecord}
      (h : (empty.fileAll filings).files.find? key = some record) :
      key ∈ records.map (·.path.orderKey) := by
    obtain ⟨filing, hfiling, rfl⟩ := exists_filing_of_find? h
    obtain ⟨record, hrecord, hmem⟩ := habout filing hfiling
    exact List.mem_map.mpr ⟨record, hrecord, by rw [FileRecord.path_of_mem_filings hmem]⟩
  have hperm := (SortedMap.entries_perm hdistinct hfind hkeys).map Prod.snd
  rw [List.map_map] at hperm
  exact hperm.trans (List.Perm.of_eq (List.map_id records))

end Collector

/-! ## Tallies -/

theorem Tally.add_right_comm (tally : Tally) (a b : FileRecord) :
    (tally.add a).add b = (tally.add b).add a := by
  simp only [add, Nat.add_right_comm]

/-- Records are counted in any order. -/
theorem Collector.tally_of_perm {collector : Collector} {records : List FileRecord}
    (h : collector.files.values.Perm records) :
    collector.tally = records.foldl Tally.add .zero := by
  rw [tally]
  exact h.foldl_eq' (fun a _ b _ tally => Tally.add_right_comm tally a b) Tally.zero

/-- Each record is counted as one file. -/
theorem Collector.files_tally (collector : Collector) :
    collector.tally.files = collector.files.entries.length := by
  have hcount (records : List FileRecord) (tally : Tally) :
      (records.foldl Tally.add tally).files = tally.files + records.length := by
    induction records generalizing tally with
    | nil => rfl
    | cons record rest ih =>
      rw [List.foldl_cons, ih, List.length_cons]
      show tally.files + 1 + rest.length = _
      omega
  rw [tally, hcount, SortedMap.values, List.length_map]
  exact Nat.zero_add _

/-- Two files are counted if entries about both were made. -/
theorem Collector.one_lt_files_tally (collector : Collector) {filings : List Filing} {a b : Filing}
    (ha : a ∈ filings) (hb : b ∈ filings) (hne : a.path.orderKey ≠ b.path.orderKey) :
    1 < (collector.fileAll filings).tally.files := by
  have hmem {filing : Filing} (h : filing ∈ filings) : ∃ record,
      (filing.path.orderKey, record) ∈ (collector.fileAll filings).files.entries := by
    obtain ⟨record, hrecord⟩ := Option.isSome_iff_exists.mp (collector.isSome_find?_fileAll h)
    exact ⟨record, SortedMap.find?_eq_some_iff.mp hrecord⟩
  obtain ⟨record, hrecord⟩ := hmem ha
  obtain ⟨record', hrecord'⟩ := hmem hb
  rw [files_tally]
  generalize (collector.fileAll filings).files.entries = entries at hrecord hrecord'
  match entries with
  | [] => cases hrecord
  | [entry] =>
    rw [List.mem_singleton] at hrecord hrecord'
    exact absurd (congrArg Prod.fst (hrecord.trans hrecord'.symm)) hne
  | _ :: _ :: _ => simp

end LineLexer.Diagnostics
