import LineLexer.Proofs.Batch.Done
import LineLexer.Proofs.Grammar.Compiled
import Mathlib.Data.List.Nodup

/-!
# Several workers come to what one comes to

A batch that goes on after failures has the same results with one worker and with several, however
these take turns (`runParallel_eq_runSequential`). The workers get each file once and the outcome of a
file is settled, so the outcomes are the same but for their order, and at the end they are put in the
order of the paths, in which one worker has them from the start.
-/

namespace LineLexer

open Diagnostics Files

namespace Batch

/-! ## Putting results in order -/

section

variable {β : Type} {pick : Path → Option (Path × β)} {found order : List Path}

/-- What some files have come to, in the order of their paths. -/
theorem pairwise_filterMap (hpick : ∀ {path pair}, pick path = some pair → pair.1 = path)
    (hsorted : found.Pairwise fun a b => a.le b = true) :
    (found.filterMap pick).Pairwise fun a b => a.1.le b.1 = true := by
  refine List.Pairwise.filterMap pick (fun a b hab a' ha' b' hb' => ?_) hsorted
  rwa [hpick ha', hpick hb']

/-- If it was gathered in another order, sorting it puts it right. -/
theorem mergeSort_filterMap (hpick : ∀ {path pair}, pick path = some pair → pair.1 = path)
    (hsorted : found.Pairwise fun a b => a.le b = true)
    (hdistinct : (found.map Path.components).Nodup) (hperm : order.Perm found) :
    (order.filterMap pick).mergeSort (fun a b => Path.le a.1 b.1) = found.filterMap pick := by
  have hsort : ((order.filterMap pick).mergeSort fun a b => Path.le a.1 b.1).Pairwise
      fun a b => a.1.le b.1 = true :=
    Path.pairwise_mergeSort Prod.fst _
  have hsame : ((order.filterMap pick).mergeSort fun a b => Path.le a.1 b.1).Perm
      (found.filterMap pick) :=
    (List.mergeSort_perm _ _).trans (hperm.filterMap pick)
  -- Both lists are sorted, and two items that the order does not part come from one file.
  refine List.Perm.eq_of_pairwise (fun a b ha hb hab hba => ?_) hsort
    (pairwise_filterMap hpick hsorted) hsame
  obtain ⟨path, hpath, ha'⟩ := List.mem_filterMap.mp (hsame.mem_iff.mp ha)
  obtain ⟨path', hpath', hb'⟩ := List.mem_filterMap.mp hb
  have hcomponents : a.1.components = b.1.components := Path.components_eq_of_le hab hba
  rw [hpick ha', hpick hb'] at hcomponents
  have heq : path = path' := List.inj_on_of_nodup_map hdistinct hpath hpath' hcomponents
  exact Option.some.inj (ha'.symm.trans (heq ▸ hb'))

end

namespace Results

variable {outcome : Path → Except Failure FileStats} {path : Path}

theorem fst_of_success? {pair : Path × FileStats} (h : success? outcome path = some pair) :
    pair.1 = path := by
  rw [success?] at h
  split at h <;> cases h
  rfl

theorem fst_of_failure? {pair : Path × Failure} (h : failure? outcome path = some pair) :
    pair.1 = path := by
  rw [failure?] at h
  split at h <;> cases h
  rfl

/-- Sorting puts the results of found files in the order in which the files were found. -/
theorem sort_addAll {found order : List Path} (discovered : Nat)
    (hsorted : found.Pairwise fun a b => a.le b = true)
    (hdistinct : (found.map Path.components).Nodup) (hperm : order.Perm found) :
    (addAll { empty with discovered } outcome order).sort
      = addAll { empty with discovered } outcome found := by
  rw [addAll_eq, addAll_eq, sort, empty]
  simp only [List.nil_append]
  rw [mergeSort_filterMap fst_of_success? hsorted hdistinct hperm,
    mergeSort_filterMap fst_of_failure? hsorted hdistinct hperm, hperm.length_eq]

/-- Every outcome is counted once. -/
theorem processed_add {results : Results}
    (hcount : results.processed = results.successCount + results.failureCount)
    (outcome : Except Failure FileStats) :
    (results.add path outcome).processed
      = (results.add path outcome).successCount + (results.add path outcome).failureCount := by
  cases outcome with
  | error failure =>
    rw [add, addFailure, successCount, failureCount, List.length_append, hcount]
    exact Nat.add_assoc ..
  | ok stats =>
    rw [add, addSuccess, successCount, failureCount, List.length_append, hcount]
    exact Nat.add_right_comm ..

theorem processed_addAll {results : Results}
    (hcount : results.processed = results.successCount + results.failureCount)
    (paths : List Path) :
    (results.addAll outcome paths).processed
      = (results.addAll outcome paths).successCount
        + (results.addAll outcome paths).failureCount := by
  induction paths generalizing results with
  | nil => exact hcount
  | cons path rest ih => exact ih (processed_add hcount (outcome path))

end Results

/-! ## Batches that go on -/

variable {files : FileSystem} {grammar : Grammar} {config : Config} {path : Path} {found : List Path}

/-- The results of a batch that goes on after failures. -/
def resultsOf (files : FileSystem) (grammar : Grammar) (found : List Path) : Results :=
  Results.addAll { Results.empty with discovered := found.length } (outcomeOf files grammar) found

/-- Every file is counted once. -/
theorem counts_resultsOf (files : FileSystem) (grammar : Grammar) (found : List Path) :
    let results := resultsOf files grammar found
    results.discovered = found.length ∧ results.processed = results.discovered ∧
      results.processed = results.successCount + results.failureCount := by
  refine ⟨?_, ?_, Results.processed_addAll rfl found⟩
  · rw [resultsOf, Results.addAll_eq]
  · rw [resultsOf, Results.addAll_eq]
    exact Nat.zero_add _

section

variable (hall : config.failFast = false)

include hall

theorem endsAt_eq_false (job : Job) : endsAt files grammar config job = false := by
  rw [endsAt, hall, Bool.false_and]

theorem tellEnd_eq : tellEnd config = pure := by
  funext results
  rw [tellEnd, hall]
  rfl

/-- One worker does every job. -/
theorem doneByOne_eq (found : List Path) : doneByOne files grammar config found = jobsOf found :=
  upTo_eq_self fun job _ => endsAt_eq_false hall job

/-- Several workers do every job. -/
theorem doneByAll_eq (found : List Path) : doneByAll files grammar config found = jobsOf found := by
  have hnone : ∀ share ∈ shares config.workers found,
      share.flatten.any (endsAt files grammar config) = false :=
    fun share _ => List.any_eq_false.mpr fun job _ => by rw [endsAt_eq_false hall]; decide
  rw [doneByAll, doneShares, upTo_eq_self hnone, flatten_shares (workers_pos config)]

theorem resultsAfter_doneByOne :
    resultsAfter files grammar found (doneByOne files grammar config found)
      = resultsOf files grammar found := by
  rw [doneByOne_eq hall, resultsAfter, jobsOf, map_path_jobsFrom, resultsOf]

/-- Only the order of the results tells the two ways apart, and it is lost by sorting. -/
theorem sort_resultsAfter_doneOrder (hfound : filesOf files config path = .ok found)
    (hdistinct : (found.map Path.components).Nodup) (choice : TokenizerPreferences)
    (schedules : Nat → List Nat) :
    (resultsAfter files grammar found (doneOrder files grammar config choice schedules found)).sort
      = resultsOf files grammar found := by
  have hperm := (doneOrder_perm files grammar config choice schedules found).map Job.path
  rw [doneByAll_eq hall, jobsOf, map_path_jobsFrom] at hperm
  rw [resultsAfter]
  exact Results.sort_addAll found.length (pairwise_of_filesOf hfound) hdistinct hperm

end

/-! ## Both ways to run a batch -/

/-- A batch of distinct files that goes on after failures has the same results with several workers as
with one. The workers have every file once, under its index, and whatever turns they take, they do the
acts for each of them in order. A schedule says for every turn whose it is, so all ways to take turns
are covered. -/
theorem runParallel_eq_runSequential (hall : config.failFast = false)
    (hdistinct : ∀ found, filesOf files config path = .ok found →
      (found.map Path.components).Nodup)
    (schedules : Nat → List Nat) (journal journal' : Journal) :
    ((runParallel files grammar config schedules path).run journal).1
      = ((runSequential files grammar config path).run journal').1 ∧
    (∀ found, filesOf files config path = .ok found →
      (shares config.workers found).flatten.flatten = jobsOf found ∧
      (∃ acts, Interleaves ((jobsOf found).map (jobActs files grammar journal.choice)) acts ∧
        ∀ results,
          (runChunks files grammar config schedules (chunkSize found.length config.workers) 0
            (chunksOf (chunkSize found.length config.workers) found) results).run journal
          = (performAll config acts results).run journal) ∧
      ∃ results,
        ((runParallel files grammar config schedules path).run journal).1 = .ok results ∧
        results.discovered = found.length ∧ results.processed = results.discovered ∧
        results.processed = results.successCount + results.failureCount) ∧
    (∀ (schedule : List Nat) (slices : List (List Job)) (results : Results),
      (takeTurns files grammar config schedule (slices.map Worker.new) results).run journal
        = (performAll config (interleave schedule
            (slices.map (·.flatMap (jobActs files grammar journal.choice)))) results).run journal) ∧
    ∀ (slices : List (List Act)) (order : List Act),
      (∃ schedule, interleave schedule slices = order) ↔ Interleaves slices order := by
  have hsequential := answers_runSequential files grammar config path journal'
  have hparallel := answer_runParallel files grammar config schedules journal path
  have hsame : (filesOf files config path).map (fun found => (resultsAfter files grammar found
        (doneOrder files grammar config journal.choice schedules found)).sort)
      = (filesOf files config path).map (resultsOf files grammar) := by
    cases hfound : filesOf files config path with
    | error error => rfl
    | ok found =>
      exact congrArg Except.ok
        (sort_resultsAfter_doneOrder hall hfound (hdistinct found hfound) journal.choice schedules)
  simp only [resultsAfter_doneByOne hall] at hsequential
  rw [hsame] at hparallel
  refine ⟨hparallel.trans hsequential.symm, fun found hfound => ⟨?_, ?_, ?_⟩,
    fun schedule slices results => takeTurns_new_run schedule slices rfl results,
    fun _ _ => exists_schedule_iff⟩
  · exact flatten_shares (workers_pos config) found
  · have hacts := interleaves_batchActs files grammar config journal.choice schedules found
    rw [doneByAll_eq hall] at hacts
    refine ⟨_, hacts, fun results => ?_⟩
    -- that nothing has failed before is asked only of a batch that ends at a failure
    have hclean : config.failFast = true → results.failureCount = 0 := by
      rw [hall]
      exact fun hfast => (Bool.false_ne_true hfast).elim
    rw [runChunks_run schedules _ 0 _ hclean, tellEnd_eq hall, bind_pure]
    rfl
  · rw [hfound] at hparallel
    exact ⟨_, hparallel, counts_resultsOf files grammar found⟩

/-- Three files. The second one is no text. -/
def sampleEntries : List (String × Entry) :=
  [("a", .file (.plain "<\n>".toUTF8)), ("b", .file (.plain ⟨#[255]⟩)),
    ("c", .file (.plain "ab".toUTF8))]

def sampleFiles : FileSystem := ⟨.folder sampleEntries .full, [], .common⟩

/-- Two workers for all files. -/
def sampleConfig : Config := ⟨2, true, [], none, false, false⟩

def samplePaths : List Path := [⟨"./a"⟩, ⟨"./b"⟩, ⟨"./c"⟩]

theorem discover?_sampleFiles (hextensions : config.extensions = []) :
    discover? sampleFiles config ⟨"."⟩ = .ok samplePaths := by
  have hfollow : sampleFiles.follow ⟨"."⟩ = .ok ⟨[], [], .folder sampleEntries .full⟩ := by rfl
  have haccepts (path : Path) : config.accepts path = true := by
    rw [Config.accepts, hextensions]
    rfl
  have hvisit : visit .common config ⟨"."⟩ .full sampleEntries = .ok samplePaths := by
    simp only [sampleEntries, visit, haccepts, Bool.and_true]
    rfl
  have hsorted : samplePaths.Pairwise fun a b => a.le b = true := by decide +kernel
  have hsort : samplePaths.mergeSort Path.le = samplePaths := List.mergeSort_of_pairwise hsorted
  rw [discover?, hfollow]
  dsimp only [sampleFiles]
  rw [hvisit]
  dsimp only
  rw [hsort]
  rfl

theorem filesOf_sampleFiles (hextensions : config.extensions = []) (hmax : config.maxFiles = none) :
    filesOf sampleFiles config ⟨"."⟩ = .ok samplePaths := by
  rw [filesOf, discover?_sampleFiles hextensions, Except.map, Config.cut, hmax]

/-- Each worker has one file of a chunk. The second one goes first, and then they change places after
every step. -/
theorem sampleBatch_agrees :
    filesOf sampleFiles sampleConfig ⟨"."⟩ = .ok samplePaths ∧
      ((runParallel sampleFiles sampleGrammar sampleConfig (fun _ => [1, 0, 1, 0]) ⟨"."⟩).run
          (.ofVariables [])).1
        = ((runSequential sampleFiles sampleGrammar sampleConfig ⟨"."⟩).run (.ofVariables [])).1 ∧
      ∃ results,
        ((runParallel sampleFiles sampleGrammar sampleConfig (fun _ => [1, 0, 1, 0]) ⟨"."⟩).run
          (.ofVariables [])).1 = .ok results ∧ results.processed = 3 := by
  have hdistinct : ∀ found, filesOf sampleFiles sampleConfig ⟨"."⟩ = .ok found →
      (found.map Path.components).Nodup := by
    intro found hfound
    rw [filesOf_sampleFiles rfl rfl] at hfound
    cases hfound
    decide +kernel
  obtain ⟨hsame, hfiles, -⟩ := @runParallel_eq_runSequential sampleFiles sampleGrammar sampleConfig
    ⟨"."⟩ rfl hdistinct (fun _ => [1, 0, 1, 0]) (.ofVariables []) (.ofVariables [])
  obtain ⟨-, -, results, hresults, hdiscovered, hprocessed, -⟩ :=
    hfiles _ (filesOf_sampleFiles rfl rfl)
  exact ⟨filesOf_sampleFiles rfl rfl, hsame, results, hresults, hprocessed.trans hdiscovered⟩

end Batch
end LineLexer
