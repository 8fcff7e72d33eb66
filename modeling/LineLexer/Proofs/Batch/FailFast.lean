import LineLexer.Proofs.Batch.Tally

/-!
# Batches that end at a failure

The files that are processed are a front of those that were found, and which front it is does not
depend on the turns that the workers take: one worker ends with the first file that fails, several end
with the chunk that holds it (`throughFirst`, `upTo_jobsFrom`, `doneByAll_eq_take`). So the results of a
batch are known from its files alone, and those of one worker are part of those of several
(`runs_end_at_failure`).
-/

namespace LineLexer.Batch

open Diagnostics Files

/-! ## Fronts of lists -/

section Pieces

variable {α : Type} {size : Nat} {last : α → Bool} {items : List α}

/-- How many items there are up to the end of the piece of a list in which the first item with `last`
stands, if the list is cut into pieces of one size; all of them if there is no such item. -/
def throughFirst (size : Nat) (last : α → Bool) (items : List α) : Nat :=
  match items.findIdx? last with
  | some index => (index / size + 1) * size
  | none => items.length

theorem take_throughFirst_of_any (h : (items.take size).any last = true) :
    items.take (throughFirst size last items) = items.take size := by
  obtain ⟨index, hindex⟩ : ∃ index, (items.take size).findIdx? last = some index := by
    rw [← Option.isSome_iff_exists, List.findIdx?_isSome, h]
  have hlt : index < size := by
    obtain ⟨hlt, -⟩ := List.findIdx?_eq_some_iff_getElem.mp hindex
    exact Nat.lt_of_lt_of_le hlt (List.length_take_le size items)
  have hall : items.findIdx? last = some index := by
    rw [← List.take_append_drop size items, List.findIdx?_append, hindex]
    rfl
  rw [throughFirst, hall]
  dsimp only
  rw [Nat.div_eq_of_lt hlt, Nat.zero_add, Nat.one_mul]

theorem take_throughFirst_of_not_any (hsize : 0 < size) (h : (items.take size).any last = false) :
    items.take (throughFirst size last items)
      = items.take size ++ (items.drop size).take (throughFirst size last (items.drop size)) := by
  have hfront : (items.take size).findIdx? last = none := by
    rw [List.findIdx?_eq_none_iff]
    exact fun item hitem => Bool.eq_false_iff.mpr (List.any_eq_false.mp h item hitem)
  have hall : items.findIdx? last
      = ((items.drop size).findIdx? last).map (· + (items.take size).length) := by
    conv_lhs => rw [← List.take_append_drop size items, List.findIdx?_append, hfront]
    rfl
  rw [throughFirst, throughFirst, hall]
  cases hindex : (items.drop size).findIdx? last with
  | none =>
    dsimp only [Option.map_none]
    rw [List.take_length, List.take_length, List.take_append_drop]
  | some index =>
    -- behind the first piece there is an item, so that piece is full
    obtain ⟨hlt, -⟩ := List.findIdx?_eq_some_iff_getElem.mp hindex
    rw [List.length_drop] at hlt
    dsimp only [Option.map_some]
    rw [List.length_take_of_le (by omega), Nat.add_div_right _ hsize, Nat.succ_mul, Nat.add_comm,
      List.take_add]

/-- Pieces of one item end with the first one. -/
theorem upTo_eq_take (last : α → Bool) (items : List α) :
    upTo last items = items.take (throughFirst 1 last items) := by
  induction items with
  | nil => rfl
  | cons item rest ih =>
    rw [upTo]
    cases hlast : last item with
    | true =>
      rw [take_throughFirst_of_any (by simp [hlast])]
      rfl
    | false =>
      rw [take_throughFirst_of_not_any Nat.one_pos (by simp [hlast])]
      exact congrArg (item :: ·) ih

/-- Pieces of any size take the items up to the first one with `last` too. -/
theorem take_throughFirst_one_front (hsize : 0 < size) (last : α → Bool) (items : List α) :
    items.take (throughFirst 1 last items) <+: items.take (throughFirst size last items) := by
  refine List.take_prefix_take_left ?_
  rw [throughFirst, throughFirst]
  cases items.findIdx? last with
  | none => exact Nat.le_refl _
  | some index =>
    dsimp only
    rw [Nat.div_one, Nat.mul_one]
    exact Nat.lt_mul_of_div_lt (Nat.lt_succ_self _) hsize

end Pieces

/-! ## What is done -/

variable (files : FileSystem) (grammar : Grammar) (config : Config)

/-- Whether a file fails. -/
def fails (path : Path) : Bool := !(outcomeOf files grammar path).isOk

variable {files grammar config}

theorem endsAt_eq_fails (hfast : config.failFast = true) (job : Job) :
    endsAt files grammar config job = fails files grammar job.path := by
  rw [endsAt, hfast, Bool.true_and, fails]

/-- One worker does the jobs of the files up to the first one that fails. -/
theorem upTo_jobsFrom (hfast : config.failFast = true) (first : Nat) (found : List Path) :
    upTo (endsAt files grammar config) (jobsFrom first found)
      = jobsFrom first (found.take (throughFirst 1 (fails files grammar) found)) := by
  rw [← upTo_eq_take]
  induction found generalizing first with
  | nil => rfl
  | cons path rest ih =>
    show Job.mk path first :: (if endsAt files grammar config ⟨path, first⟩ then []
      else upTo (endsAt files grammar config) (jobsFrom (first + 1) rest)) = _
    rw [upTo, endsAt_eq_fails hfast, ih]
    split <;> rfl

/-- Several workers do the jobs up to the end of the chunk in which the first failing file stands. -/
theorem flatten_doneShares (hfast : config.failFast = true) {size : Nat} (hsize : 0 < size)
    (index : Nat) (found : List Path) :
    (doneShares files grammar config
        (sharesFrom config.workers size index (chunksOf size found))).flatten.flatten
      = jobsFrom (index * size) (found.take (throughFirst size (fails files grammar) found)) := by
  induction found using chunks_induction hsize generalizing index with
  | nil =>
    rw [chunksOf]
    rfl
  | chunk found hchunks ih =>
    have hany : (jobsFrom (index * size) (found.take size)).any (endsAt files grammar config)
        = (found.take size).any (fails files grammar) := by
      rw [funext (endsAt_eq_fails hfast), ← Function.comp_def, ← List.any_map, map_path_jobsFrom]
    rw [hchunks, sharesFrom, doneShares, upTo, List.flatten_cons, List.flatten_append,
      flatten_workerJobs (workers_pos config), hany]
    cases hfails : (found.take size).any (fails files grammar) with
    | true =>
      rw [if_pos rfl, List.flatten_nil, List.flatten_nil, List.append_nil,
        take_throughFirst_of_any hfails]
    | false =>
      rw [if_neg Bool.false_ne_true, take_throughFirst_of_not_any hsize hfails,
        jobsFrom_take_append fun hlast => by
          rw [List.drop_eq_nil_of_le (Nat.le_of_lt hlast), List.take_nil]]
      exact congrArg _ (ih (index + 1))

/-- One worker does not get to the files behind the first one that fails. -/
theorem runInOrder_upTo (total : Nat) (jobs : List Job) (results : Results) :
    runInOrder files grammar config total jobs results
      = runInOrder files grammar config total (upTo (endsAt files grammar config) jobs) results := by
  induction jobs generalizing results with
  | nil => rfl
  | cons job rest ih =>
    have hwork : (workInOrder files grammar config job >>= fun outcome =>
          if config.failFast && !outcome.isOk then pure (results.add job.path outcome)
          else runInOrder files grammar config total rest (results.add job.path outcome))
        = workInOrder files grammar config job >>= fun outcome =>
          if config.failFast && !outcome.isOk then pure (results.add job.path outcome)
          else runInOrder files grammar config total
            (if endsAt files grammar config job then [] else upTo (endsAt files grammar config) rest)
            (results.add job.path outcome) := by
      refine (answers_workInOrder files grammar config job).bind_congr ?_
      rw [endsAt]
      split
      · rfl
      · exact ih _
    rw [upTo, runInOrder, runInOrder]
    split
    · exact bind_congr fun _ => hwork
    · exact hwork

/-! ## Results of a front -/

namespace Results

variable (outcome : Path → Except Failure FileStats) (worked : List Path)

/-- The results of a batch that has worked on some of the files that were found, and on no others: each
of them went well or has failed. -/
structure Covers (results : Results) (found : List Path) : Prop where
  discovered : results.discovered = found.length
  processed : results.processed = worked.length
  successful : results.successful = worked.filterMap (success? outcome)
  failed : results.failed = worked.filterMap (failure? outcome)
  listed : (results.successful.map Prod.fst ++ results.failed.map Prod.fst).Perm worked
  once : (results.successful.map Prod.fst ++ results.failed.map Prod.fst).Nodup

variable {outcome worked}

theorem covers_addAll {found : List Path} (hdistinct : worked.Nodup) :
    Covers outcome worked (addAll { empty with discovered := found.length } outcome worked) found := by
  have hlisted := listed_addAll outcome found.length worked
  refine ⟨?_, ?_, ?_, ?_, hlisted, hlisted.nodup_iff.mpr hdistinct⟩
  all_goals rw [addAll_eq]
  · exact Nat.zero_add _
  · rfl
  · rfl

end Results

/-! ## Both ways to run a batch -/

section

variable {path : Path} {found : List Path} {journal : Journal} (hfast : config.failFast = true)
  (hfound : filesOf files config path = .ok found)

include hfast

theorem doneByAll_eq_take (found : List Path) :
    doneByAll files grammar config found = jobsOf (found.take
      (throughFirst (chunkSize found.length config.workers) (fails files grammar) found)) := by
  rw [doneByAll, shares, flatten_doneShares hfast (chunkSize_pos found.length config.workers),
    Nat.zero_mul]
  rfl

include hfound

theorem answer_runSequential :
    ((runSequential files grammar config path).run journal).1
      = .ok (Results.addAll { Results.empty with discovered := found.length }
          (outcomeOf files grammar) (found.take (throughFirst 1 (fails files grammar) found))) := by
  have hanswer := answers_runSequential files grammar config path journal
  rw [hfound, Except.map, resultsAfter, doneByOne, jobsOf, upTo_jobsFrom hfast,
    map_path_jobsFrom] at hanswer
  exact hanswer

/-- Sorting takes away what the turns have made of the order of the results. -/
theorem answer_runParallel_of_failFast (hnames : files.root.WellNamed) (schedules : Nat → List Nat) :
    ((runParallel files grammar config schedules path).run journal).1
      = .ok (Results.addAll { Results.empty with discovered := found.length }
          (outcomeOf files grammar) (found.take
            (throughFirst (chunkSize found.length config.workers) (fails files grammar) found))) := by
  have hanswer := answer_runParallel files grammar config schedules journal path
  have hpaths := (doneOrder_perm files grammar config journal.choice schedules found).map Job.path
  rw [doneByAll_eq_take hfast, jobsOf, map_path_jobsFrom] at hpaths
  rw [hfound, Except.map, resultsAfter, Results.sort_addAll found.length
    ((pairwise_of_filesOf hfound).sublist (List.take_sublist ..))
    ((distinct_of_filesOf hnames hfound).sublist ((List.take_sublist ..).map _)) hpaths] at hanswer
  exact hanswer

end

variable {path : Path} {found : List Path}

/-- A batch that is to end at a failure processes the files up to the first one that fails with one
worker, and up to the end of its chunk with several, however these take turns: schedules lead to all ways
to do so, as `takeTurns_new_run` and `exists_schedule_iff` say. If no file fails, all are processed. Each
processed file is among the successful ones or among the failed ones, once, and what one worker has of
either the others have too. Nothing is done for any other file. -/
theorem runs_end_at_failure (hnames : files.root.WellNamed) (hfast : config.failFast = true)
    (hfound : filesOf files config path = .ok found) (schedules : Nat → List Nat)
    (journal journal' : Journal) :
    let size := chunkSize found.length config.workers
    let one := found.take (throughFirst 1 (fails files grammar) found)
    let several := found.take (throughFirst size (fails files grammar) found)
    let start := { Results.empty with discovered := found.length }
    (∃ results results',
      ((runSequential files grammar config path).run journal).1 = .ok results ∧
      ((runParallel files grammar config schedules path).run journal').1 = .ok results' ∧
      results.Covers (outcomeOf files grammar) one found ∧
      results'.Covers (outcomeOf files grammar) several found ∧
      results.successful.Sublist results'.successful ∧
      results.failed.Sublist results'.failed) ∧
    runInOrder files grammar config found.length (jobsOf found) start
      = runInOrder files grammar config found.length (jobsOf one) start ∧
    ∃ acts, Interleaves ((jobsOf several).map (jobActs files grammar journal'.choice)) acts ∧
      (runChunks files grammar config schedules size 0 (chunksOf size found) start).run journal'
        = (performAll config acts start >>= tellEnd config).run journal' := by
  intro size one several start
  have hdistinct : found.Nodup := (distinct_of_filesOf hnames hfound).of_map _
  -- one worker ends behind the first failure, several behind the chunk that it is in
  have hfront : one <+: several :=
    take_throughFirst_one_front (chunkSize_pos found.length config.workers) _ found
  have hone : Results.Covers (outcomeOf files grammar) one (start.addAll _ one) found :=
    Results.covers_addAll (hdistinct.sublist (List.take_sublist ..))
  have hseveral : Results.Covers (outcomeOf files grammar) several (start.addAll _ several) found :=
    Results.covers_addAll (hdistinct.sublist (List.take_sublist ..))
  have hacts := interleaves_batchActs files grammar config journal'.choice schedules found
  rw [doneByAll_eq_take hfast] at hacts
  refine ⟨⟨_, _, answer_runSequential hfast hfound,
    answer_runParallel_of_failFast hfast hfound hnames schedules, hone, hseveral, ?_, ?_⟩, ?_, _,
    hacts, ?_⟩
  · rw [hone.successful, hseveral.successful]
    exact hfront.sublist.filterMap _
  · rw [hone.failed, hseveral.failed]
    exact hfront.sublist.filterMap _
  · rw [runInOrder_upTo, jobsOf, upTo_jobsFrom hfast]
    rfl
  · exact runChunks_run schedules size 0 _ (fun _ => rfl) journal'

/-- One worker, who takes all three files for one chunk. -/
def oneChunkConfig : Config := { failFastConfig with maxThreads := 1 }

/-- The second file fails, so one worker on its own leaves out the third one, which several workers
would do as part of the chunk. -/
theorem sampleBatch_ends :
    sampleFiles.root.WellNamed ∧ oneChunkConfig.failFast = true ∧
      filesOf sampleFiles oneChunkConfig ⟨"."⟩ = .ok samplePaths ∧ ∃ results results',
        ((runSequential sampleFiles sampleGrammar oneChunkConfig ⟨"."⟩).run (.ofVariables [])).1
          = .ok results ∧
        ((runParallel sampleFiles sampleGrammar oneChunkConfig inTurn ⟨"."⟩).run
          (.ofVariables [])).1 = .ok results' ∧
        results.processed = 2 ∧ results'.processed = 3 := by
  have hfound : filesOf sampleFiles oneChunkConfig ⟨"."⟩ = .ok samplePaths :=
    filesOf_sampleFiles rfl rfl
  have hsecond : throughFirst 1 (fails sampleFiles sampleGrammar) samplePaths = 2 := by
    decide +kernel
  have hthird : throughFirst 3 (fails sampleFiles sampleGrammar) samplePaths = 3 := by
    decide +kernel
  obtain ⟨⟨results, results', hone, hseveral, hcovers, hcovers', -⟩, -⟩ :=
    @runs_end_at_failure sampleFiles sampleGrammar oneChunkConfig _ _ wellNamed_sampleFiles rfl hfound
      inTurn (.ofVariables []) (.ofVariables [])
  refine ⟨wellNamed_sampleFiles, rfl, hfound, results, results', hone, hseveral, ?_, ?_⟩
  · rw [hcovers.processed, hsecond]
    rfl
  · have hsize : chunkSize samplePaths.length oneChunkConfig.workers = 3 := by decide
    rw [hcovers'.processed, hsize, hthird]
    rfl

end LineLexer.Batch
