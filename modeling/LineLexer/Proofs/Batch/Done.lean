import LineLexer.Proofs.Batch.Discovery
import LineLexer.Proofs.Batch.Turns

/-!
# The jobs that are done

A batch may be to end at a failure. One worker does the jobs up to the first one that fails
(`answers_runSequential`). Several workers do whole chunks: all jobs of the chunks up to the first one
in which a file fails (`doneShares`). Chunk after chunk they do the acts for these jobs, in the order in
which they take turns, and then they tell of the failure, if there was one (`runChunks_run`).
-/

namespace LineLexer

open Diagnostics Files

/-- A computation goes on from what it answers. -/
theorem Diagnostics.Answers.bind_congr {α β : Type} {work : Logged α} {next next' : α → Logged β}
    {middle : α} (hanswer : Answers work middle) (h : next middle = next' middle) :
    work >>= next = work >>= next' := by
  funext journal
  show (next (work.run journal).1).run (work.run journal).2
    = (next' (work.run journal).1).run (work.run journal).2
  rw [hanswer journal, h]

namespace Batch

theorem workers_pos (config : Config) : 0 < config.workers :=
  Nat.lt_of_lt_of_le Nat.one_pos (Nat.le_max_left ..)

/-! ## Chunk after chunk -/

variable (files : FileSystem) (grammar : Grammar) (config : Config)

/-- The chunks that are done: those up to one in which a file fails at which the batch is to end. -/
def doneShares (shares : List (List (List Job))) : List (List (List Job)) :=
  upTo (·.flatten.any (endsAt files grammar config)) shares

/-- The acts of the workers, chunk after chunk; the first one has the index `index`. -/
def chunkActs (choice : TokenizerPreferences) (schedules : Nat → List Nat) :
    (index : Nat) → List (List (List Job)) → List Act
  | _, [] => []
  | index, share :: rest =>
    interleave (schedules index) (share.map (·.flatMap (jobActs files grammar choice)))
      ++ chunkActs choice schedules (index + 1) rest

variable {files grammar config}

/-- The acts for the jobs of all chunks, those for each job in order. -/
theorem interleaves_chunkActs (choice : TokenizerPreferences) (schedules : Nat → List Nat)
    (index : Nat) (shares : List (List (List Job))) :
    Interleaves (shares.flatten.flatten.map (jobActs files grammar choice))
      (chunkActs files grammar choice schedules index shares) := by
  induction shares generalizing index with
  | nil => exact .done (List.forall_mem_nil _)
  | cons share rest ih =>
    rw [chunkActs, List.flatten_cons, List.flatten_append, List.map_append]
    exact (interleaves_jobActs (schedules index) share).append (ih (index + 1))

/-- After files that went well, the batch is to end behind some jobs if it is to end at one of them. -/
theorem endsAt_any (files : FileSystem) (grammar : Grammar) {results : Results}
    (hclean : config.failFast = true → results.failureCount = 0) (order : List Job) :
    (config.failFast && decide
        (0 < (results.addAll (outcomeOf files grammar) (order.map Job.path)).failureCount))
      = order.any (endsAt files grammar config) := by
  cases hfast : config.failFast with
  | false => simp [endsAt, hfast]
  | true =>
    rw [Results.failureCount_addAll, hclean hfast, Nat.zero_add, Bool.true_and, List.countP_map,
      Bool.eq_iff_iff, decide_eq_true_iff, List.countP_pos_iff, List.any_eq_true]
    simp [endsAt, hfast]

/-- What is told when a batch has ended at a failure. -/
def tellEnd (config : Config) (results : Results) : Logged Results := do
  if config.failFast && 0 < results.failureCount then note failFastEvent
  return results

/-- The workers of a chunk start without results, and theirs are merged at its end. -/
theorem takeTurns_merge_run {β : Type} (schedule : List Nat) (slices : List (List Job))
    (results : Results) (next : Results → Logged β) (journal : Journal) :
    (takeTurns files grammar config schedule (slices.map Worker.new) .empty >>= fun added =>
        next (results.merge added)).run journal
      = (performAll config (interleave schedule
          (slices.map (·.flatMap (jobActs files grammar journal.choice)))) results >>= next).run
        journal := by
  conv_rhs => rw [← results.merge_empty, performAll_merge, bind_map_left]
  rw [StateT.run_bind, StateT.run_bind, takeTurns_new_run schedule slices rfl]

/-- Several workers do the acts of the chunks up to the one at which the batch is to end. -/
theorem runChunks_run (schedules : Nat → List Nat) (size index : Nat) (chunks : List (List Path))
    {results : Results} (hclean : config.failFast = true → results.failureCount = 0)
    (journal : Journal) :
    (runChunks files grammar config schedules size index chunks results).run journal
      = (performAll config (chunkActs files grammar journal.choice schedules index
          (doneShares files grammar config (sharesFrom config.workers size index chunks))) results
            >>= tellEnd config).run journal := by
  induction chunks generalizing index results journal with
  | nil =>
    have hnot : (config.failFast && decide (0 < results.failureCount)) = false := by
      cases hfast : config.failFast with
      | false => rfl
      | true => simp [hclean hfast]
    show (pure results : Logged Results).run journal = (tellEnd config results).run journal
    rw [tellEnd, hnot]
    rfl
  | cons chunk rest ih =>
    rw [runChunks, sharesFrom, doneShares, upTo, chunkActs]
    generalize workerJobs config.workers (index * size) chunk = share
    refine (takeTurns_merge_run (schedules index) share results (fun results => do
      if config.failFast && 0 < results.failureCount then
        note failFastEvent
        return results
      runChunks files grammar config schedules size (index + 1) rest results) journal).trans ?_
    have hacts : Interleaves (share.flatten.map (jobActs files grammar journal.choice))
        (interleave (schedules index)
          (share.map (·.flatMap (jobActs files grammar journal.choice)))) :=
      interleaves_jobActs (schedules index) share
    generalize interleave (schedules index)
      (share.map (·.flatMap (jobActs files grammar journal.choice))) = acts at hacts ⊢
    -- What the chunk leads to says whether the batch ends here, as its jobs do.
    have hanswer : Answers (performAll config acts results) _ :=
      answers_performAll (settled_of_interleaves hacts) results
    have hends := endsAt_any files grammar hclean (acts.flatMap Act.done)
    rw [(done_perm hacts).any_eq, ← hanswer journal] at hends
    have hchoice : ((performAll config acts results).run journal).2.choice = journal.choice :=
      choice_performAll acts results journal
    rw [performAll_append, bind_assoc, StateT.run_bind, StateT.run_bind]
    generalize (performAll config acts results).run journal = reached at hends hchoice ⊢
    obtain ⟨after, journal'⟩ := reached
    dsimp only at hends hchoice
    rw [← hchoice, ← hends]
    show StateT.run (if config.failFast && decide (0 < after.failureCount) then do
        note failFastEvent
        return after
      else runChunks files grammar config schedules size (index + 1) rest after) journal' = _
    cases hend : config.failFast && decide (0 < after.failureCount) with
    | true =>
      show _ = (tellEnd config after).run journal'
      rw [tellEnd, hend]
      rfl
    | false =>
      have hclean' : config.failFast = true → after.failureCount = 0 := fun hfast => by
        simpa [hfast] using hend
      exact ih (index + 1) hclean' journal'

/-! ## What is done -/

variable (files grammar config)

/-- The results of a batch that has done some jobs. -/
def resultsAfter (found : List Path) (done : List Job) : Results :=
  Results.addAll { Results.empty with discovered := found.length } (outcomeOf files grammar)
    (done.map Job.path)

/-- The jobs that one worker does for a batch. -/
def doneByOne (found : List Path) : List Job := upTo (endsAt files grammar config) (jobsOf found)

/-- The jobs that several workers do for a batch, in the order in which they stand. -/
def doneByAll (found : List Path) : List Job :=
  (doneShares files grammar config (shares config.workers found)).flatten.flatten

/-- They are the first ones of the files that were found. -/
theorem doneByAll_front (found : List Path) :
    doneByAll files grammar config found <+: jobsOf found := by
  obtain ⟨rest, hrest⟩ := upTo_front (fun share => share.flatten.any (endsAt files grammar config))
    (shares config.workers found)
  rw [← flatten_shares (workers_pos config) found, ← hrest, List.flatten_append, List.flatten_append]
  exact List.prefix_append ..

section

variable (choice : TokenizerPreferences) (schedules : Nat → List Nat) (found : List Path)

/-- What several workers do for a batch. -/
def batchActs : List Act :=
  chunkActs files grammar choice schedules 0
    (doneShares files grammar config (shares config.workers found))

/-- The jobs of several workers in the order in which they are through with them. -/
def doneOrder : List Job := (batchActs files grammar config choice schedules found).flatMap Act.done

theorem interleaves_batchActs :
    Interleaves ((doneByAll files grammar config found).map (jobActs files grammar choice))
      (batchActs files grammar config choice schedules found) :=
  interleaves_chunkActs choice schedules 0 _

theorem doneOrder_perm :
    (doneOrder files grammar config choice schedules found).Perm
      (doneByAll files grammar config found) :=
  done_perm (interleaves_batchActs files grammar config choice schedules found)

end

/-- One worker does the jobs up to the first one at which the batch is to end. -/
theorem answers_runSequential (path : Path) :
    Answers (runSequential files grammar config path)
      ((filesOf files config path).map fun found =>
        resultsAfter files grammar found (doneByOne files grammar config found)) := by
  refine .bind (.unit _) (.bind (answers_discover files config path) ?_)
  cases filesOf files config path with
  | error error => exact .pure _
  | ok found =>
    refine .bind (answers_runInOrder files grammar config _ _ _) ?_
    exact .bind (.unit _) (.pure _)

section

variable (schedules : Nat → List Nat) (found : List Path) (journal : Journal)

/-- Several workers have the results in the order in which they are through with the jobs. -/
theorem answer_runChunks :
    let size := chunkSize found.length config.workers
    ((runChunks files grammar config schedules size 0 (chunksOf size found)
        { Results.empty with discovered := found.length }).run journal).1
      = resultsAfter files grammar found
          (doneOrder files grammar config journal.choice schedules found) := by
  intro size
  have hsettled := settled_of_interleaves
    (interleaves_batchActs files grammar config journal.choice schedules found)
  have htell (results : Results) : Answers (tellEnd config results) results := .tellIf (.pure _)
  rw [runChunks_run schedules size 0 _ fun _ => rfl]
  exact (answers_performAll hsettled _).bind (htell _) journal

/-- At the end they sort them. -/
theorem answer_runParallel (path : Path) :
    ((runParallel files grammar config schedules path).run journal).1
      = (filesOf files config path).map fun found => (resultsAfter files grammar found
          (doneOrder files grammar config journal.choice schedules found)).sort := by
  rw [runParallel, answer_bind, answer_bind, answers_discover files config path]
  cases filesOf files config path with
  | error error => rfl
  | ok found =>
    refine congrArg (fun results => Except.ok results.sort)
      ((answer_runChunks files grammar config schedules found _).trans ?_)
    rw [Journal.choice_note, (tells_discover files config path).choice_eq,
      (Tells.noteEvent _).choice_eq]

end

end Batch
end LineLexer
