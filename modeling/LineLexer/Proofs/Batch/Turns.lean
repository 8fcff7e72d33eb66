import LineLexer.Proofs.Batch.Outcome
import LineLexer.Proofs.Batch.Shares

/-!
# Workers take turns

What is done for a job is a list of acts, which is known from the files, the grammar and the
preferences for lines (`jobActs`). When it is a worker's turn, it does the first of the acts that it has
left, and what the act tells is about the worker's own file (`Worker.turn_run`). So whatever workers do
together is an order of their acts, and the schedule says which one (`takeTurns_run`).
-/

namespace LineLexer.Batch

open Diagnostics Files

/-! ## Acts -/

/-- Something that is done for a job. -/
inductive Act where
  /-- The file is taken up. -/
  | begin (job : Job)
  | tell (job : Job) (event : Event)
  /-- The journal is asked for the preferences for lines. -/
  | ask (job : Job)
  /-- What has become of the file is added to the results. -/
  | finish (job : Job) (outcome : Except Failure FileStats)

/-- Does an act, as somebody whose current file is the one of the job. -/
def Act.perform (config : Config) (results : Results) : Act → Logged Results
  | begin job => do
    announce config job
    discard (withOwnFile none (enterFile job.context))
    return results
  | tell job event => do
    discard (withOwnFile (some job.context) (note event))
    return results
  | ask job => do
    discard (withOwnFile (some job.context) tokenizerPreferences)
    return results
  | finish job outcome => return results.add job.path outcome

def performAll (config : Config) (acts : List Act) (results : Results) : Logged Results :=
  acts.foldlM (Act.perform config) results

variable (files : FileSystem) (grammar : Grammar) (config : Config)

/-- The acts that are left of the work on a file. -/
def actsLeft (choice : TokenizerPreferences) (job : Job) : Steps (Except Failure FileStats) → List Act
  | .done outcome => [.finish job outcome]
  | .tell event rest => .tell job event :: actsLeft choice job rest
  | .ask rest => .ask job :: actsLeft choice job (rest choice)

/-- All that is done for a job. -/
def jobActs (choice : TokenizerPreferences) (job : Job) : List Act :=
  .begin job :: actsLeft choice job (processJob files grammar job)

namespace Worker

/-- The acts that a worker has left. -/
def acts (choice : TokenizerPreferences) (worker : Worker) : List Act :=
  (match worker.task with
    | some task => actsLeft choice task.job task.work
    | none => []) ++ worker.left.flatMap (jobActs files grammar choice)

/-- The current file of a worker is the one it works on, if there is one. -/
structure Sound (worker : Worker) : Prop where
  file : worker.file = worker.task.map (·.job.context)
  before : ∀ task, worker.task = some task → task.before = none

theorem sound_of_idle {left : List Job} : Sound ⟨none, none, left⟩ := ⟨rfl, fun _ h => by cases h⟩

theorem sound_of_task {job : Job} {work : Steps (Except Failure FileStats)} {left : List Job} :
    Sound ⟨some job.context, some ⟨job, work, none⟩, left⟩ := ⟨rfl, fun _ h => by cases h; rfl⟩

variable {files grammar config} {choice : TokenizerPreferences} {journal : Journal}

/-- A worker that has something left does the first act of it. -/
theorem turn_run {worker : Worker} (hsound : worker.Sound) (hchoice : journal.choice = choice)
    {act : Act} {rest : List Act} (hacts : worker.acts files grammar choice = act :: rest)
    (results : Results) :
    ∃ worker' : Worker, worker'.Sound ∧ worker'.acts files grammar choice = rest ∧
      (worker.turn files grammar config results).run journal
        = (fun (results, journal) => ((worker', results), journal))
            ((act.perform config results).run journal) := by
  obtain ⟨file, task, left⟩ := worker
  obtain ⟨hfile, hbefore⟩ := hsound
  -- what a worker does next is known from its task: a new job, or the next step of the work
  cases task with
  | none =>
    cases hfile
    cases left with
    | nil => cases hacts
    | cons job left =>
      cases hacts
      exact ⟨_, sound_of_task, rfl, rfl⟩
  | some task =>
    obtain ⟨job, work, before⟩ := task
    cases hfile
    cases hbefore _ rfl
    cases work with
    | done outcome =>
      cases hacts
      exact ⟨_, sound_of_idle, rfl, rfl⟩
    | tell event next =>
      cases hacts
      let told := Journal.note { journal with currentFile := some job.context } event
      have hkept : told.currentFile = some job.context := Journal.currentFile_note _ _
      refine ⟨⟨told.currentFile, some ⟨job, next, none⟩, left⟩, ?_, rfl, rfl⟩
      rw [hkept]
      exact sound_of_task
    | ask next =>
      cases hacts
      cases hchoice
      exact ⟨⟨some job.context, some ⟨job, next journal.choice, none⟩, left⟩, sound_of_task, rfl, rfl⟩

/-- A worker has acts left until all its work is done and there are no jobs. -/
theorem idle_of_nothing {worker : Worker} (hacts : worker.acts files grammar choice = []) :
    worker.task = none ∧ worker.left = [] := by
  obtain ⟨file, task, left⟩ := worker
  cases task with
  | none =>
    cases left with
    | nil => exact ⟨rfl, rfl⟩
    | cons job left => cases hacts
  | some task =>
    obtain ⟨job, work, before⟩ := task
    cases work <;> cases hacts

/-- A worker without anything left is passed over. -/
theorem turn_of_nothing {worker : Worker} (hacts : worker.acts files grammar choice = [])
    (results : Results) :
    worker.turn files grammar config results = pure (worker, results) := by
  obtain ⟨file, task, left⟩ := worker
  obtain ⟨rfl, rfl⟩ := idle_of_nothing hacts
  rfl

theorem finish_of_nothing {worker : Worker} (hacts : worker.acts files grammar choice = [])
    (results : Results) : worker.finish files grammar config results = pure results := by
  obtain ⟨file, task, left⟩ := worker
  obtain ⟨rfl, rfl⟩ := idle_of_nothing hacts
  rfl

/-- A worker that goes on without a break takes one turn after the other. -/
theorem finish_eq_turn (worker : Worker) (results : Results) :
    worker.finish files grammar config results
      = worker.turn files grammar config results >>= fun next =>
          next.1.finish files grammar config next.2 := by
  obtain ⟨file, task, left⟩ := worker
  cases task with
  | none =>
    cases left with
    | nil => rfl
    | cons job left =>
      simp only [finish, turn, runJobs, announce]
      cases config.progress <;> rfl
  | some task =>
    obtain ⟨job, work, before⟩ := task
    cases work <;> rfl

end Worker

variable {files grammar config} {choice : TokenizerPreferences} {journal : Journal}

/-! ## Acts in order -/

@[simp] theorem choice_perform (act : Act) (results : Results) (journal : Journal) :
    ((act.perform config results).run journal).2.choice = journal.choice := by
  cases act with
  | begin job =>
    simp only [Act.perform, announce]
    cases config.progress <;> rfl
  | tell job event => exact Journal.choice_note { journal with currentFile := some job.context } event
  | ask job => rfl
  | finish job outcome => rfl

theorem performAll_cons (act : Act) (rest : List Act) (results : Results) :
    performAll config (act :: rest) results
      = act.perform config results >>= performAll config rest :=
  List.foldlM_cons

theorem performAll_append (front rest : List Act) (results : Results) :
    performAll config (front ++ rest) results
      = performAll config front results >>= performAll config rest :=
  List.foldlM_append

@[simp] theorem choice_performAll (acts : List Act) (results : Results) (journal : Journal) :
    ((performAll config acts results).run journal).2.choice = journal.choice := by
  induction acts generalizing results journal with
  | nil => rfl
  | cons act rest ih =>
    rw [performAll_cons]
    exact (ih _ _).trans (choice_perform act results journal)

/-- A worker that goes on without a break does its acts one after the other. -/
theorem Worker.finish_run {worker : Worker} (hsound : worker.Sound) (hchoice : journal.choice = choice)
    (results : Results) :
    (worker.finish files grammar config results).run journal
      = (performAll config (worker.acts files grammar choice) results).run journal := by
  generalize hacts : worker.acts files grammar choice = acts
  induction acts generalizing worker results journal with
  | nil => exact congrFun (finish_of_nothing hacts results) journal
  | cons act rest ih =>
    obtain ⟨worker', hsound', hrest, hrun⟩ := turn_run hsound hchoice hacts results
    rw [finish_eq_turn, performAll_cons, StateT.run_bind, StateT.run_bind, hrun]
    exact ih hsound' ((choice_perform act results journal).trans hchoice) _ hrest

/-! ## Turns -/

/-- Workers that finish one after the other do their acts in this order. -/
theorem finishAll_run {workers : List Worker} (hsound : ∀ worker ∈ workers, worker.Sound)
    (hchoice : journal.choice = choice) (results : Results) :
    (workers.foldlM (fun results (worker : Worker) =>
        worker.finish files grammar config results) results).run
        journal
      = (performAll config (workers.map (Worker.acts files grammar choice)).flatten results).run
        journal := by
  induction workers generalizing results journal with
  | nil => rfl
  | cons worker rest ih =>
    obtain ⟨hworker, hrest⟩ := List.forall_mem_cons.mp hsound
    rw [List.foldlM_cons, List.map_cons, List.flatten_cons, performAll_append, StateT.run_bind,
      StateT.run_bind, Worker.finish_run hworker hchoice]
    exact ih hrest ((choice_performAll _ results journal).trans hchoice) _

/-- Workers that take turns do their acts in the order that the schedule leads to. -/
theorem takeTurns_run (schedule : List Nat) {workers : List Worker}
    (hsound : ∀ worker ∈ workers, worker.Sound) (hchoice : journal.choice = choice)
    (results : Results) :
    (takeTurns files grammar config schedule workers results).run journal
      = (performAll config
          (interleave schedule (workers.map (Worker.acts files grammar choice))) results).run
        journal := by
  induction schedule generalizing workers results journal with
  | nil => exact finishAll_run hsound hchoice results
  | cons next schedule ih =>
    have hslice : (workers.map (Worker.acts files grammar choice))[next]?
        = workers[next]?.map (Worker.acts files grammar choice) := List.getElem?_map
    rw [takeTurns, interleave]
    cases hnext : workers[next]? with
    | none =>
      rw [hnext] at hslice
      rw [takeFrom_eq_none fun slice h => by rw [hslice] at h; cases h]
      exact ih hsound hchoice results
    | some worker =>
      rw [hnext] at hslice
      cases hacts : worker.acts files grammar choice with
      | nil =>
        -- the worker has nothing left: it is passed over and stays as it is
        obtain ⟨hlt, rfl⟩ := List.getElem?_eq_some_iff.mp hnext
        rw [takeFrom_eq_none fun slice h => by rw [hslice] at h; cases h; exact hacts]
        dsimp only
        rw [Worker.turn_of_nothing hacts, pure_bind, List.set_getElem_self hlt]
        exact ih hsound hchoice results
      | cons act rest =>
        -- its first act is the next one of the order, and it keeps the others
        obtain ⟨worker', hsound', hrest, hrun⟩ :=
          Worker.turn_run (hsound worker (List.mem_of_getElem? hnext)) hchoice hacts results
        rw [takeFrom_eq_some (hslice.trans (congrArg some hacts)), ← hrest, ← List.map_set]
        dsimp only
        rw [performAll_cons, StateT.run_bind, StateT.run_bind, hrun]
        refine ih (fun other hother => ?_) ((choice_perform act results journal).trans hchoice) _
        obtain hmem | rfl := List.mem_or_eq_of_mem_set hother
        · exact hsound other hmem
        · exact hsound'

/-- Workers who have not begun do the acts for their jobs. -/
theorem takeTurns_new_run (schedule : List Nat) (slices : List (List Job))
    (hchoice : journal.choice = choice) (results : Results) :
    (takeTurns files grammar config schedule (slices.map Worker.new) results).run journal
      = (performAll config
          (interleave schedule (slices.map (·.flatMap (jobActs files grammar choice)))) results).run
        journal := by
  have hsound : ∀ worker ∈ slices.map Worker.new, worker.Sound := by
    intro worker hworker
    obtain ⟨jobs, -, rfl⟩ := List.mem_map.mp hworker
    exact Worker.sound_of_idle
  rw [takeTurns_run schedule hsound hchoice, List.map_map]
  rfl

/-! ## What has become of the jobs -/

namespace Act

/-- The job that an act is the last one of. -/
def done : Act → List Job
  | finish job _ => [job]
  | _ => []

/-- If it is the last act of a job, it adds the outcome of the file. -/
def Settled (files : FileSystem) (grammar : Grammar) (act : Act) : Prop :=
  ∀ job outcome, act = .finish job outcome → outcome = outcomeOf files grammar job.path

end Act

theorem done_actsLeft (job : Job) (work : Steps (Except Failure FileStats)) :
    (actsLeft choice job work).flatMap Act.done = [job] := by
  induction work with
  | done outcome => rfl
  | tell event rest ih => exact ih
  | ask rest ih => exact ih choice

theorem outcome_of_mem_actsLeft {job job' : Job} {work : Steps (Except Failure FileStats)}
    {outcome : Except Failure FileStats} (h : .finish job' outcome ∈ actsLeft choice job work) :
    job' = job ∧ outcome = work.answer choice := by
  induction work with
  | done outcome' =>
    cases List.mem_singleton.mp h
    exact ⟨rfl, rfl⟩
  | tell event rest ih =>
    obtain h | h := List.mem_cons.mp h
    · cases h
    · exact ih h
  | ask rest ih =>
    obtain h | h := List.mem_cons.mp h
    · cases h
    · exact ih choice h

theorem done_jobActs (job : Job) : (jobActs files grammar choice job).flatMap Act.done = [job] :=
  done_actsLeft job _

theorem settled_of_mem_jobActs {job : Job} {act : Act} (h : act ∈ jobActs files grammar choice job) :
    act.Settled files grammar := by
  rintro job' outcome rfl
  obtain h | h := List.mem_cons.mp h
  · cases h
  · obtain ⟨rfl, rfl⟩ := outcome_of_mem_actsLeft h
    exact answer_processJob files grammar job'

variable {jobs : List Job} {acts : List Act}

/-- However the acts for some jobs take turns, each job is done once. -/
theorem done_perm (h : Interleaves (jobs.map (jobActs files grammar choice)) acts) :
    (acts.flatMap Act.done).Perm jobs := by
  have hjobs := (h.flatMap Act.done).perm
  have hsingle : (jobs.map (jobActs files grammar choice)).map (·.flatMap Act.done)
      = jobs.map fun job => [job] := by
    rw [List.map_map]
    exact List.map_congr_left fun job _ => done_jobActs job
  rwa [hsingle, ← List.flatMap_def, List.flatMap_singleton'] at hjobs

theorem settled_of_interleaves (h : Interleaves (jobs.map (jobActs files grammar choice)) acts) :
    ∀ act ∈ acts, act.Settled files grammar := by
  intro act hact
  rw [h.perm.mem_iff, List.mem_flatten] at hact
  obtain ⟨slice, hslice, hact⟩ := hact
  obtain ⟨job, -, rfl⟩ := List.mem_map.mp hslice
  exact settled_of_mem_jobActs hact

/-- Workers that go through slices of jobs do the acts for all these jobs. -/
theorem interleaves_jobActs (schedule : List Nat) (slices : List (List Job)) :
    Interleaves (slices.flatten.map (jobActs files grammar choice))
      (interleave schedule (slices.map (·.flatMap (jobActs files grammar choice)))) := by
  have hpieces : slices.map (·.flatMap (jobActs files grammar choice))
      = (slices.map (·.map (jobActs files grammar choice))).map List.flatten := by
    rw [List.map_map]
    exact List.map_congr_left fun slice _ => List.flatMap_def
  rw [hpieces, List.map_flatten]
  exact .of_flatten (interleaves_interleave schedule _)

/-- Acts that come to the outcomes of the files add them in the order in which the jobs are done. -/
theorem answers_performAll (h : ∀ act ∈ acts, act.Settled files grammar) (results : Results) :
    Answers (performAll config acts results)
      (results.addAll (outcomeOf files grammar) ((acts.flatMap Act.done).map Job.path)) := by
  induction acts generalizing results with
  | nil => exact .pure _
  | cons act rest ih =>
    obtain ⟨hact, hrest⟩ := List.forall_mem_cons.mp h
    rw [performAll_cons]
    cases act with
    | finish job outcome =>
      cases hact job outcome rfl
      exact .bind (.pure _) (ih hrest _)
    | begin job | tell job event | ask job =>
      exact .bind (.bind (.unit _) (.pure _)) (ih hrest results)

/-- Acts that start without results and have theirs merged go on from the results. -/
theorem performAll_merge (acts : List Act) (results other : Results) :
    performAll config acts (results.merge other)
      = results.merge <$> performAll config acts other := by
  induction acts generalizing other with
  | nil => exact (map_pure _ _).symm
  | cons act rest ih =>
    have hact : act.perform config (results.merge other)
        = results.merge <$> act.perform config other := by
      cases act with
      | finish job outcome => exact congrArg pure (results.merge_add other job.path outcome).symm
      | begin job | tell job event | ask job => rfl
    rw [performAll_cons, performAll_cons, map_bind, hact, bind_map_left]
    exact bind_congr fun next => ih next

end LineLexer.Batch
