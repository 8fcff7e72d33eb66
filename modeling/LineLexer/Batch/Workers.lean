import LineLexer.Batch.Config
import LineLexer.Batch.Job
import LineLexer.Batch.Schedule

/-!
# Workers

Workers go through their own jobs, one after the other, and add what becomes of a file to results that
they share. They take turns: between two steps of the work on a file the others may go on with theirs.
Each worker has a current file of its own, so an event is about the file of whoever tells it. The results
are locked while somebody adds to them, which takes one step here.
-/

namespace LineLexer.Batch

open Diagnostics Files

/-- The work on a file that was taken up. -/
structure Task where
  job : Job
  /-- The steps that are left. -/
  work : Steps (Except Failure FileStats)
  /-- The current file of the worker before it took this one up. -/
  before : Option FileContext

/-- One of the workers on a chunk. -/
structure Worker where
  /-- The worker's own current file. -/
  file : Option FileContext
  task : Option Task
  /-- The jobs that were not begun so far. -/
  left : List Job

variable (files : FileSystem) (grammar : Grammar) (config : Config)

/-- Tells the user that a file is taken up. -/
def announce (job : Job) : Logged Unit := do
  if config.progress then printLine s!"Tokenizing file {job.index + 1}: {job.path.text}"

/-- Does jobs one after the other, without a break. -/
def runJobs : List Job → Results → Logged Results
  | [], results => return results
  | job :: rest, results => do
    announce config job
    let outcome ← withFile job.context (processJob files grammar job).run
    runJobs rest (results.add job.path outcome)

namespace Worker

/-- A worker that has not begun. Nobody's current file is passed on to it. -/
def new (jobs : List Job) : Worker := ⟨none, none, jobs⟩

/-- What a worker does when it is its turn: it takes up the next file, takes a step of the work on
its file, or adds what has become of the file to the results. -/
def turn (worker : Worker) (results : Results) : Logged (Worker × Results) :=
  match worker.task, worker.left with
  | none, [] => return (worker, results)
  | none, job :: left => do
    announce config job
    let (before, file) ← withOwnFile worker.file (enterFile job.context)
    return (⟨file, some ⟨job, processJob files grammar job, before⟩, left⟩, results)
  | some ⟨job, work, before⟩, left =>
    match work with
    | .done outcome => do
      let ((), file) ← withOwnFile worker.file (leaveFile before)
      return (⟨file, none, left⟩, results.add job.path outcome)
    | work => do
      let (work, file) ← withOwnFile worker.file work.step
      return (⟨file, some ⟨job, work, before⟩, left⟩, results)

/-- Does all that a worker has left, without a break. -/
def finish (worker : Worker) (results : Results) : Logged Results := do
  let (results, _) ← withOwnFile worker.file do
    match worker.task with
    | none => runJobs files grammar config worker.left results
    | some task =>
      let outcome ← task.work.run
      leaveFile task.before
      runJobs files grammar config worker.left (results.add task.job.path outcome)
  return results

end Worker

/-- Lets workers take turns until nothing is left. The schedule names the worker that is next; one
without anything left is passed over, and at the end of the schedule the workers finish one after the
other. -/
def takeTurns : (schedule : List Nat) → List Worker → Results → Logged Results
  | [], workers, results =>
    workers.foldlM (fun results worker => worker.finish files grammar config results) results
  | next :: schedule, workers, results =>
    match workers[next]? with
    | none => takeTurns schedule workers results
    | some worker => do
      let (worker, results) ← worker.turn files grammar config results
      takeTurns schedule (workers.set next worker) results

end LineLexer.Batch
