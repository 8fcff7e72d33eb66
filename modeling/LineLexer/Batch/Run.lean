import LineLexer.Batch.Discovery
import LineLexer.Batch.Workers

/-!
# Running a batch

Every file that is found is read and tokenized, by one worker in order or by several. A file that
fails does not keep the others from being processed, unless the batch is to end at the first failure.
-/

namespace LineLexer.Batch

open Diagnostics Files

def failFastEvent : Event :=
  .warning .plainWarning "Fail-fast mode enabled, stopping batch processing" []

/-- What is told at the end of a batch. -/
def completedEvent (results : Results) (workers : Nat) : Event :=
  .success .batchCompleted "Batch tokenization completed"
    [("files_processed", toString results.processed),
      ("successful", toString results.successCount), ("failed", toString results.failureCount),
      ("tokens", toString results.totalTokens), ("threads_used", toString workers),
      ("duration_ms", untimed)]

/-! ## One worker -/

/-- Processes one file after the other; if asked for, up to the first one that fails. -/
def runInOrder (files : FileSystem) (grammar : Grammar) (config : Config) (total : Nat) :
    List Job → Results → Logged Results
  | [], results => return results
  | job :: rest, results => do
    if config.progress then
      printLine s!"Tokenizing file {job.index + 1} of {total}: {job.path.text}"
    let outcome ← withFile job.context do
      let outcome ← (processJob files grammar job).run
      if config.failFast && !outcome.isOk then note failFastEvent
      return outcome
    let results := results.add job.path outcome
    if config.failFast && !outcome.isOk then return results
    runInOrder files grammar config total rest results

/-- Runs a batch with one worker. -/
def runSequential (files : FileSystem) (grammar : Grammar) (config : Config) (path : Path) :
    Logged (Except BatchError Results) := do
  note (.info "Starting sequential batch tokenization"
    [("directory", path.text), ("grammar", grammar.name)])
  match ← discover files config path with
  | .error error => return .error error
  | .ok found =>
    let results := { Results.empty with discovered := found.length }
    let results ← runInOrder files grammar config found.length (jobsOf found) results
    note (completedEvent results 1)
    return .ok results

/-! ## Several workers -/

/-- What the workers have to do on a chunk, the first file of which has the index `first`. -/
def workerJobs (workers first : Nat) (chunk : List Path) : List (List Job) :=
  (slices workers chunk).map fun (start, slice) => jobsFrom (first + start) slice

/-- Processes chunk after chunk, each by all workers; if asked for, up to the first chunk with a
failure. The schedules tell for each chunk how the workers take turns. -/
def runChunks (files : FileSystem) (grammar : Grammar) (config : Config)
    (schedules : Nat → List Nat) (size : Nat) :
    (index : Nat) → List (List Path) → Results → Logged Results
  | _, [], results => return results
  | index, chunk :: rest, results => do
    let workers := (workerJobs config.workers (index * size) chunk).map Worker.new
    let results := results.merge
      (← takeTurns files grammar config (schedules index) workers .empty)
    if config.failFast && 0 < results.failureCount then
      note failFastEvent
      return results
    runChunks files grammar config schedules size (index + 1) rest results

/-- Runs a batch with several workers. -/
def runParallel (files : FileSystem) (grammar : Grammar) (config : Config)
    (schedules : Nat → List Nat) (path : Path) : Logged (Except BatchError Results) := do
  let workers := config.workers
  note (.info "Starting parallel batch tokenization"
    [("directory", path.text), ("grammar", grammar.name), ("max_threads", toString workers)])
  match ← discover files config path with
  | .error error => return .error error
  | .ok found =>
    let size := chunkSize found.length workers
    note (.debug "Parallel processing configuration"
      [("total_files", toString found.length), ("chunk_size", toString size),
        ("threads", toString workers)])
    let results := { Results.empty with discovered := found.length }
    let results ← runChunks files grammar config schedules size 0 (chunksOf size found) results
    let results := results.sort
    note (completedEvent results workers)
    return .ok results

/-- One worker after the other. -/
def inTurn : Nat → List Nat := fun _ => []

/-- Runs a batch with as many workers as it is configured for. -/
def run (files : FileSystem) (grammar : Grammar) (config : Config) (path : Path) :
    Logged (Except BatchError Results) :=
  if config.workers = 1 then runSequential files grammar config path
  else runParallel files grammar config inTurn path

end LineLexer.Batch
