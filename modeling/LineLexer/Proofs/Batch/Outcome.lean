import LineLexer.Batch.Run
import LineLexer.Proofs.Tokenize.Tell

/-!
# What becomes of a file

The outcome of a file in a batch is settled by the files and the grammar. It does not depend on what
is preferred, nor on what has been told so far or is told in between, hence neither on the other files
nor on the worker that has it (`answer_processJob`). So a batch adds known outcomes to its results, and
one worker adds them in the order in which it gets to the files, up to one at which the batch is to end
(`upTo`, `endsAt`, `answers_runInOrder`).
-/

namespace LineLexer

open Diagnostics Files

/-! ## Reading a file -/

namespace Files

/-- The answer of a check, without the way it is told. -/
def Checked.answer {α : Type} : Checked α → Except FileError α
  | .ok value => .ok value
  | .error (error, _) => .error error

/-- Reads a file and tells nothing of it. -/
def readFile (files : FileSystem) (path : Path) : Except FileError FileText := do
  let place ← (locate files path).answer
  let metadata ← (measure files place).answer
  (checkSize path metadata).answer
  let source ← (readSource files path place).answer
  let lineCount := Text.lineCount source.toList
  (checkLines path lineCount).answer
  return ⟨source, { metadata with lineCount }⟩

section

variable {choice : TokenizerPreferences}

theorem answer_proceed {α β : Type} (check : Checked α) (next : α → Steps (Except FileError β)) :
    (proceed check next).answer choice
      = check.answer >>= fun value => (next value).answer choice := by
  cases check <;> rfl

theorem answer_loadText (files : FileSystem) (preferences : FilePreferences) (path : Path) :
    (loadText files preferences path).answer choice = readFile files path := by
  rw [loadText, Steps.answer_bind, answer_proceed]
  refine bind_congr fun place => ?_
  rw [answer_proceed]
  refine bind_congr fun metadata => ?_
  rw [Steps.answer_bind, answer_proceed]
  refine bind_congr fun _ => ?_
  split
  all_goals
    simp only [Steps.answer_bind, answer_proceed]
    rfl

end

theorem answers_loadText (files : FileSystem) (preferences : FilePreferences) (path : Path) :
    Answers (loadText files preferences path).run (readFile files path) :=
  .run fun _ => answer_loadText files preferences path

end Files

/-! ## Tokenizing a file -/

namespace Batch

variable (files : FileSystem) (grammar : Grammar)

/-- What becomes of a file of a batch. -/
def outcomeOf (path : Path) : Except Failure FileStats :=
  match readFile files path with
  | .error error => .error (.file error)
  | .ok text =>
    match Buffer.ofText grammar false text.source with
    | .error error => .error (.tokenize error)
    | .ok buffer => .ok (.ofBuffer buffer text.metadata.size)

section

variable {choice : TokenizerPreferences}

/-- Counts may be asked for, but they are no part of the outcome. -/
theorem answer_tokenizeFile (path : Path) :
    (tokenizeFile files grammar path).answer choice = outcomeOf files grammar path := by
  rw [tokenizeFile, Steps.answer_bind, answer_loadText, outcomeOf]
  cases readFile files path with
  | error error => rfl
  | ok text =>
    dsimp only
    rw [Steps.answer_bind, tokenizeText, Steps.answer_bind, Buffer.ofTextLogged,
      Buffer.ofLinesLogged_answer]
    simp only [Buffer.ofText, Buffer.ofLines, Buffer.ofScans]
    cases faultOf (grammar.scanLines (documentLines text.source)) <;> rfl

theorem answer_processJob (job : Job) :
    (processJob files grammar job).answer choice = outcomeOf files grammar job.path := by
  rw [processJob, Steps.answer_bind, answer_tokenizeFile]
  cases outcomeOf files grammar job.path <;> rfl

end

/-! ## Adding outcomes -/

namespace Results

variable (results other : Results) (outcome : Path → Except Failure FileStats)

/-- Adds the outcomes of files, one after the other. -/
def addAll (paths : List Path) : Results :=
  paths.foldl (fun results path => results.add path (outcome path)) results

/-- A file that went well, with its counts. -/
def success? (path : Path) : Option (Path × FileStats) :=
  match outcome path with
  | .ok stats => some (path, stats)
  | .error _ => none

/-- A file that has failed, and why. -/
def failure? (path : Path) : Option (Path × Failure) :=
  match outcome path with
  | .ok _ => none
  | .error failure => some (path, failure)

theorem addAll_eq (paths : List Path) :
    results.addAll outcome paths = { results with
      successful := results.successful ++ paths.filterMap (success? outcome)
      failed := results.failed ++ paths.filterMap (failure? outcome)
      processed := results.processed + paths.length } := by
  induction paths generalizing results with
  | nil =>
    rw [addAll, List.foldl_nil, List.filterMap_nil, List.filterMap_nil, List.append_nil,
      List.append_nil]
    rfl
  | cons path rest ih =>
    rw [addAll, List.foldl_cons]
    refine (ih _).trans ?_
    have hcount : results.processed + 1 + rest.length = results.processed + (rest.length + 1) := by
      omega
    cases houtcome : outcome path with
    | error failure => simp [add, addFailure, success?, failure?, houtcome, hcount]
    | ok stats => simp [add, addSuccess, success?, failure?, houtcome, hcount]

theorem failureCount_addAll (paths : List Path) :
    (results.addAll outcome paths).failureCount
      = results.failureCount + paths.countP fun path => !(outcome path).isOk := by
  rw [addAll_eq, failureCount, List.length_append, List.length_filterMap_eq_countP]
  congr 1
  refine List.countP_congr fun path _ => ?_
  rw [failure?]
  cases outcome path <;> simp [Except.isOk, Except.toBool]

/-- What is picked for some of the files stands under their paths. -/
theorem map_fst_filterMap {β : Type} {pick : Path → Option (Path × β)} {keep : Path → Bool}
    (hpick : ∀ path, (pick path).map Prod.fst = if keep path then some path else none)
    (paths : List Path) : (paths.filterMap pick).map Prod.fst = paths.filter keep := by
  rw [List.map_filterMap, ← List.filterMap_eq_filter]
  exact congrArg (List.filterMap · paths) (funext hpick)

/-- Each file whose outcome is added is among those that went well, or among those that have failed. -/
theorem listed_addAll (discovered : Nat) (paths : List Path) :
    let results := addAll { empty with discovered } outcome paths
    (results.successful.map Prod.fst ++ results.failed.map Prod.fst).Perm paths := by
  have hsuccess : (paths.filterMap (success? outcome)).map Prod.fst
      = paths.filter fun path => (outcome path).isOk :=
    map_fst_filterMap (fun path => by rw [success?]; cases outcome path <;> rfl) paths
  have hfailure : (paths.filterMap (failure? outcome)).map Prod.fst
      = paths.filter fun path => !(outcome path).isOk :=
    map_fst_filterMap (fun path => by rw [failure?]; cases outcome path <;> rfl) paths
  rw [addAll_eq]
  dsimp only [empty, List.nil_append]
  rw [hsuccess, hfailure]
  exact List.filter_append_perm _ paths

theorem merge_empty : results.merge empty = results := by
  rw [merge, empty, List.append_nil, List.append_nil, Nat.add_zero]

theorem merge_add (path : Path) (answer : Except Failure FileStats) :
    results.merge (other.add path answer) = (results.merge other).add path answer := by
  cases answer with
  | error failure => simp only [merge, add, addFailure, List.append_assoc, Nat.add_assoc]
  | ok stats => simp only [merge, add, addSuccess, List.append_assoc, Nat.add_assoc]

end Results

variable (config : Config)

/-! ## Up to a failure -/

/-- The items up to the first one with which the list is to end. -/
def upTo {α : Type} (last : α → Bool) : List α → List α
  | [] => []
  | x :: rest => x :: if last x then [] else upTo last rest

theorem upTo_front {α : Type} (last : α → Bool) (items : List α) : upTo last items <+: items := by
  induction items with
  | nil => exact List.prefix_refl []
  | cons x rest ih =>
    rw [upTo, List.prefix_cons_inj]
    split
    · exact List.nil_prefix
    · exact ih

theorem upTo_eq_self {α : Type} {last : α → Bool} {items : List α}
    (h : ∀ x ∈ items, last x = false) : upTo last items = items := by
  induction items with
  | nil => rfl
  | cons x rest ih =>
    obtain ⟨hx, hrest⟩ := List.forall_mem_cons.mp h
    rw [upTo, hx, ih hrest]
    rfl

/-- Whether the batch is to end at a file. -/
def endsAt (job : Job) : Bool := config.failFast && !(outcomeOf files grammar job.path).isOk

/-- What one worker does for one job. -/
def workInOrder (job : Job) : Logged (Except Failure FileStats) :=
  withFile job.context do
    let outcome ← (processJob files grammar job).run
    if config.failFast && !outcome.isOk then note failFastEvent
    return outcome

theorem answers_workInOrder (job : Job) :
    Answers (workInOrder files grammar config job) (outcomeOf files grammar job.path) := by
  refine .withFile (.bind (.run fun _ => answer_processJob files grammar job) ?_) _
  exact .tellIf (.pure _)

/-- One worker does the jobs up to the one at which the batch is to end. -/
theorem answers_runInOrder (total : Nat) (jobs : List Job) (results : Results) :
    Answers (runInOrder files grammar config total jobs results)
      (results.addAll (outcomeOf files grammar)
        ((upTo (endsAt files grammar config) jobs).map Job.path)) := by
  induction jobs generalizing results with
  | nil => exact .pure _
  | cons job rest ih =>
    refine .tellIf (.bind (answers_workInOrder files grammar config job) ?_)
    rw [upTo, endsAt]
    split
    · exact .pure _
    · exact ih _

end Batch
end LineLexer
