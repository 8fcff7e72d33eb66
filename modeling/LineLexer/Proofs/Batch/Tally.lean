import LineLexer.Proofs.Batch.Problems
import LineLexer.Proofs.Batch.Workers

/-!
# The collector agrees with the results

A batch counts its files in its results, and the collector counts them by the problems it was told.
Both counts agree (`recorded_of_runsBatch`): each file that was processed has a record, and its record
has as many errors as its way to fail leads to. What workers enter is an interleaving of the entries about
the files, because each entry is about the file of the worker who makes it (`enters_performAll`). No
record is ever full, and any other interleaving would lead to the same counts (`Results.Recorded`).

This holds for a batch that is run on its own. Inside the work on another file, what is told of the
batch as a whole is a problem of that file, which is counted too (`not_agreesWith_of_enclosed`).
-/

namespace LineLexer.Batch

open Diagnostics Files

/-! ## Counts -/

def Failure.isFile : Failure → Bool
  | file _ => true
  | tokenize _ => false

def Failure.isTokenize : Failure → Bool
  | file _ => false
  | tokenize _ => true

/-- The counts of a collector fit the results of a batch. -/
structure Results.AgreesWith (results : Results) (tally : Tally) : Prop where
  files : tally.files = results.processed
  withErrors : tally.withErrors = results.failureCount
  withoutErrors : tally.clean + tally.withWarnings = results.successCount
  errors : tally.errors = 2 * results.failed.countP (·.2.isFile)
    + results.failed.countP (·.2.isTokenize)

namespace Results.AgreesWith

variable {results : Results} {tally : Tally}

theorem empty (discovered : Nat) :
    AgreesWith { Results.empty with discovered } .zero := ⟨rfl, rfl, rfl, rfl⟩

/-- One more file, with its record. -/
theorem add (h : results.AgreesWith tally) {path : Path} {outcome : Except Failure FileStats}
    {record : FileRecord} (herrors : record.errors = errorsTold outcome) :
    (results.add path outcome).AgreesWith (tally.add record) := by
  obtain ⟨hfiles, hwith, hwithout, herrors'⟩ := h
  cases outcome with
  | ok stats =>
    have hclean : record.errors = 0 := herrors
    refine ⟨congrArg (· + 1) hfiles, ?_, ?_, ?_⟩
    · simpa [Tally.add, hclean, Results.add, addSuccess, failureCount] using hwith
    · have hcount : (results.add path (.ok stats)).successCount = results.successCount + 1 := by
        simp [Results.add, addSuccess, successCount]
      rw [hcount, ← hwithout]
      by_cases hwarnings : record.warnings = 0
      · simp [Tally.add, hclean, hwarnings]
        omega
      · simp [Tally.add, hclean, hwarnings]
        omega
    · simpa [Tally.add, hclean, Results.add, addSuccess] using herrors'
  | error failure =>
    have hne : record.errors ≠ 0 := by
      rw [herrors]
      cases failure <;> simp [errorsTold]
    refine ⟨congrArg (· + 1) hfiles, ?_, ?_, ?_⟩
    · have hcount : (results.add path (.error failure)).failureCount
          = results.failureCount + 1 := by
        simp [Results.add, addFailure, failureCount]
      simp [Tally.add, hne, hcount, hwith]
    · simpa [Tally.add, hne, Results.add, addFailure, successCount] using hwithout
    · have hfailed : (results.add path (.error failure)).failed
          = results.failed ++ [(path, failure)] := rfl
      simp only [Tally.add, herrors', herrors, hfailed, List.countP_append]
      cases failure <;> simp [errorsTold, Failure.isFile, Failure.isTokenize] <;> omega

/-- Any number of files, with their records. -/
theorem addAll (h : results.AgreesWith tally) {outcome : Path → Except Failure FileStats}
    {jobs : List Job} {record : Job → FileRecord}
    (herrors : ∀ job, (record job).errors = errorsTold (outcome job.path)) :
    (results.addAll outcome (jobs.map Job.path)).AgreesWith
      ((jobs.map record).foldl Tally.add tally) := by
  induction jobs generalizing results tally with
  | nil => exact h
  | cons job rest ih => exact ih (h.add (herrors job))

/-- The order of the results does not matter. -/
theorem sort (h : results.AgreesWith tally) : results.sort.AgreesWith tally := by
  have hsuccessful : results.sort.successful.Perm results.successful := List.mergeSort_perm ..
  have hfailed : results.sort.failed.Perm results.failed := List.mergeSort_perm ..
  obtain ⟨hfiles, hwith, hwithout, herrors⟩ := h
  refine ⟨hfiles, ?_, ?_, ?_⟩
  · rw [hwith, failureCount, failureCount, hfailed.length_eq]
  · rw [hwithout, successCount, successCount, hsuccessful.length_eq]
  · rw [herrors, hfailed.countP_eq, hfailed.countP_eq]

end Results.AgreesWith

/-! ## Records -/

/-- What a batch has left in the journal. -/
structure Results.Recorded (results : Results) (journal : Journal) : Prop where
  /-- The counts fit the results. -/
  agrees : results.AgreesWith journal.tally
  /-- No file has had so many problems that one of them was dropped. -/
  room : ∀ collector, journal.collector? = some collector →
    ∀ record ∈ collector.files.values, record.events.length < Limits.eventsPerFile
  /-- The collector got the entries about the processed files, those about each file in order. Whoever
  made an entry first, the counts fit. -/
  interleaved : ∃ (records : List FileRecord) (filings : List Filing),
    (records.map (·.path)).Perm (results.successful.map Prod.fst ++ results.failed.map Prod.fst) ∧
    Interleaves (records.map FileRecord.filings) filings ∧
    journal.collector? = some (.fileAll .empty filings) ∧
    ∀ filings', Interleaves (records.map FileRecord.filings) filings' →
      results.AgreesWith (Collector.fileAll .empty filings').tally

/-- However the entries about files take turns, the collector has the records of the files. -/
theorem values_of_interleaves {records : List FileRecord} {filings : List Filing}
    (hdistinct : (records.map (·.path.orderKey)).Nodup)
    (hroom : ∀ record ∈ records, record.events.length ≤ Limits.eventsPerFile)
    (h : Interleaves (records.map FileRecord.filings) filings) :
    (Collector.fileAll .empty filings).files.values.Perm records := by
  refine Collector.values_fileAll_perm hdistinct hroom (fun filing hfiling => ?_)
    fun record hrecord => ?_
  · rw [h.perm.mem_iff, ← List.flatMap_def, List.mem_flatMap] at hfiling
    exact hfiling
  · refine h.filter_eq hdistinct (fun record _ filing hmem => ?_) hrecord
    exact congrArg Path.orderKey (FileRecord.path_of_mem_filings hmem)

/-- If the records fit the results, so does the collector that they are in. -/
theorem recorded_of_records {records : List FileRecord} {filings : List Filing} {results : Results}
    {journal : Journal} (hdistinct : (records.map (·.path.orderKey)).Nodup)
    (hroom : ∀ record ∈ records, record.events.length < Limits.eventsPerFile)
    (hpaths : (records.map (·.path)).Perm
      (results.successful.map Prod.fst ++ results.failed.map Prod.fst))
    (hresults : ∀ collector : Collector, collector.files.values.Perm records →
      results.AgreesWith collector.tally)
    (hfilings : Interleaves (records.map FileRecord.filings) filings)
    (hcollector : journal.collector? = some (.fileAll .empty filings)) : results.Recorded journal := by
  have hvalues {filings : List Filing} (h : Interleaves (records.map FileRecord.filings) filings) :
      (Collector.fileAll .empty filings).files.values.Perm records :=
    values_of_interleaves hdistinct (fun record hrecord => Nat.le_of_lt (hroom record hrecord)) h
  refine ⟨Journal.tally_eq hcollector ▸ hresults _ (hvalues hfilings),
    fun collector hsome record hrecord => ?_,
    records, filings, hpaths, hfilings, hcollector, fun filings' h => hresults _ (hvalues h)⟩
  rw [hcollector] at hsome
  cases hsome
  exact hroom record ((hvalues hfilings).mem_iff.mp hrecord)

/-! ## What a batch enters -/

section

variable (files : FileSystem) (grammar : Grammar) (config : Config)

/-- The record of a job whose problems are known. -/
def recordOf (setting : Setting) (problems : Path → List Event) (job : Job) : FileRecord :=
  ⟨job.path, (problems job.path).map (setting.about job.context).tag⟩

theorem filings_recordOf (setting : Setting) (problems : Path → List Event) (job : Job) :
    (recordOf setting problems job).filings
      = .start job.path :: (setting.about job.context).filings (problems job.path) := by
  rw [FileRecord.filings, recordOf, List.map_map]
  rfl

/-! ### Several workers -/

/-- What an act enters: it is about the file of the job, whoever else works on another one. -/
def Act.filings (setting : Setting) : Act → List Filing
  | begin job => [.start job.path]
  | tell job event =>
    (setting.about job.context).filings (if event.isProblem then [event] else [])
  | ask _ => []
  | finish _ _ => []

theorem filings_actsLeft (setting : Setting) (job : Job) (work : Steps (Except Failure FileStats)) :
    (actsLeft setting.choice job work).flatMap (Act.filings setting)
      = (setting.about job.context).filings (work.problems setting.choice) := by
  induction work with
  | done outcome => exact (Setting.filings_nil _).symm
  | tell event rest ih =>
    rw [actsLeft, List.flatMap_cons, ih, Act.filings, ← Setting.filings_append, Steps.problems,
      Steps.problems, Steps.told, List.filter_cons]
    split <;> rfl
  | ask rest ih => exact ih setting.choice

/-- The acts for a job enter its record. -/
theorem filings_jobActs (setting : Setting) (job : Job) :
    (jobActs files grammar setting.choice job).flatMap (Act.filings setting)
      = (recordOf setting (jobProblems files grammar) job).filings := by
  rw [jobActs, List.flatMap_cons, filings_actsLeft, problems_processJob, filings_recordOf]
  rfl

theorem enters_perform (setting : Setting) (act : Act) (results : Results) :
    Enters (act.perform config results) setting (act.filings setting) := by
  cases act with
  | begin job =>
    refine Enters.after ?_ fun _ _ => (Enters.withOwnFile_enterFile none job.context).before
      fun _ _ => .pure _
    exact .tellIf (.print _) (.pure _)
  | tell job event =>
    exact (Enters.withOwnFile (Tells.noteEvent event (setting.about job.context))).before
      fun _ _ => .pure _
  | ask job =>
    have hask : Enters tokenizerPreferences (setting.about job.context) [] :=
      .of_unchanged fun _ => ⟨rfl, rfl⟩
    exact hask.withOwnFile.before fun _ _ => .pure _
  | finish job outcome => exact .pure _

/-- Acts enter what each of them enters, one after the other. -/
theorem enters_performAll (setting : Setting) (acts : List Act) (results : Results) :
    Enters (performAll config acts results) setting (acts.flatMap (Act.filings setting)) := by
  induction acts generalizing results with
  | nil => exact .pure _
  | cons act rest ih =>
    rw [performAll_cons, List.flatMap_cons]
    exact (enters_perform config setting act results).bind fun results _ => ih results

variable {files grammar config} {path : Path} {found : List Path}

/-- What the workers enter for a batch that is run on its own. -/
theorem enters_runChunks (schedules : Nat → List Nat) (found : List Path) {setting : Setting}
    (hfile : setting.file = none) :
    let size := chunkSize found.length config.workers
    Enters (runChunks files grammar config schedules size 0 (chunksOf size found)
        { Results.empty with discovered := found.length }) setting
      ((batchActs files grammar config setting.choice schedules found).flatMap
        (Act.filings setting)) := by
  intro size journal hsetting
  have hchoice : journal.choice = setting.choice := congrArg Setting.choice hsetting
  rw [runChunks_run schedules size 0 _ fun _ => rfl, hchoice]
  refine Enters.before (enters_performAll config setting _ _) (fun results _ => ?_) journal hsetting
  exact .tellIf ((Tells.noteEvent _).enters_of_no_file hfile) (.pure _)

theorem enters_runParallel (hfound : filesOf files config path = .ok found)
    (schedules : Nat → List Nat) {setting : Setting} (hfile : setting.file = none) :
    Enters (runParallel files grammar config schedules path) setting
      ((batchActs files grammar config setting.choice schedules found).flatMap
        (Act.filings setting)) := by
  have hanswer := answers_discover files config path
  rw [hfound] at hanswer
  have hnote (event : Event) : Enters (note event) setting [] :=
    (Tells.noteEvent event).enters_of_no_file hfile
  have hdiscover := (tells_discover files config path).enters_of_no_file hfile
  refine (hnote _).after fun _ _ => .after_answer hanswer hdiscover ?_
  refine (hnote _).after fun _ _ => (enters_runChunks schedules found hfile).before fun _ _ => ?_
  exact (hnote _).after fun _ _ => .pure _

variable (files grammar config)

/-! ### One worker -/

/-- The entries about jobs that are done one after the other. -/
def filingsOf (setting : Setting) (problems : Path → List Event) (jobs : List Job) : List Filing :=
  (jobs.map (recordOf setting problems)).flatMap FileRecord.filings

theorem filingsOf_cons (setting : Setting) (problems : Path → List Event) (job : Job)
    (rest : List Job) :
    filingsOf setting problems (job :: rest)
      = (recordOf setting problems job).filings ++ filingsOf setting problems rest := rfl

/-- The problems of a file that one worker gets to: it tells that the batch is to end. -/
def inOrderProblems (path : Path) : List Event :=
  jobProblems files grammar path ++
    if config.failFast && !(outcomeOf files grammar path).isOk then [failFastEvent] else []

theorem enters_workInOrder (job : Job) (setting : Setting) :
    Enters (workInOrder files grammar config job) setting
      (recordOf setting (inOrderProblems files grammar config) job).filings := by
  have hjob : Tells (processJob files grammar job).run (jobProblems files grammar job.path) :=
    .run fun _ => problems_processJob files grammar job
  have hanswer : Answers (processJob files grammar job).run (outcomeOf files grammar job.path) :=
    .run fun _ => answer_processJob files grammar job
  rw [filings_recordOf]
  refine .withFile (hjob.bind_answer hanswer ?_ (setting.about job.context))
  split
  · exact (Tells.note rfl).before fun _ _ => .pure _
  · exact .pure _

theorem enters_runInOrder (setting : Setting) (total : Nat) (jobs : List Job)
    (results : Results) :
    Enters (runInOrder files grammar config total jobs results) setting
      (filingsOf setting (inOrderProblems files grammar config)
        (upTo (endsAt files grammar config) jobs)) := by
  induction jobs generalizing results with
  | nil => exact .pure _
  | cons job rest ih =>
    rw [upTo, filingsOf_cons]
    refine .tellIf (.print _) (Enters.bind_answer
      (enters_workInOrder files grammar config job setting)
      (answers_workInOrder files grammar config job) ?_)
    rw [endsAt]
    split
    · exact .pure _
    · exact ih _

variable {files grammar config}

/-- What one worker enters for a batch. Problems of the batch itself come first: they are those of the
file that is being worked on, if there is one. -/
theorem enters_runSequential (hfound : filesOf files config path = .ok found) (setting : Setting) :
    Enters (runSequential files grammar config path) setting
      (setting.filings (discoverProblems files config path)
        ++ filingsOf setting (inOrderProblems files grammar config)
          (doneByOne files grammar config found)) := by
  have hanswer := answers_discover files config path
  rw [hfound] at hanswer
  have hstart {event : Event} (h : event.isProblem = false) : Enters (note event) setting [] :=
    (Tells.note_of_not h).enters_of_nil setting
  refine (hstart rfl).after fun _ _ => ?_
  refine (tells_discover files config path setting).bind_answer hanswer ?_
  refine (enters_runInOrder files grammar config setting _ _ _).before fun results _ => ?_
  exact (hstart rfl).after fun _ _ => .pure _

/-! ## The tally of a batch -/

/-- The ways to run a batch: with one worker, or with several that take turns by some schedules. -/
inductive RunsBatch (files : FileSystem) (grammar : Grammar) (config : Config) (path : Path) :
    Logged (Except BatchError Results) → Prop
  | oneWorker : RunsBatch files grammar config path (runSequential files grammar config path)
  | workers (schedules : Nat → List Nat) :
    RunsBatch files grammar config path (runParallel files grammar config schedules path)

theorem runsBatch_run : RunsBatch files grammar config path (run files grammar config path) := by
  rw [run]
  split
  · exact .oneWorker
  · exact .workers inTurn

variable {work : Logged (Except BatchError Results)}

/-- No two jobs of a batch are about the same file. -/
theorem distinct_of_front {done : List Job} (hdistinct : (found.map Path.components).Nodup)
    (hdone : done <+: jobsOf found) : (done.map fun job => job.path.orderKey).Nodup := by
  have hkeys : (found.map Path.orderKey).Nodup := by
    have h := hdistinct.map Component.map_orderKey_injective
    rwa [List.map_map] at h
  have hall : ((jobsOf found).map fun job => job.path.orderKey).Nodup := by
    have hpaths : (jobsOf found).map (fun job => job.path.orderKey)
        = ((jobsOf found).map Job.path).map Path.orderKey := by rw [List.map_map]; rfl
    rw [hpaths, jobsOf, map_path_jobsFrom]
    exact hkeys
  exact hall.sublist (hdone.sublist.map _)

/-- Jobs whose problems have the errors of the outcomes, in whatever order their outcomes are added. -/
theorem recorded_of_jobs {problems : Path → List Event} {setting : Setting} {done order : List Job}
    {filings : List Filing} {journal : Journal}
    (herrors : ∀ path, (problems path).countP (·.isError)
      = errorsTold (outcomeOf files grammar path))
    (hroom : ∀ path, (problems path).length < Limits.eventsPerFile)
    (hdistinct : (done.map fun job => job.path.orderKey).Nodup) (horder : order.Perm done)
    (hfilings : Interleaves ((done.map (recordOf setting problems)).map FileRecord.filings) filings)
    (hcollector : journal.collector? = some (.fileAll .empty filings)) :
    (resultsAfter files grammar found order).Recorded journal := by
  have hkeys : ((done.map (recordOf setting problems)).map (·.path.orderKey)).Nodup := by
    rw [List.map_map]
    exact hdistinct
  have hpaths : (done.map (recordOf setting problems)).map (·.path) = done.map Job.path := by
    rw [List.map_map]
    rfl
  refine recorded_of_records hkeys (fun record hrecord => ?_) ?_ (fun collector hvalues => ?_)
    hfilings hcollector
  · obtain ⟨job, -, rfl⟩ := List.mem_map.mp hrecord
    simpa [recordOf] using hroom job.path
  · rw [hpaths]
    exact ((Results.listed_addAll _ _ _).trans (horder.map Job.path)).symm
  · rw [Collector.tally_of_perm (hvalues.trans (horder.symm.map _))]
    refine (Results.AgreesWith.empty found.length).addAll fun job => ?_
    rw [← herrors job.path]
    simp [FileRecord.errors, recordOf, List.countP_map, Function.comp_def]

theorem Results.Recorded.sort {results : Results} {journal : Journal} (h : results.Recorded journal) :
    results.sort.Recorded journal := by
  obtain ⟨hagrees, hroom, records, filings, hpaths, hfilings, hcollector, hany⟩ := h
  have hsuccessful : results.sort.successful.Perm results.successful := List.mergeSort_perm ..
  have hfailed : results.sort.failed.Perm results.failed := List.mergeSort_perm ..
  exact ⟨hagrees.sort, hroom, records, filings,
    hpaths.trans ((hsuccessful.symm.map _).append (hfailed.symm.map _)), hfilings, hcollector,
    fun filings hfilings => (hany filings hfilings).sort⟩

theorem errors_inOrderProblems (path : Path) :
    (inOrderProblems files grammar config path).countP (·.isError)
      = errorsTold (outcomeOf files grammar path) := by
  rw [inOrderProblems, List.countP_append, errors_jobProblems]
  split <;> rfl

theorem length_inOrderProblems_le (path : Path) :
    (inOrderProblems files grammar config path).length ≤ 528 := by
  have hjob := length_jobProblems_le files grammar path
  rw [inOrderProblems, List.length_append]
  split
  · rw [List.length_singleton]
    omega
  · rw [List.length_nil]
    omega

section

variable {journal : Journal} (hnames : files.root.WellNamed)
  (hempty : journal.collector? = some .empty) (hfile : journal.setting.file = none)
  (hfound : filesOf files config path = .ok found)

include hnames hempty hfile hfound

theorem recorded_runSequential :
    (resultsAfter files grammar found (doneByOne files grammar config found)).Recorded
      ((runSequential files grammar config path).run journal).2 := by
  have hkeys : ((doneByOne files grammar config found).map fun job => job.path.orderKey).Nodup :=
    distinct_of_front (distinct_of_filesOf hnames hfound) (upTo_front _ _)
  have hroom (path : Path) :
      (inOrderProblems files grammar config path).length < Limits.eventsPerFile :=
    Nat.lt_of_le_of_lt (length_inOrderProblems_le path) (by decide)
  obtain ⟨-, hcollector⟩ := enters_runSequential hfound journal.setting journal rfl
  rw [hempty, Setting.filings_of_no_file hfile, List.nil_append] at hcollector
  exact recorded_of_jobs errors_inOrderProblems hroom hkeys (.refl _) (.flatten _) hcollector

theorem recorded_runParallel (schedules : Nat → List Nat) :
    (resultsAfter files grammar found
        (doneOrder files grammar config journal.choice schedules found)).Recorded
      ((runParallel files grammar config schedules path).run journal).2 := by
  have hkeys : ((doneByAll files grammar config found).map fun job => job.path.orderKey).Nodup :=
    distinct_of_front (distinct_of_filesOf hnames hfound) (doneByAll_front ..)
  have hroom (path : Path) : (jobProblems files grammar path).length < Limits.eventsPerFile :=
    Nat.lt_of_le_of_lt (length_jobProblems_le files grammar path) (by decide)
  obtain ⟨-, hcollector⟩ := enters_runParallel hfound schedules hfile journal rfl
  rw [hempty] at hcollector
  have hfilings := (interleaves_batchActs files grammar config journal.choice schedules found).flatMap
    (Act.filings journal.setting)
  have hrecords : ((doneByAll files grammar config found).map
        (jobActs files grammar journal.choice)).map (·.flatMap (Act.filings journal.setting))
      = ((doneByAll files grammar config found).map
        (recordOf journal.setting (jobProblems files grammar))).map FileRecord.filings := by
    rw [List.map_map, List.map_map]
    exact List.map_congr_left fun job _ => filings_jobActs files grammar journal.setting job
  rw [hrecords] at hfilings
  exact recorded_of_jobs (errors_jobProblems files grammar) hroom hkeys
    (doneOrder_perm files grammar config journal.choice schedules found) hfilings hcollector

end

/-- The collector agrees with the results of every batch that is run on its own in an open journal whose
collector is empty, with one worker or with several, however these take turns. -/
theorem recorded_of_runsBatch (hnames : files.root.WellNamed) {journal : Journal} {service : Service}
    (hopen : journal.recorder = some ⟨service, .empty⟩) (hfile : journal.currentFile = none)
    (hwork : RunsBatch files grammar config path work) {results : Results}
    (hresults : (work.run journal).1 = .ok results) :
    results.Recorded (work.run journal).2 := by
  have hempty : journal.collector? = some .empty := by rw [Journal.collector?, hopen]; rfl
  cases hwork with
  | oneWorker =>
    rw [answers_runSequential files grammar config path journal] at hresults
    obtain ⟨found, hfound, rfl⟩ := map_eq_ok.mp hresults
    exact recorded_runSequential hnames hempty hfile hfound
  | workers schedules =>
    rw [answer_runParallel files grammar config schedules journal path] at hresults
    obtain ⟨found, hfound, rfl⟩ := map_eq_ok.mp hresults
    exact (recorded_runParallel hnames hempty hfile hfound schedules).sort

end

/-- An open journal with an empty collector. -/
def openedJournal : Journal :=
  { Journal.ofVariables [] with recorder := some ⟨⟨.error, .silent⟩, .empty⟩ }

/-- The batch is to end at the second file, which is in the first chunk of two. -/
def failFastConfig : Config := { sampleConfig with failFast := true }

theorem wellNamed_sampleFiles : sampleFiles.root.WellNamed := by
  refine .folder _ (by decide) (by decide) fun entry hentry => ?_
  simp only [sampleEntries, List.mem_cons, List.not_mem_nil, or_false] at hentry
  obtain rfl | rfl | rfl := hentry <;> exact .file _

theorem sampleBatch_recorded :
    sampleFiles.root.WellNamed ∧ openedJournal.currentFile = none ∧ ∃ results,
      ((runParallel sampleFiles sampleGrammar failFastConfig (fun _ => [1, 0, 1, 0]) ⟨"."⟩).run
        openedJournal).1 = .ok results ∧
      results.Recorded ((runParallel sampleFiles sampleGrammar failFastConfig (fun _ => [1, 0, 1, 0])
        ⟨"."⟩).run openedJournal).2 := by
  have hfound : filesOf sampleFiles failFastConfig ⟨"."⟩ = .ok samplePaths :=
    filesOf_sampleFiles rfl rfl
  have hanswer := answer_runParallel sampleFiles sampleGrammar failFastConfig
    (fun _ => [1, 0, 1, 0]) openedJournal ⟨"."⟩
  rw [hfound, Except.map] at hanswer
  exact ⟨wellNamed_sampleFiles, rfl, _, hanswer,
    recorded_of_runsBatch wellNamed_sampleFiles rfl rfl (.workers fun _ => [1, 0, 1, 0]) hanswer⟩

/-- One file of three is to be taken, while another file is being worked on. -/
def cutConfig : Config := { sampleConfig with maxFiles := some 1 }

def enclosedJournal : Journal := { openedJournal with currentFile := some ⟨⟨"outer"⟩, 0⟩ }

/-- The file that is worked on around a batch is counted with the batch's own files once something is
told of the batch, here that files were left out. -/
theorem not_agreesWith_of_enclosed :
    ¬ ∀ (files : FileSystem) (grammar : Grammar) (config : Config) (path : Path)
        (work : Logged (Except BatchError Results)) (journal : Journal) (service : Service)
        (results : Results),
      files.root.WellNamed → journal.recorder = some ⟨service, .empty⟩ →
      RunsBatch files grammar config path work → (work.run journal).1 = .ok results →
      results.AgreesWith (work.run journal).2.tally := by
  intro h
  have hdiscover : discover? sampleFiles cutConfig ⟨"."⟩ = .ok samplePaths :=
    discover?_sampleFiles rfl
  have hfound : filesOf sampleFiles cutConfig ⟨"."⟩ = .ok [⟨"./a"⟩] := by
    rw [filesOf, hdiscover]
    rfl
  have hanswer := answers_runSequential sampleFiles sampleGrammar cutConfig ⟨"."⟩
  rw [hfound, Except.map] at hanswer
  have hagrees := h _ _ _ _ _ enclosedJournal _ _ wellNamed_sampleFiles rfl .oneWorker
    (hanswer enclosedJournal)
  have henters : Enters (runSequential sampleFiles sampleGrammar cutConfig ⟨"."⟩) _ _ :=
    enters_runSequential hfound enclosedJournal.setting
  obtain ⟨-, hcollector⟩ := henters enclosedJournal rfl
  have hdone : doneByOne sampleFiles sampleGrammar cutConfig [⟨"./a"⟩] = [⟨⟨"./a"⟩, 0⟩] := by
    show (Job.mk ⟨"./a"⟩ 0 :: if _ then [] else []) = _
    split <;> rfl
  obtain ⟨event, hevent⟩ : ∃ event, discoverProblems sampleFiles cutConfig ⟨"."⟩ = [event] := by
    rw [discoverProblems, hdiscover]
    exact ⟨_, rfl⟩
  have hfiles := hagrees.files
  rw [hdone, hevent] at hcollector
  rw [hdone, resultsAfter, Results.addAll_eq, Journal.tally_eq hcollector] at hfiles
  -- what discovering told was filed under the file around the batch
  have houter : Filing.keep ⟨"outer"⟩ (enclosedJournal.setting.tag event)
      ∈ enclosedJournal.setting.filings [event] := List.mem_cons_self
  have htaken : Filing.start ⟨"./a"⟩ ∈ filingsOf enclosedJournal.setting
      (inOrderProblems sampleFiles sampleGrammar cutConfig) [⟨⟨"./a"⟩, 0⟩] := List.mem_cons_self
  have hkeys : Path.orderKey ⟨"outer"⟩ ≠ Path.orderKey ⟨"./a"⟩ := by decide
  have hgt := Collector.one_lt_files_tally .empty (List.mem_append_left _ houter)
    (List.mem_append_right _ htaken) hkeys
  exact absurd hfiles (Nat.ne_of_gt hgt)

end LineLexer.Batch
