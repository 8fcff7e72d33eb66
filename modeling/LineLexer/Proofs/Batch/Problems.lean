import LineLexer.Proofs.Batch.Outcome
import LineLexer.Proofs.Tokenize.Overlong

/-!
# The problems of a file

The problems that are told while a job is done are settled by the files and the grammar, as the
outcome is (`problems_processJob`). Each way to fail tells a known number of errors, and a file that goes
well tells none (`errors_jobProblems`): a check that fails tells one and the batch another one, a
fault of tokenizing is told by the batch alone. There are few warnings, because a file that passes
the checks has room for few lines that are too long (`length_jobProblems_le`).
-/

namespace LineLexer

open Diagnostics Files

/-! ## Reading a file -/

namespace Files

variable {α β : Type}

/-- A check that fails tells an error. -/
def Checked.Told (check : Checked α) : Prop :=
  ∀ failure, check = .error failure → failure.2.isError = true

/-- The problems that are told when a check is gone on from. -/
def Checked.problems (check : Checked α) (next : α → List Event) : List Event :=
  match check with
  | .ok value => next value
  | .error (_, event) => [event]

/-- One error if there is no answer. -/
def errorCount {ε : Type} : Except ε α → Nat
  | .ok _ => 0
  | .error _ => 1

theorem told_ok (value : α) : Checked.Told (.ok value) := fun _ h => nomatch h

theorem told_refuse (error : FileError) (message : String) (details : List (String × String)) :
    Checked.Told (refuse error message details : Checked α) := by
  rintro failure ⟨⟩
  rfl

section

variable {check : Checked α} {problems : α → List Event}

theorem problems_proceed {choice : TokenizerPreferences}
    {next : α → Steps (Except FileError β)} (htold : check.Told)
    (hnext : ∀ value, (next value).problems choice = problems value) :
    (proceed check next).problems choice = check.problems problems := by
  cases check with
  | ok value => exact hnext value
  | error failure =>
    have hproblem : failure.2.isProblem = true := by
      rw [Event.isProblem, htold failure rfl, Bool.true_or]
    rw [proceed, Steps.problems_bind, Steps.problems_note hproblem]
    rfl

theorem errors_problems {answer : α → Except FileError β} (htold : check.Told)
    (hnext : ∀ value, (problems value).countP (·.isError) = errorCount (answer value)) :
    (check.problems problems).countP (·.isError) = errorCount (check.answer >>= answer) := by
  cases check with
  | ok value => exact hnext value
  | error failure => simp [Checked.problems, htold failure rfl, Checked.answer, errorCount]; rfl

theorem length_problems_le {limit : Nat} (hpos : 1 ≤ limit)
    (hnext : ∀ value, (problems value).length ≤ limit) :
    (check.problems problems).length ≤ limit := by
  cases check with
  | ok value => exact hnext value
  | error failure => exact hpos

end

variable (files : FileSystem) (path : Path)

theorem told_attempt (answer : Except Fault α) (place : Path) (action message : String)
    (details : List (String × String)) : (attempt answer place action message details).Told := by
  cases answer with
  | ok value => exact told_ok value
  | error fault => exact told_refuse _ _ _

theorem told_locate : (locate files path).Told := by
  rw [locate]
  split
  · exact told_refuse _ _ _
  · split
    · exact told_attempt _ _ _ _ _
    · exact told_refuse _ _ _

theorem told_measure : (measure files path).Told := by
  rw [measure]
  cases files.sizeOf path with
  | ok size => exact told_ok _
  | error fault => exact told_refuse _ _ _

theorem told_checkSize (metadata : Metadata) : (checkSize path metadata).Told := by
  rw [checkSize]
  split
  · exact told_refuse _ _ _
  · exact told_ok _

theorem told_readSource (place : Path) : (readSource files path place).Told :=
  told_attempt _ _ _ _ _

theorem told_checkLines (lineCount : Nat) : (checkLines path lineCount).Told := by
  rw [checkLines]
  split
  · exact told_refuse _ _ _
  · exact told_ok _

/-- What is told of the size of a file that is not too large. -/
def sizeProblems (metadata : Metadata) : List Event :=
  if metadata.isLarge then [largeFileEvent path metadata] else []

/-- The problems that are told when a file is read. -/
def readProblems : List Event :=
  (locate files path).problems fun place =>
    (measure files place).problems fun metadata =>
      (checkSize path metadata).problems fun _ =>
        sizeProblems path metadata ++
          (readSource files path place).problems fun source =>
            (checkLines path (Text.lineCount source.toList)).problems fun _ => []

theorem problems_loadText {choice : TokenizerPreferences} :
    (loadText files Batch.filePreferences path).problems choice = readProblems files path := by
  rw [loadText, Steps.problems_bind_of_not rfl]
  refine problems_proceed (told_locate files path) fun place => ?_
  refine problems_proceed (told_measure files place) fun metadata => ?_
  rw [Steps.problems_bind_of_not rfl]
  refine problems_proceed (told_checkSize path metadata) fun _ => ?_
  have hread : ∀ source, (proceed (checkLines path (Text.lineCount source.toList)) fun _ => do
      let text : FileText := ⟨source, { metadata with lineCount := Text.lineCount source.toList }⟩
      Steps.note (text.event path Batch.filePreferences.performance)
      return .ok text).problems choice
        = (checkLines path (Text.lineCount source.toList)).problems fun _ => [] := fun source =>
    problems_proceed (told_checkLines path _) fun _ => rfl
  rw [sizeProblems]
  cases hlarge : metadata.isLarge with
  | false => exact problems_proceed (told_readSource files path place) hread
  | true =>
    exact (Steps.problems_bind _ _).trans
      (congrArg _ (problems_proceed (told_readSource files path place) hread))

theorem errors_sizeProblems (metadata : Metadata) :
    (sizeProblems path metadata).countP (·.isError) = 0 := by
  rw [sizeProblems]
  split <;> rfl

/-- A file that is not read has one error, and one that is read has none. -/
theorem errors_readProblems :
    (readProblems files path).countP (·.isError) = errorCount (readFile files path) := by
  refine errors_problems (told_locate files path) fun place => ?_
  refine errors_problems (told_measure files place) fun metadata => ?_
  refine errors_problems (told_checkSize path metadata) fun _ => ?_
  rw [List.countP_append, errors_sizeProblems, Nat.zero_add]
  refine errors_problems (told_readSource files path place) fun source => ?_
  exact errors_problems (told_checkLines path _) fun _ => rfl

/-- It is a large one, or there is something wrong with it, or both. -/
theorem length_readProblems_le : (readProblems files path).length ≤ 2 := by
  refine length_problems_le (by omega) fun place => ?_
  refine length_problems_le (by omega) fun metadata => ?_
  refine length_problems_le (by omega) fun _ => ?_
  have hsize : (sizeProblems path metadata).length ≤ 1 := by
    rw [sizeProblems]
    split <;> simp
  have hrest : ((readSource files path place).problems fun source =>
      (checkLines path (Text.lineCount source.toList)).problems fun _ => []).length ≤ 1 :=
    length_problems_le (Nat.le_refl 1) fun source =>
      length_problems_le (Nat.le_refl 1) fun _ => Nat.zero_le 1
  rw [List.length_append]
  omega

variable {files path}

theorem Checked.answer_eq_ok {check : Checked α} {value : α} :
    check.answer = .ok value ↔ check = .ok value := by
  cases check <;> simp [answer]

theorem attempt_eq_ok {answer : Except Fault α} {place : Path} {action message : String}
    {details : List (String × String)} {value : α} :
    attempt answer place action message details = .ok value ↔ answer = .ok value := by
  cases answer <;> simp [attempt, refuse]

theorem sizeOf_of_measure {metadata : Metadata} (h : measure files path = .ok metadata) :
    files.sizeOf path = .ok metadata.size := by
  obtain ⟨size, hsize, h⟩ := bind_eq_ok.mp h
  cases h
  exact attempt_eq_ok.mp hsize

/-- A text that is read has as many bytes as are measured. -/
theorem utf8ByteSize_of_readText {size : Nat} {source : String} (hsize : files.sizeOf path = .ok size)
    (hsource : files.readText path = .ok source) : source.utf8ByteSize = size := by
  obtain ⟨content, hcontent, hsize⟩ := bind_eq_ok.mp hsize
  obtain ⟨content', hcontent', hsource⟩ := bind_eq_ok.mp hsource
  cases hcontent.symm.trans hcontent'
  obtain ⟨⟨⟩, -, hsize⟩ := bind_eq_ok.mp hsize
  obtain ⟨⟨⟩, -, hsource⟩ := bind_eq_ok.mp hsource
  cases hsize
  split at hsource
  · rename_i text htext
    cases hsource
    rw [String.fromUTF8?] at htext
    split at htext <;> cases htext
    rfl
  · cases hsource

/-- The text of a file that was read has as many bytes as the file, which is not too large. -/
theorem size_of_readFile {text : FileText} (h : readFile files path = .ok text) :
    text.source.utf8ByteSize ≤ Limits.fileSize := by
  obtain ⟨place, -, h⟩ := bind_eq_ok.mp h
  obtain ⟨metadata, hmeasure, h⟩ := bind_eq_ok.mp h
  obtain ⟨⟨⟩, hcheck, h⟩ := bind_eq_ok.mp h
  obtain ⟨source, hsource, h⟩ := bind_eq_ok.mp h
  obtain ⟨⟨⟩, -, h⟩ := bind_eq_ok.mp h
  cases h
  rw [Checked.answer_eq_ok] at hmeasure hsource
  rw [utf8ByteSize_of_readText (sizeOf_of_measure hmeasure) (attempt_eq_ok.mp hsource)]
  rw [Checked.answer_eq_ok, checkSize] at hcheck
  split at hcheck
  · cases hcheck
  · rename_i hle
    exact Nat.le_of_not_lt hle

end Files

/-! ## Doing a job -/

namespace Batch

variable (files : FileSystem) (grammar : Grammar) (path : Path)

/-- The problems that are told when a file is read and tokenized. -/
def fileProblems : List Event :=
  readProblems files path ++
    match readFile files path with
    | .error _ => []
    | .ok text => overlongEvents 0 (grammar.scanLines (documentLines text.source))

/-- The problems that are told when a file is the one that is being worked on. -/
def jobProblems : List Event :=
  fileProblems files grammar path ++
    match outcomeOf files grammar path with
    | .error failure => [failureEvent path failure]
    | .ok _ => []

section

variable {choice : TokenizerPreferences}

theorem problems_tokenizeFile :
    (tokenizeFile files grammar path).problems choice = fileProblems files grammar path := by
  rw [tokenizeFile, Steps.problems_bind, problems_loadText, answer_loadText, fileProblems]
  congr 1
  cases readFile files path with
  | error error => rfl
  | ok text =>
    dsimp only
    rw [Steps.problems_bind, tokenizeText, Steps.problems_bind_of_not rfl, problems_ofTextLogged]
    refine List.append_right_eq_self.mpr ?_
    split <;> rfl

theorem problems_processJob (job : Job) :
    (processJob files grammar job).problems choice = jobProblems files grammar job.path := by
  rw [processJob, Steps.problems_bind, problems_tokenizeFile, answer_tokenizeFile, jobProblems]
  congr 1
  cases outcomeOf files grammar job.path <;> rfl

end

/-- How many errors are told of a file. -/
def errorsTold : Except Failure FileStats → Nat
  | .ok _ => 0
  | .error (.file _) => 2
  | .error (.tokenize _) => 1

theorem errors_jobProblems :
    (jobProblems files grammar path).countP (·.isError)
      = errorsTold (outcomeOf files grammar path) := by
  have hoverlong (lines : List ScannedLine) :
      (overlongEvents 0 lines).countP (·.isError) = 0 := by
    rw [List.countP_eq_zero]
    exact fun event h => by simp [isError_overlongEvents h]
  rw [jobProblems, fileProblems, List.countP_append, List.countP_append, errors_readProblems,
    outcomeOf]
  cases readFile files path with
  | error error => rfl
  | ok text =>
    dsimp only
    rw [hoverlong]
    cases Buffer.ofText grammar false text.source <;> rfl

/-- Of a file that was read there is at most one warning of its size, and one of each line that is too
long. -/
theorem length_jobProblems_le : (jobProblems files grammar path).length ≤ 527 := by
  have hread := length_readProblems_le files path
  have hfile : (fileProblems files grammar path).length ≤ 526 := by
    rw [fileProblems, List.length_append]
    cases htext : readFile files path with
    | error error =>
      dsimp only [List.length_nil]
      omega
    | ok text =>
      have hsize := size_of_readFile htext
      have hlines := length_overlongEvents_le grammar text.source
      rw [Limits.lineLength] at hlines
      rw [Limits.fileSize] at hsize
      dsimp only
      omega
  rw [jobProblems, List.length_append]
  cases outcomeOf files grammar path with
  | error failure =>
    dsimp only [List.length_singleton]
    omega
  | ok stats =>
    dsimp only [List.length_nil]
    omega

end Batch
end LineLexer
