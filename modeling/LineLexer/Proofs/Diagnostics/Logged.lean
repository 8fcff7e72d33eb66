import LineLexer.Diagnostics.Journal
import LineLexer.Proofs.Diagnostics.Collector

/-!
# What a computation answers and enters

Many computations that tell events answer the same whatever the journal holds (`Answers`).

The errors and warnings that a computation tells are entered in the collector, about the file that is
being worked on. What is entered depends on this file, on whether events are tagged with it and on the
preferences for lines (`Setting`), not on what else the journal holds: not on the service with its level
and its sink, say.
`Enters` says what is entered in one setting, `Tells` which problems are told in any. All three are
put together as computations are.
-/

namespace LineLexer.Diagnostics

open Files

variable {α β : Type}

/-! ## Answers -/

theorem answer_bind (work : Logged α) (next : α → Logged β) (journal : Journal) :
    ((work >>= next).run journal).1
      = ((next (work.run journal).1).run (work.run journal).2).1 := rfl

/-- What a computation answers, whatever the journal holds. -/
def Answers (work : Logged α) (answer : α) : Prop :=
  ∀ journal, (work.run journal).1 = answer

namespace Answers

theorem pure (answer : α) : Answers (return answer) answer := fun _ => rfl

/-- Telling and printing answer nothing. -/
theorem unit (work : Logged Unit) : Answers work () := fun _ => rfl

theorem bind {work : Logged α} {next : α → Logged β} {middle : α} {answer : β}
    (hwork : Answers work middle) (hnext : Answers (next middle) answer) :
    Answers (work >>= next) answer := fun journal => by
  rw [answer_bind, hwork journal, hnext]

/-- Something may be told on the way. -/
theorem tellIf {c : Prop} [Decidable c] {tell : Logged Unit} {next : Unit → Logged α} {answer : α}
    (hnext : Answers (next ()) answer) :
    Answers (if c then tell >>= next else next ()) answer := by
  split
  · exact .bind (.unit tell) hnext
  · exact hnext

theorem withFile {work : Logged α} {answer : α} (hwork : Answers work answer)
    (file : FileContext) : Answers (withFile file work) answer := fun _ => hwork _

end Answers

/-! ## Settings -/

/-- What the entries about events depend on. -/
structure Setting where
  file : Option FileContext
  /-- Events are tagged with the file. -/
  tagged : Bool
  /-- The preferences for lines. -/
  choice : TokenizerPreferences

namespace Journal

/-- The preferences for lines that the journal answers with. -/
def choice (journal : Journal) : TokenizerPreferences :=
  journal.tokenizer.getD journal.preferences.tokenizer

def setting (journal : Journal) : Setting :=
  ⟨journal.currentFile, journal.preferences.journal.fileContext, journal.choice⟩

/-- The collector of an open journal. -/
def collector? (journal : Journal) : Option Collector := journal.recorder.map (·.collector)

theorem tally_eq {journal : Journal} {collector : Collector}
    (h : journal.collector? = some collector) : journal.tally = collector.tally := by
  obtain ⟨recorder, hrecorder, rfl⟩ := Option.map_eq_some_iff.mp h
  rw [tally, hrecorder]
  rfl

end Journal

namespace Setting

/-- The setting of somebody who works on a file. -/
def about (setting : Setting) (file : FileContext) : Setting := { setting with file := some file }

/-- The event as it goes to the service and the collector. -/
def tag (setting : Setting) (event : Event) : Event :=
  match setting.file with
  | some file =>
    if setting.tagged then
      (event.withDetail "file" file.path.text).withDetail "file_id" (toString file.id)
    else event
  | none => event

theorem tag_level (setting : Setting) (event : Event) : (setting.tag event).level = event.level := by
  rw [tag]
  split
  · split <;> rfl
  · rfl

@[simp] theorem isError_tag (setting : Setting) (event : Event) :
    (setting.tag event).isError = event.isError := by
  rw [Event.isError, tag_level, Event.isError]

@[simp] theorem isProblem_tag (setting : Setting) (event : Event) :
    (setting.tag event).isProblem = event.isProblem := by
  rw [Event.isProblem, Event.isError, Event.isWarning, tag_level]
  rfl

/-- What problems lead to: entries about the file, if there is one. -/
def filings (setting : Setting) (problems : List Event) : List Filing :=
  match setting.file with
  | some file => problems.map fun event => .keep file.path (setting.tag event)
  | none => []

@[simp] theorem filings_nil (setting : Setting) : setting.filings [] = [] := by
  rw [filings]
  split <;> rfl

theorem filings_of_no_file {setting : Setting} (h : setting.file = none) (problems : List Event) :
    setting.filings problems = [] := by
  rw [filings, h]

theorem filings_append (setting : Setting) (front back : List Event) :
    setting.filings (front ++ back) = setting.filings front ++ setting.filings back := by
  rw [filings, filings, filings]
  split
  · rw [List.map_append]
  · rfl

end Setting

namespace Journal

theorem tag_eq (journal : Journal) (event : Event) :
    journal.tag event = journal.setting.tag event := rfl

variable (journal : Journal) (event : Event)

theorem setting_note : (journal.note event).setting = journal.setting := by
  rw [note]
  split
  · rfl
  · dsimp only
    split <;> rfl

theorem currentFile_note : (journal.note event).currentFile = journal.currentFile :=
  congrArg Setting.file (journal.setting_note event)

@[simp] theorem choice_note : (journal.note event).choice = journal.choice :=
  congrArg Setting.choice (journal.setting_note event)

/-- An error or a warning is entered, and nothing else is. -/
theorem collector?_note :
    (journal.note event).collector? = journal.collector?.map
      (·.fileAll (journal.setting.filings (if event.isProblem then [event] else []))) := by
  cases hrecorder : journal.recorder with
  | none =>
    rw [note, hrecorder, collector?, hrecorder]
    rfl
  | some recorder =>
    obtain ⟨service, collector⟩ := recorder
    have hnote : (journal.note event).collector?
        = some (match journal.currentFile with
          | some file => if (journal.tag event).isProblem
              then collector.record file.path (journal.tag event) else collector
          | none => collector) := by
      rw [note, hrecorder]
      dsimp only
      split <;> rfl
    rw [hnote, collector?, hrecorder, tag_eq, Setting.isProblem_tag, Setting.filings]
    cases hfile : journal.currentFile with
    | none => simp [setting, hfile]
    | some file => cases hproblem : event.isProblem <;> simp [setting, hfile, Collector.file]

end Journal

/-! ## Entries of a computation -/

/-- What a computation enters in the collector, if there is one, in a setting that it leaves as it
was. -/
def Enters (work : Logged α) (setting : Setting) (filings : List Filing) : Prop :=
  ∀ journal : Journal, journal.setting = setting →
    (work.run journal).2.setting = setting ∧
    (work.run journal).2.collector? = journal.collector?.map (·.fileAll filings)

namespace Enters

variable {work : Logged α} {next : α → Logged β} {setting : Setting}

/-- Work that leaves the setting and the collector alone. -/
theorem of_unchanged (h : ∀ journal : Journal, (work.run journal).2.setting = journal.setting ∧
    (work.run journal).2.collector? = journal.collector?) : Enters work setting [] := by
  intro journal hsetting
  obtain ⟨hkept, hcollector⟩ := h journal
  rw [hkept, hcollector]
  exact ⟨hsetting, by simp⟩

theorem pure (answer : α) : Enters (return answer : Logged α) setting [] :=
  of_unchanged fun _ => ⟨rfl, rfl⟩

theorem print (text : String) : Enters (print text) setting [] := of_unchanged fun _ => ⟨rfl, rfl⟩

/-- Goes on with what was answered. -/
theorem bind {front back : List Filing} (hwork : Enters work setting front)
    (hnext : ∀ answer, (∃ journal, (work.run journal).1 = answer) →
      Enters (next answer) setting back) :
    Enters (work >>= next) setting (front ++ back) := by
  intro journal hsetting
  obtain ⟨hkept, hfront⟩ := hwork journal hsetting
  obtain ⟨hkept', hback⟩ := hnext _ ⟨journal, rfl⟩ _ hkept
  refine ⟨hkept', ?_⟩
  show ((next (work.run journal).1).run (work.run journal).2).2.collector? = _
  rw [hback, hfront]
  simp [Function.comp_def]

theorem bind_answer {middle : α} {front back : List Filing} (hwork : Enters work setting front)
    (hanswer : Answers work middle) (hnext : Enters (next middle) setting back) :
    Enters (work >>= next) setting (front ++ back) :=
  hwork.bind fun answer ⟨journal, h⟩ => by rwa [← h, hanswer journal]

/-- Entries that come after work that makes none. -/
theorem after {back : List Filing} (hwork : Enters work setting [])
    (hnext : ∀ answer, (∃ journal, (work.run journal).1 = answer) →
      Enters (next answer) setting back) :
    Enters (work >>= next) setting back := hwork.bind hnext

/-- Entries that come before work that makes none. -/
theorem before {front : List Filing} (hwork : Enters work setting front)
    (hnext : ∀ answer, (∃ journal, (work.run journal).1 = answer) →
      Enters (next answer) setting []) :
    Enters (work >>= next) setting front := by
  have h := hwork.bind hnext
  rwa [List.append_nil] at h

theorem after_answer {middle : α} {back : List Filing} (hanswer : Answers work middle)
    (hwork : Enters work setting []) (hnext : Enters (next middle) setting back) :
    Enters (work >>= next) setting back := hwork.bind_answer hanswer hnext

/-- Something may be printed on the way, or told if nothing is entered for it. -/
theorem tellIf {c : Prop} [Decidable c] {tell : Logged Unit} {next : Unit → Logged β}
    {filings : List Filing} (htell : Enters tell setting [])
    (hnext : Enters (next ()) setting filings) :
    Enters (if c then tell >>= next else next ()) setting filings := by
  split
  · exact htell.bind fun _ _ => hnext
  · exact hnext

/-- Work on a file: the file is counted, and what is entered is about the file. -/
theorem withFile {filings : List Filing} {file : FileContext}
    (hwork : Enters work (setting.about file) filings) :
    Enters (withFile file work) setting (.start file.path :: filings) := by
  intro journal hsetting
  subst hsetting
  let opened : Journal := { journal with
    recorder := journal.recorder.map fun recorder =>
      { recorder with collector := recorder.collector.startFile file.path }
    currentFile := some file }
  obtain ⟨hkept, hcollector⟩ := hwork opened rfl
  have hopened : opened.collector? = journal.collector?.map (·.file (.start file.path)) := by
    simp only [opened, Journal.collector?]
    cases journal.recorder <;> rfl
  constructor
  · show { (work.run opened).2.setting with file := journal.currentFile } = journal.setting
    rw [hkept]
    rfl
  · show (work.run opened).2.collector? = _
    rw [hcollector, hopened]
    simp [Function.comp_def]

/-- Work for somebody who works on a file: what is entered is about this file, whatever the current one
of the journal is. -/
theorem withOwnFile {filings : List Filing} {file : FileContext}
    (hwork : Enters work (setting.about file) filings) :
    Enters (withOwnFile (some file) work) setting filings := by
  intro journal hsetting
  subst hsetting
  obtain ⟨hkept, hcollector⟩ := hwork { journal with currentFile := some file } rfl
  refine ⟨?_, hcollector⟩
  show { (work.run { journal with currentFile := some file }).2.setting with
    file := journal.currentFile } = journal.setting
  rw [hkept]
  rfl

/-- Somebody takes up a file, which is counted. -/
theorem withOwnFile_enterFile (own : Option FileContext) (file : FileContext) :
    Enters (Diagnostics.withOwnFile own (enterFile file)) setting [.start file.path] := by
  intro journal hsetting
  subst hsetting
  refine ⟨rfl, ?_⟩
  show (journal.recorder.map fun recorder =>
    { recorder with collector := recorder.collector.startFile file.path }).map (·.collector) = _
  rw [Journal.collector?]
  cases journal.recorder <;> rfl

end Enters

/-! ## Problems of a computation -/

/-- The errors and warnings that a computation tells, about whatever file it works on. -/
def Tells (work : Logged α) (problems : List Event) : Prop :=
  ∀ setting : Setting, Enters work setting (setting.filings problems)

namespace Tells

variable {work : Logged α} {next : α → Logged β} {event : Event}

theorem of_unchanged (h : ∀ journal : Journal, (work.run journal).2.setting = journal.setting ∧
    (work.run journal).2.collector? = journal.collector?) : Tells work [] := by
  intro setting
  rw [setting.filings_nil]
  exact .of_unchanged h

theorem pure (answer : α) : Tells (return answer : Logged α) [] := of_unchanged fun _ => ⟨rfl, rfl⟩

theorem bind {front back : List Event} (hwork : Tells work front)
    (hnext : ∀ answer, (∃ journal, (work.run journal).1 = answer) → Tells (next answer) back) :
    Tells (work >>= next) (front ++ back) := by
  intro setting
  rw [setting.filings_append]
  exact (hwork setting).bind fun answer hanswer => hnext answer hanswer setting

theorem bind_answer {middle : α} {front back : List Event} (hanswer : Answers work middle)
    (hwork : Tells work front) (hnext : Tells (next middle) back) :
    Tells (work >>= next) (front ++ back) :=
  hwork.bind fun answer ⟨journal, h⟩ => by rwa [← h, hanswer journal]

/-- Problems that come after work that has none. -/
theorem after {back : List Event} (hwork : Tells work [])
    (hnext : ∀ answer, (∃ journal, (work.run journal).1 = answer) → Tells (next answer) back) :
    Tells (work >>= next) back := hwork.bind hnext

/-- Problems that come before work that has none. -/
theorem before {front : List Event} (hwork : Tells work front)
    (hnext : ∀ answer, (∃ journal, (work.run journal).1 = answer) → Tells (next answer) []) :
    Tells (work >>= next) front := by
  have h := hwork.bind hnext
  rwa [List.append_nil] at h

theorem noteEvent (event : Event) :
    Tells (note event) (if event.isProblem then [event] else []) := by
  intro setting journal hsetting
  subst hsetting
  exact ⟨journal.setting_note event, journal.collector?_note event⟩

theorem note (h : event.isProblem = true) : Tells (note event) [event] := by
  simpa [h] using noteEvent event

theorem note_of_not (h : event.isProblem = false) : Tells (Diagnostics.note event) [] := by
  simpa [h] using noteEvent event

/-- The preferences for lines stay as they are. -/
theorem choice_eq {problems : List Event} (h : Tells work problems) (journal : Journal) :
    (work.run journal).2.choice = journal.choice :=
  congrArg Setting.choice (h journal.setting journal rfl).1

/-- What is told to no file is entered nowhere. -/
theorem enters_of_no_file {problems : List Event} (h : Tells work problems) {setting : Setting}
    (hfile : setting.file = none) : Enters work setting [] := by
  have hwork := h setting
  rwa [Setting.filings_of_no_file hfile] at hwork

/-- What is no problem is entered nowhere. -/
theorem enters_of_nil (h : Tells work []) (setting : Setting) : Enters work setting [] := by
  have hwork := h setting
  rwa [setting.filings_nil] at hwork

theorem noteAllEvents (events : List Event) :
    Tells (noteAll events) (events.filter (·.isProblem)) := by
  induction events with
  | nil => exact .pure ()
  | cons event rest ih =>
    have h : Tells (Diagnostics.noteAll (event :: rest)) _ :=
      (noteEvent event).bind fun _ _ => ih
    rw [List.filter_cons]
    cases hproblem : event.isProblem <;> simpa [hproblem] using h

theorem noteAll {events : List Event} (h : ∀ event ∈ events, event.isProblem = true) :
    Tells (noteAll events) events := by
  have hall := noteAllEvents events
  rwa [List.filter_eq_self.mpr h] at hall

end Tells

end LineLexer.Diagnostics
