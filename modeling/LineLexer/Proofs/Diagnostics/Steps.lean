import LineLexer.Diagnostics.Steps
import LineLexer.Proofs.Diagnostics.Logged

/-!
# What work in steps answers and tells

The journal answers work in steps with one thing only, the preferences for lines, and these are fixed
once they are asked for. So what work answers and which events it tells is known from the preferences
(`Steps.answer`, `Steps.told`), whoever else tells events in between, and work that is done without a
break does the same (`Steps.run_eq`).
-/

namespace LineLexer.Diagnostics

variable {α β γ : Type}

namespace Steps

/-! ## Answers and events -/

/-- What work answers if the journal answers it with some preferences. -/
def answer (choice : TokenizerPreferences) : Steps α → α
  | done answer => answer
  | tell _ rest => rest.answer choice
  | ask rest => (rest choice).answer choice

/-- What work tells. -/
def told (choice : TokenizerPreferences) : Steps α → List Event
  | done _ => []
  | tell event rest => event :: rest.told choice
  | ask rest => (rest choice).told choice

/-- The errors and warnings that work tells. -/
def problems (choice : TokenizerPreferences) (work : Steps α) : List Event :=
  (work.told choice).filter (·.isProblem)

variable {choice : TokenizerPreferences} (work : Steps α) (next : α → Steps β)

@[simp] theorem answer_pure (value : α) : (pure value : Steps α).answer choice = value := rfl

@[simp] theorem answer_bind :
    (work >>= next).answer choice = (next (work.answer choice)).answer choice := by
  show (work.bind next).answer choice = _
  induction work with
  | done value => rfl
  | tell event rest ih => exact ih
  | ask rest ih => exact ih choice

@[simp] theorem answer_note (event : Event) : (note event).answer choice = () := rfl

@[simp] theorem answer_preferences : preferences.answer choice = choice := rfl

@[simp] theorem problems_pure (value : α) : (pure value : Steps α).problems choice = [] := rfl

theorem told_bind :
    (work >>= next).told choice = work.told choice ++ (next (work.answer choice)).told choice := by
  show (work.bind next).told choice = _
  induction work with
  | done value => rfl
  | tell event rest ih => exact congrArg (event :: ·) ih
  | ask rest ih => exact ih choice

@[simp] theorem problems_bind :
    (work >>= next).problems choice
      = work.problems choice ++ (next (work.answer choice)).problems choice := by
  rw [problems, told_bind, List.filter_append, problems, problems]

theorem problems_note {event : Event} (h : event.isProblem = true) :
    (note event).problems choice = [event] := List.filter_cons_of_pos h

theorem problems_note_of_not {event : Event} (h : event.isProblem = false) :
    (note event).problems choice = [] := List.filter_cons_of_neg (ne_true_of_eq_false h)

@[simp] theorem problems_preferences : preferences.problems choice = [] := rfl

/-- Work that begins with telling something that is no problem. -/
theorem problems_bind_of_not {event : Event} (h : event.isProblem = false) {next : Unit → Steps β} :
    (note event >>= next).problems choice = (next ()).problems choice := by
  rw [problems_bind, problems_note_of_not h, List.nil_append]

theorem problems_forM {items : List γ} {work : γ → Steps Unit} {problems : γ → List Event}
    (h : ∀ item, (work item).problems choice = problems item) :
    (items.forM work).problems choice = items.flatMap problems := by
  induction items with
  | nil => rfl
  | cons item rest ih =>
    show (work item >>= fun _ => rest.forM work).problems choice = _
    rw [problems_bind, h, ih, List.flatMap_cons]

theorem problems_noteAll_of_not {events : List Event}
    (h : ∀ event ∈ events, event.isProblem = false) : (noteAll events).problems choice = [] := by
  induction events with
  | nil => rfl
  | cons event rest ih =>
    obtain ⟨hevent, hrest⟩ := List.forall_mem_cons.mp h
    show (note event >>= fun _ => noteAll rest).problems choice = []
    rw [problems_bind, problems_note_of_not hevent, ih hrest]
    rfl

/-! ## Without a break -/

/-- Work that is done without a break answers and tells just this, in the setting that it is done in. -/
theorem run_eq (journal : Journal) :
    (work.run journal).1 = work.answer journal.choice ∧
      (work.run journal).2.setting = journal.setting ∧
      (work.run journal).2.collector? = journal.collector?.map
        (·.fileAll (journal.setting.filings (work.problems journal.choice))) := by
  induction work generalizing journal with
  | done value =>
    have hnone : (done value).problems journal.choice = [] := rfl
    rw [hnone, Setting.filings_nil]
    exact ⟨rfl, rfl, by simp only [Collector.fileAll_nil, Option.map_id']; rfl⟩
  | tell event rest ih =>
    obtain ⟨hanswer, hsetting, hcollector⟩ := ih (journal.note event)
    rw [journal.choice_note event] at hanswer hcollector
    rw [journal.setting_note event] at hsetting hcollector
    refine ⟨hanswer, hsetting, hcollector.trans ?_⟩
    have hproblems : (tell event rest).problems journal.choice
        = (if event.isProblem then [event] else []) ++ rest.problems journal.choice := by
      rw [problems, told, List.filter_cons]
      split <;> rfl
    rw [journal.collector?_note event, Option.map_map, hproblems, Setting.filings_append]
    simp [Function.comp_def]
  | ask rest ih => exact ih journal.choice { journal with tokenizer := some journal.choice }

end Steps

theorem Answers.run {work : Steps α} {answer : α} (h : ∀ choice, work.answer choice = answer) :
    Answers work.run answer := fun journal => (work.run_eq journal).1.trans (h _)

theorem Tells.run {work : Steps α} {problems : List Event}
    (h : ∀ choice, work.problems choice = problems) : Tells work.run problems := by
  intro setting journal hsetting
  subst hsetting
  obtain ⟨-, hkept, hcollector⟩ := work.run_eq journal
  rw [h] at hcollector
  exact ⟨hkept, hcollector⟩

end LineLexer.Diagnostics
