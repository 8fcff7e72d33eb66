import LineLexer.Proofs.Grammar.Validation
import LineLexer.Proofs.Tokenize.Safety

/-!
# States that runs reach

A compiled grammar lists the states to which no pushes lead from the initial one, and it lists just
these (`mem_unreachable_iff`). No run from the initial stack ever sees one of them: a rule pushes
states that its own state leads to, and a pop brings back what has been pushed before, so all states
on a stack are reached by pushes in every round (`keeps_pushed`). What is reached has rules, so in
every run there are rules to try (`GrammarDocument.RunsLive`).
-/

namespace LineLexer

/-! ## The states that are listed -/

namespace Grammar

/-- The list of unreachable states is what the search has left without a mark, and no state that it
has marked is empty. -/
theorem unreachable_of_compile {document : GrammarDocument} {fallbackName : String}
    {grammar : Grammar} (h : compile document fallbackName = .ok grammar) :
    let marks := (reachableStates? grammar.states grammar.initial).getD []
    grammar.unreachable = unreachableNames grammar.states marks ∧
      emptyState? grammar.states marks = none := by
  rw [compile] at h
  dsimp only at h
  split at h
  · cases h
  split at h
  · cases h
  split at h
  · cases h
  obtain ⟨states, -, h⟩ := bind_eq_ok.mp h
  obtain ⟨brackets, -, h⟩ := bind_eq_ok.mp h
  split at h
  · split at h
    · cases h
    · rename_i hempty
      cases h
      exact ⟨rfl, Option.eq_none_iff_forall_ne_some.mpr hempty⟩
  · cases h

/-- The search of a compiled grammar misses no state. The states that it marks are those to which
pushes lead; the others are listed, and the marked ones have rules. -/
theorem exists_marks_of_compile {document : GrammarDocument} {fallbackName : String}
    {grammar : Grammar} (h : compile document fallbackName = .ok grammar) :
    ∃ marks, reachableStates? grammar.states grammar.initial = some marks ∧
      marks.length = grammar.states.length ∧
      (∀ id, marks[id]? = some true ↔ PushReaches grammar.states grammar.initial id) ∧
      grammar.unreachable = unreachableNames grammar.states marks ∧
      emptyState? grammar.states marks = none := by
  obtain ⟨marks, hsearch, hlength, hmarks⟩ := (compiled_of_compile h).exists_marks
  have hlisted := unreachable_of_compile h
  rw [hsearch, Option.getD_some] at hlisted
  exact ⟨marks, hsearch, hlength, hmarks, hlisted⟩

theorem mem_unreachableNames_iff {states : List State} {marks : List Bool}
    (hlength : marks.length = states.length) {name : String} :
    name ∈ unreachableNames states marks ↔
      ∃ (id : Nat) (state : State), states[id]? = some state ∧ marks[id]? ≠ some true ∧
        state.name = name := by
  unfold unreachableNames
  rw [List.mem_filterMap]
  constructor
  · rintro ⟨⟨state, marked⟩, hmem, hname⟩
    obtain ⟨id, hid⟩ := List.mem_iff_getElem?.mp hmem
    obtain ⟨hstate, hmark⟩ := List.getElem?_zip_eq_some.mp hid
    dsimp only at hstate hmark hname
    split at hname
    · cases hname
    · rename_i hnot
      refine ⟨id, state, hstate, fun heq => hnot ?_, Option.some.inj hname⟩
      exact Option.some.inj (hmark.symm.trans heq)
  · rintro ⟨id, state, hstate, hnot, rfl⟩
    obtain ⟨marked, hmark⟩ : ∃ marked, marks[id]? = some marked :=
      ⟨_, List.getElem?_eq_getElem (hlength ▸ (List.getElem?_eq_some_iff.mp hstate).1)⟩
    refine ⟨(state, marked), List.mem_of_getElem? (List.getElem?_zip_eq_some.mpr ⟨hstate, hmark⟩), ?_⟩
    refine if_neg fun heq : marked = true => hnot ?_
    rw [hmark, heq]

/-- The names stand in the order of the states. -/
theorem sublist_unreachableNames (states : List State) (marks : List Bool) :
    (unreachableNames states marks).Sublist (states.map (·.name)) := by
  unfold unreachableNames
  induction states generalizing marks with
  | nil => exact .slnil
  | cons state states ih =>
    cases marks with
    | nil => exact List.nil_sublist _
    | cons marked marks =>
      rw [List.zip_cons_cons, List.map_cons]
      cases marked with
      | true => exact (ih marks).cons state.name
      | false => exact (ih marks).cons_cons state.name

end Grammar

namespace GrammarDocument

variable {document : GrammarDocument} {grammar : Grammar} {fallbackName : String}

/-- The states of the document to which no pushes lead are those that are listed. -/
theorem mem_unreachable_iff (hcompile : Grammar.compile document fallbackName = .ok grammar)
    (name : String) :
    name ∈ grammar.unreachable ↔ name ∈ document.states.keys ∧ ¬document.Reachable name := by
  have h := Grammar.compiled_of_compile hcompile
  obtain ⟨marks, -, hlength, hmarks, hlisted, -⟩ := Grammar.exists_marks_of_compile hcompile
  rw [hlisted, Grammar.mem_unreachableNames_iff hlength]
  constructor
  · rintro ⟨id, state, hstate, hnot, rfl⟩
    rw [← h.names_eq]
    refine ⟨List.mem_map_of_mem (List.mem_of_getElem? hstate), fun hreach => hnot ?_⟩
    exact (hmarks id).mpr (h.pushReaches_iff.mpr ⟨state, hstate, hreach⟩)
  · rintro ⟨hname, hnot⟩
    rw [← h.names_eq] at hname
    obtain ⟨state, hmem, rfl⟩ := List.mem_map.mp hname
    obtain ⟨id, hstate⟩ := List.mem_iff_getElem?.mp hmem
    refine ⟨id, state, hstate, fun hfound => hnot ?_, rfl⟩
    obtain ⟨state', hstate', hreach⟩ :=
      h.pushReaches_iff.mp ((hmarks id).mp hfound)
    cases hstate.symm.trans hstate'
    exact hreach

/-! ## Runs -/

/-- The index is that of a state to which pushes lead in the document. It is not listed as
unreachable, and it has rules. -/
def Live (document : GrammarDocument) (grammar : Grammar) (id : Nat) : Prop :=
  ∃ state, grammar.state? id = some state ∧ document.Reachable state.name ∧
    state.name ∉ grammar.unreachable ∧ state.rules ≠ []

/-- All states of a stack are live, and so is the current one, which on the empty stack is the
initial one. -/
structure AllLive (document : GrammarDocument) (grammar : Grammar) (frames : Frames) : Prop where
  all : ∀ id ∈ frames, document.Live grammar id
  current : document.Live grammar (grammar.currentState frames)

/-- The runs that begin with the initial stack meet live states only. -/
structure RunsLive (document : GrammarDocument) (grammar : Grammar) : Prop where
  /-- Lines in order, at any moment of any line. -/
  lines : ∀ texts seen, grammar.Visits [] texts seen → document.AllLive grammar seen
  session : ∀ calls seen, (Session.start grammar).Visits calls seen →
    document.AllLive grammar seen
  /-- The stacks that a buffer keeps behind its lines, after any edits. -/
  buffer : ∀ buffer, Buffer.Reachable grammar buffer →
    ∀ line ∈ buffer.lines, document.AllLive grammar line.frames
  /-- The lines that an edit causes to be scanned again. -/
  edit : ∀ buffer, Buffer.Reachable grammar buffer →
    ∀ change draft, buffer.draft change = .ok draft →
      ∀ seen, grammar.Visits draft.startFrames ((draft.lines.drop draft.start).map (·.text)) seen →
        document.AllLive grammar seen

end GrammarDocument

namespace Grammar

variable {grammar : Grammar}

/-- Pushes lead from the initial state to every state of the stack. -/
def Pushed (grammar : Grammar) (frames : Frames) : Prop :=
  ∀ id ∈ frames, PushReaches grammar.states grammar.initial id

theorem pushed_nil (grammar : Grammar) : grammar.Pushed [] :=
  fun _ hid => absurd hid List.not_mem_nil

/-- The current state is on the stack or the initial one, so pushes lead to it too. -/
theorem Pushed.current {frames : Frames} (h : grammar.Pushed frames) :
    PushReaches grammar.states grammar.initial (grammar.currentState frames) := by
  cases frames with
  | nil => exact .refl
  | cons id frames => exact h id List.mem_cons_self

/-- What a rule of a state pushes is a target of the state. -/
theorem mem_pushedFrom {id target : Nat} {rule : Rule} {name : String}
    (hrule : rule ∈ grammar.rulesOf id) (hpush : rule.transition = .push target name) :
    target ∈ pushedFrom grammar.states id := by
  obtain ⟨state, hstate, hmem⟩ := exists_state_of_mem_rulesOf hrule
  rw [pushedFrom, hstate]
  refine List.mem_filterMap.mpr ⟨rule, hmem, ?_⟩
  rw [hpush]

/-- A push leads on from the current state, and what a pop leaves has been on the stack before. -/
theorem keeps_pushed (grammar : Grammar) : grammar.Keeps grammar.Pushed := by
  intro limit a b hround ha
  cases hround with
  | skip hnone => exact ha
  | @take frames after position c rest rule length hrule hafter =>
    have hmem := mem_rulesOf_of_chosenRule? hrule
    cases htransition : rule.transition with
    | stay =>
      rw [htransition] at hafter
      cases hafter
      exact ha
    | push target name =>
      rw [htransition, Transition.apply] at hafter
      split at hafter
      · cases hafter
      · cases hafter
        -- The target is one of the current state, to which pushes lead.
        intro id hid
        rcases List.mem_cons.mp hid with rfl | hid
        · exact .tail ha.current (mem_pushedFrom hmem htransition)
        · exact ha id hid
    | pop =>
      rw [htransition] at hafter
      cases hafter
      exact fun id hid => ha id (List.mem_of_mem_tail hid)
    | popAll =>
      rw [htransition] at hafter
      cases hafter
      exact grammar.pushed_nil

end Grammar

namespace GrammarDocument

variable {document : GrammarDocument} {grammar : Grammar} {fallbackName : String}

/-- A state to which pushes lead is live: the search has found it, so it is not listed and was
found to have rules. -/
theorem live_of_pushReaches (hcompile : Grammar.compile document fallbackName = .ok grammar)
    {id : Nat} (hreach : PushReaches grammar.states grammar.initial id) :
    document.Live grammar id := by
  have h := Grammar.compiled_of_compile hcompile
  obtain ⟨state, hstate, hname⟩ := h.pushReaches_iff.mp hreach
  refine ⟨state, hstate, hname, fun hlisted => ?_, ?_⟩
  · exact ((mem_unreachable_iff hcompile _).mp hlisted).2 hname
  · obtain ⟨marks, -, -, hmarks, -, hempty⟩ := Grammar.exists_marks_of_compile hcompile
    exact Grammar.emptyState?_eq_none hempty hstate ((hmarks id).mpr hreach)

theorem allLive_of_pushed (hcompile : Grammar.compile document fallbackName = .ok grammar)
    {frames : Frames} (h : grammar.Pushed frames) : document.AllLive grammar frames :=
  ⟨fun id hid => live_of_pushReaches hcompile (h id hid), live_of_pushReaches hcompile h.current⟩

theorem runsLive_of_compile (hcompile : Grammar.compile document fallbackName = .ok grammar) :
    document.RunsLive grammar := by
  have h := Grammar.wellFormed_of_compile hcompile
  have hkeeps := grammar.keeps_pushed
  have hnil := grammar.pushed_nil
  refine
    { lines := fun texts seen hvisits => allLive_of_pushed hcompile (hkeeps.visits hvisits hnil)
      session := fun calls seen hvisits => allLive_of_pushed hcompile ?session
      buffer := fun buffer hreach line hline =>
        allLive_of_pushed hcompile (hreach.keeps hkeeps hnil line hline)
      edit := fun buffer hreach change draft hdraft seen hvisits =>
        allLive_of_pushed hcompile
          (hkeeps.visits hvisits (hreach.keeps_startFrames hkeeps hnil hdraft)) }
  case session =>
    have hstart : (Session.start grammar).Stands grammar.Pushed := by
      intro frames hframes
      cases hframes
      exact hnil
    exact hvisits.keeps h hkeeps hnil hstart

/-- The states that a compiled grammar lists as unreachable are, in the order of their names, those
to which no pushes lead in its document, and no run from the initial stack has one of them on its
stack or as the current state. The states that runs have there are reached by pushes and have
rules. The search for all this misses no state. -/
theorem unreachable_exact (hcompile : Grammar.compile document fallbackName = .ok grammar) :
    grammar.unreachable.Pairwise (· < ·) ∧
      (∀ name, name ∈ grammar.unreachable ↔
        name ∈ document.states.keys ∧ ¬document.Reachable name) ∧
      document.RunsLive grammar ∧
      ∃ marks, reachableStates? grammar.states grammar.initial = some marks := by
  obtain ⟨marks, hsearch, -, -, hlisted, -⟩ := Grammar.exists_marks_of_compile hcompile
  refine ⟨?_, mem_unreachable_iff hcompile, runsLive_of_compile hcompile, marks, hsearch⟩
  rw [hlisted]
  have hascending := (Grammar.wellFormed_of_compile hcompile).ascending
  exact hascending.sublist (Grammar.sublist_unreachableNames _ _)

/-- The sample document with two states that its own states do not push: one that pushes the second,
and the second without a rule. -/
def spareDocument : GrammarDocument :=
  { sampleDocument with
    states := (sampleDocument.states.insert "yard" []).insert "wrap"
      [⟨"<", some "angle", false, .push "yard", none⟩] }

/-- The grammar of the document. -/
def spareGrammar : Grammar :=
  { sampleGrammar with
    states := sampleGrammar.states ++ [
      ⟨"wrap", [⟨"<", sampleProgram ['<'], false, .token "angle", .push 3 "yard"⟩]⟩, ⟨"yard", []⟩]
    index := .ofList [("text", 0), ("word", 1), ("wrap", 2), ("yard", 3)]
    unreachable := ["wrap", "yard"] }

theorem compile_spareDocument : Grammar.compile spareDocument "grammar" = .ok spareGrammar := by
  decide +kernel

/-- Both are listed, though one of them pushes the other. A word within a word puts live states on
the stack, and behind its end the stack is empty and the initial state current. -/
theorem spareGrammar_unreachable :
    Grammar.compile spareDocument "grammar" = .ok spareGrammar ∧
      ¬spareDocument.Reachable "wrap" ∧ ¬spareDocument.Reachable "yard" ∧
      spareDocument.AllLive spareGrammar [1, 1] ∧ spareDocument.AllLive spareGrammar [] := by
  obtain ⟨-, hlisted, hruns, -⟩ := unreachable_exact compile_spareDocument
  have hwrap := ((hlisted "wrap").mp (by decide)).2
  have hyard := ((hlisted "yard").mp (by decide)).2
  have hopen : (spareGrammar.scan (some Limits.stackDepth) [] "<<" 1).frames = [1, 1] := by
    decide +kernel
  have hclosed : (spareGrammar.scan (some Limits.stackDepth) [1, 1] ">>" 2).frames = [] := by
    decide +kernel
  have hvisits : spareGrammar.Visits [] ["<<", ">>"] [1, 1] := hopen ▸ .behind [] "<<" 1 [">>"]
  have hvisits' : spareGrammar.Visits [] ["<<", ">>"] [] := by
    have hbehind : spareGrammar.Visits
        (spareGrammar.scan (some Limits.stackDepth) [] "<<" 1).frames [">>"] [] := by
      rw [hopen]
      exact hclosed ▸ .behind [1, 1] ">>" 2 []
    exact .later hbehind
  exact ⟨compile_spareDocument, hwrap, hyard, hruns.lines _ _ hvisits, hruns.lines _ _ hvisits'⟩

end GrammarDocument
end LineLexer
