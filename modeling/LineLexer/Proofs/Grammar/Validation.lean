import LineLexer.Proofs.FirstFault
import LineLexer.Proofs.Grammar.Reach

/-!
# The checks of a document

What makes a document a grammar, and which fault is named if it is none. A document is `Valid` if
it passes every check. Each check that is not passed is a fault at a place (`FaultAt`): the checks
of the whole document come first, then the states in the order of their names with their rules,
then the brackets, then the states that can be reached. Compiling a document fails with the first
of these faults, and only if there is one (`compile_valid_or_first_fault`).
-/

namespace LineLexer

open Pattern

/-! ## Valid documents -/

/-- What a rule has to be in its document. -/
structure RuleEntry.Valid (entry : RuleEntry) (document : GrammarDocument) : Prop where
  length_le : entry.pattern.utf8ByteSize ≤ Limits.patternLength
  /-- The rule has a token, or it takes it from the brackets, but not both. -/
  action : (entry.token ≠ none ∧ entry.brackets = false) ∨
    (entry.token = none ∧ entry.brackets = true)
  label : ∀ label, entry.token = some label → isBlankText label = false
  table : entry.brackets = true → document.brackets ≠ []
  target : ∀ target, entry.next = .push target → target ∈ document.states.keys
  /-- The pattern can be made into a program. -/
  pattern : ∃ program,
    compilePattern (entry.ignoreCase.getD document.ignoreCase) entry.pattern = .ok program

/-- What a pair of brackets has to be. -/
structure BracketEntry.Valid (entry : BracketEntry) : Prop where
  opening : entry.opening ≠ ""
  closing : entry.closing ≠ ""
  distinct : entry.opening ≠ entry.closing
  label : isBlankText entry.token = false

/-- What a document has to be to become a grammar. -/
structure GrammarDocument.Valid (document : GrammarDocument) : Prop where
  states_le : document.states.size ≤ Limits.statesPerGrammar
  initial : document.initial ∈ document.states.keys
  defaultLabel : isBlankText (document.defaultToken.getD defaultUnmatched) = false
  rules_le : ∀ name rules, (name, rules) ∈ document.states.entries →
    rules.length ≤ Limits.rulesPerState
  rules : ∀ name rules, (name, rules) ∈ document.states.entries →
    ∀ entry ∈ rules, entry.Valid document
  brackets : ∀ entry ∈ document.brackets, entry.Valid
  /-- A state that can be reached has a rule. -/
  reachable : ∀ name rules, document.Reachable name → (name, rules) ∈ document.states.entries →
    rules ≠ []

/-! ## Faults and their places -/

/-- The faults of a rule, each at the number of its check. -/
inductive RuleEntry.FaultAt (entry : RuleEntry) (place : RulePlace) : Faults GrammarError
  | patternTooLong (h : Limits.patternLength < entry.pattern.utf8ByteSize) :
      FaultAt entry place [0] (.patternTooLong place.state place.rule entry.pattern.utf8ByteSize
        Limits.patternLength)
  | actionBoth {label : String} (htoken : entry.token = some label)
      (hbrackets : entry.brackets = true) :
      FaultAt entry place [1] (.actionInvalid place.state place.rule)
  | actionNone (htoken : entry.token = none) (hbrackets : entry.brackets = false) :
      FaultAt entry place [1] (.actionInvalid place.state place.rule)
  | labelEmpty {label : String} (htoken : entry.token = some label)
      (hbrackets : entry.brackets = false) (hblank : isBlankText label = true) :
      FaultAt entry place [1] (.labelEmpty place.state place.rule)
  | bracketsMissing (htoken : entry.token = none) (hbrackets : entry.brackets = true)
      (hnone : place.document.brackets = []) :
      FaultAt entry place [1] (.bracketsMissing place.state place.rule)
  | pushTargetUnknown {target : String} (hnext : entry.next = .push target)
      (htarget : target ∉ place.document.states.keys) :
      FaultAt entry place [2] (.pushTargetUnknown place.state place.rule target)
  | patternInvalid {fault : PatternError}
      (hpattern : compilePattern (entry.ignoreCase.getD place.document.ignoreCase) entry.pattern
        = .error fault) :
      FaultAt entry place [3] (.patternInvalid place.state place.rule entry.pattern fault)

/-- The place of a rule in a document. -/
def GrammarDocument.rulePlace (document : GrammarDocument) (name : String) (rule : Nat) : RulePlace :=
  ⟨document, Grammar.indexNames document.states.keys, name, rule⟩

/-- The faults of a state: that of the number of its rules, then those of each rule. -/
inductive GrammarDocument.StateFaultAt (document : GrammarDocument) (name : String)
    (rules : List RuleEntry) : Faults GrammarError
  | tooManyRules (h : Limits.rulesPerState < rules.length) :
      StateFaultAt document name rules [0] (.tooManyRules name rules.length Limits.rulesPerState)
  | rule {index : Nat} {entry : RuleEntry} {place : List Nat} {fault : GrammarError}
      (hentry : rules[index]? = some entry)
      (hfault : entry.FaultAt (document.rulePlace name index) place fault) :
      StateFaultAt document name rules (1 :: index :: place) fault

/-- The faults of a pair of brackets, each at the number of its check. -/
inductive BracketEntry.FaultAt (entry : BracketEntry) (index : Nat) : Faults GrammarError
  | openingEmpty (h : entry.opening = "") :
      FaultAt entry index [0] (.bracketInvalid index "open delimiter is empty")
  | closingEmpty (h : entry.closing = "") :
      FaultAt entry index [1] (.bracketInvalid index "close delimiter is empty")
  | identical (h : entry.opening = entry.closing) :
      FaultAt entry index [2] (.bracketInvalid index "open and close delimiters are identical")
  | labelEmpty (h : isBlankText entry.token = true) :
      FaultAt entry index [3] (.bracketInvalid index "token label is empty")

/-- The faults of a document. States stand in the order of their names. -/
inductive GrammarDocument.FaultAt (document : GrammarDocument) : Faults GrammarError
  | tooManyStates (h : Limits.statesPerGrammar < document.states.size) :
      FaultAt document [0] (.tooManyStates document.states.size Limits.statesPerGrammar)
  | initialStateMissing (h : document.initial ∉ document.states.keys) :
      FaultAt document [1] (.initialStateMissing document.initial)
  | defaultLabelEmpty (h : isBlankText (document.defaultToken.getD defaultUnmatched) = true) :
      FaultAt document [2] .defaultLabelEmpty
  | state {index : Nat} {name : String} {rules : List RuleEntry} {place : List Nat}
      {fault : GrammarError} (hstate : document.states.entries[index]? = some (name, rules))
      (hfault : document.StateFaultAt name rules place fault) :
      FaultAt document (3 :: index :: place) fault
  | bracket {index : Nat} {entry : BracketEntry} {place : List Nat} {fault : GrammarError}
      (hentry : document.brackets[index]? = some entry) (hfault : entry.FaultAt index place fault) :
      FaultAt document (4 :: index :: place) fault
  | stateEmpty {index : Nat} {name : String}
      (hstate : document.states.entries[index]? = some (name, []))
      (hreachable : document.Reachable name) :
      FaultAt document [5, index] (.stateEmpty name)

/-! ## Rules -/

namespace RuleEntry

variable {entry : RuleEntry} {place : RulePlace}

theorem faultAt_unique (step : List Nat) (a b : GrammarError) (ha : entry.FaultAt place step a)
    (hb : entry.FaultAt place step b) : a = b := by
  cases ha <;> cases hb <;> simp_all

theorem reports_compileAction :
    Reports (entry.compileAction place) ((entry.FaultAt place : Faults _).ofStep 1) := by
  refine .check fun step fault => ⟨fun hfault => ?_, ?_⟩
  · unfold compileAction
    cases hfault with
    | actionBoth htoken hbrackets => simp [htoken, hbrackets]
    | actionNone htoken hbrackets => simp [htoken, hbrackets]
    | labelEmpty htoken hbrackets hblank => simp [htoken, hbrackets, hblank]
    | bracketsMissing htoken hbrackets hnone => simp [htoken, hbrackets, hnone]
  · rintro ⟨rfl, hfault⟩
    unfold compileAction at hfault
    cases htoken : entry.token with
    | some label =>
      cases hbrackets : entry.brackets with
      | false =>
        rw [htoken, hbrackets] at hfault
        dsimp only at hfault
        split at hfault
        · rename_i hblank
          cases hfault
          exact .labelEmpty htoken hbrackets hblank
        · cases hfault
      | true =>
        rw [htoken, hbrackets] at hfault
        cases hfault
        exact .actionBoth htoken hbrackets
    | none =>
      cases hbrackets : entry.brackets with
      | false =>
        rw [htoken, hbrackets] at hfault
        cases hfault
        exact .actionNone htoken hbrackets
      | true =>
        rw [htoken, hbrackets] at hfault
        dsimp only at hfault
        split at hfault
        · rename_i hnone
          cases hfault
          exact .bracketsMissing htoken hbrackets (List.isEmpty_iff.mp hnone)
        · cases hfault

/-- The table of the place has the names of the document. -/
abbrev HasIndex (place : RulePlace) : Prop :=
  place.index = Grammar.indexNames place.document.states.keys

theorem reports_compileTransition (hindex : HasIndex place) :
    Reports (entry.compileTransition place) ((entry.FaultAt place : Faults _).ofStep 2) := by
  have hnone {target : String} : place.index.find? target = none ↔
      target ∉ place.document.states.keys := by
    rw [hindex, Grammar.find?_indexNames_eq_none_iff place.document.states.nodup_keys]
  refine .check fun step fault => ⟨fun hfault => ?_, ?_⟩
  · unfold compileTransition
    cases hfault with
    | pushTargetUnknown hnext htarget =>
      rw [hnext]
      dsimp only
      rw [hnone.mpr htarget]
      exact ⟨rfl, rfl⟩
  · rintro ⟨rfl, hfault⟩
    unfold compileTransition at hfault
    cases hnext : entry.next with
    | push target =>
      rw [hnext] at hfault
      dsimp only at hfault
      split at hfault
      · cases hfault
      · rename_i hfound
        cases hfault
        exact .pushTargetUnknown hnext (hnone.mp hfound)
    | stay => rw [hnext] at hfault; cases hfault
    | pop => rw [hnext] at hfault; cases hfault
    | popAll => rw [hnext] at hfault; cases hfault

/-- A rule is refused for its first fault. -/
theorem reports_compile (hindex : HasIndex place) :
    Reports (entry.compile place) (entry.FaultAt place) := by
  refine .of_fromStep ?_ fun fault hfault => nomatch hfault
  unfold compile
  dsimp only
  refine .ite (fun step fault => ⟨fun hfault => ?_, ?_⟩) fun _ => ?_
  · cases hfault with
    | patternTooLong h => exact ⟨rfl, h, rfl⟩
  · rintro ⟨rfl, h, rfl⟩
    exact .patternTooLong h
  refine reports_compileAction.bind fun action _ => ?_
  refine (reports_compileTransition hindex).bind fun transition _ => ?_
  refine Reports.bind (.check fun step fault => ⟨fun hfault => ?_, ?_⟩) fun compiled _ => ?_
  · cases hfault with
    | patternInvalid hpattern => exact ⟨rfl, mapError_eq_error.mpr ⟨_, hpattern, rfl⟩⟩
  · rintro ⟨rfl, hfault⟩
    obtain ⟨fault, hpattern, rfl⟩ := mapError_eq_error.mp hfault
    exact .patternInvalid hpattern
  -- no check is left
  refine .pure _ (Faults.not_fromStep fun step place fault hfault => ?_)
  cases hfault <;> omega

theorem Valid.not_faultAt (h : entry.Valid place.document) (step : List Nat)
    (fault : GrammarError) : ¬entry.FaultAt place step fault := by
  intro hfault
  cases hfault with
  | patternTooLong hlength => exact absurd h.length_le (Nat.not_le.mpr hlength)
  | actionBoth htoken hbrackets => simpa [htoken, hbrackets] using h.action
  | actionNone htoken hbrackets => simpa [htoken, hbrackets] using h.action
  | labelEmpty htoken _ hblank => simpa [hblank] using h.label _ htoken
  | bracketsMissing _ hbrackets hnone => exact h.table hbrackets hnone
  | pushTargetUnknown hnext htarget => exact htarget (h.target _ hnext)
  | patternInvalid hpattern =>
    obtain ⟨program, hprogram⟩ := h.pattern
    rw [hprogram] at hpattern
    cases hpattern

/-- A rule is valid just if it has no fault. -/
theorem valid_iff :
    entry.Valid place.document ↔ ∀ step fault, ¬entry.FaultAt place step fault := by
  refine ⟨Valid.not_faultAt, fun hnone => ?_⟩
  have haction : (entry.token ≠ none ∧ entry.brackets = false) ∨
      (entry.token = none ∧ entry.brackets = true) := by
    cases htoken : entry.token with
    | some label =>
      cases hbrackets : entry.brackets with
      | false => exact .inl ⟨Option.some_ne_none label, rfl⟩
      | true => exact absurd (.actionBoth htoken hbrackets) (hnone _ _)
    | none =>
      cases hbrackets : entry.brackets with
      | false => exact absurd (.actionNone htoken hbrackets) (hnone _ _)
      | true => exact .inr ⟨rfl, rfl⟩
  refine ⟨Nat.not_lt.mp fun hlength => hnone _ _ (.patternTooLong hlength), haction,
    fun label htoken => ?_, fun hbrackets hempty => ?_, fun target hnext => ?_, ?_⟩
  · obtain ⟨-, hbrackets⟩ := haction.resolve_right fun h => Option.some_ne_none label
      (htoken.symm.trans h.1)
    exact Bool.eq_false_iff.mpr fun hblank => hnone _ _ (.labelEmpty htoken hbrackets hblank)
  · obtain ⟨htoken, -⟩ := haction.resolve_left fun h => Bool.false_ne_true
      (h.2.symm.trans hbrackets)
    exact hnone _ _ (.bracketsMissing htoken hbrackets hempty)
  · by_contra htarget
    exact hnone _ _ (.pushTargetUnknown hnext htarget)
  · cases hpattern : compilePattern (entry.ignoreCase.getD place.document.ignoreCase)
        entry.pattern with
    | ok program => exact ⟨program, rfl⟩
    | error fault => exact absurd (.patternInvalid hpattern) (hnone _ _)

end RuleEntry

/-! ## States -/

namespace GrammarDocument

variable {document : GrammarDocument} {name : String} {rules : List RuleEntry}

theorem stateFaultAt_unique (place : List Nat) (a b : GrammarError)
    (ha : document.StateFaultAt name rules place a)
    (hb : document.StateFaultAt name rules place b) : a = b := by
  cases ha with
  | tooManyRules => cases hb; rfl
  | rule hentry hfault =>
    cases hb with
    | rule hentry' hfault' =>
      obtain rfl := Option.some.inj (hentry.symm.trans hentry')
      exact RuleEntry.faultAt_unique _ a b hfault hfault'

/-- The rules of a state are refused for the first fault of the first rule that has one. -/
theorem reports_rules :
    Reports (rules.zipIdx.mapM fun (entry, rule) => entry.compile (document.rulePlace name rule))
      (Faults.ofStep (document.StateFaultAt name rules) 1) := by
  have hwalk : Reports
      (rules.zipIdx.mapM fun (entry, rule) => entry.compile (document.rulePlace name rule))
      (.ofItems rules fun rule entry => entry.FaultAt (document.rulePlace name rule)) :=
    .mapM_zipIdx fun rule entry _ => entry.reports_compile rfl
  refine hwalk.congr fun place fault => ⟨fun hfault => ?_, fun hfault => ?_⟩
  · cases hfault with
    | rule hentry hfault => exact ⟨_, hentry, hfault⟩
  · cases place with
    | nil => exact hfault.elim
    | cons index place =>
      obtain ⟨entry, hentry, hfault⟩ := hfault
      exact .rule hentry hfault

/-- A state is refused for its first fault. -/
theorem reports_compileState :
    Reports (compileState document (Grammar.indexNames document.states.keys) name rules)
      (document.StateFaultAt name rules) := by
  refine .of_fromStep ?_ fun fault hfault => nomatch hfault
  unfold compileState
  dsimp only
  refine .ite (fun place fault => ⟨fun hfault => ?_, ?_⟩) fun _ => ?_
  · cases hfault with
    | tooManyRules h => exact ⟨rfl, h, rfl⟩
  · rintro ⟨rfl, h, rfl⟩
    exact .tooManyRules h
  refine (reports_rules.bind_ok fun compiled => ⟨_, rfl⟩).last
    (Faults.not_fromStep fun step place fault hfault => ?_)
  cases hfault <;> omega

theorem rules_valid_iff :
    (rules.length ≤ Limits.rulesPerState ∧ ∀ entry ∈ rules, entry.Valid document) ↔
      ∀ place fault, ¬document.StateFaultAt name rules place fault := by
  constructor
  · rintro ⟨hlength, hrules⟩ place fault hfault
    cases hfault with
    | tooManyRules h => exact absurd hlength (Nat.not_le.mpr h)
    | rule hentry hfault => exact (hrules _ (List.mem_of_getElem? hentry)).not_faultAt _ _ hfault
  · intro hnone
    refine ⟨Nat.not_lt.mp fun hlength => hnone _ _ (.tooManyRules hlength), fun entry hentry => ?_⟩
    obtain ⟨index, hindex⟩ := List.mem_iff_getElem?.mp hentry
    have hvalid : entry.Valid (document.rulePlace name index).document :=
      RuleEntry.valid_iff.mpr fun place fault hfault => hnone _ _ (.rule hindex hfault)
    exact hvalid

end GrammarDocument

/-! ## Brackets -/

namespace BracketEntry

variable {entry : BracketEntry} {index : Nat}

theorem faultAt_unique (place : List Nat) (a b : GrammarError) (ha : entry.FaultAt index place a)
    (hb : entry.FaultAt index place b) : a = b := by
  cases ha <;> cases hb <;> rfl

theorem compile_eq (entry : BracketEntry) (index : Nat) :
    entry.compile index =
      if entry.opening = "" then .error (.bracketInvalid index "open delimiter is empty")
      else if entry.closing = "" then .error (.bracketInvalid index "close delimiter is empty")
      else if entry.opening = entry.closing then
        .error (.bracketInvalid index "open and close delimiters are identical")
      else if isBlankText entry.token then .error (.bracketInvalid index "token label is empty")
      else .ok ⟨entry.opening, entry.closing, entry.token⟩ := by
  unfold compile fault?
  split_ifs <;> rfl

/-- A pair of brackets is refused for its first fault. -/
theorem reports_compile : Reports (entry.compile index) (entry.FaultAt index) := by
  refine .of_fromStep ?_ fun fault hfault => nomatch hfault
  rw [compile_eq]
  refine .ite (fun place fault => ⟨fun hfault => ?_, ?_⟩) fun _ => ?_
  · cases hfault with
    | openingEmpty h => exact ⟨rfl, h, rfl⟩
  · rintro ⟨rfl, h, rfl⟩
    exact .openingEmpty h
  refine .ite (fun place fault => ⟨fun hfault => ?_, ?_⟩) fun _ => ?_
  · cases hfault with
    | closingEmpty h => exact ⟨rfl, h, rfl⟩
  · rintro ⟨rfl, h, rfl⟩
    exact .closingEmpty h
  refine .ite (fun place fault => ⟨fun hfault => ?_, ?_⟩) fun _ => ?_
  · cases hfault with
    | identical h => exact ⟨rfl, h, rfl⟩
  · rintro ⟨rfl, h, rfl⟩
    exact .identical h
  refine .ite (fun place fault => ⟨fun hfault => ?_, ?_⟩) fun _ => ?_
  · cases hfault with
    | labelEmpty h => exact ⟨rfl, h, rfl⟩
  · rintro ⟨rfl, h, rfl⟩
    exact .labelEmpty h
  refine .pure _ (Faults.not_fromStep fun step place fault hfault => ?_)
  cases hfault <;> omega

/-- A pair of brackets is valid just if it has no fault. -/
theorem valid_iff : entry.Valid ↔ ∀ place fault, ¬entry.FaultAt index place fault := by
  constructor
  · intro hvalid place fault hfault
    cases hfault with
    | openingEmpty h => exact hvalid.opening h
    | closingEmpty h => exact hvalid.closing h
    | identical h => exact hvalid.distinct h
    | labelEmpty h => exact Bool.false_ne_true (hvalid.label.symm.trans h)
  · intro hnone
    exact ⟨fun h => hnone _ _ (.openingEmpty h), fun h => hnone _ _ (.closingEmpty h),
      fun h => hnone _ _ (.identical h),
      Bool.eq_false_iff.mpr fun h => hnone _ _ (.labelEmpty h)⟩

end BracketEntry

/-! ## States that can be reached -/

/-- The empty state that is found is marked, and no earlier one is an empty state with a mark. -/
theorem Grammar.emptyState?_eq_some {states : List State} {marks : List Bool} {name : String}
    (h : emptyState? states marks = some name) :
    ∃ (index : Nat) (state : State), states[index]? = some state ∧ marks[index]? = some true ∧
      state.rules = [] ∧ state.name = name ∧
      ∀ earlier < index, ∀ other : State, states[earlier]? = some other →
        marks[earlier]? = some true → other.rules ≠ [] := by
  unfold emptyState? at h
  obtain ⟨before, ⟨state, marked⟩, after, hzip, hfound, hbefore⟩ := List.findSome?_eq_some_iff.mp h
  have hget : (states.zip marks)[before.length]? = some (state, marked) := by
    rw [hzip, List.getElem?_append_right (Nat.le_refl _), Nat.sub_self]
    rfl
  obtain ⟨hstate, hmarked⟩ := List.getElem?_zip_eq_some.mp hget
  dsimp only at hstate hmarked hfound
  split at hfound
  · rename_i hempty
    obtain ⟨rfl, hrules⟩ := Bool.and_eq_true_iff.mp hempty
    refine ⟨before.length, state, hstate, hmarked, List.isEmpty_iff.mp hrules,
      Option.some.inj hfound, fun earlier hlt other hother hmark hnil => ?_⟩
    -- an earlier state of this kind would have been found
    have hearlier : (other, true) ∈ before := by
      refine List.mem_of_getElem? (i := earlier) ?_
      rw [← List.getElem?_append_left hlt, ← hzip, List.getElem?_zip_eq_some]
      exact ⟨hother, hmark⟩
    have hnone := hbefore _ hearlier
    dsimp only at hnone
    rw [hnil] at hnone
    cases hnone
  · cases hfound

theorem Grammar.emptyState?_eq_none {states : List State} {marks : List Bool}
    (h : emptyState? states marks = none) {index : Nat} {state : State}
    (hstate : states[index]? = some state) (hmark : marks[index]? = some true) :
    state.rules ≠ [] := by
  intro hnil
  have hmem : (state, true) ∈ states.zip marks :=
    List.mem_of_getElem? (List.getElem?_zip_eq_some.mpr ⟨hstate, hmark⟩)
  have hnone := List.findSome?_eq_none_iff.mp h _ hmem
  dsimp only at hnone
  rw [hnil] at hnone
  cases hnone

namespace GrammarDocument

variable {document : GrammarDocument} {grammar : Grammar}

/-- A state is made without rules just if its document gives it none. -/
theorem Compiled.rules_eq_nil_iff (h : document.Compiled grammar) {index : Nat} {state : State}
    (hstate : grammar.states[index]? = some state) :
    state.rules = [] ↔ document.states.entries[index]? = some (state.name, []) := by
  obtain ⟨name, rules, hentry, hcompile⟩ := h.exists_stateEntry hstate
  obtain ⟨rfl, hrules⟩ := compileState_eq_ok hcompile
  have hlength : rules.length = state.rules.length := by
    rw [← hrules.length_eq, List.length_zipIdx]
  rw [hentry, ← List.length_eq_zero_iff, ← hlength, List.length_eq_zero_iff]
  simp

/-- A state without rules that can be reached in the document is one that the search marks. -/
theorem Compiled.stateEmpty_iff (h : document.Compiled grammar) {marks : List Bool}
    (hmarks : ∀ id, marks[id]? = some true ↔ PushReaches grammar.states grammar.initial id)
    {index : Nat} {name : String} :
    (document.states.entries[index]? = some (name, []) ∧ document.Reachable name) ↔
      ∃ state, grammar.states[index]? = some state ∧ state.name = name ∧ state.rules = [] ∧
        marks[index]? = some true := by
  simp only [hmarks, h.pushReaches_iff]
  constructor
  · rintro ⟨hentry, hreach⟩
    obtain ⟨state, hstate, hcompile⟩ := h.exists_state hentry
    obtain ⟨rfl, -⟩ := compileState_eq_ok hcompile
    exact ⟨state, hstate, rfl, (h.rules_eq_nil_iff hstate).mpr hentry, state, hstate, hreach⟩
  · rintro ⟨state, hstate, rfl, hrules, other, hother, hreach⟩
    obtain rfl := Option.some.inj (hstate.symm.trans hother)
    exact ⟨(h.rules_eq_nil_iff hstate).mp hrules, hreach⟩

/-- A document whose states are made is refused for the first empty one that can be reached. -/
theorem Compiled.reports_reachable (h : document.Compiled grammar) :
    Reports (match Grammar.emptyState? grammar.states
        ((reachableStates? grammar.states grammar.initial).getD []) with
      | some name => .error (.stateEmpty name)
      | none => .ok grammar)
      (Faults.ofStep document.FaultAt 5) := by
  obtain ⟨marks, hsearch, -, hmarks⟩ := h.exists_marks
  rw [hsearch, Option.getD_some]
  cases hempty : Grammar.emptyState? grammar.states marks with
  | none =>
    refine .pure grammar fun place fault hfault => ?_
    cases hfault with
    | stateEmpty hstate hreachable =>
      obtain ⟨state, hget, -, hrules, hmark⟩ :=
        (h.stateEmpty_iff hmarks).mp ⟨hstate, hreachable⟩
      exact Grammar.emptyState?_eq_none hempty hget hmark hrules
  | some name =>
    obtain ⟨index, state, hget, hmark, hrules, hname, hfirst⟩ := Grammar.emptyState?_eq_some hempty
    refine ⟨fun fault hfault => ?_, fun value hvalue => nomatch hvalue⟩
    cases hfault
    obtain ⟨hentry, hreachable⟩ :=
      (h.stateEmpty_iff hmarks).mpr ⟨state, hget, hname, hrules, hmark⟩
    refine ⟨[index], .stateEmpty hentry hreachable, fun earlier hearlier other hother => ?_⟩
    cases hother with
    | stateEmpty hentry' hreachable' =>
      obtain ⟨state', hget', -, hrules', hmark'⟩ :=
        (h.stateEmpty_iff hmarks).mp ⟨hentry', hreachable'⟩
      cases hearlier with
      | rel hlt => exact hfirst _ hlt state' hget' hmark' hrules'
      | cons hnil => cases hnil

end GrammarDocument

/-! ## The whole document -/

namespace GrammarDocument

variable {document : GrammarDocument}

theorem faultAt_unique (place : List Nat) (a b : GrammarError) (ha : document.FaultAt place a)
    (hb : document.FaultAt place b) : a = b := by
  cases ha with
  | tooManyStates => cases hb; rfl
  | initialStateMissing => cases hb; rfl
  | defaultLabelEmpty => cases hb; rfl
  | state hstate hfault =>
    cases hb with
    | state hstate' hfault' =>
      cases hstate.symm.trans hstate'
      exact stateFaultAt_unique _ a b hfault hfault'
  | bracket hentry hfault =>
    cases hb with
    | bracket hentry' hfault' =>
      cases hentry.symm.trans hentry'
      exact BracketEntry.faultAt_unique _ a b hfault hfault'
  | stateEmpty hstate =>
    cases hb with
    | stateEmpty hstate' =>
      cases hstate.symm.trans hstate'
      rfl

theorem reports_states :
    Reports (document.states.entries.mapM fun (name, rules) =>
        compileState document (Grammar.indexNames document.states.keys) name rules)
      (Faults.ofStep document.FaultAt 3) := by
  have hwalk : Reports
      (document.states.entries.mapM fun (name, rules) =>
        compileState document (Grammar.indexNames document.states.keys) name rules)
      (.ofItems document.states.entries fun _ entry => document.StateFaultAt entry.1 entry.2) :=
    .mapM fun index entry hentry => reports_compileState
  refine hwalk.congr fun place fault => ⟨fun hfault => ?_, fun hfault => ?_⟩
  · cases hfault with
    | state hstate hfault => exact ⟨_, hstate, hfault⟩
  · cases place with
    | nil => exact hfault.elim
    | cons index place =>
      obtain ⟨entry, hentry, hfault⟩ := hfault
      exact .state hentry hfault

theorem reports_brackets :
    Reports (document.brackets.zipIdx.mapM fun (entry, index) => entry.compile index)
      (Faults.ofStep document.FaultAt 4) := by
  have hwalk : Reports (document.brackets.zipIdx.mapM fun (entry, index) => entry.compile index)
      (.ofItems document.brackets fun index entry => entry.FaultAt index) :=
    .mapM_zipIdx fun index entry _ => entry.reports_compile
  refine hwalk.congr fun place fault => ⟨fun hfault => ?_, fun hfault => ?_⟩
  · cases hfault with
    | bracket hentry hfault => exact ⟨_, hentry, hfault⟩
  · cases place with
    | nil => exact hfault.elim
    | cons index place =>
      obtain ⟨entry, hentry, hfault⟩ := hfault
      exact .bracket hentry hfault

/-- A document is refused for its first fault. -/
theorem reports_compile (document : GrammarDocument) (fallbackName : String) :
    Reports (Grammar.compile document fallbackName) document.FaultAt := by
  refine .of_fromStep ?_ fun fault hfault => nomatch hfault
  unfold Grammar.compile
  dsimp only
  refine .ite (fun place fault => ⟨fun hfault => ?_, ?_⟩) fun _ => ?_
  · cases hfault with
    | tooManyStates h => exact ⟨rfl, h, rfl⟩
  · rintro ⟨rfl, h, rfl⟩
    exact .tooManyStates h
  have hcontains : (!document.states.contains document.initial) = true ↔
      document.initial ∉ document.states.keys := by
    rw [Bool.not_eq_true', SortedMap.contains, Option.isSome_eq_false_iff, Option.isNone_iff_eq_none,
      SortedMap.mem_keys_iff, Option.eq_none_iff_forall_ne_some, not_exists]
  refine .ite (fun place fault => ⟨fun hfault => ?_, ?_⟩) fun hinitial => ?_
  · cases hfault with
    | initialStateMissing h => exact ⟨rfl, hcontains.mpr h, rfl⟩
  · rintro ⟨rfl, h, rfl⟩
    exact .initialStateMissing (hcontains.mp h)
  refine .ite (fun place fault => ⟨fun hfault => ?_, ?_⟩) fun _ => ?_
  · cases hfault with
    | defaultLabelEmpty h => exact ⟨rfl, h, rfl⟩
  · rintro ⟨rfl, h, rfl⟩
    exact .defaultLabelEmpty h
  refine reports_states.bind fun states hstates => ?_
  refine reports_brackets.bind fun brackets _ => ?_
  refine Reports.last ?_ (Faults.not_fromStep fun step place fault hfault => ?_)
  · cases hfound : (Grammar.indexNames document.states.keys).find? document.initial with
    | none =>
      -- the initial state is one of the document, so it is in the table
      rw [Grammar.find?_indexNames_eq_none_iff document.states.nodup_keys, ← hcontains] at hfound
      exact absurd hfound hinitial
    | some initial =>
      -- what is left is the grammar, or the name of an empty state
      dsimp only
      generalize hgrammar :
        Grammar.mk _ initial states (Grammar.indexNames document.states.keys) _ _ _ _ = grammar
      have hcompiled : document.Compiled grammar := by
        rw [← hgrammar]
        exact ⟨rfl, forall₂_of_mapM hstates, hfound⟩
      have hreachable := hcompiled.reports_reachable
      rw [← hgrammar] at hreachable ⊢
      revert hreachable
      dsimp only
      cases Grammar.emptyState? states ((reachableStates? states initial).getD []) with
      | none => exact id
      | some name => exact id
  · cases hfault <;> omega

theorem Valid.not_faultAt (h : document.Valid) (place : List Nat) (fault : GrammarError) :
    ¬document.FaultAt place fault := by
  intro hfault
  cases hfault with
  | tooManyStates hsize => exact absurd h.states_le (Nat.not_le.mpr hsize)
  | initialStateMissing hinitial => exact hinitial h.initial
  | defaultLabelEmpty hblank => exact Bool.false_ne_true (h.defaultLabel.symm.trans hblank)
  | state hstate hfault =>
    have hmem := List.mem_of_getElem? hstate
    exact rules_valid_iff.mp ⟨h.rules_le _ _ hmem, h.rules _ _ hmem⟩ _ _ hfault
  | bracket hentry hfault =>
    exact BracketEntry.valid_iff.mp (h.brackets _ (List.mem_of_getElem? hentry)) _ _ hfault
  | stateEmpty hstate hreachable =>
    exact h.reachable _ _ hreachable (List.mem_of_getElem? hstate) rfl

/-- A document is valid just if it has no fault. -/
theorem valid_iff : document.Valid ↔ ∀ place fault, ¬document.FaultAt place fault := by
  refine ⟨Valid.not_faultAt, fun hnone => ?_⟩
  have hstate (name : String) (rules : List RuleEntry)
      (hmem : (name, rules) ∈ document.states.entries) :
      rules.length ≤ Limits.rulesPerState ∧ ∀ entry ∈ rules, entry.Valid document := by
    obtain ⟨index, hindex⟩ := List.mem_iff_getElem?.mp hmem
    exact rules_valid_iff.mpr fun place fault hfault => hnone _ _ (.state hindex hfault)
  refine ⟨Nat.not_lt.mp fun hsize => hnone _ _ (.tooManyStates hsize), ?_,
    Bool.eq_false_iff.mpr fun hblank => hnone _ _ (.defaultLabelEmpty hblank),
    fun name rules hmem => (hstate name rules hmem).1,
    fun name rules hmem => (hstate name rules hmem).2, fun entry hentry => ?_,
    fun name rules hreachable hmem hnil => ?_⟩
  · by_contra hinitial
    exact hnone _ _ (.initialStateMissing hinitial)
  · obtain ⟨index, hindex⟩ := List.mem_iff_getElem?.mp hentry
    exact BracketEntry.valid_iff.mpr fun place fault hfault => hnone _ _ (.bracket hindex hfault)
  · obtain ⟨index, hindex⟩ := List.mem_iff_getElem?.mp hmem
    exact hnone _ _ (.stateEmpty (hnil ▸ hindex) hreachable)

end GrammarDocument

theorem Grammar.exists_compile_iff (document : GrammarDocument) (fallbackName : String) :
    (∃ grammar, compile document fallbackName = .ok grammar) ↔ document.Valid := by
  rw [(document.reports_compile fallbackName).exists_ok_iff, GrammarDocument.valid_iff]

/-- A document becomes a grammar just if it is valid, and else it is refused for its first fault. -/
theorem Grammar.compile_valid_or_first_fault (document : GrammarDocument) (fallbackName : String) :
    ((∃ grammar, compile document fallbackName = .ok grammar) ↔ document.Valid) ∧
      ∀ fault, compile document fallbackName = .error fault ↔
        Faults.First document.FaultAt fault := by
  have hreports := document.reports_compile fallbackName
  exact ⟨exists_compile_iff document fallbackName,
    fun fault => hreports.eq_error_iff GrammarDocument.faultAt_unique fault⟩

/-- A document with a rule that pushes a state that there is not and has no pattern, a rule without
an action, and a pair of equal brackets. -/
def faultyDocument : GrammarDocument where
  name := none
  initial := "text"
  defaultToken := none
  ignoreCase := false
  brackets := [⟨"(", "(", "paren"⟩]
  states := .ofList [
    ("text", [⟨"a", none, false, .stay, none⟩]),
    ("line", [⟨"a", some "a", false, .pop, none⟩, ⟨"(", some "b", false, .push "word", none⟩])]

/-- States come in the order of their names and before the brackets, and the target of a rule comes
before its pattern. -/
example : Grammar.compile faultyDocument "grammar"
    = .error (.pushTargetUnknown "line" 1 "word") := by
  decide +kernel

end LineLexer
