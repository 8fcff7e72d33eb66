import LineLexer.Proofs.Grammar.Compiled
import LineLexer.Tokenize.Scan
import Mathlib.Data.List.Nodup

/-!
# Stacks by index and by name

While a line is scanned a stack holds indices, between lines it holds names. Under a compiled
grammar the two say the same: a stack that is resolved gives the same names back
(`resolve_eq_ok`), both have the same current state (`current_ofFrames`), and a transition does to
the names what it does to the indices (`Transition.Moves`).
-/

namespace LineLexer

/-- Every frame is the index of a state. -/
def Grammar.ValidFrames (grammar : Grammar) (frames : Frames) : Prop :=
  ∀ id ∈ frames, id < grammar.states.length

theorem Grammar.validFrames_nil (grammar : Grammar) : grammar.ValidFrames [] :=
  fun _ hid => absurd hid List.not_mem_nil

/-- What a transition does to the names on a stack, the top one last. A push needs room; a pop
leaves the empty stack as it is. -/
inductive Transition.Moves : Transition → StateStack → StateStack → Prop
  | stay (stack : StateStack) : Moves .stay stack stack
  | push {stack : StateStack} (target : Nat) (name : String)
      (hroom : stack.depth < Limits.stackDepth) :
      Moves (.push target name) stack ⟨stack.names ++ [name]⟩
  | pop (stack : StateStack) : Moves .pop stack ⟨stack.names.dropLast⟩
  | popAll (stack : StateStack) : Moves .popAll stack .initial

/-- If not all items are known, there is a first one that is not. -/
theorem exists_first_not_mem {α : Type} [DecidableEq α] {items known : List α}
    (h : ¬∀ item ∈ items, item ∈ known) :
    ∃ before item after, items = before ++ item :: after ∧ (∀ other ∈ before, other ∈ known) ∧
      item ∉ known := by
  cases hfind : items.find? fun item => decide (item ∉ known) with
  | none =>
    refine absurd (fun item hitem => ?_) h
    simpa using List.find?_eq_none.mp hfind item hitem
  | some item =>
    obtain ⟨hitem, before, after, heq, hbefore⟩ := List.find?_eq_some_iff_append.mp hfind
    refine ⟨before, item, after, heq, fun other hother => ?_, of_decide_eq_true hitem⟩
    simpa using hbefore other hother

namespace Grammar

variable {grammar : Grammar}

theorem stateName_eq {id : Nat} {state : State} (h : grammar.states[id]? = some state) :
    grammar.stateName id = state.name := by
  rw [stateName, state?, h]
  rfl

theorem rulesOf_eq {id : Nat} {state : State} (h : grammar.states[id]? = some state) :
    grammar.rulesOf id = state.rules := by
  rw [rulesOf, state?, h]
  rfl

theorem exists_state_of_mem_rulesOf {id : Nat} {rule : Rule} (h : rule ∈ grammar.rulesOf id) :
    ∃ state, grammar.states[id]? = some state ∧ rule ∈ state.rules := by
  cases hstate : grammar.states[id]? with
  | none =>
    rw [rulesOf, state?, hstate] at h
    exact absurd h List.not_mem_nil
  | some state => exact ⟨state, rfl, rulesOf_eq hstate ▸ h⟩

theorem WellFormed.nodup_names (h : grammar.WellFormed) : (grammar.states.map (·.name)).Nodup :=
  h.ascending.imp fun {x y} (hlt : x < y) (heq : x = y) => String.lt_irrefl y (heq ▸ hlt)

/-- Under a compiled grammar a name stands for one state. -/
theorem WellFormed.eq_of_name (h : grammar.WellFormed) {a b : State} (ha : a ∈ grammar.states)
    (hb : b ∈ grammar.states) (hname : a.name = b.name) : a = b :=
  List.inj_on_of_nodup_map h.nodup_names ha hb hname

/-- States stand in the order of their names. -/
theorem WellFormed.lt_iff (h : grammar.WellFormed) {id id' : Nat}
    {state state' : State} (hstate : grammar.states[id]? = some state)
    (hstate' : grammar.states[id']? = some state') : id < id' ↔ state.name < state'.name := by
  have hbefore {id id' : Nat} {state state' : State} (hstate : grammar.states[id]? = some state)
      (hstate' : grammar.states[id']? = some state') (hlt : id < id') :
      state.name < state'.name := by
    obtain ⟨hid, rfl⟩ := List.getElem?_eq_some_iff.mp hstate
    obtain ⟨hid', rfl⟩ := List.getElem?_eq_some_iff.mp hstate'
    have hnames := List.pairwise_iff_getElem.mp h.ascending id id'
      (by rwa [List.length_map]) (by rwa [List.length_map]) hlt
    rwa [List.getElem_map, List.getElem_map] at hnames
  refine ⟨hbefore hstate hstate', fun hname => ?_⟩
  rcases Nat.lt_trichotomy id id' with hlt | rfl | hlt
  · exact hlt
  · cases hstate.symm.trans hstate'
    exact absurd hname (String.lt_irrefl _)
  · exact absurd (String.lt_trans hname (hbefore hstate' hstate hlt)) (String.lt_irrefl _)

/-- Under a compiled grammar a name is found with the index of the state that bears it. -/
theorem WellFormed.stateId?_eq_some_iff (h : grammar.WellFormed) {name : String} {id : Nat} :
    grammar.stateId? name = some id ↔ ∃ state, grammar.states[id]? = some state ∧ state.name = name := by
  rw [stateId?, h.index, find?_indexNames_eq_some_iff h.nodup_names, List.getElem?_map,
    Option.map_eq_some_iff]

/-- A name without an index is that of no state. -/
theorem WellFormed.stateId?_eq_none_iff (h : grammar.WellFormed) {name : String} :
    grammar.stateId? name = none ↔ name ∉ grammar.states.map (·.name) := by
  rw [stateId?, h.index, find?_indexNames_eq_none_iff h.nodup_names]

theorem WellFormed.stateId?_eq_some (h : grammar.WellFormed) {name : String} {id : Nat}
    (hid : grammar.stateId? name = some id) :
    id < grammar.states.length ∧ grammar.stateName id = name := by
  obtain ⟨state, hstate, hname⟩ := h.stateId?_eq_some_iff.mp hid
  exact ⟨(List.getElem?_eq_some_iff.mp hstate).1, (stateName_eq hstate).trans hname⟩

/-- An index and its name stand for each other. -/
theorem WellFormed.stateId?_stateName (h : grammar.WellFormed) {id : Nat}
    (hid : id < grammar.states.length) : grammar.stateId? (grammar.stateName id) = some id := by
  have hget := List.getElem?_eq_getElem hid
  rw [stateName_eq hget]
  exact h.stateId?_eq_some_iff.mpr ⟨_, hget, rfl⟩

end Grammar

namespace StateStack

open Grammar

variable {grammar : Grammar} {frames : Frames}

theorem resolveName_eq_ok {name : String} {id : Nat} (h : resolveName grammar name = .ok id) :
    grammar.stateId? name = some id := by
  rw [resolveName] at h
  split at h
  · rename_i found hfound
    cases h
    exact hfound
  · cases h

/-- What a stack that was resolved is made of. -/
theorem resolve_eq_ok (hgrammar : grammar.WellFormed) {stack : StateStack}
    (h : stack.resolve grammar = .ok frames) :
    stack.depth ≤ Limits.stackDepth ∧ grammar.ValidFrames frames ∧
      ofFrames grammar frames = stack := by
  rw [resolve] at h
  dsimp only at h
  split at h
  · cases h
  rename_i hdepth
  obtain ⟨ids, hids, h⟩ := bind_eq_ok.mp h
  cases h
  have hnames := forall₂_of_mapM hids
  have hids : ∀ id ∈ ids, id < grammar.states.length := by
    intro id hid
    obtain ⟨name, -, hname⟩ := exists_of_forall₂ hnames hid
    exact (hgrammar.stateId?_eq_some (resolveName_eq_ok hname)).1
  refine ⟨Nat.not_lt.mp hdepth, fun id hid => hids id (List.mem_reverse.mp hid), ?_⟩
  -- names stand with the top last, frames with the top first
  rw [ofFrames, List.map_reverse, List.reverse_reverse]
  have heq : stack.names = ids.map grammar.stateName := by
    rw [← List.forall₂_eq_eq_eq, List.forall₂_map_right_iff]
    exact hnames.imp fun name id hname =>
      (hgrammar.stateId?_eq_some (resolveName_eq_ok hname)).2.symm
  rw [← heq]

/-- A stack that is too deep is refused, whatever it names. -/
theorem resolve_of_tooDeep (grammar : Grammar) {stack : StateStack}
    (h : Limits.stackDepth < stack.depth) :
    stack.resolve grammar
      = .error (.stackDepthExceeded (stack.top?.getD "") Limits.stackDepth) := by
  rw [resolve, if_pos h]
  rfl

/-- Names of states have indices. -/
theorem exists_mapM_resolveName (hgrammar : grammar.WellFormed) {names : List String}
    (h : ∀ name ∈ names, name ∈ grammar.states.map (·.name)) :
    ∃ ids, names.mapM (resolveName grammar) = .ok ids := by
  induction names with
  | nil => exact ⟨[], rfl⟩
  | cons name names ih =>
    obtain ⟨ids, hids⟩ := ih fun other hother => h other (List.mem_cons_of_mem _ hother)
    obtain ⟨id, hid⟩ : ∃ id, grammar.stateId? name = some id := by
      rw [← Option.ne_none_iff_exists', Ne, hgrammar.stateId?_eq_none_iff, not_not]
      exact h name List.mem_cons_self
    refine ⟨id :: ids, ?_⟩
    rw [List.mapM_cons, resolveName, hid, hids]
    rfl

/-- A stack of states that is not too deep is resolved. -/
theorem exists_resolve (hgrammar : grammar.WellFormed) {stack : StateStack}
    (hdepth : stack.depth ≤ Limits.stackDepth)
    (h : ∀ name ∈ stack.names, name ∈ grammar.states.map (·.name)) :
    ∃ frames, stack.resolve grammar = .ok frames := by
  obtain ⟨ids, hids⟩ := exists_mapM_resolveName hgrammar h
  refine ⟨ids.reverse, ?_⟩
  rw [resolve, if_neg (Nat.not_lt.mpr hdepth), hids]
  rfl

/-- A stack is refused at the lowest name that is no state's. -/
theorem resolve_of_unknown (hgrammar : grammar.WellFormed) {stack : StateStack}
    (hdepth : stack.depth ≤ Limits.stackDepth)
    {below above : List String} {name : String} (hnames : stack.names = below ++ name :: above)
    (hbelow : ∀ other ∈ below, other ∈ grammar.states.map (·.name))
    (hname : name ∉ grammar.states.map (·.name)) :
    stack.resolve grammar = .error (.stateUnknown grammar.name name) := by
  obtain ⟨ids, hids⟩ := exists_mapM_resolveName hgrammar hbelow
  have hnone : grammar.stateId? name = none := hgrammar.stateId?_eq_none_iff.mpr hname
  rw [resolve, if_neg (Nat.not_lt.mpr hdepth), hnames, List.mapM_append, hids, List.mapM_cons,
    resolveName, hnone]
  rfl

@[simp] theorem depth_ofFrames (grammar : Grammar) (frames : Frames) :
    (ofFrames grammar frames).depth = frames.length := by
  simp [depth, ofFrames]

@[simp] theorem ofFrames_nil (grammar : Grammar) : ofFrames grammar [] = .initial := rfl

theorem ofFrames_cons (grammar : Grammar) (id : Nat) (frames : Frames) :
    ofFrames grammar (id :: frames) = ⟨(ofFrames grammar frames).names ++ [grammar.stateName id]⟩ := by
  simp [ofFrames]

theorem ofFrames_tail (grammar : Grammar) (frames : Frames) :
    ofFrames grammar frames.tail = ⟨(ofFrames grammar frames).names.dropLast⟩ := by
  cases frames with
  | nil => rfl
  | cons id frames => rw [ofFrames_cons, List.dropLast_concat, List.tail_cons]

/-- The names of a stack of indices that is not too deep are resolved to the same indices. -/
theorem resolve_ofFrames (h : grammar.WellFormed) (hframes : grammar.ValidFrames frames)
    (hdepth : frames.length ≤ Limits.stackDepth) :
    (ofFrames grammar frames).resolve grammar = .ok frames := by
  have hnames {ids : List Nat} (hids : grammar.ValidFrames ids) :
      (ids.map grammar.stateName).mapM (resolveName grammar) = .ok ids := by
    induction ids with
    | nil => rfl
    | cons id ids ih =>
      have hid := h.stateId?_stateName (hids id List.mem_cons_self)
      rw [List.map_cons, List.mapM_cons, ih fun other hother => hids other (List.mem_cons_of_mem _ hother)]
      rw [resolveName, hid]
      rfl
  unfold resolve
  rw [depth_ofFrames, if_neg (Nat.not_lt.mpr hdepth)]
  have hreverse : grammar.ValidFrames frames.reverse := fun id hid => hframes id (List.mem_reverse.mp hid)
  rw [ofFrames, ← List.map_reverse]
  dsimp only
  rw [hnames hreverse]
  show Except.ok frames.reverse.reverse = _
  rw [List.reverse_reverse]

/-- The names and the indices have the same current state. -/
theorem current_ofFrames (grammar : Grammar) (frames : Frames) :
    (ofFrames grammar frames).current grammar
      = grammar.stateName (grammar.currentState frames) := by
  cases frames with
  | nil => rfl
  | cons id frames =>
    rw [ofFrames_cons, current, top?, List.getLast?_concat]
    rfl

end StateStack

namespace Grammar

variable {grammar : Grammar} {frames : Frames}

/-- Stacks of states that have the same names are the same. -/
theorem WellFormed.ofFrames_inj (h : grammar.WellFormed) {frames' : Frames}
    (hframes : grammar.ValidFrames frames) (hframes' : grammar.ValidFrames frames') :
    StateStack.ofFrames grammar frames = StateStack.ofFrames grammar frames' ↔ frames = frames' := by
  have hback {ids : Frames} (hids : grammar.ValidFrames ids) :
      (ids.map grammar.stateName).map grammar.stateId? = ids.map some := by
    rw [List.map_map]
    exact List.map_congr_left fun id hid => h.stateId?_stateName (hids id hid)
  refine ⟨fun heq => ?_, fun heq => congrArg _ heq⟩
  have hnames := List.reverse_inj.mp (congrArg StateStack.names heq)
  have hids := congrArg (List.map grammar.stateId?) hnames
  rw [hback hframes, hback hframes'] at hids
  exact (List.map_inj_right fun _ _ => Option.some.inj).mp hids

theorem WellFormed.currentState_lt (h : grammar.WellFormed) (hframes : grammar.ValidFrames frames) :
    grammar.currentState frames < grammar.states.length := by
  cases frames with
  | nil => exact h.initial_lt
  | cons id frames => exact hframes id List.mem_cons_self

/-- The current state of a stack, by its name. -/
theorem WellFormed.exists_current (h : grammar.WellFormed) (hframes : grammar.ValidFrames frames) :
    ∃ state ∈ grammar.states, state.name = (StateStack.ofFrames grammar frames).current grammar ∧
      grammar.rulesOf (grammar.currentState frames) = state.rules := by
  have hget := List.getElem?_eq_getElem (h.currentState_lt hframes)
  refine ⟨_, List.getElem_mem (h.currentState_lt hframes), ?_, rulesOf_eq hget⟩
  rw [StateStack.current_ofFrames, stateName_eq hget]

/-- A line that begins with the names of a stack is scanned from its indices. -/
theorem WellFormed.tokenizeLineAt_ofFrames (h : grammar.WellFormed)
    (hframes : grammar.ValidFrames frames) (hdepth : frames.length ≤ Limits.stackDepth)
    (line : String) (number : Nat) :
    grammar.tokenizeLineAt (.ofFrames grammar frames) line number
      = (grammar.scan (some Limits.stackDepth) frames line number).toLineTokens grammar := by
  rw [tokenizeLineAt, StateStack.resolve_ofFrames h hframes hdepth]
  rfl

/-- A transition of a rule leads from indices of states to indices of states. -/
theorem WellFormed.validFrames_apply (h : grammar.WellFormed) (hframes : grammar.ValidFrames frames)
    {state : State} (hstate : state ∈ grammar.states) {rule : Rule} (hrule : rule ∈ state.rules)
    {limit : Option Nat} {after : Frames} (hafter : rule.transition.apply limit frames = .ok after) :
    grammar.ValidFrames after := by
  cases htransition : rule.transition with
  | stay =>
    rw [htransition] at hafter
    cases hafter
    exact hframes
  | push target name =>
    obtain ⟨pushed, hpushed, -⟩ := h.push state hstate rule hrule target name htransition
    rw [htransition, Transition.apply] at hafter
    split at hafter
    · cases hafter
    · cases hafter
      intro id hid
      rcases List.mem_cons.mp hid with rfl | hid
      · exact (List.getElem?_eq_some_iff.mp hpushed).1
      · exact hframes id hid
  | pop =>
    rw [htransition] at hafter
    cases hafter
    exact fun id hid => hframes id (List.mem_of_mem_tail hid)
  | popAll =>
    rw [htransition] at hafter
    cases hafter
    exact grammar.validFrames_nil

/-- Under the limit of the stack's depth, a rule moves the names just as it moves the indices. -/
theorem WellFormed.moves_iff (h : grammar.WellFormed) {state : State}
    (hstate : state ∈ grammar.states) {rule : Rule} (hrule : rule ∈ state.rules)
    {next : StateStack} :
    rule.transition.Moves (.ofFrames grammar frames) next ↔
      ∃ after, rule.transition.apply (some Limits.stackDepth) frames = .ok after ∧
        next = .ofFrames grammar after := by
  cases htransition : rule.transition with
  | stay =>
    constructor
    · rintro ⟨⟩
      exact ⟨frames, rfl, rfl⟩
    · rintro ⟨after, ⟨⟩, rfl⟩
      exact .stay _
  | push target name =>
    obtain ⟨pushed, hpushed, hname⟩ := h.push state hstate rule hrule target name htransition
    have hcons : StateStack.ofFrames grammar (target :: frames)
        = ⟨(StateStack.ofFrames grammar frames).names ++ [name]⟩ := by
      rw [StateStack.ofFrames_cons, stateName_eq hpushed, hname]
    constructor
    · rintro ⟨⟩
      rename_i hroom
      rw [StateStack.depth_ofFrames] at hroom
      refine ⟨target :: frames, ?_, hcons.symm⟩
      rw [Transition.apply, if_neg (by simpa using hroom)]
    · rintro ⟨after, hafter, rfl⟩
      rw [Transition.apply] at hafter
      split at hafter
      · cases hafter
      · rename_i hroom
        cases hafter
        rw [hcons]
        exact .push target name (by simpa using hroom)
  | pop =>
    constructor
    · rintro ⟨⟩
      exact ⟨frames.tail, rfl, (StateStack.ofFrames_tail grammar frames).symm⟩
    · rintro ⟨after, ⟨⟩, rfl⟩
      rw [StateStack.ofFrames_tail]
      exact .pop _
  | popAll =>
    constructor
    · rintro ⟨⟩
      exact ⟨[], rfl, rfl⟩
    · rintro ⟨after, ⟨⟩, rfl⟩
      exact .popAll _

end Grammar
end LineLexer
