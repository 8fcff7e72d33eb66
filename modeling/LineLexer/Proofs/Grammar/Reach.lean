import LineLexer.Proofs.Grammar.Compiled
import Mathlib.Logic.Relation

/-!
# The search for states that can be reached

The search of a grammar's states marks just those to which pushes lead from the initial one
(`exists_reachableStates?`), and these are the states that the pushes in its document lead to
(`GrammarDocument.Compiled.pushReaches_iff`). What is marked and what is in the queue is an invariant of
the search (`Searched`). Its steps look states up by their indices; all of these are there, as the
targets of a compiled grammar are. The search ends in time: each round takes one state off the queue,
and a state that is put there loses its place among those without a mark (`StateSearch.cost`).
-/

namespace LineLexer

/-- The states that the rules of a state push; none if there is no such state. -/
def pushedFrom (states : List State) (id : Nat) : List Nat :=
  ((states[id]?).map State.targets).getD []

/-- Pushes lead from one state to another. -/
abbrev PushReaches (states : List State) : Nat → Nat → Prop :=
  Relation.ReflTransGen fun a b => b ∈ pushedFrom states a

/-! ## The queue -/

namespace StateSearch

variable {search after last : StateSearch} {targets more : List Nat} {target : Nat}

/-- The state has been put into the queue. -/
def Marked (search : StateSearch) (id : Nat) : Prop := search.marks[id]? = some true

/-- A bound on the rounds that are left: the states in the queue, and those without a mark. -/
def cost (search : StateSearch) : Nat := search.queue.length + search.marks.count false

/-- What a search has become when targets were put into the queue. -/
structure Extends (search after : StateSearch) (targets : List Nat) : Prop where
  length : after.marks.length = search.marks.length
  cost : after.cost = search.cost
  marked : ∀ id, after.Marked id ↔ search.Marked id ∨ id ∈ targets
  queue : ∀ id, id ∈ after.queue ↔ id ∈ search.queue ∨ ¬search.Marked id ∧ id ∈ targets

theorem Extends.refl (search : StateSearch) : search.Extends search [] :=
  ⟨rfl, rfl, fun id => by simp, fun id => by simp⟩

theorem Extends.trans (h : search.Extends after targets) (h' : after.Extends last more) :
    search.Extends last (targets ++ more) := by
  refine ⟨h'.length.trans h.length, h'.cost.trans h.cost, fun id => ?_, fun id => ?_⟩
  · rw [h'.marked, h.marked, List.mem_append, or_assoc]
  · rw [h'.queue, h.queue, h.marked, List.mem_append]
    tauto

/-- A state gets its mark and its place in the queue at once. -/
theorem exists_enqueue (h : target < search.marks.length) :
    ∃ after, search.enqueue target = some after ∧ search.Extends after [target] := by
  unfold enqueue
  cases hmark : search.marks[target]? with
  | none => exact absurd h (Nat.not_lt.mpr (List.getElem?_eq_none_iff.mp hmark))
  | some marked =>
    -- a new state comes from those without a mark into the queue, so the cost stays
    cases marked with
    | true =>
      refine ⟨search, rfl, rfl, rfl, fun id => ?_, fun id => ?_⟩
      · rw [List.mem_singleton, Marked, iff_self_or]
        rintro rfl
        exact hmark
      · rw [List.mem_singleton, iff_self_or]
        rintro ⟨hnot, rfl⟩
        exact absurd hmark hnot
    | false =>
      have hget : search.marks[target] = false := (List.getElem?_eq_some_iff.mp hmark).2
      have hpos : 0 < search.marks.count false :=
        List.count_pos_iff.mpr (hget ▸ List.getElem_mem h)
      have hnot : ¬search.Marked target := by simp [Marked, hmark]
      refine ⟨⟨search.queue ++ [target], search.marks.set target true⟩, rfl, ?_, ?_, fun id => ?_,
        fun id => ?_⟩
      · exact List.length_set
      · simp only [cost, List.length_append, List.length_singleton]
        rw [List.count_set h, hget]
        simp
        omega
      · rw [List.mem_singleton, Marked, Marked]
        by_cases hid : target = id
        · subst hid
          simp [h]
        · simp [List.getElem?_set_ne hid, Ne.symm hid]
      · rw [List.mem_append, List.mem_singleton]
        refine or_congr_right ⟨fun hid => ⟨hid ▸ hnot, hid⟩, And.right⟩

theorem exists_enqueueAll (h : ∀ target ∈ targets, target < search.marks.length) :
    ∃ after, targets.foldlM enqueue search = some after ∧ search.Extends after targets := by
  induction targets generalizing search with
  | nil => exact ⟨search, rfl, .refl search⟩
  | cons target targets ih =>
    obtain ⟨htarget, htargets⟩ := List.forall_mem_cons.mp h
    obtain ⟨next, hnext, hextends⟩ := exists_enqueue htarget
    obtain ⟨after, hafter, hrest⟩ := ih fun other hother => hextends.length ▸ htargets other hother
    refine ⟨after, ?_, hextends.trans hrest⟩
    rw [List.foldlM_cons, hnext]
    exact hafter

end StateSearch

/-! ## One round -/

/-- What is marked can be reached, and its targets are marked, unless its rules are still to be looked
at. -/
structure Searched (states : List State) (start : Nat) (search : StateSearch) : Prop where
  length : search.marks.length = states.length
  begun : search.Marked start
  queued : ∀ id ∈ search.queue, search.Marked id
  reaches : ∀ id, search.Marked id → PushReaches states start id
  closed : ∀ id, search.Marked id →
    id ∈ search.queue ∨ ∀ target ∈ pushedFrom states id, search.Marked target

section

variable {states : List State} {start id : Nat} {queue : List Nat} {marks : List Bool}
  {search after : StateSearch}

theorem Searched.lt_length (h : Searched states start search) (hid : search.Marked id) :
    id < states.length :=
  h.length ▸ (List.getElem?_eq_some_iff.mp hid).1

/-- When the targets of a state are in the queue the state may leave it. -/
theorem Searched.visit (h : Searched states start ⟨id :: queue, marks⟩)
    (hafter : StateSearch.Extends ⟨queue, marks⟩ after (pushedFrom states id)) :
    Searched states start after := by
  have hid : PushReaches states start id := h.reaches id (h.queued id List.mem_cons_self)
  refine ⟨hafter.length.trans h.length, (hafter.marked _).mpr (.inl h.begun), fun other hother => ?_,
    fun other hother => ?_, fun other hother => ?_⟩
  · rw [hafter.marked]
    rcases (hafter.queue other).mp hother with hother | hother
    · exact .inl (h.queued other (List.mem_cons_of_mem _ hother))
    · exact .inr hother.2
  · rcases (hafter.marked other).mp hother with hother | hother
    · exact h.reaches other hother
    · exact .tail hid hother
  · rw [hafter.queue]
    by_cases hbefore : marks[other]? = some true
    · rcases h.closed other hbefore with hqueue | hclosed
      · rcases List.mem_cons.mp hqueue with rfl | hqueue
        · exact .inr fun target htarget => (hafter.marked target).mpr (.inr htarget)
        · exact .inl (.inl hqueue)
      · exact .inr fun target htarget => (hafter.marked target).mpr (.inl (hclosed target htarget))
    · exact .inl (.inr ⟨hbefore, ((hafter.marked other).mp hother).resolve_left hbefore⟩)

/-! ## The whole search -/

/-- With fuel for all rounds the queue is empty at the end, and no state is missed. -/
theorem Searched.exists_run (hrange : ∀ id, ∀ target ∈ pushedFrom states id, target < states.length)
    {fuel : Nat} (h : Searched states start search) (hfuel : search.cost ≤ fuel) :
    ∃ last, search.run states fuel = some last ∧ last.queue = [] ∧ Searched states start last := by
  induction fuel generalizing search with
  | zero =>
    have hnil : search.queue = [] :=
      List.length_eq_zero_iff.mp (by unfold StateSearch.cost at hfuel; omega)
    exact ⟨search, rfl, hnil, h⟩
  | succ fuel ih =>
    obtain ⟨queue, marks⟩ := search
    cases queue with
    | nil => exact ⟨⟨[], marks⟩, rfl, rfl, h⟩
    | cons id queue =>
      obtain ⟨state, hstate⟩ : ∃ state, states[id]? = some state :=
        ⟨_, List.getElem?_eq_getElem (h.lt_length (h.queued id List.mem_cons_self))⟩
      have htargets : pushedFrom states id = state.targets := by
        rw [pushedFrom, hstate]
        rfl
      obtain ⟨after, hafter, hextends⟩ := @StateSearch.exists_enqueueAll ⟨queue, marks⟩ _
        fun target htarget => h.length ▸ hrange id target htarget
      -- taking a state off the queue lowers the cost, and queueing what it pushes leaves it
      have hcost : after.cost ≤ fuel := by
        rw [hextends.cost]
        simp only [StateSearch.cost, List.length_cons] at hfuel ⊢
        omega
      obtain ⟨last, hlast, hrest⟩ := ih (h.visit hextends) hcost
      refine ⟨last, ?_, hrest⟩
      rw [htargets] at hafter
      rw [StateSearch.run, hstate]
      show (state.targets.foldlM StateSearch.enqueue ⟨queue, marks⟩).bind _ = _
      rw [hafter]
      exact hlast

/-- A search with an empty queue has marked all that can be reached. -/
theorem Searched.marked_iff (h : Searched states start search) (hqueue : search.queue = []) :
    search.Marked id ↔ PushReaches states start id := by
  refine ⟨h.reaches id, fun hreach => ?_⟩
  induction hreach with
  | refl => exact h.begun
  | tail _ htarget ih =>
    exact (h.closed _ ih).resolve_left (hqueue ▸ List.not_mem_nil) _ htarget

end

/-- If all targets are there the search misses no state, and it marks just the states to which pushes
lead from the initial one. -/
theorem exists_reachableStates? {states : List State}
    (hrange : ∀ id, ∀ target ∈ pushedFrom states id, target < states.length) {initial : Nat}
    (hinitial : initial < states.length) :
    ∃ marks, reachableStates? states initial = some marks ∧ marks.length = states.length ∧
      ∀ id, marks[id]? = some true ↔ PushReaches states initial id := by
  obtain ⟨start, hstart, hextends⟩ := @StateSearch.exists_enqueue
    ⟨[], List.replicate states.length false⟩ initial (by rwa [List.length_replicate])
  have hnone (id : Nat) : ¬StateSearch.Marked ⟨[], List.replicate states.length false⟩ id := by
    intro hmark
    obtain ⟨hlt, hget⟩ := List.getElem?_eq_some_iff.mp hmark
    rw [List.getElem_replicate] at hget
    cases hget
  have hmarked (id : Nat) : start.Marked id ↔ id = initial := by
    rw [hextends.marked, List.mem_singleton, or_iff_right (hnone id)]
  have hsearched : Searched states initial start := by
    refine ⟨hextends.length.trans List.length_replicate, (hmarked initial).mpr rfl,
      fun id hid => ?_, fun id hid => (hmarked id).mp hid ▸ .refl, fun id hid => .inl ?_⟩
    · exact (hextends.marked id).mpr (((hextends.queue id).mp hid).imp (nomatch ·) And.right)
    · exact (hextends.queue id).mpr (.inr ⟨hnone id, List.mem_singleton.mpr ((hmarked id).mp hid)⟩)
  have hcost : start.cost ≤ states.length := by
    rw [hextends.cost]
    simp [StateSearch.cost]
  obtain ⟨last, hlast, hqueue, hend⟩ := hsearched.exists_run hrange hcost
  refine ⟨last.marks, ?_, hend.length, fun id => hend.marked_iff hqueue⟩
  rw [reachableStates?, hstart]
  show (start.run states states.length).bind _ = _
  rw [hlast]
  rfl

/-! ## States of a document -/

/-- Pushes lead from the initial state of the document to the state with a name. -/
inductive GrammarDocument.Reachable (document : GrammarDocument) : String → Prop
  | initial : Reachable document document.initial
  | push {name target : String} {rules : List RuleEntry} {entry : RuleEntry}
      (hname : Reachable document name) (hstate : (name, rules) ∈ document.states.entries)
      (hentry : entry ∈ rules) (hnext : entry.next = .push target) : Reachable document target

namespace GrammarDocument.Compiled

variable {document : GrammarDocument} {grammar : Grammar}

/-- What a state pushes, its document pushes from the state's name. -/
theorem reachable_of_mem_pushedFrom (h : document.Compiled grammar) {id target : Nat}
    {state : State} (hstate : grammar.states[id]? = some state) (hname : document.Reachable state.name)
    (htarget : target ∈ pushedFrom grammar.states id) :
    ∃ pushed, grammar.states[target]? = some pushed ∧ document.Reachable pushed.name := by
  rw [pushedFrom, hstate] at htarget
  obtain ⟨rule, hrule, htransition⟩ := List.mem_filterMap.mp htarget
  obtain ⟨name, rules, hentries, hcompile⟩ := h.exists_stateEntry hstate
  obtain ⟨rfl, hrules⟩ := compileState_eq_ok hcompile
  obtain ⟨⟨entry, number⟩, hentry, hcompiled⟩ := exists_of_forall₂ hrules hrule
  cases hpush : rule.transition with
  | push target' wanted =>
    rw [hpush] at htransition
    cases htransition
    obtain ⟨hnext, hfound⟩ :=
      RuleEntry.compileTransition_eq_push_iff.mp (hpush ▸ hcompiled.transition)
    obtain ⟨pushed, hpushed, rfl⟩ := h.find?_eq_some_iff.mp hfound
    have hmem : entry ∈ rules := (List.mem_zipIdx' hentry).2 ▸ List.getElem_mem _
    exact ⟨pushed, hpushed, .push hname (List.mem_of_getElem? hentries) hmem hnext⟩
  | stay => rw [hpush] at htransition; cases htransition
  | pop => rw [hpush] at htransition; cases htransition
  | popAll => rw [hpush] at htransition; cases htransition

/-- What the document pushes, the state pushes that is made of it. -/
theorem exists_mem_pushedFrom (h : document.Compiled grammar) {name target : String}
    {rules : List RuleEntry} {entry : RuleEntry}
    (hstate : (name, rules) ∈ document.states.entries) (hentry : entry ∈ rules)
    (hnext : entry.next = .push target) :
    ∃ id state, grammar.states[id]? = some state ∧ state.name = name ∧
      ∃ pushed ∈ pushedFrom grammar.states id,
        grammar.index.find? target = some pushed := by
  obtain ⟨id, hid⟩ := List.mem_iff_getElem?.mp hstate
  obtain ⟨state, hget, hcompile⟩ := h.exists_state hid
  obtain ⟨hname, hrules⟩ := compileState_eq_ok hcompile
  obtain ⟨number, hnumber⟩ := List.mem_iff_getElem?.mp hentry
  have hzip : rules.zipIdx[number]? = some (entry, number) := by
    rw [List.getElem?_zipIdx, hnumber]
    simp
  obtain ⟨rule, hrule, hcompiled⟩ := exists_getElem?_of_forall₂ hrules hzip
  -- the entry's push was compiled, so its target has an index
  have htransition := hcompiled.transition
  have hpush : ∃ pushed, grammar.index.find? target = some pushed ∧
      rule.transition = .push pushed target := by
    unfold RuleEntry.compileTransition at htransition
    rw [hnext] at htransition
    dsimp only at htransition
    split at htransition
    · rename_i pushed hpushed
      exact ⟨pushed, hpushed, (Except.ok.inj htransition).symm⟩
    · cases htransition
  obtain ⟨pushed, hpushed, htransition⟩ := hpush
  refine ⟨id, state, hget, hname, pushed, ?_, hpushed⟩
  rw [pushedFrom, hget]
  refine List.mem_filterMap.mpr ⟨rule, List.mem_of_getElem? hrule, ?_⟩
  rw [htransition]

/-- Pushes lead to a state just if they lead to its name in the document. -/
theorem pushReaches_iff (h : document.Compiled grammar) {id : Nat} :
    PushReaches grammar.states grammar.initial id ↔
      ∃ state, grammar.states[id]? = some state ∧ document.Reachable state.name := by
  constructor
  · intro hreach
    induction hreach with
    | refl =>
      obtain ⟨state, hstate, hname⟩ := h.find?_eq_some_iff.mp h.initial
      exact ⟨state, hstate, hname ▸ .initial⟩
    | tail _ htarget ih =>
      obtain ⟨state, hstate, hname⟩ := ih
      exact h.reachable_of_mem_pushedFrom hstate hname htarget
  · rintro ⟨state, hstate, hname⟩
    generalize hwanted : state.name = wanted at hname
    induction hname generalizing id state with
    | initial =>
      obtain ⟨initial, hinitial, hname⟩ := h.find?_eq_some_iff.mp h.initial
      obtain rfl := h.eq_of_name hstate hinitial (hwanted.trans hname.symm)
      exact .refl
    | push hname hentries hentry hnext ih =>
      obtain ⟨before, state', hbefore, hname', pushed, hpushed, hfound⟩ :=
        h.exists_mem_pushedFrom hentries hentry hnext
      obtain ⟨target, htarget, hname''⟩ := h.find?_eq_some_iff.mp hfound
      obtain rfl := h.eq_of_name hstate htarget (hwanted.trans hname''.symm)
      exact .tail (ih state' hbefore hname') hpushed

/-- The search misses no state of a grammar that was made of a document. -/
theorem exists_marks (h : document.Compiled grammar) :
    ∃ marks, reachableStates? grammar.states grammar.initial = some marks ∧
      marks.length = grammar.states.length ∧
      ∀ id, marks[id]? = some true ↔ PushReaches grammar.states grammar.initial id := by
  obtain ⟨initial, hinitial, -⟩ := h.find?_eq_some_iff.mp h.initial
  refine exists_reachableStates? (fun id target htarget => ?_)
    (List.getElem?_eq_some_iff.mp hinitial).1
  rw [pushedFrom] at htarget
  cases hstate : grammar.states[id]? with
  | none =>
    rw [hstate] at htarget
    cases htarget
  | some state =>
    rw [hstate] at htarget
    obtain ⟨rule, hrule, htransition⟩ := List.mem_filterMap.mp htarget
    cases hpush : rule.transition with
    | push target' name =>
      rw [hpush] at htransition
      cases htransition
      obtain ⟨pushed, hpushed, -⟩ := h.push (List.mem_of_getElem? hstate) hrule hpush
      exact (List.getElem?_eq_some_iff.mp hpushed).1
    | stay => rw [hpush] at htransition; cases htransition
    | pop => rw [hpush] at htransition; cases htransition
    | popAll => rw [hpush] at htransition; cases htransition

end GrammarDocument.Compiled

end LineLexer
