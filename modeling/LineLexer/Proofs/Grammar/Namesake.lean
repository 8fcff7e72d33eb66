import LineLexer.Proofs.SortedMap
import LineLexer.Proofs.Tokenize.Correspondence

/-!
# Documents with the same states

A document may have the states of another one, or some of them, under other names. If these names
are pushed wherever the old ones were, the grammars of the two documents correspond, though they
number their states in different orders (`Namesake.corresponds`).
-/

namespace LineLexer

/-! ## Other names -/

variable {kept : String → Prop} {rename : String → String}

/-- The transition with another name for the state that it pushes. -/
def Next.renamed (rename : String → String) : Next → Next
  | .push state => .push (rename state)
  | next => next

/-- The rule with another name for the state that it pushes. -/
def RuleEntry.renamed (rename : String → String) (entry : RuleEntry) : RuleEntry :=
  { entry with next := entry.next.renamed rename }

theorem Next.renamed_eq_push_iff {next : Next} {target' : String} :
    next.renamed rename = .push target' ↔ ∃ target, next = .push target ∧ target' = rename target := by
  cases next <;> simp [renamed, eq_comm]

theorem RuleEntry.renamed_id (entry : RuleEntry) : entry.renamed id = entry := by
  obtain ⟨pattern, token, brackets, next, ignoreCase⟩ := entry
  cases next <;> rfl

/-- The second document has the states of the first one that are kept, under their new names. A state
that is kept pushes states that are kept. -/
structure GrammarDocument.Namesake (kept : String → Prop) (rename : String → String)
    (document document' : GrammarDocument) : Prop where
  initial : kept document.initial
  initialName : document'.initial = rename document.initial
  state : ∀ name rules, kept name → (name, rules) ∈ document.states.entries →
    (rename name, rules.map (·.renamed rename)) ∈ document'.states.entries
  pushed : ∀ name rules, kept name → (name, rules) ∈ document.states.entries →
    ∀ entry ∈ rules, ∀ target, entry.next = .push target → kept target
  defaultToken : document'.defaultToken = document.defaultToken
  ignoreCase : document'.ignoreCase = document.ignoreCase
  brackets : document'.brackets = document.brackets

/-- The indices stand for a state that is kept, under its names in the two grammars. -/
def Grammar.SameState (kept : String → Prop) (rename : String → String) (grammar grammar' : Grammar)
    (id id' : Nat) : Prop :=
  ∃ state state', grammar.states[id]? = some state ∧ grammar'.states[id']? = some state' ∧
    state'.name = rename state.name ∧ kept state.name

/-! ## Rules -/

/-- What a rule does with its text depends on the brackets of the document only. -/
theorem RuleEntry.compileAction_of_brackets {entry : RuleEntry} {place place' : RulePlace}
    (hbrackets : place'.document.brackets = place.document.brackets) {action : TokenAction}
    (h : entry.compileAction place = .ok action) :
    (entry.renamed rename).compileAction place' = .ok action := by
  unfold compileAction at h ⊢
  dsimp only [renamed]
  rw [hbrackets]
  split at h
  · split at h
    · cases h
    · rename_i hlabel
      rw [if_neg hlabel]
      exact h
  · split at h
    · cases h
    · rename_i hempty
      rw [if_neg hempty]
      exact h
  · cases h

namespace GrammarDocument

variable {document document' : GrammarDocument} {grammar grammar' : Grammar}

/-- A state that is pushed has an index in both grammars. -/
theorem transition_corresponds (h : document.Compiled grammar) (h' : document'.Compiled grammar')
    {entry : RuleEntry} (hkept : ∀ target, entry.next = .push target → kept target)
    {place place' : RulePlace} (hplace : place.index = grammar.index)
    (hplace' : place'.index = grammar'.index) {transition transition' : Transition}
    (htransition : entry.compileTransition place = .ok transition)
    (htransition' : (entry.renamed rename).compileTransition place' = .ok transition') :
    transition.Corresponds (Grammar.SameState kept rename grammar grammar') rename transition' := by
  unfold RuleEntry.compileTransition at htransition htransition'
  rw [hplace] at htransition
  rw [hplace', RuleEntry.renamed] at htransition'
  cases hnext : entry.next with
  | push target =>
    rw [hnext] at htransition htransition'
    dsimp only [Next.renamed] at htransition htransition'
    split at htransition
    · rename_i found hfound
      split at htransition'
      · rename_i found' hfound'
        cases htransition
        cases htransition'
        obtain ⟨state, hget, hname⟩ := h.find?_eq_some_iff.mp hfound
        obtain ⟨state', hget', hname'⟩ := h'.find?_eq_some_iff.mp hfound'
        exact .push target ⟨state, state', hget, hget', by rw [hname', hname],
          hname ▸ hkept target hnext⟩
      · cases htransition'
    · cases htransition
  | stay | pop | popAll =>
    rw [hnext] at htransition htransition'
    cases htransition
    cases htransition'
    constructor

namespace Namesake

variable (hsame : document.Namesake kept rename document')

include hsame

/-- A state that is kept has the same rules in both grammars. -/
theorem rules_correspond (h : document.Compiled grammar) (h' : document'.Compiled grammar')
    {id' : Nat} {state state' : State} (hstate : state ∈ grammar.states)
    (hstate' : grammar'.states[id']? = some state') (hname : state'.name = rename state.name)
    (hkept : kept state.name) :
    List.Forall₂ (Rule.Corresponds (Grammar.SameState kept rename grammar grammar') rename)
      state.rules state'.rules := by
  obtain ⟨⟨name, rules⟩, hentry, hcompile⟩ := exists_of_forall₂ h.states hstate
  obtain ⟨name', rules', hentry', hcompile'⟩ := h'.exists_stateEntry hstate'
  obtain ⟨rfl, hrules⟩ := compileState_eq_ok hcompile
  obtain ⟨rfl, hrules'⟩ := compileState_eq_ok hcompile'
  -- the second document has one entry under the new name
  obtain rfl : rules' = rules.map (·.renamed rename) := by
    have hmem := List.mem_of_getElem? hentry'
    rw [hname] at hmem
    exact SortedMap.eq_of_mem_entries hmem (hsame.state _ _ hkept hentry)
  rw [List.zipIdx_map, List.forall₂_map_left_iff] at hrules'
  refine (forall₂_of_common hrules hrules').imp ?_
  rintro rule rule' ⟨⟨entry, index⟩, hmem, hrule, hrule'⟩
  have hmem : entry ∈ rules := (List.mem_zipIdx' hmem).2 ▸ List.getElem_mem _
  have hprogram : compilePattern (entry.ignoreCase.getD document.ignoreCase) entry.pattern
      = .ok (rule'.program, rule'.lineStartOnly) := hsame.ignoreCase ▸ hrule'.program
  have hboth := Except.ok.inj (hprogram.symm.trans hrule.program)
  have haction : (entry.renamed rename).compileAction ⟨document', grammar'.index, state'.name, index⟩
      = .ok rule.action := RuleEntry.compileAction_of_brackets hsame.brackets hrule.action
  exact ⟨(Prod.mk.inj hboth).1, (Prod.mk.inj hboth).2,
    Except.ok.inj (hrule'.action.symm.trans haction),
    transition_corresponds h h' (hsame.pushed _ _ hkept hentry entry hmem) rfl rfl hrule.transition
      hrule'.transition⟩

theorem corresponds {fallbackName fallbackName' : String}
    (hcompile : Grammar.compile document fallbackName = .ok grammar)
    (hcompile' : Grammar.compile document' fallbackName' = .ok grammar') :
    grammar.Corresponds (Grammar.SameState kept rename grammar grammar') rename grammar' := by
  have h := Grammar.compiled_of_compile hcompile
  have h' := Grammar.compiled_of_compile hcompile'
  obtain ⟨-, hkind, hbrackets⟩ := Grammar.settings_of_compile hcompile
  obtain ⟨-, hkind', hbrackets'⟩ := Grammar.settings_of_compile hcompile'
  rw [hsame.defaultToken] at hkind'
  rw [hsame.brackets] at hbrackets'
  refine ⟨?_, ?_, hkind'.trans hkind.symm, Except.ok.inj (hbrackets'.symm.trans hbrackets)⟩
  · obtain ⟨state, hstate, hname⟩ := h.find?_eq_some_iff.mp h.initial
    obtain ⟨state', hstate', hname'⟩ := h'.find?_eq_some_iff.mp h'.initial
    refine ⟨state, state', hstate, hstate', ?_, hname ▸ hsame.initial⟩
    rw [hname', hname, hsame.initialName]
  · rintro id id' ⟨state, state', hstate, hstate', hname, hkept⟩
    exact ⟨state, state', hstate, hstate', hname,
      hsame.rules_correspond h h' (List.mem_of_getElem? hstate) hstate' hname hkept⟩

end Namesake
end GrammarDocument
end LineLexer
