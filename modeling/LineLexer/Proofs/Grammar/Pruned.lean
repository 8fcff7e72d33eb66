import LineLexer.Proofs.Grammar.Namesake
import LineLexer.Proofs.Tokenize.Reached

/-!
# Documents without their unreachable states

A compiled grammar lists the states that no run from the initial stack enters, so that they may be
taken out of its document. What is left is valid, since a state that stays only pushes states that
stay (`valid_withoutUnreachable`), and it leaves none unreachable. The states that stay have other
indices in the new grammar, but the same names and rules, so the two grammars correspond
(`corresponds_withoutUnreachable`), and tokenizing from the initial stack gives the same
(`compile_withoutUnreachable`).
-/

namespace LineLexer

namespace GrammarDocument

/-- The document without the states with these names. -/
def without (document : GrammarDocument) (names : List String) : GrammarDocument :=
  { document with states := names.foldl SortedMap.erase document.states }

theorem mem_entries_without_iff {document : GrammarDocument} {names : List String} {name : String}
    {rules : List RuleEntry} :
    (name, rules) ∈ (document.without names).states.entries ↔
      (name, rules) ∈ document.states.entries ∧ name ∉ names := by
  rw [without, SortedMap.entries_foldl_erase, List.mem_filter, decide_eq_true_eq]

theorem mem_keys_without_iff {document : GrammarDocument} {names : List String} {name : String} :
    name ∈ (document.without names).states.keys ↔ name ∈ document.states.keys ∧ name ∉ names := by
  rw [SortedMap.keys, SortedMap.keys, List.mem_map, List.mem_map]
  constructor
  · rintro ⟨⟨name, rules⟩, hentry, rfl⟩
    rw [mem_entries_without_iff] at hentry
    exact ⟨⟨_, hentry.1, rfl⟩, hentry.2⟩
  · rintro ⟨⟨⟨name, rules⟩, hentry, rfl⟩, hname⟩
    exact ⟨_, mem_entries_without_iff.mpr ⟨hentry, hname⟩, rfl⟩

/-! ## What stays -/

variable {document : GrammarDocument} {grammar : Grammar} {fallbackName : String}

/-- A name stays just if it is that of a state to which pushes lead. -/
theorem mem_keys_withoutUnreachable_iff
    (hcompile : Grammar.compile document fallbackName = .ok grammar) {name : String} :
    name ∈ (document.without grammar.unreachable).states.keys ↔
      name ∈ document.states.keys ∧ document.Reachable name := by
  rw [mem_keys_without_iff, mem_unreachable_iff hcompile]
  tauto

theorem Reachable.of_without {names : List String} {name : String}
    (h : (document.without names).Reachable name) : document.Reachable name := by
  induction h with
  | initial => exact .initial
  | push _ hstate hentry hnext ih =>
    exact .push ih (mem_entries_without_iff.mp hstate).1 hentry hnext

/-- Pushes lead to the same states as before: none on the way has been taken out. -/
theorem Reachable.withoutUnreachable
    (hcompile : Grammar.compile document fallbackName = .ok grammar) {name : String}
    (h : document.Reachable name) : (document.without grammar.unreachable).Reachable name := by
  induction h with
  | initial => exact .initial
  | @push name target rules entry hname hstate hentry hnext ih =>
    have hstays : name ∉ grammar.unreachable :=
      fun hlisted => ((mem_unreachable_iff hcompile name).mp hlisted).2 hname
    exact .push ih (mem_entries_without_iff.mpr ⟨hstate, hstays⟩) hentry hnext

/-- Pushes lead to states only, since every target of a valid document is one. -/
theorem Valid.mem_keys_of_reachable (h : document.Valid) {name : String}
    (hname : document.Reachable name) : name ∈ document.states.keys := by
  cases hname with
  | initial => exact h.initial
  | push _ hstate hentry hnext => exact (h.rules _ _ hstate _ hentry).target _ hnext

theorem valid_withoutUnreachable (hcompile : Grammar.compile document fallbackName = .ok grammar) :
    (document.without grammar.unreachable).Valid := by
  have h : document.Valid :=
    (Grammar.exists_compile_iff document fallbackName).mp ⟨grammar, hcompile⟩
  have hkeys {name : String} (hname : document.Reachable name) :
      name ∈ (document.without grammar.unreachable).states.keys :=
    (mem_keys_withoutUnreachable_iff hcompile).mpr ⟨h.mem_keys_of_reachable hname, hname⟩
  refine
    { states_le := ?size
      initial := hkeys .initial
      defaultLabel := h.defaultLabel
      rules_le := fun name rules hmem => h.rules_le name rules (mem_entries_without_iff.mp hmem).1
      rules := fun name rules hmem entry hentry => ?rules
      brackets := h.brackets
      reachable := fun name rules hname hmem =>
        h.reachable name rules hname.of_without (mem_entries_without_iff.mp hmem).1 }
  case size =>
    refine Nat.le_trans ?_ h.states_le
    rw [SortedMap.size, without, SortedMap.entries_foldl_erase]
    exact List.length_filter_le _ _
  case rules =>
    have hname : document.Reachable name := by
      refine ((mem_keys_withoutUnreachable_iff hcompile).mp ?_).2
      exact List.mem_map_of_mem (f := Prod.fst) hmem
    have hstate := (mem_entries_without_iff.mp hmem).1
    have hvalid := h.rules name rules hstate entry hentry
    -- the states that a reachable state pushes are reachable too, so they stay
    exact ⟨hvalid.length_le, hvalid.action, hvalid.label, hvalid.table,
      fun target hnext => hkeys (.push hname hstate hentry hnext), hvalid.pattern⟩

/-! ## The grammar of what stays -/

theorem unreachable_withoutUnreachable
    (hcompile : Grammar.compile document fallbackName = .ok grammar) {pruned : Grammar}
    (hpruned : Grammar.compile (document.without grammar.unreachable) fallbackName = .ok pruned) :
    pruned.unreachable = [] := by
  rw [List.eq_nil_iff_forall_not_mem]
  intro name hname
  obtain ⟨hkey, hnot⟩ := (mem_unreachable_iff hpruned name).mp hname
  exact hnot (((mem_keys_withoutUnreachable_iff hcompile).mp hkey).2.withoutUnreachable hcompile)

/-- The indices stand for a state of one name in both grammars, to which pushes lead. -/
def SharedState (document : GrammarDocument) (grammar pruned : Grammar) (id id' : Nat) : Prop :=
  ∃ state state', grammar.states[id]? = some state ∧ pruned.states[id']? = some state' ∧
    state'.name = state.name ∧ document.Reachable state.name

theorem namesake_withoutUnreachable
    (hcompile : Grammar.compile document fallbackName = .ok grammar) :
    document.Namesake document.Reachable id (document.without grammar.unreachable) where
  initial := .initial
  initialName := rfl
  state name rules hreach hentry := by
    have hstays : name ∉ grammar.unreachable :=
      fun hlisted => ((mem_unreachable_iff hcompile name).mp hlisted).2 hreach
    have hrules : rules.map (·.renamed id) = rules :=
      (List.map_congr_left fun entry _ => entry.renamed_id).trans (List.map_id _)
    rw [hrules]
    exact mem_entries_without_iff.mpr ⟨hentry, hstays⟩
  pushed _ _ hreach hentry _ hmem _ hnext := .push hreach hentry hmem hnext
  defaultToken := rfl
  ignoreCase := rfl
  brackets := rfl

theorem corresponds_withoutUnreachable
    (hcompile : Grammar.compile document fallbackName = .ok grammar) {pruned : Grammar}
    (hpruned : Grammar.compile (document.without grammar.unreachable) fallbackName = .ok pruned) :
    grammar.Corresponds (document.SharedState grammar pruned) id pruned :=
  (namesake_withoutUnreachable hcompile).corresponds hcompile hpruned

/-- The states that a compiled grammar lists as unreachable may be taken out of its document. What
is left compiles to a grammar that lists none, and tokenizing from the initial stack gives the same
tokens, the same stacks by their names and the same fault: line by line, in a session and in a
buffer. -/
theorem compile_withoutUnreachable
    (hcompile : Grammar.compile document fallbackName = .ok grammar) :
    ∃ pruned, Grammar.compile (document.without grammar.unreachable) fallbackName = .ok pruned ∧
      pruned.unreachable = [] ∧
      ∀ texts, pruned.foldLines .initial 1 texts = grammar.foldLines .initial 1 texts ∧
        (Session.start pruned).feedLines texts = (Session.start grammar).feedLines texts ∧
        ∀ collect, (Buffer.ofLines pruned collect texts).map Buffer.lineTokens
          = (Buffer.ofLines grammar collect texts).map Buffer.lineTokens := by
  obtain ⟨pruned, hpruned⟩ :=
    (Grammar.exists_compile_iff _ fallbackName).mpr (valid_withoutUnreachable hcompile)
  have hsame := corresponds_withoutUnreachable hcompile hpruned
  refine ⟨pruned, hpruned, unreachable_withoutUnreachable hcompile hpruned, fun texts => ?_⟩
  have hfold : pruned.foldLines .initial 1 texts = grammar.foldLines .initial 1 texts :=
    hsame.foldLines_eq (Grammar.wellFormed_of_compile hcompile)
      (Grammar.wellFormed_of_compile hpruned) .nil (Nat.zero_le _) 1 texts
  refine ⟨hfold, ?_, fun collect => hsame.lineTokens_ofLines_eq collect texts⟩
  rw [Session.start, Session.start, Session.feedLines_eq_foldLines, Session.feedLines_eq_foldLines,
    hfold]

/-- Of the document with two spare states the sample document is left. -/
theorem compile_spareDocument_without :
    Grammar.compile spareDocument "grammar" = .ok spareGrammar ∧
      spareDocument.without spareGrammar.unreachable = sampleDocument ∧
      ∃ pruned, Grammar.compile sampleDocument "grammar" = .ok pruned ∧
        pruned.unreachable = [] ∧
        ∀ texts, pruned.foldLines .initial 1 texts = spareGrammar.foldLines .initial 1 texts := by
  have hleft : spareDocument.without spareGrammar.unreachable = sampleDocument := by decide +kernel
  obtain ⟨pruned, hpruned, hnone, hsame⟩ := compile_withoutUnreachable compile_spareDocument
  rw [hleft] at hpruned
  exact ⟨compile_spareDocument, hleft, pruned, hpruned, hnone, fun texts => (hsame texts).1⟩

end GrammarDocument
end LineLexer
