import LineLexer.Grammar.Compile
import LineLexer.Proofs.Except
import LineLexer.Proofs.SortedMap

/-!
# Compiled grammars

What a document has passed when it became a grammar, and what a grammar that was made of a document
therefore obeys (`wellFormed_of_compile`): its states ascend by name, and the names are found in its
table under the indices of their states (`find?_indexNames_eq_some_iff`), so a name and an index stand
for the same state; the initial state and every pushed state exist; and a rule is bound to the
start of a line just if its pattern begins with a caret.

At the end stands a small grammar on which statements about grammars are shown.
-/

namespace LineLexer

open Pattern

/-! ## Tables of names -/

namespace Grammar

variable {names : List String} (hdistinct : names.Nodup) {name : String} {id : Nat}

include hdistinct

/-- In the table of different names each one has the index of its place. -/
theorem find?_indexNames_eq_some_iff :
    (indexNames names).find? name = some id ↔ names[id]? = some name := by
  have hkeys : names.zipIdx.map Prod.fst = names := List.zipIdx_map_fst 0 names
  rw [indexNames, SortedMap.find?_ofList_eq_some_iff (hkeys.symm ▸ hdistinct),
    List.mem_zipIdx_iff_getElem?]

theorem find?_indexNames_eq_none_iff : (indexNames names).find? name = none ↔ name ∉ names := by
  rw [List.mem_iff_getElem?, Option.eq_none_iff_forall_ne_some, not_exists]
  exact forall_congr' fun id => not_congr (find?_indexNames_eq_some_iff hdistinct)

end Grammar

/-! ## What has been passed -/

theorem compilePattern_eq_ok_iff {ignoreCase : Bool} {pattern : String} {program : Program}
    {lineStartOnly : Bool} :
    compilePattern ignoreCase pattern = .ok (program, lineStartOnly) ↔
      lineStartOnly = (splitLineStart pattern.toList).2 ∧
        ∃ expr, (parse ignoreCase (anchorPattern (splitLineStart pattern.toList).1) = .ok expr ∧
          expr.checkRoom = .ok ()) ∧ program = .ofExpr expr := by
  rw [compilePattern]
  constructor
  · intro h
    obtain ⟨expr, hparse, h⟩ := bind_eq_ok.mp h
    obtain ⟨⟨⟩, hroom, h⟩ := bind_eq_ok.mp h
    cases h
    exact ⟨rfl, expr, ⟨hparse, hroom⟩, rfl⟩
  · rintro ⟨rfl, expr, ⟨hparse, hroom⟩, rfl⟩
    exact bind_eq_ok.mpr ⟨expr, hparse, bind_eq_ok.mpr ⟨⟨⟩, hroom, rfl⟩⟩

/-- A caret is split off just if the pattern begins with one. -/
theorem splitLineStart_snd (pattern : List Char) :
    (splitLineStart pattern).2 = true ↔ pattern.head? = some '^' := by
  unfold splitLineStart
  split
  · simp
  · rename_i hne
    cases pattern with
    | nil => simp
    | cons c body => simpa using fun hc : c = '^' => hne body (hc ▸ rfl)

/-- A rule pushes what its entry pushes, by the index that the state has in the table. -/
theorem RuleEntry.compileTransition_eq_push_iff {entry : RuleEntry} {place : RulePlace}
    {target : Nat} {name : String} :
    entry.compileTransition place = .ok (.push target name) ↔
      entry.next = .push name ∧ place.index.find? name = some target := by
  unfold compileTransition
  cases entry.next with
  | push wanted =>
    dsimp only
    cases hfound : place.index.find? wanted with
    | some id =>
      constructor
      · intro h
        cases h
        exact ⟨rfl, hfound⟩
      · rintro ⟨⟨⟩, hid⟩
        rw [hfound] at hid
        cases hid
        rfl
    | none =>
      constructor
      · intro h
        cases h
      · rintro ⟨⟨⟩, hid⟩
        rw [hfound] at hid
        cases hid
  | stay => simp
  | pop => simp
  | popAll => simp

/-- What a rule's entry has passed when it became a rule. -/
structure RuleEntry.Compiled (entry : RuleEntry) (place : RulePlace) (rule : Rule) : Prop where
  length_le : entry.pattern.utf8ByteSize ≤ Limits.patternLength
  pattern_eq : rule.pattern = entry.pattern
  action : entry.compileAction place = .ok rule.action
  transition : entry.compileTransition place = .ok rule.transition
  program : compilePattern (entry.ignoreCase.getD place.document.ignoreCase) entry.pattern
    = .ok (rule.program, rule.lineStartOnly)

theorem RuleEntry.compiled_of_compile {entry : RuleEntry} {place : RulePlace} {rule : Rule}
    (h : entry.compile place = .ok rule) : entry.Compiled place rule := by
  rw [compile] at h
  dsimp only at h
  split at h
  · cases h
  · rename_i hlength
    obtain ⟨action, haction, h⟩ := bind_eq_ok.mp h
    obtain ⟨transition, htransition, h⟩ := bind_eq_ok.mp h
    obtain ⟨⟨program, lineStartOnly⟩, hprogram, h⟩ := bind_eq_ok.mp h
    cases h
    refine ⟨Nat.not_lt.mp hlength, rfl, haction, htransition, ?_⟩
    cases hpattern : compilePattern (entry.ignoreCase.getD place.document.ignoreCase)
        entry.pattern with
    | error fault => rw [hpattern] at hprogram; cases hprogram
    | ok compiled => rw [hpattern] at hprogram; cases hprogram; rfl

theorem compileState_eq_ok {document : GrammarDocument} {index : SortedMap String Nat}
    {name : String} {rules : List RuleEntry} {state : State}
    (h : compileState document index name rules = .ok state) :
    state.name = name ∧
      List.Forall₂ (fun entry rule => entry.1.Compiled ⟨document, index, name, entry.2⟩ rule)
        rules.zipIdx state.rules := by
  rw [compileState] at h
  dsimp only at h
  split at h
  · cases h
  · obtain ⟨compiled, hcompiled, h⟩ := bind_eq_ok.mp h
    cases h
    exact ⟨rfl, (forall₂_of_mapM hcompiled).imp fun _ _ => RuleEntry.compiled_of_compile⟩

/-- What a document has passed when it became a grammar. -/
structure GrammarDocument.Compiled (document : GrammarDocument) (grammar : Grammar) : Prop where
  index : grammar.index = Grammar.indexNames document.states.keys
  states : List.Forall₂
    (fun entry state => compileState document grammar.index entry.1 entry.2 = .ok state)
    document.states.entries grammar.states
  initial : grammar.index.find? document.initial = some grammar.initial

theorem Grammar.compiled_of_compile {document : GrammarDocument} {fallbackName : String}
    {grammar : Grammar} (h : compile document fallbackName = .ok grammar) :
    document.Compiled grammar := by
  rw [compile] at h
  dsimp only at h
  split at h
  · cases h
  split at h
  · cases h
  split at h
  · cases h
  obtain ⟨states, hstates, h⟩ := bind_eq_ok.mp h
  obtain ⟨brackets, -, h⟩ := bind_eq_ok.mp h
  split at h
  · rename_i initial hinitial
    split at h
    · cases h
    · cases h
      exact ⟨rfl, forall₂_of_mapM hstates, hinitial⟩
  · cases h

/-- What a grammar takes over from its document as a whole. -/
theorem Grammar.settings_of_compile {document : GrammarDocument} {fallbackName : String}
    {grammar : Grammar} (h : compile document fallbackName = .ok grammar) :
    grammar.name = document.name.getD fallbackName ∧
      grammar.defaultKind = document.defaultToken.getD defaultUnmatched ∧
      document.brackets.zipIdx.mapM (fun (entry, index) => entry.compile index)
        = .ok grammar.brackets := by
  rw [compile] at h
  dsimp only at h
  split at h
  · cases h
  split at h
  · cases h
  split at h
  · cases h
  obtain ⟨states, -, h⟩ := bind_eq_ok.mp h
  obtain ⟨brackets, hbrackets, h⟩ := bind_eq_ok.mp h
  split at h
  · split at h
    · cases h
    · cases h
      exact ⟨rfl, rfl, hbrackets⟩
  · cases h

/-! ## What a compiled grammar obeys -/

/-- What a grammar that was made of a document obeys. -/
structure Grammar.WellFormed (grammar : Grammar) : Prop where
  /-- The states stand in the order of their names, each name once. -/
  ascending : (grammar.states.map (·.name)).Pairwise (· < ·)
  /-- The table holds the names of the states, each with the index of its state. -/
  index : grammar.index = indexNames (grammar.states.map (·.name))
  initial_lt : grammar.initial < grammar.states.length
  /-- The index and the name of a pushed state stand for one state. -/
  push : ∀ state ∈ grammar.states, ∀ rule ∈ state.rules, ∀ target name,
    rule.transition = .push target name →
      ∃ pushed, grammar.states[target]? = some pushed ∧ pushed.name = name
  lineStart : ∀ state ∈ grammar.states, ∀ rule ∈ state.rules,
    rule.lineStartOnly = true ↔ rule.pattern.toList.head? = some '^'

namespace GrammarDocument.Compiled

variable {document : GrammarDocument} {grammar : Grammar}

/-- The states of a grammar bear the names of those of its document, in the same order. -/
theorem names_eq (h : document.Compiled grammar) :
    grammar.states.map (·.name) = document.states.keys := by
  have hnames := h.states.imp fun entry state hstate => (compileState_eq_ok hstate).1
  rw [SortedMap.keys, ← List.forall₂_eq_eq_eq, List.forall₂_map_left_iff, List.forall₂_map_right_iff]
  exact hnames.flip.imp fun state entry heq => heq

/-- Every rule of a grammar is made of some entry of its document. -/
theorem exists_entry (h : document.Compiled grammar) {state : State} (hstate : state ∈ grammar.states)
    {rule : Rule} (hrule : rule ∈ state.rules) :
    ∃ (entry : RuleEntry) (number : Nat),
      entry.Compiled ⟨document, grammar.index, state.name, number⟩ rule := by
  obtain ⟨⟨name, entries⟩, -, hcompile⟩ := exists_of_forall₂ h.states hstate
  obtain ⟨hname, hrules⟩ := compileState_eq_ok hcompile
  obtain ⟨⟨entry, number⟩, -, hentry⟩ := exists_of_forall₂ hrules hrule
  exact ⟨entry, number, hname ▸ hentry⟩

theorem ascending (h : document.Compiled grammar) :
    (grammar.states.map (·.name)).Pairwise (· < ·) := by
  rw [h.names_eq, SortedMap.keys, List.pairwise_map]
  exact document.states.sorted

/-- Two indices of states with one name are the same. -/
theorem eq_of_name (h : document.Compiled grammar) {id id' : Nat} {state state' : State}
    (hstate : grammar.states[id]? = some state) (hstate' : grammar.states[id']? = some state')
    (hname : state.name = state'.name) : id = id' := by
  have hdistinct : (grammar.states.map (·.name)).Nodup :=
    h.ascending.imp fun {x y} (hlt : x < y) (heq : x = y) => String.lt_irrefl y (heq ▸ hlt)
  have hlt : id < (grammar.states.map (·.name)).length := by
    rw [List.length_map]
    exact (List.getElem?_eq_some_iff.mp hstate).1
  refine (List.getElem?_inj hlt hdistinct).mp ?_
  rw [List.getElem?_map, List.getElem?_map, hstate, hstate']
  exact congrArg some hname

/-- A name has an index in the table just if the state with this index bears it. -/
theorem find?_eq_some_iff (h : document.Compiled grammar) {name : String} {id : Nat} :
    grammar.index.find? name = some id ↔
      ∃ state, grammar.states[id]? = some state ∧ state.name = name := by
  rw [h.index, Grammar.find?_indexNames_eq_some_iff document.states.nodup_keys, ← h.names_eq,
    List.getElem?_map, Option.map_eq_some_iff]

/-- The state with an index is made of the document's state with this index. -/
theorem exists_state (h : document.Compiled grammar) {id : Nat} {name : String}
    {rules : List RuleEntry} (hentry : document.states.entries[id]? = some (name, rules)) :
    ∃ state, grammar.states[id]? = some state ∧
      compileState document grammar.index name rules = .ok state :=
  exists_getElem?_of_forall₂ h.states hentry

theorem exists_stateEntry (h : document.Compiled grammar) {id : Nat} {state : State}
    (hstate : grammar.states[id]? = some state) :
    ∃ name rules, document.states.entries[id]? = some (name, rules) ∧
      compileState document grammar.index name rules = .ok state := by
  obtain ⟨⟨name, rules⟩, hentry, hcompile⟩ := exists_getElem?_of_forall₂ h.states.flip hstate
  exact ⟨name, rules, hentry, hcompile⟩

theorem push (h : document.Compiled grammar) {state : State} (hstate : state ∈ grammar.states)
    {rule : Rule} (hrule : rule ∈ state.rules) {target : Nat} {name : String}
    (htransition : rule.transition = .push target name) :
    ∃ pushed, grammar.states[target]? = some pushed ∧ pushed.name = name := by
  obtain ⟨entry, index, hentry⟩ := h.exists_entry hstate hrule
  have hnext := hentry.transition
  rw [htransition, RuleEntry.compileTransition_eq_push_iff] at hnext
  exact h.find?_eq_some_iff.mp hnext.2

theorem lineStart (h : document.Compiled grammar) {state : State} (hstate : state ∈ grammar.states)
    {rule : Rule} (hrule : rule ∈ state.rules) :
    rule.lineStartOnly = true ↔ rule.pattern.toList.head? = some '^' := by
  obtain ⟨entry, index, hentry⟩ := h.exists_entry hstate hrule
  rw [(compilePattern_eq_ok_iff.mp hentry.program).1, splitLineStart_snd, hentry.pattern_eq]

end GrammarDocument.Compiled

theorem Grammar.wellFormed_of_compile {document : GrammarDocument} {fallbackName : String}
    {grammar : Grammar} (h : compile document fallbackName = .ok grammar) :
    grammar.WellFormed where
  ascending := (compiled_of_compile h).ascending
  index := (compiled_of_compile h).index.trans
    (congrArg indexNames (compiled_of_compile h).names_eq.symm)
  initial_lt := by
    have hdocument := compiled_of_compile h
    obtain ⟨state, hstate, -⟩ := hdocument.find?_eq_some_iff.mp hdocument.initial
    exact (List.getElem?_eq_some_iff.mp hstate).1
  push _ hstate _ hrule _ _ htransition := (compiled_of_compile h).push hstate hrule htransition
  lineStart _ hstate _ hrule := (compiled_of_compile h).lineStart hstate hrule

/-! ## A small grammar -/

/-- Words in angle brackets, a mark at the start of a line, and parentheses. -/
def sampleDocument : GrammarDocument where
  name := some "sample"
  initial := "text"
  defaultToken := none
  ignoreCase := false
  brackets := [⟨"(", ")", "paren"⟩]
  states := .ofList [
    ("text", [⟨"^!", some "mark", false, .stay, none⟩, ⟨"\\(", none, true, .stay, none⟩,
      ⟨"<", some "angle", false, .push "word", none⟩]),
    ("word", [⟨">", some "angle", false, .pop, none⟩,
      ⟨"<", some "angle", false, .push "word", none⟩, ⟨"ab", some "word", false, .stay, none⟩])]

/-- The program of a text that is bound to the place where it is tried. -/
def sampleProgram (text : List Char) : Program :=
  .ofExpr (.seqs (.look .textStart :: text.map fun c => .chars (.singleton c)))

/-- The grammar of the document. -/
def sampleGrammar : Grammar where
  name := "sample"
  initial := 0
  states := [
    ⟨"text", [⟨"^!", sampleProgram ['!'], true, .token "mark", .stay⟩,
      ⟨"\\(", sampleProgram ['('], false, .brackets, .stay⟩,
      ⟨"<", sampleProgram ['<'], false, .token "angle", .push 1 "word"⟩]⟩,
    ⟨"word", [⟨">", sampleProgram ['>'], false, .token "angle", .pop⟩,
      ⟨"<", sampleProgram ['<'], false, .token "angle", .push 1 "word"⟩,
      ⟨"ab", sampleProgram ['a', 'b'], false, .token "word", .stay⟩]⟩]
  index := .ofList [("text", 0), ("word", 1)]
  defaultKind := "unmatched"
  ignoreCase := false
  brackets := [⟨"(", ")", "paren"⟩]
  unreachable := []

theorem compile_sampleDocument :
    Grammar.compile sampleDocument "grammar" = .ok sampleGrammar := by
  decide +kernel

end LineLexer
