import LineLexer.Proofs.Grammar.Namesake
import LineLexer.Proofs.Grammar.Validation
import Mathlib.Logic.Equiv.Basic

/-!
# The names of states carry no meaning

The states of a document may be given other names, as long as different ones stay different. The
document is valid as before (`Valid.renamed`), although its states stand in another order and have
other indices, and every line is tokenized as before from every stack, with the new names on the
stacks and in the faults (`compile_renamed`).
-/

namespace LineLexer

variable {rename : String → String}

/-! ## Other names -/

/-- The document with other names for its states, wherever they stand. -/
def GrammarDocument.renamed (rename : String → String) (document : GrammarDocument) :
    GrammarDocument :=
  { document with
    initial := rename document.initial
    states := .ofList (document.states.entries.map fun (name, rules) =>
      (rename name, rules.map (·.renamed rename))) }

/-- The stack with other names for its states. -/
def StateStack.renamed (rename : String → String) (stack : StateStack) : StateStack :=
  ⟨stack.names.map rename⟩

def LineTokens.renamed (rename : String → String) (line : LineTokens) : LineTokens :=
  { line with endState := line.endState.renamed rename }

/-- The fault with another name for the state that it is about. -/
def TokenizeError.renamed (rename : String → String) : TokenizeError → TokenizeError
  | .stateUnknown grammar state => .stateUnknown grammar (rename state)
  | .stackDepthExceeded state limit => .stackDepthExceeded (rename state) limit
  | fault => fault

namespace GrammarDocument

variable {document : GrammarDocument} (hrename : Function.Injective rename)

include hrename

/-! ## The document with other names -/

theorem entries_renamed_perm (document : GrammarDocument) :
    (document.renamed rename).states.entries.Perm
      (document.states.entries.map fun (name, rules) =>
        (rename name, rules.map (·.renamed rename))) := by
  refine SortedMap.entries_ofList_perm ?_
  have hkeys := document.states.nodup_keys.map hrename
  rw [SortedMap.keys, List.map_map] at hkeys
  rwa [List.map_map]

theorem mem_entries_renamed_iff {name' : String} {rules' : List RuleEntry} :
    (name', rules') ∈ (document.renamed rename).states.entries ↔
      ∃ name rules, (name, rules) ∈ document.states.entries ∧ name' = rename name ∧
        rules' = rules.map (·.renamed rename) := by
  rw [(entries_renamed_perm hrename document).mem_iff, List.mem_map]
  constructor
  · rintro ⟨⟨name, rules⟩, hentry, heq⟩
    cases heq
    exact ⟨name, rules, hentry, rfl, rfl⟩
  · rintro ⟨name, rules, hentry, rfl, rfl⟩
    exact ⟨(name, rules), hentry, rfl⟩

/-- The names are those of the old states, and no others. -/
theorem mem_keys_renamed_iff {name : String} :
    rename name ∈ (document.renamed rename).states.keys ↔ name ∈ document.states.keys := by
  rw [SortedMap.keys, SortedMap.keys, List.mem_map, List.mem_map]
  constructor
  · rintro ⟨⟨name', rules'⟩, hentry', hname⟩
    obtain ⟨name₀, rules, hentry, rfl, rfl⟩ := (mem_entries_renamed_iff hrename).mp hentry'
    exact ⟨(name₀, rules), hentry, hrename hname⟩
  · rintro ⟨⟨name₀, rules⟩, hentry, rfl⟩
    exact ⟨_, (mem_entries_renamed_iff hrename).mpr ⟨name₀, rules, hentry, rfl, rfl⟩, rfl⟩

/-- Pushes lead to the new names of the states to which they have led. -/
theorem Reachable.of_renamed {name' : String} (h : (document.renamed rename).Reachable name') :
    ∃ name, name' = rename name ∧ document.Reachable name := by
  induction h with
  | initial => exact ⟨_, rfl, .initial⟩
  | push _ hstate' hentry' hnext' ih =>
    obtain ⟨name, rfl, hname⟩ := ih
    obtain ⟨name₀, rules, hstate, heq, rfl⟩ := (mem_entries_renamed_iff hrename).mp hstate'
    obtain rfl := hrename heq
    obtain ⟨entry, hentry, rfl⟩ := List.mem_map.mp hentry'
    obtain ⟨target, hnext, rfl⟩ := Next.renamed_eq_push_iff.mp hnext'
    exact ⟨target, rfl, .push hname hstate hentry hnext⟩

/-- The names play no part in the checks of a document, but for their being different. -/
theorem Valid.renamed (h : document.Valid) : (document.renamed rename).Valid := by
  refine
    { states_le := ?size
      initial := (mem_keys_renamed_iff hrename).mpr h.initial
      defaultLabel := h.defaultLabel
      rules_le := fun name' rules' hentry' => ?count
      rules := fun name' rules' hentry' entry' hmem' => ?rules
      brackets := h.brackets
      reachable := fun name' rules' hname' hentry' => ?reachable }
  case size =>
    have hlength := (entries_renamed_perm hrename document).length_eq
    rw [List.length_map] at hlength
    exact Nat.le_trans (Nat.le_of_eq hlength) h.states_le
  case count =>
    obtain ⟨name, rules, hentry, -, rfl⟩ := (mem_entries_renamed_iff hrename).mp hentry'
    rw [List.length_map]
    exact h.rules_le name rules hentry
  case rules =>
    obtain ⟨name, rules, hentry, -, rfl⟩ := (mem_entries_renamed_iff hrename).mp hentry'
    obtain ⟨entry, hmem, rfl⟩ := List.mem_map.mp hmem'
    have hvalid := h.rules name rules hentry entry hmem
    refine ⟨hvalid.length_le, hvalid.action, hvalid.label, hvalid.table, fun target' hnext' => ?_,
      hvalid.pattern⟩
    obtain ⟨target, hnext, rfl⟩ := Next.renamed_eq_push_iff.mp hnext'
    exact (mem_keys_renamed_iff hrename).mpr (hvalid.target target hnext)
  case reachable =>
    obtain ⟨name, rfl, hname⟩ := hname'.of_renamed hrename
    obtain ⟨name₀, rules, hentry, heq, rfl⟩ := (mem_entries_renamed_iff hrename).mp hentry'
    obtain rfl := hrename heq
    exact fun hnil => h.reachable _ rules hname hentry (List.map_eq_nil_iff.mp hnil)

theorem namesake_renamed (document : GrammarDocument) :
    document.Namesake (fun _ => True) rename (document.renamed rename) where
  initial := trivial
  initialName := rfl
  state name rules _ hentry :=
    (mem_entries_renamed_iff hrename).mpr ⟨name, rules, hentry, rfl, rfl⟩
  pushed _ _ _ _ _ _ _ _ := trivial
  defaultToken := rfl
  ignoreCase := rfl
  brackets := rfl

end GrammarDocument

/-! ## Stacks with other names -/

namespace StateStack

variable {grammar grammar' : Grammar}

theorem depth_renamed (stack : StateStack) : (stack.renamed rename).depth = stack.depth :=
  List.length_map _

theorem top?_renamed (stack : StateStack) :
    (stack.renamed rename).top? = stack.top?.map rename :=
  List.getLast?_map

/-- Stacks of states are related if the names of the one are the new names of the other. -/
theorem forall₂_of_names {frames frames' : Frames} (hframes : grammar.ValidFrames frames)
    (hframes' : grammar'.ValidFrames frames')
    (hnames : frames'.map grammar'.stateName = (frames.map grammar.stateName).map rename) :
    List.Forall₂ (Grammar.SameState (fun _ => True) rename grammar grammar') frames frames' := by
  induction frames generalizing frames' with
  | nil =>
    obtain rfl := List.map_eq_nil_iff.mp hnames
    exact .nil
  | cons id frames ih =>
    obtain ⟨id', frames', rfl, hname, hrest⟩ := List.map_eq_cons_iff.mp hnames
    have hget := List.getElem?_eq_getElem (hframes id List.mem_cons_self)
    have hget' := List.getElem?_eq_getElem (hframes' id' List.mem_cons_self)
    rw [Grammar.stateName_eq hget, Grammar.stateName_eq hget'] at hname
    refine .cons ⟨_, _, hget, hget', hname, trivial⟩ (ih ?_ ?_ hrest)
    · exact fun other hother => hframes other (List.mem_cons_of_mem _ hother)
    · exact fun other hother => hframes' other (List.mem_cons_of_mem _ hother)

/-- A stack that is too deep is refused with the new name of its top state. -/
theorem resolve_renamed_of_tooDeep {stack : StateStack} (h : Limits.stackDepth < stack.depth) :
    ∃ fault, stack.resolve grammar = .error fault ∧
      (stack.renamed rename).resolve grammar' = .error (fault.renamed rename) := by
  obtain ⟨top, htop⟩ : ∃ top, stack.top? = some top := by
    refine ⟨_, List.getLast?_eq_some_getLast fun hnil => ?_⟩
    rw [depth, hnil] at h
    exact absurd h (Nat.not_lt_zero _)
  have h' : Limits.stackDepth < (stack.renamed rename).depth := (depth_renamed stack).symm ▸ h
  refine ⟨_, resolve_of_tooDeep grammar h, ?_⟩
  rw [resolve_of_tooDeep grammar' h', top?_renamed, htop]
  rfl

section

variable (hnames : ∀ name, rename name ∈ grammar'.states.map (·.name) ↔
  name ∈ grammar.states.map (·.name)) (h : grammar.WellFormed) (h' : grammar'.WellFormed)
  {stack : StateStack}

include hnames h h'

/-- A stack of states is one under the new names, and its states are related. -/
theorem resolve_renamed_of_known (hdepth : stack.depth ≤ Limits.stackDepth)
    (hknown : ∀ name ∈ stack.names, name ∈ grammar.states.map (·.name)) :
    ∃ frames frames', stack.resolve grammar = .ok frames ∧
      (stack.renamed rename).resolve grammar' = .ok frames' ∧
      List.Forall₂ (Grammar.SameState (fun _ => True) rename grammar grammar') frames frames' := by
  have hknown' : ∀ name ∈ (stack.renamed rename).names, name ∈ grammar'.states.map (·.name) := by
    intro name' hname'
    obtain ⟨name, hmem, rfl⟩ := List.mem_map.mp hname'
    exact (hnames name).mpr (hknown name hmem)
  obtain ⟨frames, hframes⟩ := exists_resolve h hdepth hknown
  obtain ⟨frames', hframes'⟩ := exists_resolve h' ((depth_renamed stack).symm ▸ hdepth) hknown'
  obtain ⟨-, hvalid, hstack⟩ := resolve_eq_ok h hframes
  obtain ⟨-, hvalid', hstack'⟩ := resolve_eq_ok h' hframes'
  refine ⟨frames, frames', hframes, hframes', forall₂_of_names hvalid hvalid' ?_⟩
  have hsame : (ofFrames grammar' frames').names = (ofFrames grammar frames).names.map rename := by
    rw [hstack', hstack, renamed]
  rw [ofFrames, ofFrames, List.map_reverse] at hsame
  exact List.reverse_inj.mp hsame

/-- The lowest name that is no state's stands in the same place under its new name. -/
theorem resolve_renamed_of_unknown (hgrammar : grammar'.name = grammar.name)
    (hdepth : stack.depth ≤ Limits.stackDepth)
    (hunknown : ¬∀ name ∈ stack.names, name ∈ grammar.states.map (·.name)) :
    ∃ fault, stack.resolve grammar = .error fault ∧
      (stack.renamed rename).resolve grammar' = .error (fault.renamed rename) := by
  obtain ⟨below, name, above, heq, hbelow, hname⟩ := exists_first_not_mem hunknown
  have heq' : (stack.renamed rename).names
      = below.map rename ++ rename name :: above.map rename := by
    rw [renamed, heq, List.map_append, List.map_cons]
  have hbelow' : ∀ other ∈ below.map rename, other ∈ grammar'.states.map (·.name) := by
    intro other' hother'
    obtain ⟨other, hmem, rfl⟩ := List.mem_map.mp hother'
    exact (hnames other).mpr (hbelow other hmem)
  have hname' : rename name ∉ grammar'.states.map (·.name) := fun hmem => hname ((hnames name).mp hmem)
  refine ⟨_, resolve_of_unknown h hdepth heq hbelow hname, ?_⟩
  rw [resolve_of_unknown h' ((depth_renamed stack).symm ▸ hdepth) heq' hbelow' hname', hgrammar]
  rfl

/-- A stack is resolved just if it is under the new names, to related states; if it is not, the faults
are the same but for the names. -/
theorem resolve_renamed (hgrammar : grammar'.name = grammar.name) (stack : StateStack) :
    (∃ fault, stack.resolve grammar = .error fault ∧
        (stack.renamed rename).resolve grammar' = .error (fault.renamed rename)) ∨
      ∃ frames frames', stack.resolve grammar = .ok frames ∧
        (stack.renamed rename).resolve grammar' = .ok frames' ∧
        List.Forall₂ (Grammar.SameState (fun _ => True) rename grammar grammar') frames frames' := by
  by_cases hdepth : stack.depth ≤ Limits.stackDepth
  · by_cases hknown : ∀ name ∈ stack.names, name ∈ grammar.states.map (·.name)
    · exact .inr (resolve_renamed_of_known hnames h h' hdepth hknown)
    · exact .inl (resolve_renamed_of_unknown hnames h h' hgrammar hdepth hknown)
  · exact .inl (resolve_renamed_of_tooDeep (Nat.not_le.mp hdepth))

end

end StateStack

/-! ## Lines with other names -/

/-- From related stacks a line is tokenized alike, with the new names in its stack or its fault. -/
theorem Grammar.Corresponds.toLineTokens_eq {rel : Nat → Nat → Prop} {grammar grammar' : Grammar}
    (h : grammar.Corresponds rel rename grammar') {scan scan' : Scan}
    (hscan : scan.Corresponds rel rename scan') :
    scan'.toLineTokens grammar' = ((scan.toLineTokens grammar).map (·.renamed rename)).mapError
      (·.renamed rename) := by
  rw [Scan.toLineTokens, Scan.toLineTokens, Scan.fault?, Scan.fault?, hscan.refused, hscan.tokens]
  cases scan.refused with
  | some state => rfl
  | none =>
    have hnames := h.names_ofFrames hscan.frames
    exact congrArg (fun names => Except.ok (LineTokens.mk scan.tokens ⟨names⟩)) hnames

variable {document : GrammarDocument} {grammar : Grammar} {fallbackName : String}

/-- If the states of a document get other names, different ones for different states, the document
compiles as before. Every line is tokenized as before from the renamed stack: the tokens are the same,
and the stack behind the line, or the fault, is the renamed one. -/
theorem GrammarDocument.compile_renamed (hrename : Function.Injective rename)
    (hcompile : Grammar.compile document fallbackName = .ok grammar) :
    ∃ grammar', Grammar.compile (document.renamed rename) fallbackName = .ok grammar' ∧
      ∀ stack line number, grammar'.tokenizeLineAt (stack.renamed rename) line number
        = ((grammar.tokenizeLineAt stack line number).map (·.renamed rename)).mapError
            (·.renamed rename) := by
  have hvalid : document.Valid :=
    (Grammar.exists_compile_iff document fallbackName).mp ⟨grammar, hcompile⟩
  obtain ⟨grammar', hcompile'⟩ :=
    (Grammar.exists_compile_iff _ fallbackName).mpr (hvalid.renamed hrename)
  have hsame := (namesake_renamed hrename document).corresponds hcompile hcompile'
  have hname : grammar'.name = grammar.name :=
    (Grammar.settings_of_compile hcompile').1.trans (Grammar.settings_of_compile hcompile).1.symm
  have hnames (name : String) : rename name ∈ grammar'.states.map (·.name) ↔
      name ∈ grammar.states.map (·.name) := by
    rw [(Grammar.compiled_of_compile hcompile).names_eq,
      (Grammar.compiled_of_compile hcompile').names_eq]
    exact mem_keys_renamed_iff hrename
  refine ⟨grammar', hcompile', fun stack line number => ?_⟩
  rw [Grammar.tokenizeLineAt, Grammar.tokenizeLineAt]
  rcases StateStack.resolve_renamed hnames (Grammar.wellFormed_of_compile hcompile)
      (Grammar.wellFormed_of_compile hcompile') hname stack with
    ⟨fault, hfault, hfault'⟩ | ⟨frames, frames', hframes, hframes', hrel⟩
  · rw [hfault, hfault']
    rfl
  · rw [hframes, hframes']
    exact hsame.toLineTokens_eq (hsame.scan hrel _ line number)

/-- Each state of the sample document gets the name of the other one. -/
def swappedName : String → String := Equiv.swap "text" "word"

/-- The initial state comes second then, and the states change their places on the stack. -/
theorem compile_swapped : Function.Injective swappedName ∧ ∃ swapped,
    Grammar.compile (sampleDocument.renamed swappedName) "grammar" = .ok swapped ∧
      swapped.initial = 1 ∧ ∀ line,
        swapped.tokenizeLineAt ⟨["text", "text"]⟩ line 1
          = ((sampleGrammar.tokenizeLineAt ⟨["word", "word"]⟩ line 1).map
              (·.renamed swappedName)).mapError (·.renamed swappedName) := by
  have hinjective : Function.Injective swappedName := (Equiv.swap "text" "word").injective
  obtain ⟨swapped, hswapped, hsame⟩ :=
    GrammarDocument.compile_renamed hinjective compile_sampleDocument
  have hinitial : (Grammar.compile (sampleDocument.renamed swappedName) "grammar").map (·.initial)
      = .ok 1 := by decide +kernel
  rw [hswapped] at hinitial
  exact ⟨hinjective, swapped, hswapped, Except.ok.inj hinitial, fun line =>
    hsame ⟨["word", "word"]⟩ line 1⟩

end LineLexer
