import LineLexer.Proofs.Tokenize.Agreement
import LineLexer.Proofs.Tokenize.Depth

/-!
# Grammars that correspond

Two grammars may number their states in different ways and still do the same. They correspond under
a relation between indices that holds of both initial states, and that leads from related states,
by rules that match the same text and give it the same kind, to related states again. The names of
related states may differ by a renaming. A scan from related stacks then finds the same tokens and
leaves related stacks (`Corresponds.scan`). If no state is renamed, whole runs are equal
(`Corresponds.foldLines_eq`, `Corresponds.freshLines_eq`).
-/

namespace LineLexer

variable {rel : Nat → Nat → Prop} {rename : String → String}

/-- The transitions do the same to stacks whose states are related. -/
inductive Transition.Corresponds (rel : Nat → Nat → Prop) (rename : String → String) :
    Transition → Transition → Prop
  | stay : Corresponds rel rename .stay .stay
  | push {target target' : Nat} (name : String) (htarget : rel target target') :
      Corresponds rel rename (.push target name) (.push target' (rename name))
  | pop : Corresponds rel rename .pop .pop
  | popAll : Corresponds rel rename .popAll .popAll

/-- The rules match the same text and do the same with it. -/
structure Rule.Corresponds (rel : Nat → Nat → Prop) (rename : String → String)
    (rule rule' : Rule) : Prop where
  program : rule'.program = rule.program
  lineStartOnly : rule'.lineStartOnly = rule.lineStartOnly
  action : rule'.action = rule.action
  transition : rule.transition.Corresponds rel rename rule'.transition

/-- Related states have rules that correspond, one by one. -/
structure Grammar.Corresponds (rel : Nat → Nat → Prop) (rename : String → String)
    (grammar grammar' : Grammar) : Prop where
  initial : rel grammar.initial grammar'.initial
  state : ∀ id id', rel id id' → ∃ state state',
    grammar.states[id]? = some state ∧ grammar'.states[id']? = some state' ∧
      state'.name = rename state.name ∧
      List.Forall₂ (Rule.Corresponds rel rename) state.rules state'.rules
  defaultKind : grammar'.defaultKind = grammar.defaultKind
  brackets : grammar'.brackets = grammar.brackets

/-- The scans have found the same, on states that are related. -/
structure Scan.Corresponds (rel : Nat → Nat → Prop) (rename : String → String)
    (scan scan' : Scan) : Prop where
  tokens : scan'.tokens = scan.tokens
  unmatched : scan'.unmatched
    = scan.unmatched.map fun char => { char with state := rename char.state }
  frames : List.Forall₂ rel scan.frames scan'.frames
  depth : scan'.depth = scan.depth
  refused : scan'.refused = scan.refused.map rename
  overlong : scan'.overlong = scan.overlong

namespace Scan.Corresponds

variable {scan scan' : Scan}

theorem finished {frames frames' : Frames} (h : List.Forall₂ rel frames frames') :
    (Scan.finished frames).Corresponds rel rename (.finished frames') :=
  ⟨rfl, rfl, h, h.length_eq.symm, rfl, rfl⟩

theorem stopped {frames frames' : Frames} (h : List.Forall₂ rel frames frames') (name : String) :
    (Scan.stopped frames name).Corresponds rel rename (.stopped frames' (rename name)) :=
  ⟨rfl, rfl, h, h.length_eq.symm, rfl, rfl⟩

theorem matched (h : scan.Corresponds rel rename scan') (token : Token) (depth : Nat) :
    (scan.matched token depth).Corresponds rel rename (scan'.matched token depth) where
  tokens := congrArg (token :: ·) h.tokens
  unmatched := h.unmatched
  frames := h.frames
  depth := congrArg (max depth) h.depth
  refused := h.refused
  overlong := h.overlong

theorem skipped (h : scan.Corresponds rel rename scan') (token : Token) (char : Unmatched) :
    (scan.skipped token char).Corresponds rel rename
      (scan'.skipped token { char with state := rename char.state }) where
  tokens := congrArg (token :: ·) h.tokens
  unmatched := congrArg (_ :: ·) h.unmatched
  frames := h.frames
  depth := h.depth
  refused := h.refused
  overlong := h.overlong

theorem fault?_eq (h : scan.Corresponds rel id scan') : scan'.fault? = scan.fault? := by
  rw [Scan.fault?, Scan.fault?, h.refused, Option.map_id]
  rfl

end Scan.Corresponds

theorem map_cons_map {ε α β : Type} (answer : Except ε (List α)) (first : α) (f : α → β) :
    (answer.map (first :: ·)).map (·.map f) = (answer.map (·.map f)).map (f first :: ·) := by
  cases answer <;> rfl

/-! ## One round -/

theorem Rule.Corresponds.match?_eq {rule rule' : Rule} (h : rule.Corresponds rel rename rule')
    (atLineStart : Bool) (rest : List Char) :
    rule'.match? atLineStart rest = rule.match? atLineStart rest := by
  rw [match?, match?, h.program, h.lineStartOnly]

/-- Of lists of rules that correspond the same one takes the text, with the same length. -/
theorem firstMatch?_corresponds {rules rules' : List Rule}
    (h : List.Forall₂ (Rule.Corresponds rel rename) rules rules') (atLineStart : Bool)
    (rest : List Char) :
    Option.Rel (fun found found' => found.1.Corresponds rel rename found'.1 ∧ found'.2 = found.2)
      (Grammar.firstMatch? rules atLineStart rest) (Grammar.firstMatch? rules' atLineStart rest) := by
  induction h with
  | nil => exact .none
  | @cons rule rule' rules rules' hrule _ ih =>
    unfold Grammar.firstMatch? at ih ⊢
    rw [List.findSome?_cons, List.findSome?_cons, hrule.match?_eq]
    cases rule.match? atLineStart rest with
    | none => exact ih
    | some length => exact .some ⟨hrule, rfl⟩

/-- Transitions that correspond lead to related stacks. -/
theorem Transition.Corresponds.apply_eq_ok {transition transition' : Transition}
    (h : transition.Corresponds rel rename transition') {frames frames' after : Frames}
    (hframes : List.Forall₂ rel frames frames') {limit : Option Nat}
    (hafter : transition.apply limit frames = .ok after) :
    ∃ after', transition'.apply limit frames' = .ok after' ∧ List.Forall₂ rel after after' := by
  cases h with
  | stay =>
    cases hafter
    exact ⟨_, rfl, hframes⟩
  | push name htarget =>
    unfold Transition.apply at hafter ⊢
    dsimp only at hafter ⊢
    rw [← hframes.length_eq]
    split at hafter
    · cases hafter
    · rename_i hroom
      cases hafter
      exact ⟨_, if_neg hroom, .cons htarget hframes⟩
  | pop =>
    cases hafter
    refine ⟨_, rfl, ?_⟩
    cases hframes with
    | nil => exact .nil
    | cons _ htail => exact htail
  | popAll =>
    cases hafter
    exact ⟨_, rfl, .nil⟩

/-- If there is no room for the one state, there is none for the other. -/
theorem Transition.Corresponds.apply_eq_error {transition transition' : Transition}
    (h : transition.Corresponds rel rename transition') {frames frames' : Frames}
    (hframes : List.Forall₂ rel frames frames') {limit : Option Nat} {name : String}
    (hname : transition.apply limit frames = .error name) :
    transition'.apply limit frames' = .error (rename name) := by
  cases h with
  | push pushed htarget =>
    unfold Transition.apply at hname ⊢
    dsimp only at hname ⊢
    rw [← hframes.length_eq]
    split at hname
    · rename_i hfull
      cases hname
      exact if_pos hfull
    · cases hname
  | stay => cases hname
  | pop => cases hname
  | popAll => cases hname

namespace Grammar.Corresponds

variable {grammar grammar' : Grammar} {frames frames' : Frames}

theorem currentState (h : grammar.Corresponds rel rename grammar')
    (hframes : List.Forall₂ rel frames frames') :
    rel (grammar.currentState frames) (grammar'.currentState frames') := by
  cases hframes with
  | nil => exact h.initial
  | cons hid _ => exact hid

theorem stateName_eq (h : grammar.Corresponds rel rename grammar') {id id' : Nat}
    (hid : rel id id') : grammar'.stateName id' = rename (grammar.stateName id) := by
  obtain ⟨state, state', hstate, hstate', hname, -⟩ := h.state id id' hid
  rw [Grammar.stateName_eq hstate, Grammar.stateName_eq hstate', hname]

theorem chosenRule? (h : grammar.Corresponds rel rename grammar')
    (hframes : List.Forall₂ rel frames frames') (position : Position) (rest : List Char) :
    Option.Rel (fun found found' => found.1.Corresponds rel rename found'.1 ∧ found'.2 = found.2)
      (grammar.chosenRule? frames position rest) (grammar'.chosenRule? frames' position rest) := by
  obtain ⟨state, state', hstate, hstate', -, hrules⟩ := h.state _ _ (h.currentState hframes)
  rw [Grammar.chosenRule?, Grammar.chosenRule?, rulesOf_eq hstate, rulesOf_eq hstate']
  exact firstMatch?_corresponds hrules _ _

theorem exists_chosenRule? (h : grammar.Corresponds rel rename grammar')
    (hframes : List.Forall₂ rel frames frames') {position : Position} {rest : List Char}
    {rule : Rule} {length : Nat} (hrule : grammar.chosenRule? frames position rest = some (rule, length)) :
    ∃ rule', grammar'.chosenRule? frames' position rest = some (rule', length) ∧
      rule.Corresponds rel rename rule' := by
  have hrel := h.chosenRule? hframes position rest
  rw [hrule] at hrel
  cases hfound : grammar'.chosenRule? frames' position rest with
  | none => rw [hfound] at hrel; cases hrel
  | some found =>
    rw [hfound] at hrel
    obtain ⟨rule', length'⟩ := found
    cases hrel with
    | some hboth =>
      obtain ⟨hcorresponds, rfl⟩ := hboth
      exact ⟨rule', rfl, hcorresponds⟩

/-- Where no rule takes a character under the one grammar, none does under the other. -/
theorem chosenRule?_ne (h : grammar.Corresponds rel rename grammar')
    (hframes : List.Forall₂ rel frames frames') {position : Position} {rest : List Char}
    (hrule : ∀ rule length, grammar.chosenRule? frames position rest ≠ some (rule, length + 1))
    (rule' : Rule) (length : Nat) :
    grammar'.chosenRule? frames' position rest ≠ some (rule', length + 1) := by
  intro hrule'
  have hrel := h.chosenRule? hframes position rest
  rw [hrule'] at hrel
  cases hfound : grammar.chosenRule? frames position rest with
  | none => rw [hfound] at hrel; cases hrel
  | some found =>
    rw [hfound] at hrel
    obtain ⟨rule, length'⟩ := found
    cases hrel with
    | some hboth =>
      obtain ⟨-, rfl⟩ := hboth
      exact hrule rule length hfound

theorem ruleToken_eq (h : grammar.Corresponds rel rename grammar') {rule rule' : Rule}
    (hrule : rule.Corresponds rel rename rule') (position : Position) (text : List Char) :
    grammar'.ruleToken rule' position text = grammar.ruleToken rule position text := by
  have hclassify (text : String) :
      grammar'.classify rule'.action text = grammar.classify rule.action text := by
    rw [hrule.action]
    cases rule.action with
    | token kind => rfl
    | brackets => rw [classify, classify, bracketKind, bracketKind, h.brackets, h.defaultKind]
  rw [ruleToken, ruleToken, hclassify]

theorem unmatchedToken_eq (h : grammar.Corresponds rel rename grammar') (position : Position)
    (c : Char) : grammar'.unmatchedToken position c = grammar.unmatchedToken position c := by
  rw [unmatchedToken, unmatchedToken, h.defaultKind]

/-! ## Lines -/

/-- A run from one stack is followed by a run from the other. -/
theorem scans (h : grammar.Corresponds rel rename grammar') {limit : Option Nat}
    {position : Position} {rest : List Char} {scan : Scan}
    (hscan : Scans grammar limit frames position rest scan)
    (hframes : List.Forall₂ rel frames frames') :
    ∃ scan', Scans grammar' limit frames' position rest scan' ∧
      scan.Corresponds rel rename scan' := by
  induction hscan generalizing frames' with
  | finish frames position => exact ⟨_, .finish frames' position, .finished hframes⟩
  | @take frames after position c rest rule length scan hrule hafter hscan ih =>
    obtain ⟨rule', hrule', hcorresponds⟩ := h.exists_chosenRule? hframes hrule
    obtain ⟨after', hafter', hframes'⟩ := hcorresponds.transition.apply_eq_ok hframes hafter
    obtain ⟨scan', hscan', hsame⟩ := ih hframes'
    refine ⟨_, .take hrule' hafter' hscan', ?_⟩
    rw [h.ruleToken_eq hcorresponds, ← hframes.length_eq]
    exact hsame.matched _ _
  | @refuse frames position c rest rule length name hrule hname =>
    obtain ⟨rule', hrule', hcorresponds⟩ := h.exists_chosenRule? hframes hrule
    have hname' := hcorresponds.transition.apply_eq_error hframes hname
    refine ⟨_, .refuse hrule' hname', ?_⟩
    rw [h.ruleToken_eq hcorresponds, ← hframes.length_eq]
    exact (Scan.Corresponds.stopped hframes name).matched _ _
  | @skip frames position c rest scan hrule hscan ih =>
    obtain ⟨scan', hscan', hsame⟩ := ih hframes
    refine ⟨_, .skip (h.chosenRule?_ne hframes hrule) hscan', ?_⟩
    rw [h.unmatchedToken_eq, h.stateName_eq (h.currentState hframes)]
    exact hsame.skipped _ _

/-- From related stacks a line is scanned to the same tokens and to related stacks. -/
theorem scan (h : grammar.Corresponds rel rename grammar')
    (hframes : List.Forall₂ rel frames frames') (limit : Option Nat) (line : String)
    (number : Nat) :
    (grammar.scan limit frames line number).Corresponds rel rename
      (grammar'.scan limit frames' line number) := by
  by_cases hlong : Limits.lineLength < line.utf8ByteSize
  · rw [Grammar.scan, Grammar.scan, if_pos hlong, if_pos hlong, h.defaultKind]
    exact ⟨rfl, rfl, hframes, hframes.length_eq.symm, rfl, rfl⟩
  · have hshort : line.utf8ByteSize ≤ Limits.lineLength := Nat.not_lt.mp hlong
    obtain ⟨scan', hscan', hsame⟩ := h.scans (scans_scan hshort) hframes
    rwa [(scans_scan hshort).unique hscan']

theorem validFrames (h : grammar.Corresponds rel rename grammar')
    (hframes : List.Forall₂ rel frames frames') :
    grammar.ValidFrames frames ∧ grammar'.ValidFrames frames' := by
  induction hframes with
  | nil => exact ⟨grammar.validFrames_nil, grammar'.validFrames_nil⟩
  | @cons id id' frames frames' hid _ ih =>
    obtain ⟨state, state', hstate, hstate', -⟩ := h.state id id' hid
    refine ⟨fun other hother => ?_, fun other hother => ?_⟩
    · rcases List.mem_cons.mp hother with rfl | hother
      · exact (List.getElem?_eq_some_iff.mp hstate).1
      · exact ih.1 other hother
    · rcases List.mem_cons.mp hother with rfl | hother
      · exact (List.getElem?_eq_some_iff.mp hstate').1
      · exact ih.2 other hother

theorem names_ofFrames (h : grammar.Corresponds rel rename grammar')
    (hframes : List.Forall₂ rel frames frames') :
    (StateStack.ofFrames grammar' frames').names
      = (StateStack.ofFrames grammar frames).names.map rename := by
  have hnames : frames'.map grammar'.stateName = (frames.map grammar.stateName).map rename := by
    induction hframes with
    | nil => rfl
    | cons hid _ ih => rw [List.map_cons, List.map_cons, List.map_cons, h.stateName_eq hid, ih]
  rw [StateStack.ofFrames, StateStack.ofFrames, hnames, List.map_reverse]

/-! ## Runs without a renaming -/

theorem ofFrames_eq (h : grammar.Corresponds rel id grammar')
    (hframes : List.Forall₂ rel frames frames') :
    StateStack.ofFrames grammar' frames' = StateStack.ofFrames grammar frames := by
  have hnames := h.names_ofFrames hframes
  rw [List.map_id] at hnames
  exact congrArg StateStack.mk hnames

/-- Lines that are tokenized one by one, from related stacks. -/
theorem foldLines_eq (h : grammar.Corresponds rel id grammar') (hgrammar : grammar.WellFormed)
    (hgrammar' : grammar'.WellFormed) (hframes : List.Forall₂ rel frames frames')
    (hdepth : frames.length ≤ Limits.stackDepth) (number : Nat) (texts : List String) :
    grammar'.foldLines (.ofFrames grammar' frames') number texts
      = grammar.foldLines (.ofFrames grammar frames) number texts := by
  induction texts generalizing frames frames' number with
  | nil => rfl
  | cons text rest ih =>
    obtain ⟨hvalid, hvalid'⟩ := h.validFrames hframes
    have hsame := h.scan hframes (some Limits.stackDepth) text number
    have hlength := length_frames_scan_le grammar hdepth text number
    unfold foldLines
    rw [hgrammar.tokenizeLineAt_ofFrames hvalid hdepth,
      hgrammar'.tokenizeLineAt_ofFrames hvalid' (hframes.length_eq ▸ hdepth), Scan.toLineTokens,
      Scan.toLineTokens, hsame.fault?_eq, hsame.tokens]
    cases (grammar.scan (some Limits.stackDepth) frames text number).fault? with
    | some fault => rfl
    | none =>
      dsimp only
      rw [ih hsame.frames hlength, h.ofFrames_eq hsame.frames]

/-- Lines that are scanned in order for a buffer, from related stacks. -/
theorem freshLines_eq (h : grammar.Corresponds rel id grammar')
    (hframes : List.Forall₂ rel frames frames') (index : Nat) (texts : List String) :
    (grammar'.freshLines index frames' texts).map
        (·.map fun line => LineTokens.mk line.tokens line.endState)
      = (grammar.freshLines index frames texts).map
        (·.map fun line => LineTokens.mk line.tokens line.endState) := by
  induction texts generalizing frames frames' index with
  | nil => rfl
  | cons text rest ih =>
    have hsame := h.scan hframes (some Limits.stackDepth) text (lineNumber index)
    have hrest := ih hsame.frames (index + 1)
    have hstack := h.ofFrames_eq hsame.frames
    have hfault := hsame.fault?_eq
    unfold freshLines scanLine
    dsimp only
    rw [hfault]
    cases (grammar.scan (some Limits.stackDepth) frames text (lineNumber index)).fault? with
    | some fault => rfl
    | none =>
      dsimp only
      rw [map_cons_map, map_cons_map, hrest, ScannedLine.toBufferLine, ScannedLine.toBufferLine]
      dsimp only
      rw [hsame.tokens, hstack]

/-- The lines of a buffer. -/
theorem lineTokens_ofLines_eq (h : grammar.Corresponds rel id grammar') (collect : Bool)
    (texts : List String) :
    (Buffer.ofLines grammar' collect texts).map Buffer.lineTokens
      = (Buffer.ofLines grammar collect texts).map Buffer.lineTokens := by
  have hlines (grammar : Grammar) : (Buffer.ofLines grammar collect texts).map Buffer.lineTokens
      = (grammar.freshLines 0 [] texts).map
          (·.map fun line => LineTokens.mk line.tokens line.endState) := by
    rw [ofLines_eq]
    cases grammar.freshLines 0 [] texts <;> rfl
  rw [hlines, hlines, h.freshLines_eq .nil]

end Grammar.Corresponds
end LineLexer
