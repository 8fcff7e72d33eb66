import LineLexer.Proofs.Tokenize.Coverage
import LineLexer.Proofs.Tokenize.StateStack

/-!
# Lines as derivations

What the rules of a grammar make of a line, said without the scan: `Derives` speaks of names of
states, of rules in the order of their declaration and of lengths in bytes. The main statement is
that under a compiled grammar a line is taken apart just if it has a derivation, and as the
derivation says (`Scans.derives` and `exists_scans_of_derives` for a run of the scan).
-/

namespace LineLexer

/-- The rule is tried at a position and its match at the front of the text has `length` bytes. A
rule whose pattern begins with a caret is tried at the start of the line only. -/
def Rule.Matches (rule : Rule) (position : Position) (rest : List Char) (length : Nat) : Prop :=
  (rule.pattern.toList.head? = some '^' → position.offset = 0) ∧
    rule.matchBytes? true rest = some length

/-- Of the rules that match, the rule is the first one in the order of declaration. -/
def State.FirstMatch (state : State) (position : Position) (rest : List Char) (rule : Rule)
    (length : Nat) : Prop :=
  ∃ before after, state.rules = before ++ rule :: after ∧ rule.Matches position rest length ∧
    ∀ earlier ∈ before, ∀ other, ¬earlier.Matches position rest other

/-- From a position on a line and a stack of names, the rules take what is left of the line apart
into tokens and leave a stack. -/
inductive Derives (grammar : Grammar) :
    Position → StateStack → List Char → List Token → StateStack → Prop
  | finish (position : Position) (stack : StateStack) :
      Derives grammar position stack [] [] stack
  /-- The first rule that matches takes the text of its match and moves the stack. -/
  | take {position : Position} {stack next final : StateStack} {text rest : List Char}
      {tokens : List Token} {state : State} {rule : Rule}
      (hstate : state ∈ grammar.states) (hcurrent : state.name = stack.current grammar)
      (hrule : state.FirstMatch position (text ++ rest) rule (Text.byteLength text))
      (htext : 0 < Text.byteLength text)
      (hnext : rule.transition.Moves stack next)
      (hrest : Derives grammar (position.advanceOver text) next rest tokens final) :
      Derives grammar position stack (text ++ rest)
        (grammar.ruleToken rule position text :: tokens) final
  /-- No rule matches, or the first one that does matches nothing. -/
  | skip {position : Position} {stack final : StateStack} {c : Char} {rest : List Char}
      {tokens : List Token} {state : State}
      (hstate : state ∈ grammar.states) (hcurrent : state.name = stack.current grammar)
      (hrule : ∀ rule length, state.FirstMatch position (c :: rest) rule length → length = 0)
      (hrest : Derives grammar (position.advance c) stack rest tokens final) :
      Derives grammar position stack (c :: rest)
        (grammar.unmatchedToken position c :: tokens) final

/-! ## The first match -/

/-- A rule of a compiled grammar is tried where its pattern allows it. -/
theorem Rule.matches_iff {rule : Rule}
    (hcaret : rule.lineStartOnly = true ↔ rule.pattern.toList.head? = some '^')
    (position : Position) (rest : List Char) (length : Nat) :
    rule.Matches position rest length ↔ ∃ count,
      rule.match? (position.offset = 0) rest = some count ∧
        length = Text.byteLength (rest.take count) := by
  rw [Matches, ← hcaret, matchBytes?, match?, match?, Bool.not_true, Bool.and_false,
    if_neg Bool.false_ne_true, Option.map_eq_some_iff]
  by_cases htried : rule.lineStartOnly = true → position.offset = 0
  · have hopen : ¬(rule.lineStartOnly && !decide (position.offset = 0)) = true := by
      simpa using htried
    rw [if_neg hopen]
    constructor
    · rintro ⟨-, count, hcount, rfl⟩
      exact ⟨count, hcount, rfl⟩
    · rintro ⟨count, hcount, rfl⟩
      exact ⟨htried, count, hcount, rfl⟩
  · have hclosed : (rule.lineStartOnly && !decide (position.offset = 0)) = true := by
      simpa using htried
    rw [if_pos hclosed]
    constructor
    · rintro ⟨h, -⟩
      exact absurd h htried
    · rintro ⟨count, hcount, -⟩
      cases hcount

theorem Grammar.firstMatch?_eq_some_iff {rules : List Rule} {atLineStart : Bool}
    {rest : List Char} {rule : Rule} {count : Nat} :
    firstMatch? rules atLineStart rest = some (rule, count) ↔ ∃ before after,
      rules = before ++ rule :: after ∧ rule.match? atLineStart rest = some count ∧
        ∀ earlier ∈ before, earlier.match? atLineStart rest = none := by
  rw [firstMatch?, List.findSome?_eq_some_iff]
  constructor
  · rintro ⟨before, first, after, rfl, hfirst, hbefore⟩
    obtain ⟨found, hfound, heq⟩ := Option.map_eq_some_iff.mp hfirst
    cases heq
    exact ⟨before, after, rfl, hfound, fun earlier h => Option.map_eq_none_iff.mp (hbefore earlier h)⟩
  · rintro ⟨before, after, rfl, hfound, hbefore⟩
    refine ⟨before, rule, after, rfl, ?_, fun earlier h => ?_⟩
    · rw [hfound]
      rfl
    · rw [hbefore earlier h]
      rfl

theorem Grammar.mem_of_firstMatch? {rules : List Rule} {atLineStart : Bool} {rest : List Char}
    {rule : Rule} {count : Nat} (h : firstMatch? rules atLineStart rest = some (rule, count)) :
    rule ∈ rules := by
  obtain ⟨before, after, rfl, -, -⟩ := firstMatch?_eq_some_iff.mp h
  exact List.mem_append_right _ List.mem_cons_self

/-- The rule that the scan finds is the first one that matches. -/
theorem State.firstMatch_iff {grammar : Grammar} (h : grammar.WellFormed) {state : State}
    (hstate : state ∈ grammar.states) (position : Position) (rest : List Char) (rule : Rule)
    (length : Nat) :
    state.FirstMatch position rest rule length ↔ ∃ count,
      Grammar.firstMatch? state.rules (position.offset = 0) rest = some (rule, count) ∧
        length = Text.byteLength (rest.take count) := by
  have hmatches {other : Rule} (hother : other ∈ state.rules) :=
    Rule.matches_iff (h.lineStart state hstate other hother) position rest
  constructor
  · rintro ⟨before, after, hrules, hrule, hbefore⟩
    have hmem : rule ∈ state.rules := by simp [hrules]
    obtain ⟨count, hcount, hlength⟩ := (hmatches hmem length).mp hrule
    refine ⟨count, Grammar.firstMatch?_eq_some_iff.mpr ⟨before, after, hrules, hcount, ?_⟩, hlength⟩
    intro earlier hearlier
    have hmem : earlier ∈ state.rules := by simp [hrules, hearlier]
    refine Option.eq_none_iff_forall_ne_some.mpr fun other hother => ?_
    exact hbefore earlier hearlier _ ((hmatches hmem _).mpr ⟨other, hother, rfl⟩)
  · rintro ⟨count, hfirst, hlength⟩
    obtain ⟨before, after, hrules, hcount, hbefore⟩ := Grammar.firstMatch?_eq_some_iff.mp hfirst
    have hmem : rule ∈ state.rules := by simp [hrules]
    refine ⟨before, after, hrules, (hmatches hmem length).mpr ⟨count, hcount, hlength⟩, ?_⟩
    intro earlier hearlier other hother
    have hmem : earlier ∈ state.rules := by simp [hrules, hearlier]
    obtain ⟨found, hfound, -⟩ := (hmatches hmem other).mp hother
    rw [hbefore earlier hearlier] at hfound
    cases hfound

/-! ## Runs and derivations -/

namespace Grammar

variable {grammar : Grammar}

/-- A run that finds room for every push is a derivation on the names of its stacks. -/
theorem Scans.derives (h : grammar.WellFormed) {frames : Frames} {position : Position}
    {rest : List Char} {scan : Scan}
    (hrun : Scans grammar (some Limits.stackDepth) frames position rest scan)
    (hframes : grammar.ValidFrames frames) (hroom : scan.refused = none) :
    Derives grammar position (.ofFrames grammar frames) rest scan.tokens
      (.ofFrames grammar scan.frames) := by
  induction hrun with
  | finish frames position => exact .finish position _
  | @take frames after position c rest rule length scan hrule hafter hscan ih =>
    obtain ⟨state, hstate, hcurrent, hrules⟩ := h.exists_current hframes
    rw [chosenRule?, hrules] at hrule
    have hmem := mem_of_firstMatch? hrule
    have hfirst := (State.firstMatch_iff h hstate position (c :: rest) rule _).mpr ⟨_, hrule, rfl⟩
    rw [List.take_succ_cons] at hfirst
    have htext : c :: rest = (c :: rest.take length) ++ rest.drop length := by
      rw [List.cons_append, List.take_append_drop]
    rw [htext] at hfirst ⊢
    exact .take hstate hcurrent hfirst (Text.byteLength_pos (List.cons_ne_nil _ _))
      ((h.moves_iff hstate hmem).mpr ⟨after, hafter, rfl⟩)
      (ih (h.validFrames_apply hframes hstate hmem hafter) hroom)
  | refuse hrule hname => cases hroom
  | @skip frames position c rest scan hrule hscan ih =>
    obtain ⟨state, hstate, hcurrent, hrules⟩ := h.exists_current hframes
    refine .skip hstate hcurrent (fun rule length hfirst => ?_) (ih hframes hroom)
    obtain ⟨count, hcount, hlength⟩ := (State.firstMatch_iff h hstate _ _ _ _).mp hfirst
    cases count with
    | zero => exact hlength
    | succ count =>
      rw [← hrules] at hcount
      exact absurd hcount (hrule rule count)

/-- A derivation is a run on the indices of its stacks. -/
theorem exists_scans_of_derives (h : grammar.WellFormed) {position : Position}
    {stack final : StateStack} {rest : List Char} {tokens : List Token}
    (hderives : Derives grammar position stack rest tokens final) {frames : Frames}
    (hframes : grammar.ValidFrames frames) (hstack : stack = .ofFrames grammar frames) :
    ∃ scan, Scans grammar (some Limits.stackDepth) frames position rest scan ∧
      scan.refused = none ∧ scan.tokens = tokens ∧ .ofFrames grammar scan.frames = final := by
  induction hderives generalizing frames with
  | finish position stack => exact ⟨_, .finish frames position, rfl, rfl, hstack.symm⟩
  | @take position stack next final text rest tokens state rule hstate hcurrent hrule htext hnext
      hrest ih =>
    subst hstack
    obtain ⟨current, hmem, hname, hrules⟩ := h.exists_current hframes
    obtain rfl := h.eq_of_name hstate hmem (hcurrent.trans hname.symm)
    obtain ⟨count, hcount, hlength⟩ := (State.firstMatch_iff h hstate _ _ _ _).mp hrule
    have hin := mem_of_firstMatch? hcount
    obtain ⟨after, hafter, rfl⟩ := (h.moves_iff hstate hin).mp hnext
    obtain ⟨scan, hscan, hroom, rfl, rfl⟩ :=
      ih (h.validFrames_apply hframes hstate hin hafter) rfl
    -- the match has as many bytes as the text, so it is the text
    have hcut := List.take_append_drop count (text ++ rest)
    obtain ⟨htake, hdrop⟩ := Text.eq_of_byteLength hcut hlength.symm
    cases text with
    | nil => exact absurd htext (Nat.lt_irrefl 0)
    | cons c text =>
      cases count with
      | zero => cases htake
      | succ count =>
        rw [List.cons_append, List.take_succ_cons, List.cons_inj_right] at htake
        rw [List.cons_append, List.drop_succ_cons] at hdrop
        rw [← hrules] at hcount
        have hrun := @Scans.take grammar (some Limits.stackDepth) frames after position c
          (text ++ rest) rule count scan hcount hafter
        rw [htake, hdrop] at hrun
        exact ⟨_, hrun hscan, hroom, rfl, rfl⟩
  | @skip position stack final c rest tokens state hstate hcurrent hrule hrest ih =>
    subst hstack
    obtain ⟨current, hmem, hname, hrules⟩ := h.exists_current hframes
    obtain rfl := h.eq_of_name hstate hmem (hcurrent.trans hname.symm)
    obtain ⟨scan, hscan, hroom, rfl, rfl⟩ := ih hframes rfl
    refine ⟨_, .skip (fun rule length hchosen => ?_) hscan, hroom, rfl, rfl⟩
    rw [chosenRule?, hrules] at hchosen
    have hzero := hrule rule _
      ((State.firstMatch_iff h hstate _ _ _ _).mpr ⟨_, hchosen, rfl⟩)
    rw [List.take_succ_cons] at hzero
    exact absurd hzero (Text.byteLength_pos (List.cons_ne_nil _ _)).ne'

/-- Under a compiled grammar a line, from a stack that the grammar resolves, is taken apart into just
the tokens and just the stack that a derivation gives. A line that is too long is one token, and its
stack is left alone. -/
theorem tokenizeLineAt_eq_ok_iff_derives {document : GrammarDocument} {fallbackName : String}
    (hcompile : compile document fallbackName = .ok grammar) {stack : StateStack}
    {frames : Frames} (hstack : stack.resolve grammar = .ok frames) (line : String)
    (number : Nat) (tokens : List Token) (final : StateStack) :
    (line.utf8ByteSize ≤ Limits.lineLength →
      (grammar.tokenizeLineAt stack line number = .ok ⟨tokens, final⟩ ↔
        Derives grammar (.lineStart number) stack line.toList tokens final)) ∧
    (Limits.lineLength < line.utf8ByteSize →
      grammar.tokenizeLineAt stack line number
        = .ok ⟨[⟨.covering (.lineStart number) line.toList, grammar.defaultKind, none⟩], stack⟩) := by
  have h := wellFormed_of_compile hcompile
  obtain ⟨-, hframes, hnames⟩ := StateStack.resolve_eq_ok h hstack
  constructor
  · intro hshort
    rw [tokenizeLineAt_eq_ok_iff]
    constructor
    · rintro ⟨frames', hframes', hroom, heq⟩
      obtain rfl : frames = frames' := Except.ok.inj (hstack.symm.trans hframes')
      cases heq
      have hderives := (scans_scan hshort).derives h hframes hroom
      rwa [hnames] at hderives
    · intro hderives
      obtain ⟨scan, hscan, hroom, rfl, rfl⟩ :=
        exists_scans_of_derives h hderives hframes hnames.symm
      -- no other scan starts from these frames, so it is the one of the line
      have heq : grammar.scan (some Limits.stackDepth) frames line number = scan := by
        rw [hscan.eq_scanFrom _ (Nat.le_refl _), Grammar.scan, if_neg (Nat.not_lt.mpr hshort)]
      refine ⟨frames, hstack, ?_⟩
      rw [heq]
      exact ⟨hroom, rfl⟩
  · intro hlong
    rw [tokenizeLineAt_eq_ok_iff]
    refine ⟨frames, hstack, ?_⟩
    rw [scan, if_pos hlong]
    exact ⟨rfl, by rw [hnames]; rfl⟩

theorem sampleTokens_derived :
    compile sampleDocument "grammar" = .ok sampleGrammar ∧
      StateStack.initial.resolve sampleGrammar = .ok [] ∧
      Derives sampleGrammar (.lineStart 7) .initial "!(é<ab".toList sampleTokens ⟨["word"]⟩ :=
  ⟨compile_sampleDocument, rfl,
    ((tokenizeLineAt_eq_ok_iff_derives compile_sampleDocument rfl "!(é<ab" 7 _ _).1
      (by decide)).mp tokenizeLineAt_sample⟩

end Grammar
end LineLexer
