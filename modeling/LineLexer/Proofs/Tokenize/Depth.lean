import LineLexer.Proofs.Tokenize.Coverage
import LineLexer.Proofs.Tokenize.Rounds

/-!
# The limit on the depth of a stack

What tokenizing a line answers, said by the scan without a limit. A stack that is handed in may
have as many frames as the limit and has to name states of the grammar; from there on the answer is
that of the scan without a limit, unless that one would make the stack deeper than the limit
(`LineAnswer`). The first stack that would be too deep decides the fault (`Overflows`).

A scan under the limit goes the way of the one without it as long as the stack is not too deep
(`Scans.without_limit`), and is refused just where that one overflows (`Scans.refused_iff`).
-/

namespace LineLexer
namespace Grammar

variable {grammar : Grammar} {depth : Nat}

/-- From a moment on and without a limit, the first stack with more than `depth` frames has the
state on top. -/
def Overflows (grammar : Grammar) (depth : Nat) (start : Moment) (state : String) : Prop :=
  ∃ before after,
    Relation.ReflTransGen (fun a b => grammar.Round none a b ∧ b.frames.length ≤ depth) start before ∧
      grammar.Round none before after ∧ depth < after.frames.length ∧
        grammar.stateName (grammar.currentState after.frames) = state

/-- What tokenizing a line answers: one case for each of the tests that are made, in order, and in
the end the answer of the scan without a limit. -/
inductive LineAnswer (grammar : Grammar) (stack : StateStack) (line : String) (number : Nat) :
    Except TokenizeError LineTokens → Prop
  /-- The stack is too deep, whatever it names. -/
  | tooDeep (hdepth : Limits.stackDepth < stack.depth) :
      LineAnswer grammar stack line number
        (.error (.stackDepthExceeded (stack.top?.getD "") Limits.stackDepth))
  /-- The grammar does not have all states of the stack; the lowest one of those is named. -/
  | unknown {below above : List String} {name : String} (hdepth : stack.depth ≤ Limits.stackDepth)
      (hnames : stack.names = below ++ name :: above)
      (hbelow : ∀ other ∈ below, other ∈ grammar.states.map (·.name))
      (hname : name ∉ grammar.states.map (·.name)) :
      LineAnswer grammar stack line number (.error (.stateUnknown grammar.name name))
  /-- The scan without a limit would make the stack too deep. -/
  | overflow {frames : Frames} {state : String} (hdepth : stack.depth ≤ Limits.stackDepth)
      (hframes : grammar.ValidFrames frames) (hstack : .ofFrames grammar frames = stack)
      (hstate : grammar.Overflows Limits.stackDepth (.ofLine frames line number) state) :
      LineAnswer grammar stack line number
        (.error (.stackDepthExceeded state Limits.stackDepth))
  /-- The scan without a limit never makes the stack too deep. -/
  | within {frames : Frames} (hdepth : stack.depth ≤ Limits.stackDepth)
      (hframes : grammar.ValidFrames frames) (hstack : .ofFrames grammar frames = stack)
      (hwithin : ∀ moment, grammar.Reaches none (.ofLine frames line number) moment →
        moment.frames.length ≤ Limits.stackDepth) :
      LineAnswer grammar stack line number
        (.ok ⟨(grammar.scan none frames line number).tokens,
          .ofFrames grammar (grammar.scan none frames line number).frames⟩)

/-! ## Scans with a limit and without -/

theorem Scans.unique {limit : Option Nat} {frames : Frames} {position : Position} {rest : List Char}
    {scan scan' : Scan} (h : Scans grammar limit frames position rest scan)
    (h' : Scans grammar limit frames position rest scan') : scan = scan' := by
  rw [h.eq_scanFrom _ (Nat.le_refl _), h'.eq_scanFrom _ (Nat.le_refl _)]

/-- A run that finds room for every push is the same without the limit, and no moment of that has a
stack that is too deep. -/
theorem Scans.without_limit {frames : Frames} {position : Position} {rest : List Char} {scan : Scan}
    (h : Scans grammar (some depth) frames position rest scan) (hroom : scan.refused = none)
    (hdepth : frames.length ≤ depth) :
    Scans grammar none frames position rest scan ∧
      ∀ moment, grammar.Reaches none ⟨frames, position, rest⟩ moment →
        moment.frames.length ≤ depth := by
  -- the way behind the first round is the one that the run takes
  have hbehind {a b moment : Moment} (hround : grammar.Round none a b)
      (ha : a.frames.length ≤ depth)
      (hb : ∀ moment, grammar.Reaches none b moment → moment.frames.length ≤ depth)
      (hreach : grammar.Reaches none a moment) : moment.frames.length ≤ depth := by
    rcases Relation.ReflTransGen.cases_head hreach with rfl | ⟨next, hnext, hreach⟩
    · exact ha
    · exact hb moment (hround.eq hnext ▸ hreach)
  induction h with
  | finish frames position =>
    refine ⟨.finish frames position, fun moment hreach => ?_⟩
    rcases Relation.ReflTransGen.cases_head hreach with rfl | ⟨next, hnext, -⟩
    · exact hdepth
    · cases hnext
  | take hrule hafter hscan ih =>
    obtain ⟨hnone, hlength⟩ := (Transition.apply_some_eq_ok_iff hdepth).mp hafter
    obtain ⟨hrun, hwithin⟩ := ih hroom hlength
    exact ⟨.take hrule hnone hrun, fun moment => hbehind (.take hrule hnone) hdepth hwithin⟩
  | refuse hrule hname => cases hroom
  | skip hrule hscan ih =>
    obtain ⟨hrun, hwithin⟩ := ih hroom hdepth
    exact ⟨.skip hrule hrun, fun moment => hbehind (.skip hrule) hdepth hwithin⟩

/-- What one round puts before a run: the run is refused just as it was. -/
theorem Scans.of_round {limit : Option Nat} {a b : Moment} {scan : Scan}
    (hround : grammar.Round limit a b) (h : Scans grammar limit b.frames b.position b.rest scan) :
    ∃ scan', Scans grammar limit a.frames a.position a.rest scan' ∧
      scan'.refused = scan.refused := by
  cases hround with
  | take hrule hafter => exact ⟨_, .take hrule hafter h, rfl⟩
  | skip hnone => exact ⟨_, .skip hnone h, rfl⟩

/-- A push that is refused would have made the stack too deep. -/
theorem WellFormed.round_of_refused (h : grammar.WellFormed) {frames : Frames} {position : Position}
    {c : Char} {rest : List Char} {rule : Rule} {length : Nat} {name : String}
    (hframes : grammar.ValidFrames frames)
    (hrule : grammar.chosenRule? frames position (c :: rest) = some (rule, length + 1))
    (hname : rule.transition.apply (some depth) frames = .error name) :
    ∃ after, grammar.Round none ⟨frames, position, c :: rest⟩ after ∧
      depth < after.frames.length ∧
        grammar.stateName (grammar.currentState after.frames) = name := by
  obtain ⟨hfull, target, hpush⟩ := Transition.apply_some_eq_error_iff.mp hname
  obtain ⟨state, hstate, hmem⟩ := h.exists_chosen hframes hrule
  obtain ⟨pushed, hpushed, hpushedName⟩ := h.push state hstate rule hmem target name hpush
  have hafter : rule.transition.apply none frames = .ok (target :: frames) := by
    rw [hpush]
    rfl
  refine ⟨_, .take hrule hafter, Nat.lt_succ_of_le hfull, ?_⟩
  rw [← hpushedName]
  exact stateName_eq hpushed

/-- A round that would make the stack too deep is refused. -/
theorem WellFormed.refused_of_round (h : grammar.WellFormed) {before after : Moment}
    (hframes : grammar.ValidFrames before.frames) (hdepth : before.frames.length ≤ depth)
    (hround : grammar.Round none before after) (hdeep : depth < after.frames.length) :
    ∃ scan, Scans grammar (some depth) before.frames before.position before.rest scan ∧
      scan.refused = some (grammar.stateName (grammar.currentState after.frames)) := by
  cases hround with
  | @take frames after position c rest rule length hrule hafter =>
    cases happly : rule.transition.apply (some depth) frames with
    | ok after' =>
      -- there would be room after all
      obtain ⟨hnone, hlength⟩ := (Transition.apply_some_eq_ok_iff hdepth).mp happly
      cases hafter.symm.trans hnone
      exact absurd hdeep (Nat.not_lt.mpr hlength)
    | error name =>
      obtain ⟨other, hround, -, hname⟩ := h.round_of_refused hframes hrule happly
      obtain rfl := hround.eq (.take hrule hafter)
      exact ⟨_, .refuse hrule happly, congrArg some hname.symm⟩
  | skip hnone => exact absurd hdeep (Nat.not_lt.mpr hdepth)

/-- A run under a limit is refused just where the run without it overflows, at the same state. -/
theorem Scans.refused_iff (h : grammar.WellFormed) {start : Moment} {scan : Scan}
    (hrun : Scans grammar (some depth) start.frames start.position start.rest scan)
    (hframes : grammar.ValidFrames start.frames) (hdepth : start.frames.length ≤ depth)
    (state : String) : scan.refused = some state ↔ grammar.Overflows depth start state := by
  constructor
  · intro hrefused
    have hprepend {a b : Moment} (hround : grammar.Round (some depth) a b)
        (ha : a.frames.length ≤ depth) (hb : grammar.Overflows depth b state) :
        grammar.Overflows depth a state := by
      obtain ⟨before, after, hpath, hlast⟩ := hb
      exact ⟨before, after, .head ((round_some_iff ha).mp hround) hpath, hlast⟩
    obtain ⟨frames, position, rest⟩ := start
    dsimp only at hrun hframes hdepth
    induction hrun with
    | finish frames position => cases hrefused
    | take hrule hafter hscan ih =>
      have hround : grammar.Round (some depth) _ _ := .take hrule hafter
      have hlength := ((Transition.apply_some_eq_ok_iff hdepth).mp hafter).2
      exact hprepend hround hdepth (ih hrefused (hround.validFrames h hframes) hlength)
    | refuse hrule hname =>
      cases hrefused
      obtain ⟨after, hround, hdeep, hstate⟩ := h.round_of_refused hframes hrule hname
      exact ⟨_, after, .refl, hround, hdeep, hstate⟩
    | skip hrule hscan ih => exact hprepend (.skip hrule) hdepth (ih hrefused hframes hdepth)
  · rintro ⟨before, after, hpath, hround, hdeep, rfl⟩
    -- the run under the limit comes along the same way to where there is no room
    have hrefused : ∃ scan',
        Scans grammar (some depth) start.frames start.position start.rest scan' ∧
          scan'.refused = some (grammar.stateName (grammar.currentState after.frames)) := by
      clear hrun
      induction hpath using Relation.ReflTransGen.head_induction_on with
      | refl => exact h.refused_of_round hframes hdepth hround hdeep
      | head hstep _ ih =>
        obtain ⟨scan', hscan', heq⟩ := ih (hstep.1.validFrames h hframes) hstep.2
        obtain ⟨scan'', hscan'', heq'⟩ := Scans.of_round ((round_some_iff hdepth).mpr hstep) hscan'
        exact ⟨scan'', hscan'', heq'.trans heq⟩
    obtain ⟨scan', hscan', heq⟩ := hrefused
    rw [hrun.unique hscan', heq]

/-! ## Lines -/

/-- A line is refused just where the scan without a limit overflows. -/
theorem WellFormed.refused_scan_iff (h : grammar.WellFormed) {frames : Frames}
    (hframes : grammar.ValidFrames frames) (hdepth : frames.length ≤ depth) (line : String)
    (number : Nat) (state : String) :
    (grammar.scan (some depth) frames line number).refused = some state ↔
      grammar.Overflows depth (.ofLine frames line number) state := by
  unfold Moment.ofLine
  by_cases hlong : Limits.lineLength < line.utf8ByteSize
  · -- a line that is too long makes no round
    rw [scan, if_pos hlong, if_pos hlong]
    constructor
    · intro hrefused
      cases hrefused
    · rintro ⟨before, after, hpath, hround, -⟩
      rcases Relation.ReflTransGen.cases_head hpath with rfl | ⟨next, ⟨hnext, -⟩, -⟩
      · cases hround
      · cases hnext
  · rw [if_neg hlong]
    have hrun : Scans grammar (some depth) frames (.lineStart number) line.toList
        (grammar.scan (some depth) frames line number) := scans_scan (Nat.not_lt.mp hlong)
    exact Scans.refused_iff h hrun hframes hdepth state

/-- A line for which there is room is scanned as without a limit, and no moment of that has a stack
that is too deep. -/
theorem scan_without_limit {frames : Frames} {line : String} {number : Nat}
    (hroom : (grammar.scan (some depth) frames line number).refused = none)
    (hdepth : frames.length ≤ depth) :
    grammar.scan (some depth) frames line number = grammar.scan none frames line number ∧
      ∀ moment, grammar.Reaches none (.ofLine frames line number) moment →
        moment.frames.length ≤ depth := by
  unfold Moment.ofLine
  by_cases hlong : Limits.lineLength < line.utf8ByteSize
  · rw [scan, scan, if_pos hlong, if_pos hlong, if_pos hlong]
    refine ⟨rfl, fun moment hreach => ?_⟩
    rcases Relation.ReflTransGen.cases_head hreach with rfl | ⟨next, hnext, -⟩
    · exact hdepth
    · cases hnext
  · rw [if_neg hlong]
    have hshort := Nat.not_lt.mp hlong
    obtain ⟨hrun, hwithin⟩ := (scans_scan hshort).without_limit hroom hdepth
    exact ⟨hrun.unique (scans_scan hshort), hwithin⟩

/-! ## Answers -/

/-- The answer of a line is what tokenizing it gives. -/
theorem LineAnswer.eq (h : grammar.WellFormed) {stack : StateStack} {line : String} {number : Nat}
    {answer : Except TokenizeError LineTokens}
    (hanswer : grammar.LineAnswer stack line number answer) :
    grammar.tokenizeLineAt stack line number = answer := by
  cases hanswer with
  | tooDeep hdepth =>
    rw [tokenizeLineAt, StateStack.resolve_of_tooDeep grammar hdepth]
    rfl
  | unknown hdepth hnames hbelow hname =>
    rw [tokenizeLineAt, StateStack.resolve_of_unknown h hdepth hnames hbelow hname]
    rfl
  | @overflow frames state hdepth hframes hstack hstate =>
    subst hstack
    rw [StateStack.depth_ofFrames] at hdepth
    have hrefused := (h.refused_scan_iff hframes hdepth line number state).mpr hstate
    rw [h.tokenizeLineAt_ofFrames hframes hdepth, Scan.toLineTokens, Scan.fault?, hrefused]
    rfl
  | @within frames hdepth hframes hstack hwithin =>
    subst hstack
    rw [StateStack.depth_ofFrames] at hdepth
    have hroom : (grammar.scan (some Limits.stackDepth) frames line number).refused = none := by
      refine Option.eq_none_iff_forall_ne_some.mpr fun state hrefused => ?_
      -- a push that is refused would lead to a moment with a stack that is too deep
      obtain ⟨before, after, hpath, hround, hdeep, -⟩ :=
        (h.refused_scan_iff hframes hdepth line number state).mp hrefused
      have hreach : grammar.Reaches none (.ofLine frames line number) after :=
        .tail (Relation.ReflTransGen.mono (fun _ _ hstep => hstep.1) _ _ hpath) hround
      exact absurd hdeep (Nat.not_lt.mpr (hwithin after hreach))
    rw [h.tokenizeLineAt_ofFrames hframes hdepth, ← (scan_without_limit hroom hdepth).1]
    exact Scan.toLineTokens_eq_ok_iff.mpr ⟨hroom, rfl⟩

/-- Every line has an answer. -/
theorem exists_lineAnswer (h : grammar.WellFormed) (stack : StateStack) (line : String)
    (number : Nat) : ∃ answer, grammar.LineAnswer stack line number answer := by
  by_cases hdepth : Limits.stackDepth < stack.depth
  · exact ⟨_, .tooDeep hdepth⟩
  rw [Nat.not_lt] at hdepth
  by_cases hknown : ∀ name ∈ stack.names, name ∈ grammar.states.map (·.name)
  · -- the stack has indices, and what the scan from there does decides
    obtain ⟨frames, hframes⟩ := StateStack.exists_resolve h hdepth hknown
    obtain ⟨-, hvalid, hstack⟩ := StateStack.resolve_eq_ok h hframes
    have hlength : frames.length ≤ Limits.stackDepth := by
      rwa [← StateStack.depth_ofFrames grammar, hstack]
    cases hrefused : (grammar.scan (some Limits.stackDepth) frames line number).refused with
    | some state =>
      have hover := (h.refused_scan_iff hvalid hlength line number state).mp hrefused
      exact ⟨_, .overflow hdepth hvalid hstack hover⟩
    | none => exact ⟨_, .within hdepth hvalid hstack (scan_without_limit hrefused hlength).2⟩
  · obtain ⟨below, name, above, hnames, hbelow, hname⟩ := exists_first_not_mem hknown
    exact ⟨_, .unknown hdepth hnames hbelow hname⟩

/-- The stack that a line leaves keeps to the limit and can be resolved again. -/
theorem WellFormed.exists_resolve_endState (h : grammar.WellFormed) {stack : StateStack}
    {line : String} {number : Nat} {result : LineTokens}
    (hresult : grammar.tokenizeLineAt stack line number = .ok result) :
    result.endState.depth ≤ Limits.stackDepth ∧
      ∃ frames, result.endState.resolve grammar = .ok frames := by
  obtain ⟨frames, hframes, -, rfl⟩ := tokenizeLineAt_eq_ok_iff.mp hresult
  obtain ⟨hdepth, hvalid, hstack⟩ := StateStack.resolve_eq_ok h hframes
  rw [← hstack, StateStack.depth_ofFrames] at hdepth
  have hdepth' := length_frames_scan_le grammar hdepth line number
  have hvalid' := h.validFrames_scan hvalid (some Limits.stackDepth) line number
  refine ⟨?_, _, StateStack.resolve_ofFrames h hvalid' hdepth'⟩
  rwa [StateStack.depth_ofFrames]

/-- Under a compiled grammar a line is answered just as the scan without a limit says. The stack
that a line leaves behind keeps to the limit and is taken by any next line. -/
theorem tokenizeLineAt_eq_iff_lineAnswer {document : GrammarDocument} {fallbackName : String}
    (hcompile : compile document fallbackName = .ok grammar) (stack : StateStack) (line : String)
    (number : Nat) :
    (∀ answer, grammar.tokenizeLineAt stack line number = answer ↔
      grammar.LineAnswer stack line number answer) ∧
    ∀ result, grammar.tokenizeLineAt stack line number = .ok result →
      result.endState.depth ≤ Limits.stackDepth ∧
        ∃ frames, result.endState.resolve grammar = .ok frames ∧
          ∀ next number', grammar.tokenizeLineAt result.endState next number'
            = (grammar.scan (some Limits.stackDepth) frames next number').toLineTokens grammar := by
  have h := wellFormed_of_compile hcompile
  refine ⟨fun answer => ⟨fun hanswer => ?_, LineAnswer.eq h⟩, fun result hresult => ?_⟩
  · obtain ⟨answer', hanswer'⟩ := exists_lineAnswer h stack line number
    rwa [← hanswer, hanswer'.eq h]
  · obtain ⟨hdepth, frames, hframes⟩ := h.exists_resolve_endState hresult
    refine ⟨hdepth, frames, hframes, fun next number' => ?_⟩
    rw [tokenizeLineAt, hframes]
    rfl

/-- A stack of the sample grammar on which there is no room. -/
def fullStack : StateStack := ⟨List.replicate Limits.stackDepth "word"⟩

theorem tokenizeLineAt_fullStack :
    sampleGrammar.tokenizeLineAt fullStack ">ab<<" 7
      = .error (.stackDepthExceeded "word" Limits.stackDepth) := by
  decide +kernel

/-- On the full stack one pop and two pushes overflow. The stack that the sample line leaves is
taken by the next line. -/
theorem lineAnswer_fullStack :
    sampleGrammar.LineAnswer fullStack ">ab<<" 7
        (.error (.stackDepthExceeded "word" Limits.stackDepth)) ∧
      sampleGrammar.tokenizeLineAt .initial "!(é<ab" 7 = .ok ⟨sampleTokens, ⟨["word"]⟩⟩ ∧
        (StateStack.mk ["word"]).depth ≤ Limits.stackDepth ∧
          ∃ frames, (StateStack.mk ["word"]).resolve sampleGrammar = .ok frames := by
  have hfull := tokenizeLineAt_eq_iff_lineAnswer compile_sampleDocument fullStack ">ab<<" 7
  have hsample := tokenizeLineAt_eq_iff_lineAnswer compile_sampleDocument .initial "!(é<ab" 7
  obtain ⟨hdepth, frames, hframes, -⟩ := hsample.2 _ tokenizeLineAt_sample
  exact ⟨(hfull.1 _).mp tokenizeLineAt_fullStack, tokenizeLineAt_sample, hdepth, frames, hframes⟩

end Grammar
end LineLexer
