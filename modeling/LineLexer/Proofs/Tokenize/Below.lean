import LineLexer.Proofs.Tokenize.Coverage
import LineLexer.Proofs.Tokenize.Rounds

/-!
# Frames below the working part of a stack

A scan sees the top of its stack only. More frames below it change nothing as long as the stack
above them is not emptied and there is room for all frames together: the same rules are chosen, the
tokens are the same, and the frames below are left as they were (`tokenizeLineAt_above`).

One round does so (`Round.above`), and so do all rounds of a line (`Reaches.above`, `Scans.above`).
The frames below a push come to light again just when the depth is again what it was before the
push (`Passes.frames_eq_of_matching`), be it on the same line or on a later one.
-/

namespace LineLexer

/-! ## More frames below -/

/-- The same moment with more frames below its stack. -/
def Moment.above (moment : Moment) (base : Frames) : Moment :=
  { moment with frames := moment.frames ++ base }

/-- The same scan with more frames below its stack. -/
def Scan.above (scan : Scan) (base : Frames) : Scan :=
  { scan with frames := scan.frames ++ base, depth := scan.depth + base.length }

theorem Scan.above_finished (frames base : Frames) :
    (finished frames).above base = finished (frames ++ base) := by
  rw [above, finished, finished, List.length_append]

theorem Scan.above_matched (scan : Scan) (base : Frames) (token : Token) (frames : Frames) :
    (scan.matched token frames.length).above base
      = (scan.above base).matched token (frames ++ base).length := by
  simp only [above, matched, List.length_append, Nat.add_max_add_right]

theorem Scan.above_skipped (scan : Scan) (base : Frames) (token : Token) (char : Unmatched) :
    (scan.skipped token char).above base = (scan.above base).skipped token char := rfl

/-- A transition that does not empty the stack leaves more frames below it alone. -/
theorem Transition.apply_append {transition : Transition} {depth : Nat} {frames after base : Frames}
    (happly : transition.apply (some depth) frames = .ok after) (hframes : frames ≠ [])
    (hafter : after ≠ []) (hroom : after.length + base.length ≤ depth) :
    transition.apply (some depth) (frames ++ base) = .ok (after ++ base) := by
  cases transition with
  | stay =>
    cases happly
    rfl
  | push target name =>
    simp only [apply] at happly
    split at happly
    · cases happly
    · cases happly
      have hopen : ¬(some depth).any (· ≤ (frames ++ base).length) := by
        rw [List.length_cons] at hroom
        simp only [Option.any_some, decide_eq_true_eq, List.length_append]
        omega
      rw [apply, if_neg hopen, List.cons_append]
  | pop =>
    cases happly
    rw [apply, List.tail_append_of_ne_nil hframes]
  | popAll =>
    cases happly
    exact absurd rfl hafter

namespace Grammar

variable {grammar : Grammar} {depth : Nat} {base : Frames}

theorem currentState_append (grammar : Grammar) {frames : Frames} (h : frames ≠ [])
    (base : Frames) : grammar.currentState (frames ++ base) = grammar.currentState frames := by
  cases frames with
  | nil => exact absurd rfl h
  | cons id frames => rfl

/-- The rule is chosen by the state on top. -/
theorem chosenRule?_append (grammar : Grammar) {frames : Frames} (h : frames ≠ []) (base : Frames)
    (position : Position) (rest : List Char) :
    grammar.chosenRule? (frames ++ base) position rest = grammar.chosenRule? frames position rest := by
  rw [chosenRule?, chosenRule?, grammar.currentState_append h]

/-! ## The same rounds -/

theorem Round.above {a b : Moment} (hround : grammar.Round (some depth) a b) (ha : a.frames ≠ [])
    (hb : b.frames ≠ []) (hroom : b.frames.length + base.length ≤ depth) :
    grammar.Round (some depth) (a.above base) (b.above base) := by
  cases hround with
  | take hrule hafter =>
    rw [← grammar.chosenRule?_append ha base] at hrule
    exact .take hrule (Transition.apply_append hafter ha hb hroom)
  | skip hnone =>
    refine .skip fun rule length => ?_
    rw [grammar.chosenRule?_append ha]
    exact hnone rule length

/-- From the start on the stack is never empty, and there is always room for some more frames. -/
def StaysAbove (grammar : Grammar) (depth room : Nat) (start : Moment) : Prop :=
  ∀ moment, grammar.Reaches (some depth) start moment →
    moment.frames ≠ [] ∧ moment.frames.length + room ≤ depth

theorem StaysAbove.round {room : Nat} {a b : Moment} (h : grammar.StaysAbove depth room a)
    (hround : grammar.Round (some depth) a b) : grammar.StaysAbove depth room b :=
  fun moment hreach => h moment (.head hround hreach)

theorem staysAbove_of_round {room : Nat} {a b : Moment} (hround : grammar.Round (some depth) a b)
    (hne : a.frames ≠ []) (hroom : a.frames.length + room ≤ depth)
    (hnext : grammar.StaysAbove depth room b) : grammar.StaysAbove depth room a := by
  intro moment hreach
  rcases Relation.ReflTransGen.cases_head hreach with rfl | ⟨next, hround', hreach⟩
  · exact ⟨hne, hroom⟩
  · exact hnext moment (hround.eq hround' ▸ hreach)

theorem staysAbove_lineEnd {room : Nat} {frames : Frames} {position : Position}
    (hne : frames ≠ []) (hroom : frames.length + room ≤ depth) :
    grammar.StaysAbove depth room ⟨frames, position, []⟩ := by
  intro moment hreach
  rcases Relation.ReflTransGen.cases_head hreach with rfl | ⟨next, hround, -⟩
  · exact ⟨hne, hroom⟩
  · cases hround

/-- The moments are the same ones with the base below. -/
theorem Reaches.above {start moment : Moment} (hreach : grammar.Reaches (some depth) start moment)
    (h : grammar.StaysAbove depth base.length start) :
    grammar.Reaches (some depth) (start.above base) (moment.above base) := by
  induction hreach with
  | refl => exact .refl
  | tail hbefore hround ih =>
    have hlast := h _ (.tail hbefore hround)
    exact .tail ih (hround.above (h _ hbefore).1 hlast.1 hlast.2)

/-- A run to the line's end is the same run with the base below. -/
theorem Scans.above {frames : Frames} {position : Position} {rest : List Char} {scan : Scan}
    (hrun : Scans grammar (some depth) frames position rest scan) (hroom : scan.refused = none)
    (h : grammar.StaysAbove depth base.length ⟨frames, position, rest⟩) :
    Scans grammar (some depth) (frames ++ base) position rest (scan.above base) := by
  induction hrun with
  | finish frames position =>
    rw [Scan.above_finished]
    exact .finish (frames ++ base) position
  | take hrule hafter hscan ih =>
    have hnext := h.round (.take hrule hafter)
    have hframes := (h _ .refl).1
    obtain ⟨hne, hlength⟩ := hnext _ .refl
    rw [Scan.above_matched]
    rw [← grammar.chosenRule?_append hframes base] at hrule
    exact .take hrule (Transition.apply_append hafter hframes hne hlength) (ih hroom hnext)
  | refuse hrule hname => cases hroom
  | skip hnone hscan ih =>
    have hnext := h.round (.skip hnone)
    have hframes := (h _ .refl).1
    rw [Scan.above_skipped, ← grammar.currentState_append hframes base]
    refine .skip (fun rule length => ?_) (ih hroom hnext)
    rw [grammar.chosenRule?_append hframes]
    exact hnone rule length

theorem scan_above {frames : Frames} {line : String} {number : Nat}
    (hroom : (grammar.scan (some depth) frames line number).refused = none)
    (h : grammar.StaysAbove depth base.length (.ofLine frames line number)) :
    grammar.scan (some depth) (frames ++ base) line number
      = (grammar.scan (some depth) frames line number).above base := by
  by_cases hlong : Limits.lineLength < line.utf8ByteSize
  · rw [scan, scan, if_pos hlong, if_pos hlong, Scan.above, List.length_append]
  · have hshort := Nat.not_lt.mp hlong
    unfold Moment.ofLine at h
    rw [if_neg hlong] at h
    rw [((scans_scan hshort).above hroom h).eq_scanFrom _ (Nat.le_refl _), scan, if_neg hlong]

/-! ## Pushes that are undone -/

/-- What leads from one moment to the next over any number of lines: a round, or the step from the
end of a line to the start of another one, which takes the stack along. -/
inductive Passes (grammar : Grammar) (limit : Option Nat) : Moment → Moment → Prop
  | round {a b : Moment} (hround : grammar.Round limit a b) : Passes grammar limit a b
  | nextLine (frames : Frames) (position : Position) (line : String) (number : Nat) :
      Passes grammar limit ⟨frames, position, []⟩ (.ofLine frames line number)

/-- What lies below the top frame is still there if the stack has not become less deep than it. -/
theorem Passes.suffix {limit : Option Nat} {a b : Moment} (h : grammar.Passes limit a b)
    (hbase : base <:+ a.frames) (ha : base.length < a.frames.length)
    (hb : base.length ≤ b.frames.length) : base <:+ b.frames := by
  cases h with
  | nextLine frames position line number => exact hbase
  | round hround =>
    cases hround with
    | skip hnone => exact hbase
    | @take frames after position c rest rule length hrule hafter =>
      obtain ⟨top, rfl⟩ := hbase
      dsimp only at ha hb ⊢
      cases htransition : rule.transition with
      | stay =>
        rw [htransition] at hafter
        cases hafter
        exact List.suffix_append top base
      | push target name =>
        rw [htransition, Transition.apply] at hafter
        split at hafter
        · cases hafter
        · cases hafter
          exact (List.suffix_append top base).trans (List.suffix_cons target _)
      | pop =>
        rw [htransition] at hafter
        cases hafter
        have htop : top ≠ [] := by
          rintro rfl
          exact absurd ha (Nat.lt_irrefl _)
        rw [List.tail_append_of_ne_nil htop]
        exact List.suffix_append _ base
      | popAll =>
        rw [htransition] at hafter
        cases hafter
        rw [List.length_nil, Nat.le_zero, List.length_eq_zero_iff] at hb
        exact hb ▸ List.nil_suffix

/-- A push that is undone by its matching pop, the first round behind it that makes the stack as
deep as it was before, leaves the very stack from before. -/
theorem Passes.frames_eq_of_matching {limit : Option Nat} {before pushed last after : Moment}
    {target : Nat} (hpush : pushed.frames = target :: before.frames)
    (hinner : Relation.ReflTransGen
      (fun a b => grammar.Passes limit a b ∧ before.frames.length < b.frames.length) pushed last)
    (hpop : grammar.Passes limit last after)
    (hdepth : after.frames.length = before.frames.length) : after.frames = before.frames := by
  have hlast : before.frames <:+ last.frames ∧ before.frames.length < last.frames.length := by
    clear hpop
    induction hinner with
    | refl =>
      rw [hpush]
      exact ⟨List.suffix_cons target _, Nat.lt_succ_self _⟩
    | tail _ hstep ih => exact ⟨hstep.1.suffix ih.1 ih.2 hstep.2.le, hstep.2⟩
  exact ((hpop.suffix hlast.1 hlast.2 hdepth.ge).eq_of_length hdepth.symm).symm

/-! ## Lines -/

/-- The names of two stacks one above the other are those of the frames one above the other. -/
theorem ofFrames_append (grammar : Grammar) (frames base : Frames) :
    StateStack.ofFrames grammar (frames ++ base)
      = ⟨(StateStack.ofFrames grammar base).names ++ (StateStack.ofFrames grammar frames).names⟩ := by
  simp only [StateStack.ofFrames, List.map_append, List.reverse_append]

/-- More states below the stack of a line are neither seen nor touched, at any moment of the line,
if the stack above them is never empty and there is room for all of them. And the stack behind the
pop that matches a push is the one before the push. -/
theorem tokenizeLineAt_above {document : GrammarDocument} {fallbackName : String}
    (hcompile : compile document fallbackName = .ok grammar) {base stack : StateStack}
    (hbase : ∀ name ∈ base.names, name ∈ grammar.states.map (·.name)) {frames : Frames}
    (hframes : stack.resolve grammar = .ok frames) {line : String} {number : Nat}
    (hmoments : ∀ moment,
      grammar.Reaches (some Limits.stackDepth) (.ofLine frames line number) moment →
        moment.frames ≠ [] ∧ moment.frames.length + base.depth ≤ Limits.stackDepth)
    {result : LineTokens} (hline : grammar.tokenizeLineAt stack line number = .ok result) :
    grammar.tokenizeLineAt ⟨base.names ++ stack.names⟩ line number
        = .ok ⟨result.tokens, ⟨base.names ++ result.endState.names⟩⟩ ∧
      (∃ under, base.resolve grammar = .ok under ∧ ∀ moment,
        grammar.Reaches (some Limits.stackDepth) (.ofLine frames line number) moment →
          grammar.Reaches (some Limits.stackDepth) (.ofLine (frames ++ under) line number)
            (moment.above under)) ∧
      ∀ (before pushed last after : Moment) (target : Nat),
        grammar.Passes (some Limits.stackDepth) before pushed →
        pushed.frames = target :: before.frames →
        Relation.ReflTransGen (fun a b => grammar.Passes (some Limits.stackDepth) a b ∧
          before.frames.length < b.frames.length) pushed last →
        grammar.Passes (some Limits.stackDepth) last after →
        after.frames.length = before.frames.length → after.frames = before.frames := by
  have hwell := wellFormed_of_compile hcompile
  have hfirst := (hmoments _ .refl).2
  obtain ⟨under, hunder⟩ := StateStack.exists_resolve hwell (Nat.le_of_add_left_le hfirst) hbase
  obtain ⟨-, hunderValid, hunderNames⟩ := StateStack.resolve_eq_ok hwell hunder
  obtain ⟨-, hvalid, hnames⟩ := StateStack.resolve_eq_ok hwell hframes
  have hlength : under.length = base.depth := by
    rw [← StateStack.depth_ofFrames grammar, hunderNames]
  have hstays : grammar.StaysAbove Limits.stackDepth under.length (.ofLine frames line number) := by
    rw [hlength]
    exact hmoments
  refine ⟨?_, ⟨under, hunder, fun moment hreach => hreach.above hstays⟩,
    fun before pushed last after target _ hpush hinner hpop hdepth =>
      Passes.frames_eq_of_matching hpush hinner hpop hdepth⟩
  obtain ⟨frames', hframes', hroom, rfl⟩ := tokenizeLineAt_eq_ok_iff.mp hline
  cases hframes.symm.trans hframes'
  have hboth : grammar.ValidFrames (frames ++ under) := by
    intro id hid
    exact (List.mem_append.mp hid).elim (hvalid id) (hunderValid id)
  have hbothDepth : (frames ++ under).length ≤ Limits.stackDepth := by
    rw [List.length_append, hlength]
    exact hfirst
  have hresolve := StateStack.resolve_ofFrames hwell hboth hbothDepth
  rw [ofFrames_append, hunderNames, hnames] at hresolve
  have hscan := scan_above hroom hstays
  refine tokenizeLineAt_eq_ok_iff.mpr ⟨frames ++ under, hresolve, ?_⟩
  dsimp only
  rw [hscan]
  refine ⟨hroom, ?_⟩
  rw [Scan.above, ofFrames_append, hunderNames]

/-- A word inside of a word: a push, and the pop that matches it. -/
theorem staysAbove_sample :
    sampleGrammar.StaysAbove Limits.stackDepth 1 (.ofLine [1] "<ab>" 3) := by
  have hline : Moment.ofLine [1] "<ab>" 3 = ⟨[1], ⟨0, 3, 1⟩, ['<', 'a', 'b', '>']⟩ := by
    decide +kernel
  have hopen : sampleGrammar.Round (some Limits.stackDepth) ⟨[1], ⟨0, 3, 1⟩, ['<', 'a', 'b', '>']⟩
      ⟨[1, 1], ⟨1, 3, 2⟩, ['a', 'b', '>']⟩ :=
    @Round.take _ _ [1] [1, 1] ⟨0, 3, 1⟩ '<' ['a', 'b', '>']
      ⟨"<", sampleProgram ['<'], false, .token "angle", .push 1 "word"⟩ 0 (by decide +kernel) rfl
  have hword : sampleGrammar.Round (some Limits.stackDepth) ⟨[1, 1], ⟨1, 3, 2⟩, ['a', 'b', '>']⟩
      ⟨[1, 1], ⟨3, 3, 4⟩, ['>']⟩ :=
    @Round.take _ _ [1, 1] [1, 1] ⟨1, 3, 2⟩ 'a' ['b', '>']
      ⟨"ab", sampleProgram ['a', 'b'], false, .token "word", .stay⟩ 1 (by decide +kernel) rfl
  have hclose : sampleGrammar.Round (some Limits.stackDepth) ⟨[1, 1], ⟨3, 3, 4⟩, ['>']⟩
      ⟨[1], ⟨4, 3, 5⟩, []⟩ :=
    @Round.take _ _ [1, 1] [1] ⟨3, 3, 4⟩ '>' []
      ⟨">", sampleProgram ['>'], false, .token "angle", .pop⟩ 0 (by decide +kernel) rfl
  rw [hline]
  exact staysAbove_of_round hopen (by decide) (by decide) <|
    staysAbove_of_round hword (by decide) (by decide) <|
      staysAbove_of_round hclose (by decide) (by decide) <|
        staysAbove_lineEnd (by decide) (by decide)

/-- The word's line above a state that is not seen. -/
theorem tokenizeLineAt_word_above_text :
    sampleGrammar.tokenizeLineAt ⟨["text", "word"]⟩ "<ab>" 3 = .ok
      ⟨[⟨⟨⟨0, 3, 1⟩, ⟨1, 3, 2⟩⟩, "angle", none⟩, ⟨⟨⟨1, 3, 2⟩, ⟨3, 3, 4⟩⟩, "word", none⟩,
        ⟨⟨⟨3, 3, 4⟩, ⟨4, 3, 5⟩⟩, "angle", none⟩], ⟨["text", "word"]⟩⟩ := by
  have hframes : (StateStack.mk ["word"]).resolve sampleGrammar = .ok [1] := by decide +kernel
  have hbase : ∀ name ∈ (StateStack.mk ["text"]).names, name ∈ sampleGrammar.states.map (·.name) := by
    decide +kernel
  have hline : sampleGrammar.tokenizeLineAt ⟨["word"]⟩ "<ab>" 3 = .ok
      ⟨[⟨⟨⟨0, 3, 1⟩, ⟨1, 3, 2⟩⟩, "angle", none⟩, ⟨⟨⟨1, 3, 2⟩, ⟨3, 3, 4⟩⟩, "word", none⟩,
        ⟨⟨⟨3, 3, 4⟩, ⟨4, 3, 5⟩⟩, "angle", none⟩], ⟨["word"]⟩⟩ := by
    decide +kernel
  exact (tokenizeLineAt_above compile_sampleDocument hbase hframes staysAbove_sample hline).1

end Grammar
end LineLexer
