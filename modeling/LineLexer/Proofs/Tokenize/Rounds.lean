import LineLexer.Proofs.Tokenize.Scan
import LineLexer.Proofs.Tokenize.StateStack
import Mathlib.Logic.Relation

/-!
# Rounds of the scan

The moments that the scan of a line goes through, one by one. A `Round` leads from one moment to
the next, and `Reaches` is any number of them. What every moment of a line obeys is proved for one
round and then holds of all moments that are reached (`Keeps.reaches`): no round makes a frame that
is not a state (`WellFormed.keeps_validFrames`), and under a limit no stack grows above it
(`Reaches.depth_le`). The scan ends at the last of these moments (`exists_reaches_scan`), so it
keeps what every round keeps (`Keeps.scan`).

A limit only stops the scan, it never changes a round (`round_some_iff`).
-/

namespace LineLexer

/-- Where a scan stands between two rounds. -/
structure Moment where
  frames : Frames
  position : Position
  /-- What is left of the line. -/
  rest : List Char
deriving DecidableEq, Repr

/-- The first moment on a line. Of a line that is too long nothing is left to be taken apart. -/
def Moment.ofLine (frames : Frames) (line : String) (number : Nat) : Moment :=
  ⟨frames, .lineStart number, if Limits.lineLength < line.utf8ByteSize then [] else line.toList⟩

/-! ## Transitions with a limit and without -/

namespace Transition

/-- A transition with room for it is the one without a limit, and its stack is not too deep. -/
theorem apply_some_eq_ok_iff {transition : Transition} {depth : Nat} {frames after : Frames}
    (hdepth : frames.length ≤ depth) :
    transition.apply (some depth) frames = .ok after ↔
      transition.apply none frames = .ok after ∧ after.length ≤ depth := by
  cases transition with
  | stay =>
    simp only [apply, Except.ok.injEq]
    constructor
    · rintro rfl
      exact ⟨rfl, hdepth⟩
    · exact And.left
  | push target name =>
    by_cases hroom : depth ≤ frames.length
    · -- the stack is full: the push would make it too deep
      have hfull : (some depth).any (· ≤ frames.length) = true := by simpa using hroom
      simp only [apply, hfull, if_true]
      constructor
      · intro h
        cases h
      · rintro ⟨h, hlength⟩
        cases h
        rw [List.length_cons] at hlength
        omega
    · have hopen : (some depth).any (· ≤ frames.length) = false := by simpa using hroom
      simp only [apply, hopen, Option.any_none, Bool.false_eq_true, if_false, Except.ok.injEq]
      constructor
      · rintro rfl
        refine ⟨rfl, ?_⟩
        rw [List.length_cons]
        omega
      · exact And.left
  | pop =>
    simp only [apply, Except.ok.injEq]
    constructor
    · rintro rfl
      refine ⟨rfl, ?_⟩
      rw [List.length_tail]
      omega
    · exact And.left
  | popAll =>
    simp only [apply, Except.ok.injEq]
    constructor
    · rintro rfl
      exact ⟨rfl, Nat.zero_le _⟩
    · exact And.left

/-- Only a push on a full stack finds no room. -/
theorem apply_some_eq_error_iff {transition : Transition} {depth : Nat} {frames : Frames}
    {name : String} :
    transition.apply (some depth) frames = .error name ↔
      depth ≤ frames.length ∧ ∃ target, transition = .push target name := by
  cases transition with
  | push target name' =>
    by_cases hroom : depth ≤ frames.length <;> simp [apply, hroom]
  | stay => simp [apply]
  | pop => simp [apply]
  | popAll => simp [apply]

end Transition

namespace Grammar

variable {grammar : Grammar} {limit : Option Nat}

/-- One round of the scan. -/
inductive Round (grammar : Grammar) (limit : Option Nat) : Moment → Moment → Prop
  | take {frames after : Frames} {position : Position} {c : Char} {rest : List Char} {rule : Rule}
      {length : Nat}
      (hrule : grammar.chosenRule? frames position (c :: rest) = some (rule, length + 1))
      (hafter : rule.transition.apply limit frames = .ok after) :
      Round grammar limit ⟨frames, position, c :: rest⟩
        ⟨after, position.advanceOver (c :: rest.take length), rest.drop length⟩
  | skip {frames : Frames} {position : Position} {c : Char} {rest : List Char}
      (hrule : ∀ rule length,
        grammar.chosenRule? frames position (c :: rest) ≠ some (rule, length + 1)) :
      Round grammar limit ⟨frames, position, c :: rest⟩ ⟨frames, position.advance c, rest⟩

/-- The scan comes from one moment to another. -/
abbrev Reaches (grammar : Grammar) (limit : Option Nat) : Moment → Moment → Prop :=
  Relation.ReflTransGen (grammar.Round limit)

/-- Every round keeps a property of stacks. -/
def Keeps (grammar : Grammar) (property : Frames → Prop) : Prop :=
  ∀ limit a b, grammar.Round limit a b → property a.frames → property b.frames

/-! ## One round -/

/-- A moment has one next moment at most. -/
theorem Round.eq {a b b' : Moment} (h : grammar.Round limit a b) (h' : grammar.Round limit a b') :
    b = b' := by
  cases h with
  | take hrule hafter =>
    cases h' with
    | take hrule' hafter' =>
      cases hrule.symm.trans hrule'
      cases hafter.symm.trans hafter'
      rfl
    | skip hnone => exact absurd hrule (hnone _ _)
  | skip hnone =>
    cases h' with
    | take hrule' hafter' => exact absurd hrule' (hnone _ _)
    | skip hnone' => rfl

/-- A round under a limit is one without it that leaves the stack within the limit. -/
theorem round_some_iff {depth : Nat} {a b : Moment} (hdepth : a.frames.length ≤ depth) :
    grammar.Round (some depth) a b ↔ grammar.Round none a b ∧ b.frames.length ≤ depth := by
  constructor
  · intro h
    cases h with
    | take hrule hafter =>
      obtain ⟨hnone, hlength⟩ := (Transition.apply_some_eq_ok_iff hdepth).mp hafter
      exact ⟨.take hrule hnone, hlength⟩
    | skip hnone => exact ⟨.skip hnone, hdepth⟩
  · rintro ⟨h, hlength⟩
    cases h with
    | take hrule hafter =>
      exact .take hrule ((Transition.apply_some_eq_ok_iff hdepth).mpr ⟨hafter, hlength⟩)
    | skip hnone => exact .skip hnone

/-- The rule that takes a text is one of the current state's. -/
theorem mem_rulesOf_of_chosenRule? {frames : Frames} {position : Position} {rest : List Char}
    {rule : Rule} {length : Nat}
    (h : grammar.chosenRule? frames position rest = some (rule, length)) :
    rule ∈ grammar.rulesOf (grammar.currentState frames) := by
  unfold chosenRule? firstMatch? at h
  obtain ⟨found, hfound, heq⟩ := List.exists_of_findSome?_eq_some h
  obtain ⟨count, -, hpair⟩ := Option.map_eq_some_iff.mp heq
  cases hpair
  exact hfound

/-- It matches with the length that it takes. -/
theorem matchEnd?_of_chosenRule? {frames : Frames} {position : Position} {rest : List Char}
    {rule : Rule} {length : Nat}
    (h : grammar.chosenRule? frames position rest = some (rule, length)) :
    rule.program.matchEnd? rest = some length := by
  unfold chosenRule? firstMatch? at h
  obtain ⟨found, -, heq⟩ := List.exists_of_findSome?_eq_some h
  obtain ⟨count, hcount, hpair⟩ := Option.map_eq_some_iff.mp heq
  cases hpair
  rw [Rule.match?] at hcount
  split at hcount
  · cases hcount
  · exact hcount

/-- It belongs to a state of the grammar. -/
theorem WellFormed.exists_chosen (h : grammar.WellFormed) {frames : Frames}
    (hframes : grammar.ValidFrames frames) {position : Position} {rest : List Char} {rule : Rule}
    {length : Nat} (hrule : grammar.chosenRule? frames position rest = some (rule, length)) :
    ∃ state ∈ grammar.states, rule ∈ state.rules := by
  obtain ⟨state, hstate, -, hrules⟩ := h.exists_current hframes
  exact ⟨state, hstate, hrules ▸ mem_rulesOf_of_chosenRule? hrule⟩

/-- A round leads from states to states. -/
theorem Round.validFrames (h : grammar.WellFormed) {a b : Moment} (hround : grammar.Round limit a b)
    (ha : grammar.ValidFrames a.frames) : grammar.ValidFrames b.frames := by
  cases hround with
  | take hrule hafter =>
    obtain ⟨state, hstate, hmem⟩ := h.exists_chosen ha hrule
    exact h.validFrames_apply ha hstate hmem hafter
  | skip hnone => exact ha

theorem WellFormed.keeps_validFrames (h : grammar.WellFormed) :
    grammar.Keeps grammar.ValidFrames :=
  fun _ _ _ hround => hround.validFrames h

/-! ## Any number of rounds -/

/-- What every round keeps holds at all moments that are reached. -/
theorem Keeps.reaches {property : Frames → Prop} (hkeeps : grammar.Keeps property) {a b : Moment}
    (hreach : grammar.Reaches limit a b) (ha : property a.frames) : property b.frames := by
  induction hreach with
  | refl => exact ha
  | tail _ hround ih => exact hkeeps limit _ _ hround ih

theorem Reaches.depth_le {depth : Nat} {a b : Moment} (hreach : grammar.Reaches (some depth) a b)
    (ha : a.frames.length ≤ depth) : b.frames.length ≤ depth := by
  induction hreach with
  | refl => exact ha
  | tail _ hround ih => exact ((round_some_iff ih).mp hround).2

/-- A run of the scan ends at a moment that it reaches, at the line's end unless a push was
refused. -/
theorem Scans.exists_reaches {frames : Frames} {position : Position} {rest : List Char}
    {scan : Scan} (h : Scans grammar limit frames position rest scan) :
    ∃ last, grammar.Reaches limit ⟨frames, position, rest⟩ last ∧ last.frames = scan.frames ∧
      (scan.refused = none → last.rest = []) := by
  induction h with
  | finish frames position => exact ⟨_, .refl, rfl, fun _ => rfl⟩
  | take hrule hafter hscan ih =>
    obtain ⟨last, hreach, hframes, hend⟩ := ih
    exact ⟨last, .head (.take hrule hafter) hreach, hframes, hend⟩
  | refuse hrule hname => exact ⟨_, .refl, rfl, fun hnone => nomatch hnone⟩
  | skip hrule hscan ih =>
    obtain ⟨last, hreach, hframes, hend⟩ := ih
    exact ⟨last, .head (.skip hrule) hreach, hframes, hend⟩

/-- The scan of a line ends at a moment that it reaches. -/
theorem exists_reaches_scan (grammar : Grammar) (limit : Option Nat) (frames : Frames)
    (line : String) (number : Nat) :
    ∃ last, grammar.Reaches limit (.ofLine frames line number) last ∧
      last.frames = (grammar.scan limit frames line number).frames := by
  unfold Moment.ofLine
  by_cases hlong : Limits.lineLength < line.utf8ByteSize
  · rw [if_pos hlong]
    refine ⟨_, .refl, ?_⟩
    rw [scan, if_pos hlong]
  · rw [if_neg hlong]
    have hrun : Scans grammar limit frames (.lineStart number) line.toList
        (grammar.scan limit frames line number) := scans_scan (Nat.not_lt.mp hlong)
    obtain ⟨last, hreach, hframes, -⟩ := hrun.exists_reaches
    exact ⟨last, hreach, hframes⟩

/-- What every round keeps is kept by the scan of a line. -/
theorem Keeps.scan {property : Frames → Prop} (hkeeps : grammar.Keeps property) {frames : Frames}
    (hframes : property frames) (limit : Option Nat) (line : String) (number : Nat) :
    property (grammar.scan limit frames line number).frames := by
  obtain ⟨last, hreach, hlast⟩ := exists_reaches_scan grammar limit frames line number
  exact hlast ▸ hkeeps.reaches hreach hframes

theorem WellFormed.validFrames_scan (h : grammar.WellFormed) {frames : Frames}
    (hframes : grammar.ValidFrames frames) (limit : Option Nat) (line : String) (number : Nat) :
    grammar.ValidFrames (grammar.scan limit frames line number).frames :=
  h.keeps_validFrames.scan hframes limit line number

theorem length_frames_scan_le (grammar : Grammar) {depth : Nat} {frames : Frames}
    (hdepth : frames.length ≤ depth) (line : String) (number : Nat) :
    (grammar.scan (some depth) frames line number).frames.length ≤ depth := by
  obtain ⟨last, hreach, hlast⟩ := exists_reaches_scan grammar (some depth) frames line number
  exact hlast ▸ hreach.depth_le hdepth

end Grammar
end LineLexer
