import LineLexer.Tokenize.Scan
import Mathlib.Tactic.Push

/-!
# Runs of the scan

What the scan of a line does, as a relation with one rule for each kind of round: the line's end, a
match, a match whose push finds no room, and a character that no rule takes. The scan of a line
takes as many rounds as it needs (`scans_scanFrom`), and no other outcome is possible
(`Scans.eq_scanFrom`), so what holds of all runs is proved by induction on the relation.

The number of the line only shows in the positions (`scan_onLine`).
-/

namespace LineLexer
namespace Grammar

variable {grammar : Grammar} {limit : Option Nat}

/-- The token of text that a rule has matched. -/
def ruleToken (grammar : Grammar) (rule : Rule) (position : Position) (text : List Char) : Token :=
  let label := grammar.classify rule.action (String.ofList text)
  .covering position text label.1 label.2

/-- The token of a character that no rule has taken. -/
def unmatchedToken (grammar : Grammar) (position : Position) (c : Char) : Token :=
  .covering position [c] grammar.defaultKind none

/-- The rule that takes the front of a text on a stack, and the length of its match. -/
def chosenRule? (grammar : Grammar) (frames : Frames) (position : Position) (rest : List Char) :
    Option (Rule × Nat) :=
  firstMatch? (grammar.rulesOf (grammar.currentState frames)) (position.offset = 0) rest

/-- A run of the scan, from a stack and a position over what is left of the line. -/
inductive Scans (grammar : Grammar) (limit : Option Nat) :
    Frames → Position → List Char → Scan → Prop
  | finish (frames : Frames) (position : Position) :
      Scans grammar limit frames position [] (.finished frames)
  | take {frames after : Frames} {position : Position} {c : Char} {rest : List Char} {rule : Rule}
      {length : Nat} {scan : Scan}
      (hrule : grammar.chosenRule? frames position (c :: rest) = some (rule, length + 1))
      (hafter : rule.transition.apply limit frames = .ok after)
      (hscan : Scans grammar limit after
        (position.advanceOver (c :: rest.take length)) (rest.drop length) scan) :
      Scans grammar limit frames position (c :: rest)
        (scan.matched (grammar.ruleToken rule position (c :: rest.take length)) frames.length)
  | refuse {frames : Frames} {position : Position} {c : Char} {rest : List Char} {rule : Rule}
      {length : Nat} {name : String}
      (hrule : grammar.chosenRule? frames position (c :: rest) = some (rule, length + 1))
      (hname : rule.transition.apply limit frames = .error name) :
      Scans grammar limit frames position (c :: rest)
        ((Scan.stopped frames name).matched
          (grammar.ruleToken rule position (c :: rest.take length)) frames.length)
  | skip {frames : Frames} {position : Position} {c : Char} {rest : List Char} {scan : Scan}
      (hrule : ∀ rule length,
        grammar.chosenRule? frames position (c :: rest) ≠ some (rule, length + 1))
      (hscan : Scans grammar limit frames (position.advance c) rest scan) :
      Scans grammar limit frames position (c :: rest)
        (scan.skipped (grammar.unmatchedToken position c)
          ⟨position, grammar.stateName (grammar.currentState frames), c⟩)

/-! ## The scan and its runs -/

/-- One round with a match. -/
theorem scanFrom_take {frames : Frames} {position : Position} {c : Char} {rest : List Char}
    {rule : Rule} {length : Nat}
    (hrule : grammar.chosenRule? frames position (c :: rest) = some (rule, length + 1))
    (fuel : Nat) :
    grammar.scanFrom limit (fuel + 1) frames position (c :: rest)
      = let token := grammar.ruleToken rule position (c :: rest.take length)
        match rule.transition.apply limit frames with
        | .ok after => (grammar.scanFrom limit fuel after token.span.stop
            (rest.drop length)).matched token frames.length
        | .error name => (Scan.stopped frames name).matched token frames.length := by
  rw [chosenRule?] at hrule
  rw [scanFrom, hrule]
  rfl

/-- One round without a match, or with an empty one. -/
theorem scanFrom_skip {frames : Frames} {position : Position} {c : Char} {rest : List Char}
    (hrule : ∀ rule length,
      grammar.chosenRule? frames position (c :: rest) ≠ some (rule, length + 1)) (fuel : Nat) :
    grammar.scanFrom limit (fuel + 1) frames position (c :: rest)
      = (grammar.scanFrom limit fuel frames (position.advance c) rest).skipped
          (grammar.unmatchedToken position c)
          ⟨position, grammar.stateName (grammar.currentState frames), c⟩ := by
  rw [scanFrom]
  split
  · rename_i rule length heq
    exact absurd heq (hrule rule length)
  · rfl

/-- Every round takes a character at least, so as much fuel as characters is enough. -/
theorem scans_scanFrom (fuel : Nat) (frames : Frames) (position : Position) (rest : List Char)
    (h : rest.length ≤ fuel) :
    Scans grammar limit frames position rest
      (grammar.scanFrom limit fuel frames position rest) := by
  induction fuel generalizing frames position rest with
  | zero =>
    rw [List.length_eq_zero_iff.mp (Nat.le_zero.mp h)]
    exact .finish frames position
  | succ fuel ih =>
    cases rest with
    | nil => exact .finish frames position
    | cons c rest =>
      rw [List.length_cons] at h
      by_cases hrule : ∃ rule length,
          grammar.chosenRule? frames position (c :: rest) = some (rule, length + 1)
      · -- the match has one character at least, so less than all of the rest is left behind it
        obtain ⟨rule, length, hrule⟩ := hrule
        rw [scanFrom_take hrule]
        cases hafter : rule.transition.apply limit frames with
        | ok after =>
          refine .take hrule hafter (ih after _ _ ?_)
          rw [List.length_drop]
          omega
        | error name => exact .refuse hrule hafter
      · -- no match or an empty one: the first character is passed over
        push Not at hrule
        rw [scanFrom_skip hrule]
        exact .skip hrule (ih frames _ rest (by omega))

/-- Enough fuel for a text that is not empty is one more than enough for its rest. -/
theorem exists_fuel {c : Char} {rest : List Char} {fuel : Nat} (h : (c :: rest).length ≤ fuel) :
    ∃ less, fuel = less + 1 ∧ rest.length ≤ less := by
  rw [List.length_cons] at h
  exact ⟨fuel - 1, by omega, by omega⟩

/-- A run has one outcome, whatever fuel the scan is given as long as it is enough. -/
theorem Scans.eq_scanFrom {frames : Frames} {position : Position} {rest : List Char} {scan : Scan}
    (h : Scans grammar limit frames position rest scan) (fuel : Nat) (hfuel : rest.length ≤ fuel) :
    scan = grammar.scanFrom limit fuel frames position rest := by
  induction h generalizing fuel with
  | finish frames position => cases fuel <;> rfl
  | @take frames after position c rest rule length scan hrule hafter hscan ih =>
    obtain ⟨fuel, rfl, hrest⟩ := exists_fuel hfuel
    have hdrop : (rest.drop length).length ≤ fuel := by
      rw [List.length_drop]
      omega
    rw [scanFrom_take hrule, hafter, ih fuel hdrop]
    rfl
  | @refuse frames position c rest rule length name hrule hname =>
    obtain ⟨fuel, rfl, -⟩ := exists_fuel hfuel
    rw [scanFrom_take hrule, hname]
  | @skip frames position c rest scan hrule hscan ih =>
    obtain ⟨fuel, rfl, hrest⟩ := exists_fuel hfuel
    rw [scanFrom_skip hrule, ih fuel hrest]

/-- A line that is not too long is scanned as one run. -/
theorem scans_scan {frames : Frames} {line : String} {number : Nat}
    (h : line.utf8ByteSize ≤ Limits.lineLength) :
    Scans grammar limit frames (.lineStart number) line.toList
      (grammar.scan limit frames line number) := by
  rw [scan, if_neg (Nat.not_lt.mpr h)]
  exact scans_scanFrom _ _ _ _ (Nat.le_refl _)

end Grammar

/-! ## The number of the line -/

/-- The same place on another line. -/
def Position.onLine (position : Position) (number : Nat) : Position :=
  { position with line := number }

/-- The same scan of a line with another number. -/
def Scan.onLine (scan : Scan) (number : Nat) : Scan :=
  { scan with
    tokens := scan.tokens.map (·.onLine number)
    unmatched := scan.unmatched.map fun char =>
      { char with position := char.position.onLine number } }

@[simp] theorem Scan.onLine_frames (scan : Scan) (number : Nat) :
    (scan.onLine number).frames = scan.frames := rfl

@[simp] theorem Scan.onLine_refused (scan : Scan) (number : Nat) :
    (scan.onLine number).refused = scan.refused := rfl

theorem Position.advanceOver_onLine (position : Position) (number : Nat) (text : List Char) :
    (position.onLine number).advanceOver text = (position.advanceOver text).onLine number := by
  rw [advanceOver_eq, advanceOver_eq]
  rfl

theorem Token.covering_onLine (position : Position) (number : Nat) (text : List Char)
    (kind : String) (bracket : Option BracketSide) :
    covering (position.onLine number) text kind bracket
      = (covering position text kind bracket).onLine number := by
  rw [covering, Span.covering, Position.advanceOver_onLine]
  rfl

namespace Grammar

variable {grammar : Grammar} {limit : Option Nat}

/-- A run on one line is a run on any other line: no rule sees the number. -/
theorem Scans.onLine {frames : Frames} {position : Position} {rest : List Char} {scan : Scan}
    (h : Scans grammar limit frames position rest scan) (number : Nat) :
    Scans grammar limit frames (position.onLine number) rest (scan.onLine number) := by
  induction h with
  | finish frames position => exact .finish frames _
  | @take frames after position c rest rule length scan hrule hafter hscan ih =>
    rw [← Position.advanceOver_onLine] at ih
    have h := @Scans.take _ _ _ _ (position.onLine number) _ _ _ _ _ hrule hafter ih
    rw [ruleToken, Token.covering_onLine] at h
    exact h
  | @refuse frames position c rest rule length name hrule hname =>
    have h := @Scans.refuse _ _ _ (position.onLine number) _ _ _ _ _ hrule hname
    rw [ruleToken, Token.covering_onLine] at h
    exact h
  | @skip frames position c rest scan hrule hscan ih =>
    have h := @Scans.skip _ _ _ (position.onLine number) _ _ _ hrule ih
    rw [unmatchedToken, Token.covering_onLine] at h
    exact h

/-- The number of a line only shows in the positions. -/
theorem scan_onLine (frames : Frames) (line : String) (number number' : Nat) :
    grammar.scan limit frames line number'
      = (grammar.scan limit frames line number).onLine number' := by
  by_cases hlong : Limits.lineLength < line.utf8ByteSize
  · -- the one token of a line that is too long
    rw [scan, scan, if_pos hlong, if_pos hlong]
    have h := Token.covering_onLine (.lineStart number) number' line.toList grammar.defaultKind none
    simp only [Scan.onLine, List.map_cons, List.map_nil, ← h]
    rfl
  · have hrun : Scans grammar limit frames (.lineStart number) line.toList
        (grammar.scan limit frames line number) := scans_scan (Nat.not_lt.mp hlong)
    rw [(hrun.onLine number').eq_scanFrom _ (Nat.le_refl _), scan, if_neg hlong]
    rfl

end Grammar
end LineLexer
