import LineLexer.Proofs.Tokenize.Coverage

/-!
# The scan with checked numbers

The numbers of a position are words of the machine, so a step behind a character may lead out of
their bounds. Here each step is checked. Numbers only grow along a line, so to check each step is to
check the last one (`Position.advanceOver?_eq`). A line whose end is within the bounds is scanned as
it is without a check (`Grammar.scan?_eq`).
-/

namespace LineLexer

/-! ## Steps -/

namespace Position

/-- The place behind a character, unless a number of it is out of bounds. -/
def advance? (pos : Position) (c : Char) : Option Position :=
  if (pos.advance c).Fits then some (pos.advance c) else none

/-- The place behind a run of text, each step being checked. -/
def advanceOver? (pos : Position) (text : List Char) : Option Position := text.foldlM advance? pos

/-- Numbers that fit behind a text have fitted in front of it. -/
theorem Fits.of_advanceOver {pos : Position} {text : List Char} (h : (pos.advanceOver text).Fits) :
    pos.Fits := by
  rw [advanceOver_eq] at h
  obtain ⟨hoffset, hline, hcolumn⟩ := h
  exact ⟨Nat.lt_of_le_of_lt (Nat.le_add_right ..) hoffset, hline,
    Nat.lt_of_le_of_lt (Nat.le_add_right ..) hcolumn⟩

/-- To check each step is to check the last one. -/
theorem advanceOver?_eq {pos : Position} (hpos : pos.Fits) (text : List Char) :
    pos.advanceOver? text
      = if (pos.advanceOver text).Fits then some (pos.advanceOver text) else none := by
  induction text generalizing pos with
  | nil => exact (if_pos hpos).symm
  | cons c rest ih =>
    rw [advanceOver?, List.foldlM_cons, advance?]
    by_cases hnext : (pos.advance c).Fits
    · rw [if_pos hnext]
      exact ih hnext
    · -- the first step leads out of bounds, and the others do not lead back
      have hlast : ¬(pos.advanceOver (c :: rest)).Fits := fun hfits => hnext (.of_advanceOver hfits)
      rw [if_neg hnext, if_neg hlast]
      rfl

theorem advanceOver?_of_fits {pos : Position} {text : List Char}
    (h : (pos.advanceOver text).Fits) : pos.advanceOver? text = some (pos.advanceOver text) := by
  rw [advanceOver?_eq h.of_advanceOver, if_pos h]

end Position

/-- A span is within the bounds just if each step over its text is. -/
theorem Span.covering?_eq {start : Position} (hstart : start.Fits) (text : List Char) :
    covering? start text = (start.advanceOver? text).map (⟨start, ·⟩) := by
  rw [Position.advanceOver?_eq hstart, covering?]
  by_cases hstop : (start.advanceOver text).Fits
  · rw [if_pos hstop]
    exact if_pos hstop
  · rw [if_neg hstop]
    exact if_neg hstop

/-! ## The scan -/

namespace Grammar

variable (grammar : Grammar) (limit : Option Nat)

/-- Takes apart what is left of a line, as `scanFrom` does, each step being checked. -/
def scanFrom? : (fuel : Nat) → Frames → Position → (rest : List Char) → Option Scan
  | 0, frames, _, _ => some (.finished frames)
  | _, frames, _, [] => some (.finished frames)
  | fuel + 1, frames, position, c :: rest =>
    match grammar.chosenRule? frames position (c :: rest) with
    | some (rule, length + 1) => do
      let text := c :: rest.take length
      let stop ← position.advanceOver? text
      let (kind, bracket) := grammar.classify rule.action (String.ofList text)
      let token : Token := ⟨⟨position, stop⟩, kind, bracket⟩
      match rule.transition.apply limit frames with
      | .ok after =>
        (scanFrom? fuel after stop (rest.drop length)).map (·.matched token frames.length)
      | .error name => some ((Scan.stopped frames name).matched token frames.length)
    | _ => do
      let stop ← position.advance? c
      let token : Token := ⟨⟨position, stop⟩, grammar.defaultKind, none⟩
      let state := grammar.stateName (grammar.currentState frames)
      (scanFrom? fuel frames stop rest).map (·.skipped token ⟨position, state, c⟩)

/-- Takes a line apart, as `scan` does, each step being checked. -/
def scan? (frames : Frames) (line : String) (number : Nat) : Option Scan :=
  let start := Position.lineStart number
  if Limits.lineLength < line.utf8ByteSize then do
    let stop ← start.advanceOver? line.toList
    return ⟨[⟨⟨start, stop⟩, grammar.defaultKind, none⟩], [], frames, frames.length, none, true⟩
  else grammar.scanFrom? limit line.toList.length frames start line.toList

variable {grammar limit}

theorem scanFrom?_eq {frames : Frames} {position : Position} {rest : List Char}
    (hfits : (position.advanceOver rest).Fits) (fuel : Nat) :
    grammar.scanFrom? limit fuel frames position rest
      = some (grammar.scanFrom limit fuel frames position rest) := by
  induction fuel generalizing frames position rest with
  | zero => rfl
  | succ fuel ih =>
    cases rest with
    | nil => rfl
    | cons c rest =>
      rw [scanFrom?]
      by_cases hrule : ∃ rule length,
          grammar.chosenRule? frames position (c :: rest) = some (rule, length + 1)
      · -- the end of the match is in front of the end of the line, and so within the bounds
        obtain ⟨rule, length, hrule⟩ := hrule
        have htext : c :: rest = (c :: rest.take length) ++ rest.drop length := by
          rw [List.cons_append, List.take_append_drop]
        rw [htext, Position.advanceOver_append] at hfits
        rw [hrule, scanFrom_take hrule]
        dsimp only
        rw [Position.advanceOver?_of_fits hfits.of_advanceOver]
        cases rule.transition.apply limit frames with
        | ok after => exact congrArg (Option.map _) (ih hfits)
        | error name => rfl
      · push Not at hrule
        have hrest : ((position.advance c).advanceOver rest).Fits := hfits
        rw [scanFrom_skip hrule, Position.advance?, if_pos hrest.of_advanceOver]
        split
        · rename_i rule length heq
          exact absurd heq (hrule rule length)
        · exact congrArg (Option.map _) (ih hrest)

/-- A line whose end is within the bounds is scanned without a step out of them. -/
theorem scan?_eq {frames : Frames} {line : String} {number : Nat}
    (hfits : ((Position.lineStart number).advanceOver line.toList).Fits) :
    grammar.scan? limit frames line number = some (grammar.scan limit frames line number) := by
  rw [scan?, scan]
  by_cases hlong : Limits.lineLength < line.utf8ByteSize
  · rw [if_pos hlong, if_pos hlong, Position.advanceOver?_of_fits hfits]
    rfl
  · rw [if_neg hlong, if_neg hlong]
    exact scanFrom?_eq hfits _

end Grammar
end LineLexer
