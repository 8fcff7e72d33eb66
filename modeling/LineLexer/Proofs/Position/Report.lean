import LineLexer.Proofs.Position.Search

/-!
# Reports on spans

A report shows the line on which a span starts, with carets under the span. Its steps are written out
here with all that can go wrong in them (`SourceMap.reportInSteps`): numbers are counted down, the line
is cut out of the text, and one column is taken from the other. The line is always found
(`SourceMap.cutLine_eq`), so only the columns can be without an answer. For a span whose start does not
come after its end that is so just if the span goes on to a later line and ends there in a smaller
column (`SourceMap.report_iff_not_fallsBack`).
-/

namespace LineLexer

/-! ## Spans over several lines -/

namespace Span

/-- The start of the span does not come after its end, neither by its offset nor by line and column. -/
def IsOrdered (span : Span) : Prop :=
  span.start.offset ≤ span.stop.offset ∧
    (span.start.line < span.stop.line ∨
      span.start.line = span.stop.line ∧ span.start.column ≤ span.stop.column)

instance (span : Span) : Decidable span.IsOrdered := inferInstanceAs (Decidable (_ ∧ _))

/-- The span ends on a later line, in a column before that of its start. -/
def FallsBack (span : Span) : Prop :=
  span.start.line < span.stop.line ∧ span.stop.column < span.start.column

instance (span : Span) : Decidable span.FallsBack := inferInstanceAs (Decidable (_ ∧ _))

theorem charLength?_eq_none_iff (span : Span) :
    span.charLength? = none ↔ span.stop.column < span.start.column := by
  rw [charLength?]
  split
  · rename_i h
    exact iff_of_true rfl h
  · rename_i h
    exact iff_of_false (Option.some_ne_none _) h

/-- On one line the columns of an ordered span have a difference. -/
theorem IsOrdered.charLength?_eq_none_iff {span : Span} (h : span.IsOrdered) :
    span.charLength? = none ↔ span.FallsBack := by
  rw [span.charLength?_eq_none_iff]
  constructor
  · intro hcolumn
    obtain hline | ⟨-, hle⟩ := h.2
    · exact ⟨hline, hcolumn⟩
    · exact absurd hcolumn (Nat.not_lt.mpr hle)
  · exact And.right

end Span

namespace SourceMap

open Text

/-! ## The line of a report -/

/-- The byte offset at which the line with an index ends: that of the line feed in front of the next
line, or the end of the text. -/
def lineStop (text : List Char) (index : Nat) : Except Fault Nat :=
  match (lineStarts text)[index + 1]? with
  | some next => oneBelow next
  | none => .ok (byteLength text)

/-- Cuts the line with a number out of a text; the answer is none if there is no such line. -/
def cutLine (source : String) (number : Nat) : Except Fault (Option String) :=
  if number = 0 then .ok none
  else do
    let index ← oneBelow number
    match (lineStarts source.toList)[index]? with
    | none => return none
    | some start =>
      let stop ← lineStop source.toList index
      let line ← cutText start stop source.toList
      return some (String.ofList (trimReturns line))

/-- A line ends behind its own bytes. -/
theorem lineStop_eq {text line : List Char} {index : Nat} (h : (splitLines text)[index]? = some line) :
    lineStop text index = .ok (lineOffset text index + byteLength line) := by
  unfold lineStop
  rw [getElem?_lineStarts]
  cases hnext : (splitLines text)[index + 1]? with
  | some next =>
    rw [Option.map_some, lineOffset_succ h]
    rfl
  | none =>
    rw [lineOffset_add_of_last h hnext]
    rfl

/-- Between its start and its end a line stands in its text. -/
theorem sliceBytes_line {text line : List Char} {index : Nat}
    (h : (splitLines text)[index]? = some line) :
    sliceBytes (lineOffset text index) (lineOffset text index + byteLength line) text = some line := by
  obtain ⟨front, back, htext, hfront⟩ := exists_around_line h
  rw [htext, ← htext, ← hfront, htext, sliceBytes_append]

/-- The line with a number is cut out without a fault, and it is the line of the source map. -/
theorem cutLine_eq (source : String) (number : Nat) :
    cutLine source number = .ok ((ofText source).line? number) := by
  cases number with
  | zero => rfl
  | succ index =>
    unfold cutLine line?
    rw [if_neg (Nat.succ_ne_zero index), if_neg (Nat.succ_ne_zero index), getElem?_lines_ofText,
      Nat.add_sub_cancel]
    simp only [oneBelow, bind, Except.bind]
    rw [getElem?_lineStarts]
    cases hline : (splitLines source.toList)[index]? with
    | none => rfl
    | some line =>
      simp only [Option.map_some, lineStop_eq hline, cutText, sliceBytes_line hline]
      rfl

theorem line?_isSome_iff (source : String) (number : Nat) :
    ((ofText source).line? number).isSome ↔ 1 ≤ number ∧ number ≤ (ofText source).lineCount := by
  cases number with
  | zero => simp [line?]
  | succ index =>
    rw [line?, if_neg (Nat.succ_ne_zero index), Nat.add_sub_cancel, getElem?_lines_ofText,
      lineCount_ofText]
    simp only [Option.isSome_map, isSome_getElem?]
    omega

/-! ## The report -/

/-- What a report says at its head. -/
def heading (span : Span) (message : String) : String :=
  "warning: " ++ message ++ "\n  --> " ++ span.start.display ++ "\n"

/-- A report with the line of the span and as many carets as the span has characters. -/
def underlined (span : Span) (message line : String) (length : Nat) : String :=
  let number := toString span.start.line
  let margin := blanks number.length
  let carets := String.ofList (List.replicate (max length 1) '^')
  heading span message ++ margin ++ " |\n" ++ number ++ " | " ++ line ++ "\n"
    ++ margin ++ " | " ++ blanks (span.start.column - 1) ++ carets ++ "\n"

theorem report?_eq (map : SourceMap) (span : Span) (message : String) :
    map.report? span message = match map.line? span.start.line with
      | none => some (heading span message)
      | some line => span.charLength?.map (underlined span message line) := by
  unfold report?
  cases map.line? span.start.line with
  | none => rfl
  | some line => cases span.charLength? <;> rfl

/-- Shows a span of a text step by step. -/
def reportInSteps (source : String) (span : Span) (message : String) : Except Fault String := do
  match ← cutLine source span.start.line with
  | none => return heading span message
  | some line =>
    match span.charLength? with
    | none => throw .columns
    | some length => return underlined span message line length

/-- The steps come to the report, and if there is none it is for the columns. -/
theorem reportInSteps_eq (source : String) (span : Span) (message : String) :
    reportInSteps source span message
      = ((ofText source).report? span message).elim (.error .columns) .ok := by
  unfold reportInSteps
  rw [cutLine_eq, report?_eq]
  simp only [bind, Except.bind]
  cases (ofText source).line? span.start.line with
  | none => rfl
  | some line => cases span.charLength? <;> rfl

theorem report?_eq_none_iff (map : SourceMap) (span : Span) (message : String) :
    map.report? span message = none ↔
      (map.line? span.start.line).isSome ∧ span.charLength? = none := by
  rw [report?_eq]
  cases map.line? span.start.line with
  | none => simp
  | some line => simp

/-- No step of a report on an ordered span counts below zero or cuts the text where it cannot be cut,
and there is a report, unless the span starts on a line of the text and falls back on a later one. -/
theorem report_iff_not_fallsBack {span : Span} (hspan : span.IsOrdered) (source message : String) :
    reportInSteps source span message
        = ((ofText source).report? span message).elim (.error .columns) .ok ∧
      ((∃ report, (ofText source).report? span message = some report) ↔
        ¬(span.FallsBack ∧ 1 ≤ span.start.line ∧ span.start.line ≤ (ofText source).lineCount)) := by
  refine ⟨reportInSteps_eq source span message, ?_⟩
  rw [← Option.ne_none_iff_exists', Ne, report?_eq_none_iff, line?_isSome_iff,
    hspan.charLength?_eq_none_iff, and_comm]

/-- Two lines, the second of which is the shorter one. -/
def steppedText : String := "abc\né"

/-- From the start of the first line to the end of the second one. -/
def overBothLines : Span := ⟨⟨0, 1, 1⟩, ⟨2, 2, 2⟩⟩

/-- From the last character of the first line to the end of the second one. -/
def downTheStep : Span := ⟨⟨2, 1, 3⟩, ⟨2, 2, 2⟩⟩

/-- A span over two lines that ends in a later column has a report. -/
theorem report_overBothLines :
    overBothLines.IsOrdered ∧ overBothLines.start.line < overBothLines.stop.line ∧
      ∃ report, (ofText steppedText).report? overBothLines "open" = some report ∧
        reportInSteps steppedText overBothLines "open" = .ok report := by
  have hordered : overBothLines.IsOrdered := by decide
  have hnot : ¬overBothLines.FallsBack := by decide
  obtain ⟨hsteps, hreport⟩ := report_iff_not_fallsBack hordered steppedText "open"
  obtain ⟨report, hsome⟩ := hreport.mpr fun h => hnot h.1
  exact ⟨hordered, by decide, report, hsome, by rw [hsteps, hsome, Option.elim_some]⟩

/-- Both ends of a span are positions of the text, in their order, and there is no report: the
columns have no difference. -/
theorem downTheStep_not_reported :
    (ofText steppedText).positionAt? 2 = some downTheStep.start ∧
      (ofText steppedText).positionAt? 6 = some downTheStep.stop ∧ downTheStep.IsOrdered ∧
      (ofText steppedText).report? downTheStep "open" = none ∧
      reportInSteps steppedText downTheStep "open" = .error .columns := by
  refine ⟨?_, ?_, ?_, ?_, ?_⟩
  all_goals decide +kernel

end SourceMap
end LineLexer
