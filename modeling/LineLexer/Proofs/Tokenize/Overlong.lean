import LineLexer.Proofs.Diagnostics.Steps
import LineLexer.Proofs.Position.SourceMap
import LineLexer.Proofs.Tokenize.Fresh
import LineLexer.Tokenize.Tell

/-!
# Lines that are too long

The problems that are told when a text is tokenized are the lines that are too long
(`problems_ofTextLogged`): all else that is told of lines and buffers is for debugging. Such a line has
more bytes than the limit, and the lines of a text have no more bytes together than the text, so a
text has few of them (`length_overlongEvents_le`).
-/

namespace LineLexer

open Diagnostics

/-! ## Which lines are too long -/

namespace Grammar

variable (grammar : Grammar)

theorem overlong_scanFrom (limit : Option Nat) (fuel : Nat) (frames : Frames) (position : Position)
    (rest : List Char) : (grammar.scanFrom limit fuel frames position rest).overlong = false := by
  fun_induction scanFrom grammar limit fuel frames position rest <;> first | rfl | assumption

theorem overlong_scan (limit : Option Nat) (frames : Frames) (line : String) (number : Nat) :
    (grammar.scan limit frames line number).overlong
      = decide (Limits.lineLength < line.utf8ByteSize) := by
  rw [scan]
  split
  · rename_i h
    exact (decide_eq_true h).symm
  · rename_i h
    rw [overlong_scanFrom, decide_eq_false h]

/-- Lines behind a fault are not scanned, and the others are as long as they are. -/
theorem countP_overlong_le (frames : Frames) (index : Nat) (texts : List String) :
    (grammar.scanLinesFrom [] frames index texts).countP (·.scan.overlong)
      ≤ texts.countP fun text => Limits.lineLength < text.utf8ByteSize := by
  induction texts generalizing frames index with
  | nil => exact Nat.le_refl 0
  | cons text rest ih =>
    have hlong : (grammar.scanLine frames index text).scan.overlong
        = decide (Limits.lineLength < text.utf8ByteSize) := grammar.overlong_scan ..
    rw [scanLinesFrom, List.countP_cons]
    split
    · simp [hlong]
    · rw [scanLinesFrom_append, List.reverse_singleton, List.singleton_append, List.countP_cons,
        hlong]
      exact Nat.add_le_add_right (ih _ _) _

end Grammar

namespace Text

theorem byteLength_dropReturn_le (line : List Char) : byteLength (dropReturn line) ≤ byteLength line := by
  rw [dropReturn]
  split
  · rename_i h
    have hline := List.dropLast_append_getLast? '\r' h
    conv_rhs => rw [← hline]
    simp
  · exact Nat.le_refl _

/-- Each line that is too long takes its part of the bytes. -/
theorem countP_overlong_le_linesLength (lines : List (List Char)) :
    (lines.countP fun line => Limits.lineLength < byteLength line) * (Limits.lineLength + 1)
      ≤ linesLength lines := by
  induction lines with
  | nil => simp
  | cons line lines ih =>
    rw [List.countP_cons, linesLength_cons]
    by_cases h : Limits.lineLength < byteLength line
    · simp only [h, decide_true, if_true, Nat.add_mul, Nat.one_mul]
      omega
    · simp only [h, decide_false, Bool.false_eq_true, if_false, Nat.add_zero]
      omega

end Text

/-- Lines of a document that are too long. -/
theorem countP_overlong_documentLines_le (source : String) :
    ((documentLines source).countP fun text => Limits.lineLength < text.utf8ByteSize)
        * (Limits.lineLength + 1)
      ≤ source.utf8ByteSize + 1 := by
  have hle : ((documentLines source).countP fun text => Limits.lineLength < text.utf8ByteSize)
      ≤ (Text.splitLines source.toList).countP fun line =>
          Limits.lineLength < Text.byteLength line := by
    rw [documentLines, List.countP_map]
    refine List.countP_mono_left fun line _ h => ?_
    have hdrop := Text.byteLength_dropReturn_le line
    simp only [Function.comp_apply, decide_eq_true_eq, ← Text.byteLength_toList,
      String.toList_ofList] at h ⊢
    omega
  refine Nat.le_trans (Nat.mul_le_mul_right _ hle) ?_
  rw [← Text.byteLength_toList, ← Text.linesLength_splitLines]
  exact Text.countP_overlong_le_linesLength _

/-! ## What is told -/

/-- What is told of the lines that are too long; the first line has the index `start`. -/
def overlongEvents (start : Nat) (lines : List ScannedLine) : List Event :=
  lines.zipIdx.flatMap fun entry =>
    if entry.1.scan.overlong then [overlongEvent entry.1.text (lineNumber (start + entry.2))] else []

theorem length_overlongEvents (start : Nat) (lines : List ScannedLine) :
    (overlongEvents start lines).length = lines.countP (·.scan.overlong) := by
  have h (first : Nat) : ((lines.zipIdx first).flatMap fun entry => if entry.1.scan.overlong then
      [overlongEvent entry.1.text (lineNumber (start + entry.2))] else []).length
        = lines.countP (·.scan.overlong) := by
    induction lines generalizing first with
    | nil => rfl
    | cons line rest ih =>
      rw [List.zipIdx_cons, List.flatMap_cons, List.length_append, ih, List.countP_cons,
        Nat.add_comm]
      split <;> rfl
  exact h 0

/-- A text has few lines that are too long. -/
theorem length_overlongEvents_le (grammar : Grammar) (source : String) :
    (overlongEvents 0 (grammar.scanLines (documentLines source))).length * (Limits.lineLength + 1)
      ≤ source.utf8ByteSize + 1 := by
  rw [length_overlongEvents, Grammar.scanLines]
  exact Nat.le_trans (Nat.mul_le_mul_right _ (grammar.countP_overlong_le [] 0 _))
    (countP_overlong_documentLines_le source)

/-- They are warnings. -/
theorem isError_overlongEvents {start : Nat} {lines : List ScannedLine} {event : Event}
    (h : event ∈ overlongEvents start lines) : event.isError = false := by
  obtain ⟨entry, -, hevent⟩ := List.mem_flatMap.mp h
  split at hevent
  · rw [List.mem_singleton.mp hevent]
    rfl
  · cases hevent

theorem isProblem_events {scan : Scan} {grammar : Grammar} {preferences : TokenizerPreferences}
    {event : Event} (h : event ∈ scan.events grammar preferences) : event.isProblem = false := by
  rw [Scan.events, List.mem_append] at h
  obtain h | h := h
  · split at h
    · obtain ⟨char, -, rfl⟩ := List.mem_map.mp h
      rfl
    · cases h
  · obtain ⟨state, -, rfl⟩ := List.mem_map.mp h
    rfl

section

variable {choice : TokenizerPreferences}

theorem problems_tell (scan : Scan) (grammar : Grammar) (line : String) (number : Nat) :
    (scan.tell grammar line number).problems choice
      = if scan.overlong then [overlongEvent line number] else [] := by
  rw [Scan.tell]
  split
  · rfl
  · rw [Steps.problems_bind, Steps.problems_preferences, List.nil_append]
    exact Steps.problems_noteAll_of_not fun event => isProblem_events

theorem problems_tellLines (grammar : Grammar) (start : Nat) (lines : List ScannedLine) :
    (tellLines grammar start lines).problems choice = overlongEvents start lines :=
  Steps.problems_forM fun entry =>
    problems_tell entry.1.scan grammar entry.1.text (lineNumber (start + entry.2))

/-- The problems of a text are its lines that are too long, up to the line with a fault. -/
theorem problems_ofTextLogged (grammar : Grammar) (source : String) :
    (Buffer.ofTextLogged grammar source).problems choice
      = overlongEvents 0 (grammar.scanLines (documentLines source)) := by
  rw [Buffer.ofTextLogged, Buffer.ofLinesLogged, Steps.problems_bind, Steps.problems_preferences,
    List.nil_append, Steps.problems_bind, problems_tellLines]
  refine List.append_right_eq_self.mpr ?_
  cases Buffer.ofScans grammar (Steps.preferences.answer choice).collectMetrics
      (grammar.scanLines (documentLines source)) with
  | error fault => rfl
  | ok buffer =>
    dsimp only
    rw [Steps.problems_bind, Steps.problems_pure, List.append_nil]
    refine Steps.problems_noteAll_of_not fun event h => ?_
    obtain ⟨metrics, -, rfl⟩ := List.mem_map.mp h
    rfl

end

end LineLexer
