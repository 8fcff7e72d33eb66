import LineLexer.Proofs.Batch.Problems
import LineLexer.Proofs.Tokenize.Checked
import LineLexer.Proofs.Tokenize.Places

/-!
# Files that are accepted

The checks of a file bound its bytes and its lines (`size_of_readFile`, `lineCount_of_readFile`). No
line has more bytes than its text, nor more characters than bytes, so these bounds are far enough
below those of the numbers of a position: the lines of an accepted file bear their own numbers, and
they are scanned without a step out of bounds (`loadText_numbersFit`).
-/

namespace LineLexer

/-! ## Lines of a text -/

namespace Text

theorem byteLength_lt_linesLength {lines : List (List Char)} {line : List Char}
    (h : line ∈ lines) : byteLength line < linesLength lines := by
  induction lines with
  | nil => exact absurd h List.not_mem_nil
  | cons first rest ih =>
    rw [linesLength_cons]
    rcases List.mem_cons.mp h with rfl | h
    · exact Nat.le_add_right _ _
    · exact Nat.lt_of_lt_of_le (ih h) (Nat.le_add_left _ _)

theorem byteLength_le_of_mem_splitLines {text line : List Char} (h : line ∈ splitLines text) :
    byteLength line ≤ byteLength text := by
  have hlt := byteLength_lt_linesLength h
  rw [linesLength_splitLines] at hlt
  exact Nat.le_of_lt_succ hlt

end Text

theorem utf8ByteSize_le_of_mem_documentLines {source line : String}
    (h : line ∈ documentLines source) : line.utf8ByteSize ≤ source.utf8ByteSize := by
  obtain ⟨split, hsplit, rfl⟩ := List.mem_map.mp h
  rw [← Text.byteLength_toList, ← Text.byteLength_toList, String.toList_ofList]
  exact Nat.le_trans (Text.byteLength_dropReturn_le split)
    (Text.byteLength_le_of_mem_splitLines hsplit)

/-- The document of a text has a line more than are counted in the text if the text is empty or a
line feed is at its end. -/
theorem length_documentLines (source : String) :
    (documentLines source).length = Text.lineCount source.toList
      + if source = "" ∨ source.toList.getLast? = some '\n' then 1 else 0 := by
  have hempty : source.toList.isEmpty = decide (source = "") := by
    rw [Bool.eq_iff_iff, List.isEmpty_iff, decide_eq_true_iff, String.toList_eq_nil_iff]
  rw [documentLines, List.length_map, Text.length_splitLines, Text.lineCount, hempty]
  simp only [Bool.or_eq_true, decide_eq_true_iff]
  split
  · rfl
  · rfl

/-! ## Files -/

namespace Files

variable {files : FileSystem} {path : Path} {text : FileText}

/-- The lines of a file that was read are counted, and they are not too many. -/
theorem lineCount_of_readFile (h : readFile files path = .ok text) :
    text.metadata.lineCount = Text.lineCount text.source.toList ∧
      text.metadata.lineCount ≤ Limits.linesPerFile := by
  obtain ⟨place, -, h⟩ := bind_eq_ok.mp h
  obtain ⟨metadata, -, h⟩ := bind_eq_ok.mp h
  obtain ⟨⟨⟩, -, h⟩ := bind_eq_ok.mp h
  obtain ⟨source, -, h⟩ := bind_eq_ok.mp h
  obtain ⟨⟨⟩, hlines, h⟩ := bind_eq_ok.mp h
  cases h
  rw [Checked.answer_eq_ok, checkLines] at hlines
  split at hlines
  · cases hlines
  · rename_i hle
    exact ⟨rfl, Nat.le_of_not_lt hle⟩

end Files

/-! ## Numbers of lines and positions -/

/-- The numbers that come up when the lines of a text are scanned are within their bounds. -/
structure NumbersFit (grammar : Grammar) (source : String) : Prop where
  /-- Each line bears its own number. -/
  number : ∀ index < (documentLines source).length,
    lineNumber index = index + 1 ∧ index + 1 < Limits.numberSize
  /-- No two lines bear the same one. -/
  distinct : ∀ index < (documentLines source).length, ∀ other < (documentLines source).length,
    lineNumber index = lineNumber other → index = other
  /-- No step of a line's scan leads out of bounds, from any stack. -/
  scan : ∀ index line, (documentLines source)[index]? = some line → ∀ frames,
    grammar.scan? (some Limits.stackDepth) frames line (lineNumber index)
      = some (grammar.scanLine frames index line).scan

theorem numbersFit_of_size {grammar : Grammar} {source : String}
    (hsize : source.utf8ByteSize + 1 < Limits.numberSize)
    (hcount : (documentLines source).length < Limits.numberSize) : NumbersFit grammar source := by
  have hnumber : ∀ index < (documentLines source).length, lineNumber index = index + 1 :=
    fun index hindex => Grammar.lineNumber_eq (by omega)
  refine { number := fun index hindex => ⟨hnumber index hindex, by omega⟩, distinct := ?distinct,
           scan := ?scan }
  case distinct =>
    intro index hindex other hother hsame
    rw [hnumber index hindex, hnumber other hother] at hsame
    exact Nat.succ.inj hsame
  case scan =>
    intro index line hline frames
    have hindex := (List.getElem?_eq_some_iff.mp hline).1
    have hbytes := utf8ByteSize_le_of_mem_documentLines (List.mem_of_getElem? hline)
    have hchars := Text.length_le_byteLength line.toList
    have hwords : Limits.numberSize ≤ Limits.wordSize := by decide
    have hfits : ((Position.lineStart (lineNumber index)).advanceOver line.toList).Fits := by
      rw [Position.advanceOver_eq, hnumber index hindex]
      rw [Text.byteLength_toList] at hchars ⊢
      refine ⟨?_, ?_, ?_⟩
      all_goals
        dsimp only [Position.lineStart]
        omega
    exact Grammar.scan?_eq hfits

namespace Files

/-- Of a file that is accepted, whatever the grammar, no number of a line or a position is out of
bounds. Its document has the lines that are counted in the file, and one more just if the file is
empty or ends in a line feed, and the tokens of each line bear the number of the line. -/
theorem loadText_numbersFit {files : FileSystem} {preferences : FilePreferences} {path : Path}
    {journal : Diagnostics.Journal} {text : FileText}
    (hload : ((loadText files preferences path).run journal).1 = .ok text) (grammar : Grammar) :
    NumbersFit grammar text.source ∧
    ∀ collect buffer, Buffer.ofText grammar collect text.source = .ok buffer →
      (buffer.lineCount = text.metadata.lineCount
        + if text.source = "" ∨ text.source.toList.getLast? = some '\n' then 1 else 0) ∧
      ∀ index line, buffer.lines[index]? = some line → ∀ token ∈ line.tokens,
        token.span.start.line = index + 1 ∧ token.span.stop.line = index + 1 := by
  have hread : readFile files path = .ok text :=
    (answers_loadText files preferences path journal).symm.trans hload
  have hsize := size_of_readFile hread
  obtain ⟨hcounted, hcount⟩ := lineCount_of_readFile hread
  have hlength := length_documentLines text.source
  rw [← hcounted] at hlength
  -- a document may have one line more than its file counts, and there is room for it
  have hfit : NumbersFit grammar text.source := by
    refine numbersFit_of_size ?_ ?_
    · rw [Limits.fileSize] at hsize
      rw [Limits.numberSize]
      omega
    · rw [Limits.linesPerFile] at hcount
      rw [Limits.numberSize]
      split at hlength <;> omega
  refine ⟨hfit, fun collect buffer hbuffer => ?_⟩
  have htexts := Buffer.texts_of_ofText hbuffer
  have hlines : buffer.lineCount = (documentLines text.source).length := by
    rw [← htexts, Buffer.length_texts]
  refine ⟨hlines.trans hlength, fun index line hline token htoken => ?_⟩
  have hindex : index < (documentLines text.source).length := by
    rw [← hlines]
    exact (List.getElem?_eq_some_iff.mp hline).1
  have htiles := (Buffer.fresh_of_ofLines hbuffer).2.tiles hline
  rw [Nat.zero_add, (hfit.number index hindex).1] at htiles
  obtain ⟨before, piece, after, -, -, hspan⟩ := htiles.mem token htoken
  rw [hspan, Span.covering, Position.advanceOver_eq, Position.advanceOver_eq]
  exact ⟨rfl, rfl⟩

/-- A folder with one file. A line feed is at its end. -/
def wordFiles : FileSystem := 
  ⟨.folder [("word", .file (.plain "<ab\n>\n".toUTF8))] .full, [], .common⟩

def wordText : FileText := ⟨"<ab\n>\n", ⟨⟨"/word"⟩, 6, none, 2⟩⟩

theorem loadText_wordFiles :
    ((loadText wordFiles ⟨false, false⟩ ⟨"word"⟩).run (.ofVariables [])).1 = .ok wordText := by
  decide +kernel

/-- Two lines are counted in the file, and its document has an empty one behind them. -/
theorem wordFiles_numbersFit :
    ((loadText wordFiles ⟨false, false⟩ ⟨"word"⟩).run (.ofVariables [])).1 = .ok wordText ∧
      NumbersFit sampleGrammar wordText.source ∧
      ∃ buffer, Buffer.ofText sampleGrammar true wordText.source = .ok buffer ∧
        buffer.lineCount = 3 := by
  obtain ⟨hfit, hdocument⟩ := loadText_numbersFit loadText_wordFiles sampleGrammar
  have hok : (Buffer.ofText sampleGrammar true wordText.source).isOk = true := by decide +kernel
  obtain ⟨buffer, hbuffer⟩ := exists_of_isOk hok
  have hcount := (hdocument true buffer hbuffer).1
  rw [if_pos (by decide)] at hcount
  exact ⟨loadText_wordFiles, hfit, buffer, hbuffer, hcount⟩

end Files
end LineLexer
