import LineLexer.Proofs.Position.SourceMap
import LineLexer.Proofs.Tokenize.Agreement
import LineLexer.Proofs.Tokenize.Reload

/-!
# Places of tokens in the text of a document

The scan counts offsets and columns along a line, while a source map counts them from the line that
it has found for an offset of the whole text. Both come to the same place: the ends of a token are
the ends of a piece of its line (`Grammar.Fresh.tiles`), and the line stands in the text in front of
what ends it (`exists_line_of_documentLines`).
-/

namespace LineLexer

namespace Grammar

variable {grammar : Grammar}

/-- The tokens of each fresh line are tiles on its text, and bear its number. -/
theorem Fresh.tiles {place : Nat} {frames : Frames} {lines : List BufferLine}
    (h : grammar.Fresh place frames lines) {index : Nat} {line : BufferLine}
    (hline : lines[index]? = some line) :
    Tiles (.lineStart (lineNumber (place + index))) line.tokens line.text.toList := by
  induction lines generalizing place frames index with
  | nil => cases hline
  | cons first rest ih =>
    obtain ⟨hroom, hfirst, hrest⟩ := fresh_cons_iff.mp h
    cases index with
    | zero =>
      cases hline
      have htiles := tiles_scan hroom
      rw [← hfirst]
      exact htiles
    | succ index =>
      have htiles := ih hrest hline
      rwa [Nat.add_assoc, Nat.add_comm 1] at htiles

end Grammar

/-- A line of a document is a line of its text up to the carriage return at its end, if it has
one. -/
theorem exists_line_of_documentLines {source text : String} {index : Nat}
    (h : (documentLines source)[index]? = some text) :
    ∃ ending, (Text.splitLines source.toList)[index]? = some (text.toList ++ ending) := by
  rw [documentLines, List.getElem?_map, Option.map_eq_some_iff] at h
  obtain ⟨line, hline, rfl⟩ := h
  rw [hline, String.toList_ofList, Text.dropReturn]
  split
  · rename_i hlast
    exact ⟨['\r'], congrArg some (List.dropLast_append_getLast? '\r' hlast).symm⟩
  · exact ⟨[], by rw [List.append_nil]⟩

namespace Buffer

variable {grammar : Grammar} {collect : Bool} {source : String} {buffer : Buffer}

/-- The start and the end of every token are where the source map of the text finds them, behind
the start of the token's line, and the text between them is the token's text. -/
theorem tokens_placed (hload : ofText grammar collect source = .ok buffer)
    (hcount : (Text.splitLines source.toList).length < Limits.numberSize) {index : Nat}
    {line : BufferLine} (hline : buffer.lines[index]? = some line) {token : Token}
    (htoken : token ∈ line.tokens) :
    let start := Text.lineOffset source.toList index
    (SourceMap.ofText source).positionAt? (start + token.span.start.offset)
        = some token.span.start ∧
      (SourceMap.ofText source).positionAt? (start + token.span.stop.offset)
        = some token.span.stop ∧
      ∃ covered, Text.sliceBytes (start + token.span.start.offset)
          (start + token.span.stop.offset) source.toList = some covered ∧
        token.text? line.text = some (String.ofList covered) := by
  have htext : (documentLines source)[index]? = some line.text := by
    rw [← texts_of_ofText hload, texts, List.getElem?_map, hline]
    rfl
  obtain ⟨ending, hfull⟩ := exists_line_of_documentLines htext
  have hnumber : lineNumber index = index + 1 := by
    have hlt := (List.getElem?_eq_some_iff.mp hfull).1
    exact Grammar.lineNumber_eq (by omega)
  have htiles := (fresh_of_ofLines hload).2.tiles hline
  rw [Nat.zero_add, hnumber] at htiles
  obtain ⟨before, piece, after, hpieces, -, hspan⟩ := htiles.mem token htoken
  have hcovered : token.text? line.text = some (String.ofList piece) := by
    have hshown : token.text? (String.ofList (before ++ (piece ++ after))) = _ :=
      Tiles.text?_covering hspan
    rwa [← hpieces, String.ofList_toList] at hshown
  -- the piece has places on its line and bytes in the whole text
  obtain ⟨front, back, hsource, hfront⟩ := Text.exists_around_line hfull
  rw [hpieces] at hfull hsource
  have hbefore : (Text.splitLines source.toList)[index]?
      = some (before ++ (piece ++ (after ++ ending))) := by
    simpa only [List.append_assoc] using hfull
  have hbehind : (Text.splitLines source.toList)[index]?
      = some ((before ++ piece) ++ (after ++ ending)) := by
    simpa only [List.append_assoc] using hfull
  have hstart := SourceMap.positionAt?_of_line hbefore
  have hstop := SourceMap.positionAt?_of_line hbehind
  have hslice := Text.sliceBytes_append (front ++ before) piece (after ++ (ending ++ back))
  rw [Text.byteLength_append, hfront] at hslice
  rw [Text.byteLength_append, List.length_append] at hstop
  dsimp only
  rw [hspan, Span.covering, Position.advanceOver_eq, Position.advanceOver_eq]
  simp only [Position.lineStart, Nat.zero_add, Nat.add_comm 1]
  refine ⟨hstart, ?_, piece, ?_, hcovered⟩
  · rw [hstop]
    simp only [Nat.add_right_comm]
  · rw [← Nat.add_assoc]
    nth_rewrite 3 [hsource]
    simpa only [List.append_assoc] using hslice

/-- A text of two lines. The first one has a character of two bytes and ends in a carriage
return. -/
def placesText : String := "!(é<ab\r\nab>é"

/-- The token at its end, which no rule has taken. -/
def placesToken : Token := ⟨⟨⟨3, 2, 4⟩, ⟨5, 2, 5⟩⟩, "unmatched", none⟩

theorem tokens_placesText :
    (ofText sampleGrammar false placesText).map (fun buffer =>
      buffer.lines[1]?.map fun line => decide (placesToken ∈ line.tokens)) = .ok (some true) := by
  decide +kernel

/-- The second line starts behind nine bytes, and there the source map finds the token. -/
theorem placesToken_placed :
    ∃ buffer line, ofText sampleGrammar false placesText = .ok buffer ∧
      (Text.splitLines placesText.toList).length < Limits.numberSize ∧
      buffer.lines[1]? = some line ∧ placesToken ∈ line.tokens ∧
      (SourceMap.ofText placesText).positionAt? (9 + 3) = some ⟨3, 2, 4⟩ ∧
      (SourceMap.ofText placesText).positionAt? (9 + 5) = some ⟨5, 2, 5⟩ := by
  have hcount : (Text.splitLines placesText.toList).length < Limits.numberSize := by decide
  have hoffset : Text.lineOffset placesText.toList 1 = 9 := by decide
  obtain ⟨buffer, hload, hfound⟩ := map_eq_ok.mp tokens_placesText
  obtain ⟨line, hline, hmem⟩ := Option.map_eq_some_iff.mp hfound
  have hmem := of_decide_eq_true hmem
  obtain ⟨hstart, hstop, -⟩ := tokens_placed hload hcount hline hmem
  rw [hoffset] at hstart hstop
  exact ⟨buffer, line, hload, hcount, hline, hmem, hstart, hstop⟩

end Buffer
end LineLexer
