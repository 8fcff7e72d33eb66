import LineLexer.Proofs.Tokenize.Reload
import LineLexer.Proofs.Tokenize.Touched

/-!
# Setting a line to its own text

A text is read as lines that hold no line feed, but they may hold carriage returns, and an edit
takes no line with one. So a line can be set to its own text, with nothing changed, just if it has
no carriage return (`edit_ownText_iff`). The edited texts are then those of the buffer, so the scan
finds the lines that have been there, and the line settles at once (`Reachable.edit_update_same`).
-/

namespace LineLexer

/-! ## Carriage returns -/

theorem return_mem_iff {text : String} :
    '\r' ∈ text.toList ↔ '\r' ∈ Text.dropReturn text.toList ∨ EndsInReturn text := by
  constructor
  · intro hmem
    by_cases hlast : EndsInReturn text
    · exact .inr hlast
    · rw [Text.dropReturn_eq_self_iff.mpr hlast]
      exact .inl hmem
  · rintro (hmem | hlast)
    · exact Text.mem_of_mem_dropReturn hmem
    · exact List.mem_of_getLast? hlast

/-- A text without a line feed is one line if no carriage return stands in front of its end. -/
theorem isOneLine_iff {text : String} (hfeed : '\n' ∉ text.toList) :
    IsOneLine text ↔ '\r' ∉ Text.dropReturn text.toList := by
  constructor
  · exact fun hline hmem => (hline _ hmem).2 rfl
  · intro hreturn c hc
    refine ⟨fun heq => hfeed ?_, fun heq => hreturn (heq ▸ hc)⟩
    exact heq ▸ Text.mem_of_mem_dropReturn hc

theorem isOneLine_lineText {text : String} (h : IsOneLine text) : IsOneLine (lineText text) := by
  intro c hc
  have hmem := Text.mem_of_mem_dropReturn hc
  rw [lineText, String.toList_ofList] at hmem
  exact h c hmem

namespace Buffer

variable {grammar : Grammar} {buffer : Buffer} {index : Nat} {text : String} {line : BufferLine}

/-! ## Setting a line to a text -/

/-- A text that is not one line is refused. -/
theorem edit_update_embedded (hindex : index < buffer.lines.length) (htext : ¬IsOneLine text) :
    buffer.edit (.update index text) = (.error (.lineBreakEmbedded index), buffer) := by
  rw [edit, draft, checkIndex_eq_ok buffer hindex, singleLine_eq_error htext]
  rfl

/-- A carriage return at the end of a line makes no difference. -/
theorem edit_update_lineText (hindex : index < buffer.lines.length) (htext : IsOneLine text) :
    buffer.edit (.update index (lineText text)) = buffer.edit (.update index text) := by
  have hagain := lineText_eq_self_iff.mpr (not_endsInReturn_lineText htext)
  rw [edit, edit, draft_update_eq hindex htext,
    draft_update_eq hindex (isOneLine_lineText htext), hagain]

/-! ## The line's own text -/

/-- If the line of the edit settles, no other line is scanned again. -/
theorem Reachable.range_of_settles (hgrammar : grammar.WellFormed)
    (hreach : Reachable grammar buffer) {change : Edit} {range : LineRange}
    (hrange : (buffer.edit change).1 = .ok range)
    (hsettles : change.Settles buffer (buffer.edit change).2 change.index) :
    range = ⟨change.index, change.index + 1⟩ := by
  obtain ⟨draft, new, kept, hwritten, rfl⟩ := exists_written hrange
  have hstart : draft.start = change.index := hwritten.moves.start
  rcases hwritten.stop hgrammar hreach (hreach.edit change) with
    ⟨last, hstop, hle, -, hfirst⟩ | ⟨-, hnone⟩
  · have hlast : last = change.index := by
      by_contra hne
      exact hfirst change.index (Nat.le_of_eq hstart) (by omega) hsettles
    rw [hstop, hstart, hlast]
  · exact absurd hsettles (hnone change.index (Nat.le_of_eq hstart))

/-- If the edit puts the text that the line has, the line is scanned once more and settles, and
nothing but the count of such lines changes. -/
theorem Reachable.edit_update_same (hgrammar : grammar.WellFormed)
    (hreach : Reachable grammar buffer) (hline : buffer.lines[index]? = some line)
    (htext : IsOneLine text) (hsame : lineText text = line.text) :
    buffer.edit (.update index text) = (.ok ⟨index, index + 1⟩,
      { buffer with metrics := buffer.metrics.map (·.addRescanned 1) }) := by
  have hindex : index < buffer.lines.length := (List.getElem?_eq_some_iff.mp hline).1
  obtain ⟨rfl, hfresh⟩ := hreach.fresh
  have htexts : (Edit.update index text).applyTo buffer.texts = buffer.texts := by
    have hown : buffer.texts[index]? = some line.text := by
      rw [texts, List.getElem?_map, hline]
      rfl
    obtain ⟨hlt, hget⟩ := List.getElem?_eq_some_iff.mp hown
    rw [Edit.applyTo, hsame, ← hget, List.set_getElem_self]
  have hscan : buffer.grammar.freshLines 0 [] ((Edit.update index text).applyTo buffer.texts)
      = .ok buffer.lines := by
    rw [htexts]
    exact hfresh
  have hadmissible : (Edit.update index text).Admissible buffer.lineCount := ⟨hindex, htext⟩
  obtain ⟨range, metrics, hedit⟩ := hfresh.edit_of_ok hadmissible hscan
  -- the line is there before and after the edit, so it settles
  have hsettles : (Edit.update index text).Settles buffer
      (buffer.edit (.update index text)).2 index := by
    rw [hedit]
    exact ⟨line, line, hline, hline, rfl⟩
  have hrange : range = ⟨index, index + 1⟩ :=
    hreach.range_of_settles hgrammar (congrArg Prod.fst hedit) hsettles
  have htotal : LineRange.total [⟨index, index + 1⟩] = 1 := Nat.add_sub_cancel_left index 1
  have hmetrics := metrics_edit buffer (.update index text)
  rw [hedit, hrange] at hmetrics ⊢
  dsimp only [Except.toOption, Option.toList] at hmetrics
  rw [hmetrics, htotal]

/-- The edit puts no carriage return at the end of a line, so a line that it leaves as it was has
had none. -/
theorem Fresh.not_endsInReturn (hfresh : buffer.Fresh) (hline : buffer.lines[index]? = some line)
    {range : LineRange} (hrange : (buffer.edit (.update index line.text)).1 = .ok range)
    (hlines : (buffer.edit (.update index line.text)).2.lines = buffer.lines) :
    ¬EndsInReturn line.text := by
  have hindex : index < buffer.texts.length := by
    rw [length_texts]
    exact (List.getElem?_eq_some_iff.mp hline).1
  have htexts := hfresh.texts_of_edit hrange
  rw [texts, hlines, Edit.applyTo] at htexts
  have hown : (buffer.lines.map (·.text))[index]? = some (lineText line.text) := by
    rw [htexts, List.getElem?_set_self hindex]
  rw [List.getElem?_map, hline] at hown
  exact lineText_eq_self_iff.mp (Option.some.inj hown).symm

variable {document : GrammarDocument} {fallbackName source : String} {collect : Bool}

/-- A line of a document that was read from a text can be set to its own text, with no line changed,
just if it holds no carriage return. With one in front of its end the text is refused. With one at
its end only, the edit is that to the text without it. -/
theorem edit_ownText_iff (hcompile : Grammar.compile document fallbackName = .ok grammar)
    (hload : ofText grammar collect source = .ok buffer)
    (hline : buffer.lines[index]? = some line) :
    let edited := buffer.edit (.update index line.text)
    (edited.1 = .ok ⟨index, index + 1⟩ ∧ edited.2.lines = buffer.lines ↔
        '\r' ∉ line.text.toList) ∧
      ('\r' ∈ Text.dropReturn line.text.toList →
        edited = (.error (.lineBreakEmbedded index), buffer)) ∧
      ('\r' ∉ Text.dropReturn line.text.toList →
        edited = buffer.edit (.update index (lineText line.text))) := by
  intro edited
  have hreach : Reachable grammar buffer := .ofText hload
  have hindex : index < buffer.lines.length := (List.getElem?_eq_some_iff.mp hline).1
  have hone : IsOneLine line.text ↔ '\r' ∉ Text.dropReturn line.text.toList := by
    have htext := getElem?_documentLines hload hline
    exact isOneLine_iff (newline_not_mem_of_mem_documentLines (List.mem_of_getElem? htext))
  have hrefused : '\r' ∈ Text.dropReturn line.text.toList →
      edited = (.error (.lineBreakEmbedded index), buffer) := fun hmem =>
    edit_update_embedded hindex fun htext => hone.mp htext hmem
  refine ⟨⟨fun hsame hmem => ?_, fun hmem => ?_⟩, hrefused, fun hmem => ?_⟩
  · rcases return_mem_iff.mp hmem with hinner | hlast
    · have hfault := congrArg Prod.fst (hrefused hinner)
      cases hfault.symm.trans hsame.1
    · exact hreach.fresh.2.not_endsInReturn hline hsame.1 hsame.2 hlast
  · have htext := hone.mpr fun hinner => hmem (Text.mem_of_mem_dropReturn hinner)
    have hown := lineText_eq_self_iff.mpr (not_endsInReturn_of_not_mem hmem)
    have hgrammar := Grammar.wellFormed_of_compile hcompile
    have hedit := hreach.edit_update_same hgrammar hline htext hown
    exact ⟨congrArg Prod.fst hedit, congrArg (·.2.lines) hedit⟩
  · exact (edit_update_lineText hindex (hone.mpr hmem)).symm

/-- Of the lines of a text the first one can be set to its own text and the second one, which ends
in a carriage return, cannot. -/
theorem ownText_returnsText :
    ∃ buffer first second, ofText sampleGrammar false returnsText = .ok buffer ∧
      buffer.lines[0]? = some first ∧ buffer.lines[1]? = some second ∧
      (buffer.edit (.update 0 first.text)).1 = .ok ⟨0, 1⟩ ∧
      (buffer.edit (.update 0 first.text)).2.lines = buffer.lines ∧
      ¬((buffer.edit (.update 1 second.text)).1 = .ok ⟨1, 2⟩ ∧
        (buffer.edit (.update 1 second.text)).2.lines = buffer.lines) := by
  obtain ⟨buffer, hload⟩ := exists_of_isOk isOk_returnsText
  obtain ⟨first, hfirst, htext⟩ :=
    exists_bufferLine hload (by decide : (documentLines returnsText)[0]? = some "<")
  obtain ⟨second, hsecond, htext'⟩ :=
    exists_bufferLine hload (by decide : (documentLines returnsText)[1]? = some ">\r")
  have hreturn : '\r' ∉ first.text.toList := by
    rw [htext]
    decide
  have hreturn' : '\r' ∈ second.text.toList := by
    rw [htext']
    decide
  have hsame := (edit_ownText_iff compile_sampleDocument hload hfirst).1.mpr hreturn
  have hother := (edit_ownText_iff compile_sampleDocument hload hsecond).1
  exact ⟨buffer, first, second, hload, hfirst, hsecond, hsame.1, hsame.2,
    fun hkept => hother.mp hkept hreturn'⟩

/-- Not every line of a document can be set to its own text: a carriage return may be left within
one. -/
theorem not_forall_ownText :
    ¬∀ (document : GrammarDocument) (fallbackName : String) (grammar : Grammar) (collect : Bool)
      (source : String) (buffer : Buffer) (index : Nat) (line : BufferLine),
      Grammar.compile document fallbackName = .ok grammar →
      ofText grammar collect source = .ok buffer → buffer.lines[index]? = some line →
      (buffer.edit (.update index line.text)).1 = .ok ⟨index, index + 1⟩ ∧
        (buffer.edit (.update index line.text)).2.lines = buffer.lines := by
  intro hall
  obtain ⟨buffer, hload⟩ : ∃ buffer, ofText sampleGrammar false "a\rb" = .ok buffer :=
    exists_of_isOk (by decide +kernel)
  obtain ⟨line, hline, htext⟩ :=
    exists_bufferLine hload (by decide : (documentLines "a\rb")[0]? = some "a\rb")
  have hembedded : ¬IsOneLine line.text := by
    rw [htext]
    decide
  have hindex := (List.getElem?_eq_some_iff.mp hline).1
  have hsame := hall sampleDocument "grammar" sampleGrammar false "a\rb" buffer 0 line
    compile_sampleDocument hload hline
  rw [edit_update_embedded hindex hembedded] at hsame
  cases hsame.1

end Buffer
end LineLexer
