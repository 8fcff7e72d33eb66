import LineLexer.Proofs.Tokenize.Edits

/-!
# Reloading the text of a document

The text of a buffer is its lines with line feeds between them. Read as a new document it is cut at
the same places, since no line holds a line feed (`forall_mem_texts_run`), but from each line one
carriage return at its end is dropped. So it gives the lines of the buffer back just if none of them
ends in a carriage return (`documentLines_text_eq_iff`), and an edit never makes such a line: only
the text of the first document can have brought it in.
-/

namespace LineLexer

/-! ## Cutting and joining -/

namespace Text

theorem splitLines_eq_splitOn (text : List Char) : splitLines text = text.splitOn '\n' := by
  induction text with
  | nil => rfl
  | cons c rest ih =>
    rw [splitLines_cons, ih, List.splitOn, List.splitOn, List.splitOnP_cons_eq_if_modifyHead]
    cases hlines : rest.splitOnP (· == '\n') with
    | nil => exact absurd hlines (List.splitOnP_ne_nil _ _)
    | cons line lines => simp [addChar]

theorem newline_not_mem_of_mem_splitLines {text line : List Char} (h : line ∈ splitLines text) :
    '\n' ∉ line := by
  induction text generalizing line with
  | nil =>
    obtain rfl := List.mem_singleton.mp h
    exact List.not_mem_nil
  | cons c rest ih =>
    rw [splitLines_cons] at h
    cases hlines : splitLines rest with
    | nil => exact absurd hlines (splitLines_ne_nil rest)
    | cons first others =>
      rw [hlines] at h ih
      have hfirst : '\n' ∉ first := ih List.mem_cons_self
      rw [addChar] at h
      split at h
      · rcases List.mem_cons.mp h with rfl | h
        · exact List.not_mem_nil
        · exact ih h
      · rename_i hc
        rcases List.mem_cons.mp h with rfl | h
        · exact fun hmem => (List.mem_cons.mp hmem).elim (fun heq => hc heq.symm) hfirst
        · exact ih (List.mem_cons_of_mem _ h)

/-- Dropping a carriage return changes just the lines that end in one. -/
theorem dropReturn_eq_self_iff {line : List Char} :
    dropReturn line = line ↔ line.getLast? ≠ some '\r' := by
  rw [dropReturn]
  split
  · rename_i hlast
    refine ⟨fun heq => ?_, fun hnot => absurd hlast hnot⟩
    have hlength := congrArg List.length heq
    have hne : line ≠ [] := fun hnil => by rw [hnil] at hlast; cases hlast
    have hpos := List.length_pos_iff.mpr hne
    rw [List.length_dropLast] at hlength
    omega
  · rename_i hlast
    exact ⟨fun _ => hlast, fun _ => rfl⟩

theorem mem_of_mem_dropReturn {line : List Char} {c : Char} (h : c ∈ dropReturn line) : c ∈ line := by
  rw [dropReturn] at h
  split at h
  · exact (List.dropLast_sublist line).subset h
  · exact h

end Text

/-- The text ends in a carriage return. -/
def EndsInReturn (text : String) : Prop := text.toList.getLast? = some '\r'

instance (text : String) : Decidable (EndsInReturn text) :=
  inferInstanceAs (Decidable (text.toList.getLast? = some '\r'))

theorem lineText_eq_self_iff {text : String} : lineText text = text ↔ ¬EndsInReturn text := by
  rw [lineText, EndsInReturn, ← ne_eq, ← Text.dropReturn_eq_self_iff, ← String.toList_inj,
    String.toList_ofList]

theorem not_endsInReturn_of_not_mem {text : String} (h : '\r' ∉ text.toList) :
    ¬EndsInReturn text := fun hlast => h (List.mem_of_getLast? hlast)

/-- No edit makes a line that ends in a carriage return. -/
theorem not_endsInReturn_lineText {text : String} (h : IsOneLine text) :
    ¬EndsInReturn (lineText text) := by
  refine not_endsInReturn_of_not_mem fun hmem => ?_
  rw [lineText, String.toList_ofList] at hmem
  exact (h _ hmem).2 rfl

/-- Lines that are joined are found again, but for a carriage return at the end of each. -/
theorem documentLines_intercalate {texts : List String} (hne : texts ≠ [])
    (hfeed : ∀ text ∈ texts, '\n' ∉ text.toList) :
    documentLines ("\n".intercalate texts) = texts.map lineText := by
  have hfeed' : ∀ line ∈ texts.map String.toList, '\n' ∉ line := by
    intro line hline
    obtain ⟨text, htext, rfl⟩ := List.mem_map.mp hline
    exact hfeed text htext
  have hsplit : Text.splitLines ("\n".intercalate texts).toList = texts.map String.toList := by
    rw [String.toList_intercalate, Text.splitLines_eq_splitOn]
    exact List.splitOn_intercalate '\n' hfeed' (by simpa using hne)
  rw [documentLines, hsplit, List.map_map]
  rfl

/-! ## The lines of a document and its edits -/

theorem newline_not_mem_of_mem_documentLines {source text : String}
    (h : text ∈ documentLines source) : '\n' ∉ text.toList := by
  obtain ⟨line, hline, rfl⟩ := List.mem_map.mp h
  rw [String.toList_ofList]
  exact fun hmem => Text.newline_not_mem_of_mem_splitLines hline (Text.mem_of_mem_dropReturn hmem)

theorem Edit.forall_mem_applyTo {property : String → Prop}
    (hnew : ∀ text, IsOneLine text → property (lineText text)) {change : Edit} {texts : List String}
    (hadmissible : change.Admissible texts.length) (h : ∀ text ∈ texts, property text) :
    ∀ text ∈ change.applyTo texts, property text := by
  intro text htext
  cases change with
  | update index new =>
    rcases List.mem_or_eq_of_mem_set htext with htext | rfl
    · exact h text htext
    · exact hnew new hadmissible.2
  | insert index new =>
    rcases (List.mem_insertIdx hadmissible.1).mp htext with rfl | htext
    · exact hnew new hadmissible.2
    · exact h text htext
  | remove index => exact h text (List.mem_of_mem_eraseIdx htext)

namespace Buffer

variable {grammar : Grammar} {buffer : Buffer}

/-- What all lines have, and every line that an edit may bring in, the lines have after any
edits. -/
theorem Reachable.forall_mem_texts_run {property : String → Prop}
    (hnew : ∀ text, IsOneLine text → property (lineText text)) (hreach : Reachable grammar buffer)
    (h : ∀ text ∈ buffer.texts, property text) (edits : List Edit) :
    ∀ text ∈ (buffer.run edits).texts, property text := by
  rw [hreach.texts_run]
  generalize buffer.texts = texts at h
  induction edits generalizing texts with
  | nil => exact h
  | cons change edits ih =>
    refine ih _ ?_
    rw [Grammar.editTexts]
    split
    · rename_i hedit
      exact Edit.forall_mem_applyTo hnew hedit.1 h
    · exact h

variable {source : String} {collect : Bool}

theorem texts_of_ofText (hload : ofText grammar collect source = .ok buffer) :
    buffer.texts = documentLines source :=
  Grammar.map_text_of_freshLines (freshLines_of_ofLines hload).2

theorem getElem?_documentLines (hload : ofText grammar collect source = .ok buffer) {index : Nat}
    {line : BufferLine} (hline : buffer.lines[index]? = some line) :
    (documentLines source)[index]? = some line.text := by
  rw [← texts_of_ofText hload, texts, List.getElem?_map, hline]
  rfl

theorem exists_bufferLine (hload : ofText grammar collect source = .ok buffer)
    {index : Nat} {text : String} (htext : (documentLines source)[index]? = some text) :
    ∃ line, buffer.lines[index]? = some line ∧ line.text = text := by
  rw [← texts_of_ofText hload, texts, List.getElem?_map] at htext
  exact Option.map_eq_some_iff.mp htext

/-- No line of a document that was read from a text holds a line feed, after any edits. -/
theorem newline_not_mem_texts_run (hload : ofText grammar collect source = .ok buffer)
    (edits : List Edit) : ∀ text ∈ (buffer.run edits).texts, '\n' ∉ text.toList := by
  refine (Reachable.ofText hload).forall_mem_texts_run (fun text hline hmem => ?_)
    (fun text htext => ?_) edits
  · rw [lineText, String.toList_ofList] at hmem
    exact (hline _ hmem).1 rfl
  · rw [texts_of_ofText hload] at htext
    exact newline_not_mem_of_mem_documentLines htext

/-- A line that ends in a carriage return is one of those that were read. -/
theorem mem_documentLines_of_endsInReturn (hload : ofText grammar collect source = .ok buffer)
    (edits : List Edit) :
    ∀ text ∈ (buffer.run edits).texts, EndsInReturn text → text ∈ documentLines source := by
  refine (Reachable.ofText hload).forall_mem_texts_run (fun text hline hlast => ?_)
    (fun text htext _ => ?_) edits
  · exact absurd hlast (not_endsInReturn_lineText hline)
  · rwa [← texts_of_ofText hload]

/-! ## Reloading -/

/-- The text of the document is cut into its own lines just if none ends in a carriage return. -/
theorem documentLines_text_eq_iff (hload : ofText grammar collect source = .ok buffer)
    {edits : List Edit} (hne : (buffer.run edits).lines ≠ []) :
    documentLines (buffer.run edits).text = (buffer.run edits).texts ↔
      ∀ text ∈ (buffer.run edits).texts, ¬EndsInReturn text := by
  have hne' : (buffer.run edits).texts ≠ [] := fun hnil => hne (List.map_eq_nil_iff.mp hnil)
  rw [Buffer.text, documentLines_intercalate hne' (newline_not_mem_texts_run hload edits)]
  generalize (buffer.run edits).texts = texts
  have hsame : texts.map lineText = texts ↔ ∀ text ∈ texts, lineText text = text := by
    nth_rewrite 2 [← List.map_id texts]
    exact List.map_inj_left
  rw [hsame]
  exact forall₂_congr fun text _ => lineText_eq_self_iff

/-- A document that was read from a text and edited has lines left: its text reloads to the same
lines, with their tokens and stacks, just if none of them ends in a carriage return. A line that
does was read from the first text, where it had two of them. -/
theorem reload_eq_iff (hload : ofText grammar collect source = .ok buffer) (edits : List Edit)
    (hne : (buffer.run edits).lines ≠ []) :
    (∀ collect', (∃ reloaded, ofText grammar collect' (buffer.run edits).text = .ok reloaded ∧
        reloaded.lines = (buffer.run edits).lines) ↔
      ∀ line ∈ (buffer.run edits).lines, ¬EndsInReturn line.text) ∧
    ∀ line ∈ (buffer.run edits).lines, EndsInReturn line.text →
      line.text ∈ documentLines source := by
  have hcut := documentLines_text_eq_iff hload hne
  have hreturn := mem_documentLines_of_endsInReturn hload edits
  simp only [texts, List.forall_mem_map] at hcut hreturn
  refine ⟨fun collect' => ?_, hreturn⟩
  rw [← hcut]
  constructor
  · rintro ⟨reloaded, hreloaded, hlines⟩
    rw [← texts_of_ofText hreloaded, texts, hlines]
  · intro heq
    obtain ⟨rebuilt, hrebuilt, hlines⟩ := (Reachable.ofText hload).exists_rebuilt edits collect'
    refine ⟨rebuilt, ?_, hlines⟩
    rw [ofText, heq]
    exact hrebuilt

/-- A text of three lines. The second one has two carriage returns at its end. -/
def returnsText : String := "<\r\n>\r\r\nab"

/-- Edits that put an end to the line with the carriage return. -/
def returnsEdits : List Edit := [.update 1 ">\r", .insert 3 "ab"]

theorem isOk_returnsText : (ofText sampleGrammar false returnsText).isOk = true := by
  decide +kernel

/-- The text reloads to the same lines once the line is edited. -/
theorem reload_returnsText :
    ∃ buffer, ofText sampleGrammar false returnsText = .ok buffer ∧
      (buffer.run returnsEdits).lines ≠ [] ∧
      ∃ reloaded, ofText sampleGrammar false (buffer.run returnsEdits).text = .ok reloaded ∧
        reloaded.lines = (buffer.run returnsEdits).lines := by
  cases hload : ofText sampleGrammar false returnsText with
  | error fault =>
    have hok := isOk_returnsText
    rw [hload] at hok
    cases hok
  | ok buffer =>
    have htexts : (buffer.run returnsEdits).texts = ["<", ">", "ab", "ab"] := by
      have hrun : (ofText sampleGrammar false returnsText).map (·.run returnsEdits |>.texts)
          = .ok ["<", ">", "ab", "ab"] := by decide +kernel
      rw [hload] at hrun
      exact Except.ok.inj hrun
    have hne : (buffer.run returnsEdits).lines ≠ [] := by
      intro hnil
      rw [texts, hnil] at htexts
      cases htexts
    have hreturn : ∀ text ∈ (buffer.run returnsEdits).texts, ¬EndsInReturn text := by
      rw [htexts]
      decide
    refine ⟨buffer, rfl, hne, ((reload_eq_iff hload returnsEdits hne).1 false).mpr ?_⟩
    exact fun line hline => hreturn line.text (List.mem_map_of_mem hline)

/-- Not every document reloads to the same lines: of two carriage returns at the end of a line one
is kept, and it is dropped when the text is read again. -/
theorem not_reload_of_two_returns :
    ¬∀ (document : GrammarDocument) (fallbackName : String) (grammar : Grammar) (collect : Bool)
      (source : String) (buffer : Buffer) (edits : List Edit),
      Grammar.compile document fallbackName = .ok grammar →
      ofText grammar collect source = .ok buffer → (buffer.run edits).lines ≠ [] →
      ∃ reloaded, ofText grammar collect (buffer.run edits).text = .ok reloaded ∧
        reloaded.lines = (buffer.run edits).lines := by
  intro hall
  cases hload : ofText sampleGrammar false "ab\r\r" with
  | error fault =>
    have hok : (ofText sampleGrammar false "ab\r\r").isOk = true := by decide +kernel
    rw [hload] at hok
    cases hok
  | ok buffer =>
    have htexts : buffer.texts = ["ab\r"] := texts_of_ofText hload
    have hne : buffer.lines ≠ [] := by
      intro hnil
      rw [texts, hnil] at htexts
      cases htexts
    obtain ⟨reloaded, hreloaded, hlines⟩ :=
      hall sampleDocument "grammar" sampleGrammar false "ab\r\r" buffer []
        compile_sampleDocument hload hne
    -- the one line of the document ends in a carriage return, that of its text does not
    have hagain : reloaded.texts = ["ab"] := by
      rw [texts_of_ofText hreloaded]
      show documentLines buffer.text = ["ab"]
      rw [Buffer.text, htexts]
      decide
    have hsame : reloaded.texts = buffer.texts := congrArg (List.map BufferLine.text) hlines
    rw [hagain, htexts] at hsame
    exact absurd hsame (by decide)

end Buffer
end LineLexer
