import LineLexer.Proofs.Grammar.Compiled
import LineLexer.Proofs.Tokenize.Fresh
import Mathlib.Data.List.InsertIdx

/-!
# Edits

An edit of a buffer comes to what the same edit of the texts and a scan of all of them come to,
and an edit that fails leaves the buffer as it was. `Fresh.edit_of_error` and `Fresh.edit_of_ok` say
so for one edit of a buffer of fresh lines. All buffers that can be reached are of fresh lines
(`Reachable.fresh`), so the statements on any number of edits follow.
-/

namespace LineLexer

/-! ## What an edit asks for -/

/-- The text of one line, without a carriage return at its end. -/
def lineText (text : String) : String := String.ofList (Text.dropReturn text.toList)

/-- The text is one line, but for a carriage return at its end. -/
def IsOneLine (text : String) : Prop :=
  ∀ c ∈ Text.dropReturn text.toList, c ≠ '\n' ∧ c ≠ '\r'

instance (text : String) : Decidable (IsOneLine text) :=
  List.decidableBAll (fun c => c ≠ '\n' ∧ c ≠ '\r') _

namespace Edit

/-- The index is in range for a document with so many lines, and the text is one line. -/
def Admissible (lineCount : Nat) : Edit → Prop
  | update index text => index < lineCount ∧ IsOneLine text
  | insert index text => index ≤ lineCount ∧ IsOneLine text
  | remove index => index < lineCount

instance (lineCount : Nat) (change : Edit) : Decidable (change.Admissible lineCount) := by
  cases change <;> unfold Admissible <;> infer_instance

/-- The edit of the texts of a document. -/
def applyTo : Edit → List String → List String
  | update index text, texts => texts.set index (lineText text)
  | insert index text, texts => texts.insertIdx index (lineText text)
  | remove index, texts => texts.eraseIdx index

end Edit

theorem singleLine_eq_ok {text : String} (h : IsOneLine text) (index : Nat) :
    singleLine index text = .ok (lineText text) := by
  rw [singleLine, if_neg]
  · rfl
  · rw [List.any_eq_true]
    rintro ⟨c, hc, hbreak⟩
    have hc := h c hc
    simp [hc.1, hc.2] at hbreak

theorem singleLine_eq_error {text : String} (h : ¬IsOneLine text) (index : Nat) :
    singleLine index text = .error (.lineBreakEmbedded index) := by
  rw [singleLine, if_pos]
  rw [List.any_eq_true]
  rw [IsOneLine] at h
  push Not at h
  obtain ⟨c, hc, hbreak⟩ := h
  refine ⟨c, hc, ?_⟩
  by_cases hfeed : c = '\n'
  · simp [hfeed]
  · simp [hbreak hfeed]

/-! ## Drafts -/

namespace Buffer

/-- The lines of the buffer are those that a scan of its texts gives. -/
def Fresh (buffer : Buffer) : Prop := buffer.grammar.Fresh 0 [] buffer.lines

theorem checkIndex_eq_ok (buffer : Buffer) {index bound : Nat} (h : index < bound) :
    buffer.checkIndex index bound = .ok ⟨h⟩ := dif_pos h

theorem checkIndex_eq_error (buffer : Buffer) {index bound : Nat} (h : ¬index < bound) :
    buffer.checkIndex index bound = .error (.lineOutOfRange index buffer.lineCount) := dif_neg h

end Buffer

/-- The draft makes the edit on the lines of the buffer and can take it back, and the lines from
its start on can be scanned again. -/
structure Draft.Makes (draft : Draft) (change : Edit) (buffer : Buffer) : Prop where
  start_le : draft.start ≤ buffer.lines.length
  front : draft.lines.take draft.start = buffer.lines.take draft.start
  texts : draft.lines.map (·.text) = change.applyTo buffer.texts
  undo : draft.undo.apply draft.lines = buffer.lines
  resumable : buffer.Fresh → buffer.grammar.Resumable draft.compareFrom draft.shifted draft.start
    (draft.lines.drop draft.start)

theorem Buffer.Fresh.cut {buffer : Buffer} (h : buffer.Fresh) {index : Nat}
    (hindex : index ≤ buffer.lines.length) :
    buffer.grammar.Fresh 0 [] (buffer.lines.take index) ∧
      ∃ frames, buffer.grammar.Fresh index frames (buffer.lines.drop index) := by
  have hcut : buffer.grammar.Fresh 0 [] (buffer.lines.take index ++ buffer.lines.drop index) := by
    rwa [List.take_append_drop]
  obtain ⟨hfront, hback⟩ := Grammar.fresh_append_iff.mp hcut
  rw [List.length_take_of_le hindex, Nat.zero_add] at hback
  exact ⟨hfront, _, hback⟩

theorem drop_insertIdx_self {α : Type} (a : α) {index : Nat} {items : List α}
    (h : index ≤ items.length) : (items.insertIdx index a).drop index = a :: items.drop index := by
  induction items generalizing index with
  | nil => rw [Nat.le_zero.mp h]; rfl
  | cons item rest ih =>
    cases index with
    | zero => rfl
    | succ index => exact ih (Nat.le_of_succ_le_succ h)

namespace Buffer

variable {buffer : Buffer}

theorem draft_update_eq {index : Nat} {text : String} (hindex : index < buffer.lines.length)
    (htext : IsOneLine text) :
    buffer.draft (.update index text)
      = .ok ⟨buffer.lines.modify index ({ · with text := lineText text }), index, index, false,
          .restore index buffer.lines[index].text⟩ := by
  rw [draft, checkIndex_eq_ok buffer hindex, singleLine_eq_ok htext]
  rfl

theorem draft_insert_eq {index : Nat} {text : String} (hindex : index ≤ buffer.lines.length)
    (htext : IsOneLine text) :
    buffer.draft (.insert index text)
      = .ok ⟨buffer.lines.insertIdx index ⟨lineText text, [], .initial, []⟩, index, index + 1, true,
          .takeOut index⟩ := by
  rw [draft, checkIndex_eq_ok buffer (Nat.lt_succ_of_le hindex), singleLine_eq_ok htext]
  rfl

theorem draft_remove_eq {index : Nat} (hindex : index < buffer.lines.length) :
    buffer.draft (.remove index)
      = .ok ⟨buffer.lines.eraseIdx index, index, index, true,
          .putBack index buffer.lines[index]⟩ := by
  rw [draft, checkIndex_eq_ok buffer hindex]
  rfl

theorem draft_update {index : Nat} {text : String} (hindex : index < buffer.lines.length)
    (htext : IsOneLine text) :
    ∃ draft, buffer.draft (.update index text) = .ok draft ∧
      draft.Makes (.update index text) buffer := by
  refine ⟨_, draft_update_eq hindex htext,
    { start_le := Nat.le_of_lt hindex, front := ?front, texts := ?texts, undo := ?undo,
      resumable := ?resumable }⟩
  case front =>
    rw [List.take_modify, List.modify_eq_self]
    rw [List.length_take]
    exact Nat.min_le_left _ _
  case texts =>
    refine List.ext_getElem? fun i => ?_
    rw [List.getElem?_map, List.getElem?_modify, Edit.applyTo, texts, List.getElem?_set,
      List.getElem?_map]
    by_cases hi : index = i
    · subst hi
      simp [hindex]
    · simp [hi]
  case undo =>
    rw [Undo.apply, List.modify_modify_eq]
    refine List.ext_getElem? fun i => ?_
    rw [List.getElem?_modify]
    by_cases hi : index = i
    · subst hi
      simp [hindex]
    · simp [hi]
  case resumable =>
    intro hfresh
    obtain ⟨-, frames, hdrop⟩ := hfresh.cut (Nat.le_of_lt hindex)
    rw [List.drop_modify_of_ge _ _ _ _ (Nat.le_refl index), Nat.sub_self,
      List.drop_eq_getElem_cons hindex]
    rw [List.drop_eq_getElem_cons hindex] at hdrop
    -- the edit has left the stack of the line and all lines behind it alone
    exact hdrop.resumable index fun _ => rfl

theorem draft_insert {index : Nat} {text : String} (hindex : index ≤ buffer.lines.length)
    (htext : IsOneLine text) :
    ∃ draft, buffer.draft (.insert index text) = .ok draft ∧
      draft.Makes (.insert index text) buffer := by
  refine ⟨_, draft_insert_eq hindex htext,
    { start_le := hindex
      front := List.take_insertIdx_eq_take_of_le _ _ _ _ (Nat.le_refl index)
      texts := List.map_insertIdx _ _ _ _
      undo := List.eraseIdx_insertIdx_self _
      resumable := ?resumable }⟩
  case resumable =>
    intro hfresh
    obtain ⟨-, frames, hdrop⟩ := hfresh.cut hindex
    rw [drop_insertIdx_self _ hindex]
    -- the new line is never settled; the lines behind it are fresh where they were
    refine ⟨fun hle => absurd hle (Nat.not_succ_le_self index), ?_⟩
    exact hdrop.resumable _ fun hshifted => nomatch hshifted

theorem draft_remove {index : Nat} (hindex : index < buffer.lines.length) :
    ∃ draft, buffer.draft (.remove index) = .ok draft ∧ draft.Makes (.remove index) buffer := by
  refine ⟨_, draft_remove_eq hindex,
    { start_le := Nat.le_of_lt hindex
      front := List.take_eraseIdx_eq_take_of_le _ _ _ (Nat.le_refl index)
      texts := (List.eraseIdx_map _ _ _).symm
      undo := List.insertIdx_eraseIdx_getElem hindex
      resumable := ?resumable }⟩
  case resumable =>
    intro hfresh
    obtain ⟨-, frames, hdrop⟩ := hfresh.cut (Nat.succ_le_of_lt hindex)
    have htail : (buffer.lines.eraseIdx index).drop index = buffer.lines.drop (index + 1) := by
      rw [List.eraseIdx_eq_take_drop_succ]
      exact List.drop_left' (List.length_take_of_le (Nat.le_of_lt hindex))
    rw [htail]
    exact hdrop.resumable _ fun hshifted => nomatch hshifted

/-- An edit that is admissible becomes a draft. -/
theorem exists_draft {change : Edit} (h : change.Admissible buffer.lineCount) :
    ∃ draft, buffer.draft change = .ok draft ∧ draft.Makes change buffer := by
  cases change with
  | update index text => exact draft_update h.1 h.2
  | insert index text => exact draft_insert h.1 h.2
  | remove index => exact draft_remove h

/-- An edit that is not admissible becomes none. -/
theorem draft_eq_error {change : Edit} (h : ¬change.Admissible buffer.lineCount) :
    ∃ fault, buffer.draft change = .error fault := by
  cases change with
  | update index text =>
    by_cases hindex : index < buffer.lines.length
    · have htext : ¬IsOneLine text := fun htext => h ⟨hindex, htext⟩
      refine ⟨.lineBreakEmbedded index, ?_⟩
      rw [draft, checkIndex_eq_ok buffer hindex, singleLine_eq_error htext]
      rfl
    · refine ⟨.lineOutOfRange index buffer.lineCount, ?_⟩
      rw [draft, checkIndex_eq_error buffer hindex]
      rfl
  | insert index text =>
    by_cases hindex : index < buffer.lines.length + 1
    · have htext : ¬IsOneLine text := fun htext => h ⟨Nat.le_of_lt_succ hindex, htext⟩
      refine ⟨.lineBreakEmbedded index, ?_⟩
      rw [draft, checkIndex_eq_ok buffer hindex, singleLine_eq_error htext]
      rfl
    · refine ⟨.lineOutOfRange index buffer.lineCount, ?_⟩
      rw [draft, checkIndex_eq_error buffer hindex]
      rfl
  | remove index =>
    have hindex : ¬index < buffer.lines.length := h
    refine ⟨.lineOutOfRange index buffer.lineCount, ?_⟩
    rw [draft, checkIndex_eq_error buffer hindex]
    rfl

theorem admissible_of_draft {change : Edit} {draft : Draft} (h : buffer.draft change = .ok draft) :
    change.Admissible buffer.lineCount := by
  by_contra hnot
  obtain ⟨fault, hfault⟩ := draft_eq_error hnot
  cases h.symm.trans hfault

theorem makes_of_draft {change : Edit} {draft : Draft} (h : buffer.draft change = .ok draft) :
    draft.Makes change buffer := by
  obtain ⟨draft', hdraft, hmakes⟩ := exists_draft (admissible_of_draft h)
  cases h.symm.trans hdraft
  exact hmakes

end Buffer

/-! ## One edit -/

/-- A scan of the edited texts ends as scanning the draft again does. -/
theorem Draft.Makes.freshLines {draft : Draft} {change : Edit} {buffer : Buffer}
    (h : draft.Makes change buffer) (hfresh : buffer.Fresh) :
    buffer.grammar.freshLines 0 [] (change.applyTo buffer.texts)
      = match (draft.rescan buffer.grammar).fault? with
        | some fault => .error fault
        | none => .ok (draft.lines.take draft.start
            ++ buffer.grammar.rescannedLines draft.shifted draft.start
              (draft.rescan buffer.grammar)) := by
  have hfront : buffer.grammar.Fresh 0 [] (draft.lines.take draft.start) := by
    rw [h.front]
    exact (hfresh.cut h.start_le).1
  have hlength : (draft.lines.take draft.start).length = draft.start := by
    rw [h.front, List.length_take_of_le h.start_le]
  have htexts : change.applyTo buffer.texts
      = (draft.lines.take draft.start).map (·.text)
        ++ (draft.lines.drop draft.start).map (·.text) := by
    rw [← h.texts, ← List.map_append, List.take_append_drop]
  -- the lines in front are as they were, and behind them scanning again is a scan of the texts
  rw [htexts, hfront.freshLines_append, hlength, Nat.zero_add,
    Grammar.freshLines_rescanFrom (h.resumable hfresh)]
  have hrescan : Draft.rescanFrom buffer.grammar draft.compareFrom []
      (Grammar.framesAfter [] (draft.lines.take draft.start)) draft.start
      (draft.lines.drop draft.start) = draft.rescan buffer.grammar := rfl
  rw [hrescan]
  cases (draft.rescan buffer.grammar).fault? <;> rfl

namespace Buffer

variable {buffer : Buffer} {change : Edit}

/-- If the edited texts have a fault, so has the edit, and the buffer is as it was. -/
theorem Fresh.edit_of_error (hfresh : buffer.Fresh) (h : change.Admissible buffer.lineCount)
    {fault : TokenizeError}
    (hscan : buffer.grammar.freshLines 0 [] (change.applyTo buffer.texts) = .error fault) :
    buffer.edit change = (.error fault, buffer) := by
  obtain ⟨draft, hdraft, hmakes⟩ := exists_draft h
  rw [hmakes.freshLines hfresh] at hscan
  rw [edit, hdraft]
  dsimp only
  cases hfault : (draft.rescan buffer.grammar).fault? with
  | none => rw [hfault] at hscan; cases hscan
  | some fault' =>
    rw [hfault] at hscan
    cases hscan
    rw [commit, hfault]
    dsimp only
    rw [hmakes.undo]

/-- If the edited texts can be scanned, the buffer has their lines after the edit. -/
theorem Fresh.edit_of_ok (hfresh : buffer.Fresh) (h : change.Admissible buffer.lineCount)
    {lines : List BufferLine}
    (hscan : buffer.grammar.freshLines 0 [] (change.applyTo buffer.texts) = .ok lines) :
    ∃ range metrics, buffer.edit change = (.ok range, { buffer with lines, metrics }) := by
  obtain ⟨draft, hdraft, hmakes⟩ := exists_draft h
  rw [hmakes.freshLines hfresh] at hscan
  rw [edit, hdraft]
  dsimp only
  cases hfault : (draft.rescan buffer.grammar).fault? with
  | some fault => rw [hfault] at hscan; cases hscan
  | none =>
    rw [hfault] at hscan
    cases hscan
    rw [commit, hfault, Grammar.rescannedLines, ← List.append_assoc]
    exact ⟨_, _, rfl⟩

theorem edit_of_not_admissible (h : ¬change.Admissible buffer.lineCount) :
    ∃ fault, buffer.edit change = (.error fault, buffer) := by
  obtain ⟨fault, hdraft⟩ := draft_eq_error h
  refine ⟨fault, ?_⟩
  rw [edit, hdraft]

/-- An edit that fails leaves the buffer as it was. -/
theorem Fresh.edit_of_fault (hfresh : buffer.Fresh) {fault : TokenizeError}
    (h : (buffer.edit change).1 = .error fault) : (buffer.edit change).2 = buffer := by
  by_cases hadmissible : change.Admissible buffer.lineCount
  · cases hscan : buffer.grammar.freshLines 0 [] (change.applyTo buffer.texts) with
    | error fault' => rw [hfresh.edit_of_error hadmissible hscan]
    | ok lines =>
      obtain ⟨range, metrics, hedit⟩ := hfresh.edit_of_ok hadmissible hscan
      rw [hedit] at h
      cases h
  · obtain ⟨fault', hedit⟩ := edit_of_not_admissible hadmissible
    rw [hedit]

/-- After an edit that succeeds the texts are the edited ones. -/
theorem Fresh.texts_of_edit (hfresh : buffer.Fresh) {change : Edit} {range : LineRange}
    (h : (buffer.edit change).1 = .ok range) :
    (buffer.edit change).2.texts = change.applyTo buffer.texts := by
  have hadmissible : change.Admissible buffer.lineCount := by
    by_contra hnot
    obtain ⟨fault, hedit⟩ := edit_of_not_admissible hnot
    rw [hedit] at h
    cases h
  cases hscan : buffer.grammar.freshLines 0 [] (change.applyTo buffer.texts) with
  | error fault =>
    rw [hfresh.edit_of_error hadmissible hscan] at h
    cases h
  | ok lines =>
    obtain ⟨found, metrics, hedit⟩ := hfresh.edit_of_ok hadmissible hscan
    rw [hedit]
    exact Grammar.map_text_of_freshLines hscan

theorem grammar_edit (buffer : Buffer) (change : Edit) :
    (buffer.edit change).2.grammar = buffer.grammar := by
  rw [edit]
  cases buffer.draft change with
  | error fault => rfl
  | ok draft =>
    dsimp only
    rw [commit]
    cases (draft.rescan buffer.grammar).fault? <;> rfl

end Buffer

/-! ## The texts after an edit -/

/-- The texts of a document after an edit. They stay as they were if the edit is not admissible or
the edited texts have a fault. -/
def Grammar.editTexts (grammar : Grammar) (texts : List String) (change : Edit) : List String :=
  if change.Admissible texts.length ∧
      (Buffer.ofLines grammar false (change.applyTo texts)).isOk then change.applyTo texts
  else texts

namespace Buffer

variable {buffer : Buffer} {change : Edit}

theorem length_texts (buffer : Buffer) : buffer.texts.length = buffer.lineCount :=
  List.length_map _

/-- Fresh lines stay fresh, and their texts are edited as texts. -/
theorem Fresh.edit (hfresh : buffer.Fresh) (change : Edit) :
    (buffer.edit change).2.Fresh ∧
      (buffer.edit change).2.texts = buffer.grammar.editTexts buffer.texts change := by
  rw [Grammar.editTexts, length_texts, Grammar.ofLines_eq]
  by_cases h : change.Admissible buffer.lineCount
  · cases hscan : buffer.grammar.freshLines 0 [] (change.applyTo buffer.texts) with
    | error fault =>
      -- the edited texts have a fault, so both stay as they were
      rw [hfresh.edit_of_error h hscan, if_neg fun hok => nomatch hok.2]
      exact ⟨hfresh, rfl⟩
    | ok lines =>
      obtain ⟨range, metrics, hedit⟩ := hfresh.edit_of_ok h hscan
      rw [hedit, if_pos ⟨h, rfl⟩]
      exact ⟨Grammar.fresh_of_freshLines hscan, Grammar.map_text_of_freshLines hscan⟩
  · obtain ⟨fault, hedit⟩ := edit_of_not_admissible h
    rw [hedit, if_neg fun hok => h hok.1]
    exact ⟨hfresh, rfl⟩

/-! ## All buffers -/

/-- The buffer after edits in order, whether they fail or not. -/
def run (buffer : Buffer) (edits : List Edit) : Buffer :=
  edits.foldl (fun buffer change => (buffer.edit change).2) buffer

/-- The buffers of a grammar: those of lines or of a text, and those after an edit. -/
inductive Reachable (grammar : Grammar) : Buffer → Prop where
  | ofLines {collect : Bool} {texts : List String} {buffer : Buffer}
      (h : ofLines grammar collect texts = .ok buffer) : Reachable grammar buffer
  | ofText {collect : Bool} {text : String} {buffer : Buffer}
      (h : ofText grammar collect text = .ok buffer) : Reachable grammar buffer
  | edit {buffer : Buffer} (h : Reachable grammar buffer) (change : Edit) :
      Reachable grammar (buffer.edit change).2

variable {grammar : Grammar}

theorem freshLines_of_ofLines {collect : Bool} {texts : List String}
    (h : ofLines grammar collect texts = .ok buffer) :
    buffer.grammar = grammar ∧ grammar.freshLines 0 [] texts = .ok buffer.lines := by
  rw [Grammar.ofLines_eq] at h
  obtain ⟨lines, hlines, rfl⟩ := map_eq_ok.mp h
  exact ⟨rfl, hlines⟩

theorem fresh_of_ofLines {collect : Bool} {texts : List String}
    (h : ofLines grammar collect texts = .ok buffer) :
    buffer.grammar = grammar ∧ buffer.Fresh := by
  obtain ⟨rfl, hlines⟩ := freshLines_of_ofLines h
  exact ⟨rfl, Grammar.fresh_of_freshLines hlines⟩

theorem Reachable.fresh (h : Reachable grammar buffer) :
    buffer.grammar = grammar ∧ buffer.Fresh := by
  induction h with
  | ofLines h => exact fresh_of_ofLines h
  | ofText h => exact fresh_of_ofLines h
  | edit _ change ih => exact ⟨(grammar_edit _ change).trans ih.1, (ih.2.edit change).1⟩

theorem Reachable.run (h : Reachable grammar buffer) (edits : List Edit) :
    Reachable grammar (buffer.run edits) := by
  induction edits generalizing buffer with
  | nil => exact h
  | cons change edits ih => exact ih (h.edit change)

theorem Reachable.texts_run (h : Reachable grammar buffer) (edits : List Edit) :
    (buffer.run edits).texts = edits.foldl grammar.editTexts buffer.texts := by
  induction edits generalizing buffer with
  | nil => rfl
  | cons change edits ih =>
    obtain ⟨rfl, hfresh⟩ := h.fresh
    rw [List.foldl_cons, ← (hfresh.edit change).2]
    exact ih (h.edit change)

/-- A scan of the edited texts gives the lines of the buffer. -/
theorem Reachable.exists_rebuilt (h : Reachable grammar buffer) (edits : List Edit)
    (collect : Bool) :
    ∃ rebuilt, Buffer.ofLines grammar collect (buffer.run edits).texts = .ok rebuilt ∧
      rebuilt.lines = (buffer.run edits).lines := by
  obtain ⟨hgrammar, hfresh⟩ := (h.run edits).fresh
  rw [Fresh, hgrammar] at hfresh
  rw [Grammar.ofLines_eq, texts, hfresh]
  exact ⟨_, rfl, rfl⟩

/-- After any edits, in any order and whether they fail or not, the texts are the edited ones, a
scan of all of them has no fault, and it gives the very lines of the buffer. -/
theorem run_eq_rebuild (h : Reachable grammar buffer) (edits : List Edit) (collect : Bool) :
    (buffer.run edits).texts = edits.foldl grammar.editTexts buffer.texts ∧
      ∃ rebuilt, ofLines grammar collect (buffer.run edits).texts = .ok rebuilt ∧
        rebuilt.lines = (buffer.run edits).lines :=
  ⟨h.texts_run edits, h.exists_rebuilt edits collect⟩

/-- A buffer of the sample grammar: a word begins on the first line and ends on the second. -/
def sampleBuffer : Buffer where
  grammar := sampleGrammar
  lines := [⟨"<", [⟨⟨⟨0, 1, 1⟩, ⟨1, 1, 2⟩⟩, "angle", none⟩], ⟨["word"]⟩, [1]⟩,
    ⟨">", [⟨⟨⟨0, 2, 1⟩, ⟨1, 2, 2⟩⟩, "angle", none⟩], .initial, []⟩]
  metrics := none

theorem ofLines_sampleBuffer : ofLines sampleGrammar false ["<", ">"] = .ok sampleBuffer := by
  decide +kernel

/-- Edits of the sample buffer; the last two fail. -/
def sampleEdits : List Edit := [.insert 1 "ab", .update 0 "(", .remove 3, .insert 2 "a\nb"]

theorem run_sampleBuffer :
    (sampleBuffer.run sampleEdits).texts = ["(", "ab", ">"] ∧
      ∃ rebuilt, ofLines sampleGrammar true ["(", "ab", ">"] = .ok rebuilt ∧
        rebuilt.lines = (sampleBuffer.run sampleEdits).lines := by
  have htexts : (sampleBuffer.run sampleEdits).texts = ["(", "ab", ">"] := by decide +kernel
  have hrebuilt := (run_eq_rebuild (.ofLines ofLines_sampleBuffer) sampleEdits true).2
  rw [htexts] at hrebuilt
  exact ⟨htexts, hrebuilt⟩

/-- An edit whose index and text are admissible fails just as a scan of all the edited texts does,
and no edit that fails changes the buffer. -/
theorem edit_eq_error_iff_rebuild (h : Reachable grammar buffer) (change : Edit) :
    (change.Admissible buffer.lineCount → ∀ collect fault,
      (buffer.edit change).1 = .error fault ↔
        ofLines grammar collect (change.applyTo buffer.texts) = .error fault) ∧
    ∀ fault, (buffer.edit change).1 = .error fault → (buffer.edit change).2 = buffer := by
  obtain ⟨rfl, hfresh⟩ := h.fresh
  refine ⟨fun hadmissible collect fault => ?_, fun fault => hfresh.edit_of_fault⟩
  rw [Grammar.ofLines_eq]
  cases hscan : buffer.grammar.freshLines 0 [] (change.applyTo buffer.texts) with
  | error fault' =>
    rw [hfresh.edit_of_error hadmissible hscan]
    constructor
    · intro hfault
      cases hfault
      rfl
    · intro hfault
      cases hfault
      rfl
  | ok lines =>
    obtain ⟨range, metrics, hedit⟩ := hfresh.edit_of_ok hadmissible hscan
    rw [hedit]
    constructor
    · intro hfault
      cases hfault
    · intro hfault
      cases hfault

/-- Four lines whose pushes leave no room on the stack. -/
def fullTexts : List String :=
  List.replicate 4 (String.ofList (List.replicate (Limits.stackDepth / 4) '<'))

/-- One more push on a line put before the full ones is refused on the last of them. -/
theorem edit_fullTexts :
    ∃ buffer, ofLines sampleGrammar false fullTexts = .ok buffer ∧
      (buffer.edit (.insert 0 "<")).1 = .error (.stackDepthExceeded "word" Limits.stackDepth) ∧
      (buffer.edit (.insert 0 "<")).2 = buffer := by
  have hfull : (ofLines sampleGrammar false fullTexts).isOk = true := by decide +kernel
  have hrebuild : ofLines sampleGrammar false ("<" :: fullTexts)
      = .error (.stackDepthExceeded "word" Limits.stackDepth) := by decide +kernel
  cases hbuffer : ofLines sampleGrammar false fullTexts with
  | error fault => rw [hbuffer] at hfull; cases hfull
  | ok buffer =>
    have h := edit_eq_error_iff_rebuild (.ofLines hbuffer) (.insert 0 "<")
    have hadmissible : (Edit.insert 0 "<").Admissible buffer.lineCount :=
      ⟨Nat.zero_le _, by decide⟩
    have hfault := h.1 hadmissible false (.stackDepthExceeded "word" Limits.stackDepth)
    have htexts : buffer.texts = fullTexts :=
      Grammar.map_text_of_freshLines (freshLines_of_ofLines hbuffer).2
    rw [htexts] at hfault
    exact ⟨buffer, rfl, hfault.mpr hrebuild, h.2 _ (hfault.mpr hrebuild)⟩

end Buffer
end LineLexer
