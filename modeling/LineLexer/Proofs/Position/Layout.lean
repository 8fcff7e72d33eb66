import LineLexer.Proofs.Position.SourceMap

/-!
# Offsets and positions

A position tells a byte offset by the line in which the offset is, how far it is behind the start of
the line, and the characters between (`Position.Locates`). There is one such position for each offset
(`Position.Locates.unique`), and positions stand in the order of their offsets (`Position.Locates.lt`).
Both come from the starts of the lines, which stand in their order (`Text.lineStarts_lt`), so an offset
is in one line only (`Position.Locates.line_le`). A source map answers each offset between two
characters with its position (`SourceMap.exists_positionAt?`).
-/

namespace LineLexer

/-! ## Where lines start -/

namespace Text

/-- The offsets behind the line feeds of a text that is itself behind an offset. -/
def startsBehind (offset : Nat) : List Char → List Nat
  | [] => []
  | c :: rest =>
    if c = '\n' then (offset + c.utf8Size) :: startsBehind (offset + c.utf8Size) rest
    else startsBehind (offset + c.utf8Size) rest

/-- The byte offsets at which the lines of a text start: the front of the text, and the places behind
its line feeds. -/
def lineStarts (text : List Char) : List Nat := 0 :: startsBehind 0 text

theorem getElem?_startsBehind (text : List Char) (offset index : Nat) :
    (offset :: startsBehind offset text)[index]?
      = (splitLines text)[index]?.map fun _ => offset + lineOffset text index := by
  induction text generalizing offset index with
  | nil => cases index <;> rfl
  | cons c rest ih =>
    by_cases hc : c = '\n'
    · subst hc
      rw [startsBehind, if_pos rfl, splitLines_newline]
      cases index with
      | zero => rfl
      | succ index =>
        rw [List.getElem?_cons_succ, List.getElem?_cons_succ, ih, lineOffset_newline]
        have hsize : '\n'.utf8Size = 1 := rfl
        rw [hsize, Nat.add_right_comm, Nat.add_assoc]
    · rw [startsBehind, if_neg hc]
      cases index with
      | zero =>
        obtain ⟨first, lines, -, hlines⟩ := exists_splitLines_cons hc rest
        rw [hlines]
        rfl
      | succ index =>
        have hrest := ih (offset + c.utf8Size) (index + 1)
        rw [List.getElem?_cons_succ] at hrest ⊢
        rw [hrest, getElem?_splitLines_cons hc, lineOffset_cons hc, Nat.add_assoc]

theorem getElem?_lineStarts (text : List Char) (index : Nat) :
    (lineStarts text)[index]? = (splitLines text)[index]?.map fun _ => lineOffset text index := by
  rw [lineStarts, getElem?_startsBehind]
  simp only [Nat.zero_add]

theorem exists_of_getElem?_lineStarts {text : List Char} {index start : Nat}
    (h : (lineStarts text)[index]? = some start) :
    ∃ line, (splitLines text)[index]? = some line ∧ start = lineOffset text index := by
  rw [getElem?_lineStarts, Option.map_eq_some_iff] at h
  obtain ⟨line, hline, hstart⟩ := h
  exact ⟨line, hline, hstart.symm⟩

/-- Lines start in their order. -/
theorem lineStarts_lt {text : List Char} {index index' start start' : Nat}
    (h : (lineStarts text)[index]? = some start) (h' : (lineStarts text)[index']? = some start')
    (hlt : index < index') : start < start' := by
  obtain ⟨line, hline, rfl⟩ := exists_of_getElem?_lineStarts h
  obtain ⟨line', -, rfl⟩ := exists_of_getElem?_lineStarts h'
  have hle := lineOffset_le text (Nat.succ_le_of_lt hlt)
  rw [Nat.succ_eq_add_one, lineOffset_succ hline] at hle
  omega

/-! ## The line of a place -/

/-- The offset is between two characters of the text, or at one of its ends. -/
def IsBoundary (text : List Char) (offset : Nat) : Prop :=
  ∃ front, front <+: text ∧ byteLength front = offset

/-- A place in a text is on a line of the text. -/
theorem exists_line_of_append (front back : List Char) : ∃ index before after,
    (splitLines (front ++ back))[index]? = some (before ++ after) ∧
      lineOffset (front ++ back) index + byteLength before = byteLength front := by
  induction front with
  | nil =>
    cases hlines : splitLines back with
    | nil => exact absurd hlines (splitLines_ne_nil back)
    | cons first lines =>
      refine ⟨0, [], first, ?_, rfl⟩
      rw [List.nil_append, hlines]
      rfl
  | cons c front ih =>
    obtain ⟨index, before, after, hline, hlength⟩ := ih
    rw [List.cons_append, byteLength_cons]
    by_cases hc : c = '\n'
    · subst hc
      refine ⟨index + 1, before, after, ?_, ?_⟩
      · rw [splitLines_newline, List.getElem?_cons_succ, hline]
      · have hsize : '\n'.utf8Size = 1 := rfl
        rw [lineOffset_newline]
        omega
    · cases index with
      | zero =>
        obtain ⟨first, lines, hrest, hlines⟩ := exists_splitLines_cons hc (front ++ back)
        rw [hrest] at hline
        cases hline
        refine ⟨0, c :: before, after, ?_, ?_⟩
        · rw [hlines]
          rfl
        · have hzero : lineOffset (front ++ back) 0 = 0 := rfl
          have hzero' : lineOffset (c :: (front ++ back)) 0 = 0 := rfl
          rw [byteLength_cons]
          omega
      | succ index =>
        refine ⟨index + 1, before, after, ?_, ?_⟩
        · rw [getElem?_splitLines_cons hc, hline]
        · rw [lineOffset_cons hc]
          omega

end Text

open Text

/-! ## The position of an offset -/

namespace Position

/-- The position tells where a byte offset of a text is. -/
structure Locates (pos : Position) (text : List Char) (offset : Nat) : Prop where
  one_le_line : 1 ≤ pos.line
  /-- The line starts as far before the offset as the position says, and its characters up to there
  are counted by the column. -/
  start : ∃ start, (lineStarts text)[pos.line - 1]? = some start ∧ start + pos.offset = offset ∧
    ∃ before passed after, text = before ++ (passed ++ after) ∧ byteLength before = start ∧
      byteLength passed = pos.offset ∧ pos.column = 1 + passed.length
  /-- The next line, if there is one, starts behind the offset. -/
  next : ∀ next, (lineStarts text)[pos.line]? = some next → offset < next

namespace Locates

variable {pos pos' : Position} {text : List Char} {offset offset' : Nat}

/-- A later offset is on no earlier line. -/
theorem line_le (h : pos.Locates text offset) (h' : pos'.Locates text offset')
    (hle : offset ≤ offset') : pos.line ≤ pos'.line := by
  by_contra hlt
  obtain ⟨start, hstart, hoffset, -⟩ := h.start
  have hsize : pos.line - 1 < (lineStarts text).length := (List.getElem?_eq_some_iff.mp hstart).1
  have hone := h.one_le_line
  -- the line behind that of the later offset starts behind it, and the other line is no earlier one
  obtain ⟨next, hnext⟩ : ∃ next, (lineStarts text)[pos'.line]? = some next :=
    ⟨_, List.getElem?_eq_getElem (by omega)⟩
  have hbehind := h'.next _ hnext
  obtain hsame | hbefore := Nat.eq_or_lt_of_le (show pos'.line ≤ pos.line - 1 by omega)
  · rw [← hsame, hnext, Option.some_inj] at hstart
    omega
  · have hstarts := lineStarts_lt hnext hstart hbefore
    omega

/-- On the same line the later offset is farther from the start. -/
theorem lt (h : pos.Locates text offset) (h' : pos'.Locates text offset') (hlt : offset < offset') :
    pos.line < pos'.line ∨ pos.line = pos'.line ∧ pos.offset < pos'.offset := by
  obtain hline | hline := Nat.lt_or_eq_of_le (h.line_le h' (Nat.le_of_lt hlt))
  · exact .inl hline
  · obtain ⟨start, hstart, hoffset, -⟩ := h.start
    obtain ⟨start', hstart', hoffset', -⟩ := h'.start
    rw [← hline, hstart] at hstart'
    cases hstart'
    exact .inr ⟨hline, by omega⟩

/-- An offset has one position. -/
theorem unique (h : pos.Locates text offset) (h' : pos'.Locates text offset) : pos = pos' := by
  have hline : pos.line = pos'.line :=
    Nat.le_antisymm (h.line_le h' (Nat.le_refl _)) (h'.line_le h (Nat.le_refl _))
  obtain ⟨start, hstart, hoffset, before, passed, after, htext, hbefore, hpassed, hcolumn⟩ := h.start
  obtain ⟨start', hstart', hoffset', before', passed', after', htext', hbefore', hpassed', hcolumn'⟩ :=
    h'.start
  rw [← hline, hstart] at hstart'
  cases hstart'
  have hoffsets : pos.offset = pos'.offset := by omega
  obtain ⟨-, hrest⟩ := eq_of_byteLength (htext.symm.trans htext') (hbefore.trans hbefore'.symm)
  obtain ⟨hsame, -⟩ := eq_of_byteLength hrest (by rw [hpassed, hpassed', hoffsets])
  have hcolumns : pos.column = pos'.column := by rw [hcolumn, hcolumn', hsame]
  cases pos
  cases pos'
  simp_all

end Locates
end Position

namespace SourceMap

/-- A place on a line has the position of the line and of the characters before the place. -/
theorem locates_of_line {text before after : List Char} {index : Nat}
    (h : (splitLines text)[index]? = some (before ++ after)) :
    (Position.mk (byteLength before) (index + 1) (before.length + 1)).Locates text
      (lineOffset text index + byteLength before) := by
  obtain ⟨front, back, htext, hfront⟩ := exists_around_line h
  constructor
  · exact Nat.le_add_left 1 index
  · refine ⟨lineOffset text index, ?_, rfl, front, before, after ++ back, ?_, hfront, rfl, ?_⟩
    · rw [Nat.add_sub_cancel, getElem?_lineStarts, h]
      rfl
    · rw [htext, List.append_assoc]
    · exact Nat.add_comm _ _
  · intro next hnext
    obtain ⟨line, -, hstart⟩ := exists_of_getElem?_lineStarts hnext
    rw [hstart, lineOffset_succ h, byteLength_append]
    omega

/-- Each offset between two characters of a text is answered with its position. -/
theorem exists_positionAt? {source : String} {offset : Nat} (h : IsBoundary source.toList offset) :
    ∃ index before after, (splitLines source.toList)[index]? = some (before ++ after) ∧
      (ofText source).positionAt? offset
        = some ⟨byteLength before, index + 1, before.length + 1⟩ ∧
      (Position.mk (byteLength before) (index + 1) (before.length + 1)).Locates source.toList
        offset := by
  obtain ⟨front, ⟨back, htext⟩, hoffset⟩ := h
  obtain ⟨index, before, after, hline, hlength⟩ := exists_line_of_append front back
  rw [htext] at hline hlength
  rw [← hoffset, ← hlength]
  exact ⟨index, before, after, hline, positionAt?_of_line hline, locates_of_line hline⟩

end SourceMap
end LineLexer
