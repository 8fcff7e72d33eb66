import LineLexer.Position.SourceMap
import Mathlib.Data.List.Basic

/-!
# Places in a source map

A source map finds the lines of a text again from byte offsets. Each line stands at its offset
(`getElem?_lines_ofText`), which is that of its place in the text (`exists_around_line`), and the
lines stand one behind the other (`lineOffset_succ`). So the offset of a place on a line, counted
from the start of the text, is answered with that line, the offset from its start, and the column
behind the characters before it (`positionAt?_of_line`).
-/

namespace LineLexer

namespace Text

/-- The bytes of lines with a line feed behind each. -/
def linesLength : List (List Char) → Nat
  | [] => 0
  | line :: lines => byteLength line + 1 + linesLength lines

@[simp] theorem linesLength_nil : linesLength [] = 0 := rfl

@[simp] theorem linesLength_cons (line : List Char) (lines : List (List Char)) :
    linesLength (line :: lines) = byteLength line + 1 + linesLength lines := rfl

@[simp] theorem linesLength_append (lines more : List (List Char)) :
    linesLength (lines ++ more) = linesLength lines + linesLength more := by
  induction lines with
  | nil => simp
  | cons line lines ih => simp [ih, Nat.add_assoc]

/-- The byte offset at which the line with an index starts in a text. Lines count from zero, and a
line feed stands behind each but the last one. -/
def lineOffset (text : List Char) (index : Nat) : Nat :=
  linesLength ((splitLines text).take index)

theorem lineOffset_succ {text line : List Char} {index : Nat}
    (h : (splitLines text)[index]? = some line) :
    lineOffset text (index + 1) = lineOffset text index + byteLength line + 1 := by
  rw [lineOffset, lineOffset, List.take_add_one, h]
  simp [Nat.add_assoc]

theorem lineOffset_le (text : List Char) {index index' : Nat} (h : index ≤ index') :
    lineOffset text index ≤ lineOffset text index' := by
  obtain ⟨more, rfl⟩ := Nat.exists_eq_add_of_le h
  rw [lineOffset, lineOffset, List.take_add, linesLength_append]
  omega

/-- A character in front of a text begins its first line, or is the feed behind a new one. -/
theorem splitLines_cons_eq (c : Char) (rest : List Char) :
    ∃ first lines, splitLines rest = first :: lines ∧
      splitLines (c :: rest) = if c = '\n' then [] :: first :: lines else (c :: first) :: lines := by
  cases hlines : splitLines rest with
  | nil => exact absurd hlines (splitLines_ne_nil rest)
  | cons first lines => exact ⟨first, lines, rfl, by rw [splitLines_cons, hlines, addChar]⟩

/-- With a line feed behind the last line too, the lines have one byte more than the text. -/
theorem linesLength_splitLines (text : List Char) :
    linesLength (splitLines text) = byteLength text + 1 := by
  induction text with
  | nil => rfl
  | cons c rest ih =>
    obtain ⟨first, lines, hrest, hlines⟩ := splitLines_cons_eq c rest
    rw [hrest, linesLength_cons] at ih
    rw [hlines, byteLength_cons]
    by_cases hc : c = '\n'
    · have hsize : '\n'.utf8Size = 1 := rfl
      simp [hc, hsize]
      omega
    · simp [hc]
      omega

/-- The last line ends with the text. -/
theorem lineOffset_add_of_last {text line : List Char} {index : Nat}
    (h : (splitLines text)[index]? = some line) (hlast : (splitLines text)[index + 1]? = none) :
    lineOffset text index + byteLength line = byteLength text := by
  have hall : lineOffset text (index + 1) = byteLength text + 1 := by
    rw [lineOffset, List.take_of_length_le (List.getElem?_eq_none_iff.mp hlast),
      linesLength_splitLines]
  rw [lineOffset_succ h] at hall
  omega

/-! ## Lines behind a first character -/

theorem splitLines_newline (rest : List Char) : splitLines ('\n' :: rest) = [] :: splitLines rest := by
  obtain ⟨first, lines, hrest, hlines⟩ := splitLines_cons_eq '\n' rest
  rw [hlines, if_pos rfl, hrest]

theorem lineOffset_newline (rest : List Char) (index : Nat) :
    lineOffset ('\n' :: rest) (index + 1) = lineOffset rest index + 1 := by
  unfold lineOffset
  rw [splitLines_newline, List.take_succ_cons, linesLength_cons, byteLength_nil]
  omega

section

variable {c : Char} (hc : c ≠ '\n') (rest : List Char) (index : Nat)

include hc

theorem exists_splitLines_cons : ∃ first lines, splitLines rest = first :: lines ∧
    splitLines (c :: rest) = (c :: first) :: lines := by
  obtain ⟨first, lines, hrest, hlines⟩ := splitLines_cons_eq c rest
  rw [if_neg hc] at hlines
  exact ⟨first, lines, hrest, hlines⟩

theorem getElem?_splitLines_cons :
    (splitLines (c :: rest))[index + 1]? = (splitLines rest)[index + 1]? := by
  obtain ⟨first, lines, hrest, hlines⟩ := exists_splitLines_cons hc rest
  rw [hlines, hrest, List.getElem?_cons_succ, List.getElem?_cons_succ]

theorem lineOffset_cons :
    lineOffset (c :: rest) (index + 1) = c.utf8Size + lineOffset rest (index + 1) := by
  obtain ⟨first, lines, hrest, hlines⟩ := exists_splitLines_cons hc rest
  unfold lineOffset
  rw [hlines, hrest, List.take_succ_cons, List.take_succ_cons, linesLength_cons, linesLength_cons,
    byteLength_cons]
  omega

end

/-- A line stands in its text, behind as many bytes as its offset says. -/
theorem exists_around_line {text line : List Char} {index : Nat}
    (h : (splitLines text)[index]? = some line) :
    ∃ front back, text = front ++ (line ++ back) ∧ byteLength front = lineOffset text index := by
  induction text generalizing line index with
  | nil =>
    cases index with
    | zero =>
      cases h
      exact ⟨[], [], rfl, rfl⟩
    | succ index => cases h
  | cons c rest ih =>
    by_cases hc : c = '\n'
    · subst hc
      rw [splitLines_newline] at h
      cases index with
      | zero =>
        cases h
        exact ⟨[], '\n' :: rest, rfl, rfl⟩
      | succ index =>
        obtain ⟨front, back, hrest, hfront⟩ := ih h
        refine ⟨'\n' :: front, back, congrArg ('\n' :: ·) hrest, ?_⟩
        have hsize : '\n'.utf8Size = 1 := rfl
        rw [lineOffset_newline, byteLength_cons, hfront, hsize, Nat.add_comm]
    · cases index with
      | zero =>
        -- the first line stands at the very front
        obtain ⟨first, lines, hsplit, hlines⟩ := exists_splitLines_cons hc rest
        rw [hlines] at h
        cases h
        obtain ⟨front, back, hrest, hfront⟩ := @ih first 0 (by rw [hsplit]; rfl)
        have hnil : front = [] := by
          by_contra hne
          exact Nat.ne_of_gt (byteLength_pos hne) hfront
        rw [hnil] at hrest
        exact ⟨[], back, congrArg (c :: ·) hrest, rfl⟩
      | succ index =>
        rw [getElem?_splitLines_cons hc] at h
        obtain ⟨front, back, hrest, hfront⟩ := ih h
        refine ⟨c :: front, back, congrArg (c :: ·) hrest, ?_⟩
        rw [lineOffset_cons hc, byteLength_cons, hfront]

end Text

namespace SourceMap

open Text

/-- Lines are placed behind what has been placed. -/
theorem toList_foldl_place (lines : List (List Char)) (placed : Array SourceLine) (start : Nat) :
    (lines.foldl (fun (placed, start) line =>
        (placed.push ⟨start, line⟩, start + byteLength line + 1)) (placed, start)).1.toList
      = placed.toList ++ lines.mapIdx fun index line =>
          ⟨start + linesLength (lines.take index), line⟩ := by
  induction lines generalizing placed start with
  | nil => simp
  | cons line lines ih =>
    rw [List.foldl_cons, ih, List.mapIdx_cons, Array.toList_push, List.append_assoc]
    simp [Nat.add_assoc]

/-- The line with an index stands at its offset. -/
theorem getElem?_lines_ofText (source : String) (index : Nat) :
    (ofText source).lines[index]? = (splitLines source.toList)[index]?.map fun line =>
      ⟨lineOffset source.toList index, line⟩ := by
  rw [ofText, place, ← Array.getElem?_toList, toList_foldl_place]
  simp [lineOffset]

theorem lineCount_ofText (source : String) :
    (ofText source).lineCount = (splitLines source.toList).length := by
  rw [lineCount, ofText, place, ← Array.length_toList, toList_foldl_place]
  simp

theorem start_lines_ofText (source : String) {index : Nat}
    (h : index < (ofText source).lines.size) :
    (ofText source).lines[index].start = lineOffset source.toList index := by
  have hline := getElem?_lines_ofText source index
  rw [Array.getElem?_eq_getElem h, eq_comm, Option.map_eq_some_iff] at hline
  obtain ⟨line, -, heq⟩ := hline
  rw [← heq]

/-- The first line that starts behind an offset is the one behind the line of the offset. -/
theorem findIdx?_lines_ofText {source : String} {index : Nat} {line : List Char}
    (h : (splitLines source.toList)[index]? = some line) {offset : Nat}
    (hfrom : lineOffset source.toList index ≤ offset)
    (hto : ∀ next, (splitLines source.toList)[index + 1]? = some next →
      offset < lineOffset source.toList (index + 1)) :
    ((ofText source).lines.findIdx? (offset < ·.start)).getD (ofText source).lines.size
      = index + 1 := by
  have hsize : (ofText source).lines.size = (splitLines source.toList).length :=
    lineCount_ofText source
  have hindex : index < (ofText source).lines.size :=
    hsize ▸ (List.getElem?_eq_some_iff.mp h).1
  have hnext (hlt : index + 1 < (ofText source).lines.size) :
      offset < lineOffset source.toList (index + 1) :=
    hto _ (List.getElem?_eq_getElem (hsize ▸ hlt))
  cases hfound : (ofText source).lines.findIdx? (offset < ·.start) with
  | none =>
    -- no line starts behind the offset, so the line is the last one
    rw [Array.findIdx?_eq_none_iff] at hfound
    by_contra hne
    have hlt : index + 1 < (ofText source).lines.size := by
      rw [Option.getD_none] at hne
      omega
    have hnot := hfound _ (Array.getElem_mem hlt)
    rw [start_lines_ofText source hlt] at hnot
    exact of_decide_eq_false hnot (hnext hlt)
  | some found =>
    obtain ⟨hlt, hstart, hearlier⟩ := Array.findIdx?_eq_some_iff_getElem.mp hfound
    rw [start_lines_ofText source hlt] at hstart
    rw [Option.getD_some]
    rcases Nat.lt_trichotomy found (index + 1) with hbefore | heq | hbehind
    · have hle := lineOffset_le source.toList (Nat.le_of_lt_succ hbefore)
      have hstart := of_decide_eq_true hstart
      omega
    · exact heq
    · have hnot := hearlier (index + 1) hbehind
      rw [start_lines_ofText source (Nat.lt_trans hbehind hlt)] at hnot
      exact absurd (decide_eq_true (hnext (Nat.lt_trans hbehind hlt))) hnot

/-- The position of an offset that is on a line comes from a cut of the line. -/
theorem positionAt?_of_mem_line {source : String} {index : Nat} {line : List Char}
    (h : (splitLines source.toList)[index]? = some line) {offset : Nat}
    (hfrom : lineOffset source.toList index ≤ offset)
    (hto : ∀ next, (splitLines source.toList)[index + 1]? = some next →
      offset < lineOffset source.toList (index + 1)) :
    (ofText source).positionAt? offset
      = (splitBytes (offset - lineOffset source.toList index) line).map fun cut =>
          ⟨offset - lineOffset source.toList index, index + 1, cut.1.length + 1⟩ := by
  unfold positionAt?
  dsimp only
  rw [findIdx?_lines_ofText h hfrom hto, Nat.add_sub_cancel, getElem?_lines_ofText, h, Option.map_some]
  show (splitBytes (offset - lineOffset source.toList index) line >>= _) = _
  cases splitBytes (offset - lineOffset source.toList index) line <;> rfl

/-- The place behind a front of a line. -/
theorem positionAt?_of_line {source : String} {index : Nat} {before after : List Char}
    (h : (splitLines source.toList)[index]? = some (before ++ after)) :
    (ofText source).positionAt? (lineOffset source.toList index + byteLength before)
      = some ⟨byteLength before, index + 1, before.length + 1⟩ := by
  have hto (next : List Char) (_ : (splitLines source.toList)[index + 1]? = some next) :
      lineOffset source.toList index + byteLength before < lineOffset source.toList (index + 1) := by
    rw [lineOffset_succ h, byteLength_append]
    omega
  rw [positionAt?_of_mem_line h (Nat.le_add_right _ _) hto, Nat.add_sub_cancel_left,
    splitBytes_append]
  rfl

end SourceMap
end LineLexer
