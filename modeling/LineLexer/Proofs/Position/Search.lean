import LineLexer.Proofs.Position.Layout
import LineLexer.Proofs.Except

/-!
# The search for a line

The line of an offset is found by halving the starts of the lines. The steps are written out here with
all that can go wrong in them (`SourceMap.positionInSteps`): a start is read by its index, a number is
counted down, and the text from the start of the line up to the offset is cut out. As the first line
starts at the very front and the lines start in their order, the search ends at the line of the offset
(`SourceMap.lineIndex_spec`), and only the cut can be without an answer. With that a source map answers
each offset between two characters with the one position that tells the offset again
(`SourceMap.offsets_located`).
-/

namespace LineLexer

/-! ## Cuts of lines -/

namespace Text

theorem splitBytesFrom_append_of_le {count : Nat} (taken : List Char) {front : List Char}
    (h : count ≤ byteLength front) (back : List Char) :
    splitBytesFrom taken count (front ++ back)
      = (splitBytesFrom taken count front).map fun cut => (cut.1, cut.2 ++ back) := by
  induction front generalizing taken count with
  | nil =>
    obtain rfl := Nat.le_zero.mp h
    simp [splitBytesFrom]
  | cons c front ih =>
    cases count with
    | zero => simp [splitBytesFrom]
    | succ count =>
      rw [byteLength_cons] at h
      rw [List.cons_append, splitBytesFrom, splitBytesFrom]
      split
      · exact ih (c :: taken) (by omega)
      · rfl

/-- A cut within the front of a text is one of the front. -/
theorem splitBytes_append_of_le {count : Nat} {front : List Char} (h : count ≤ byteLength front)
    (back : List Char) :
    splitBytes count (front ++ back)
      = (splitBytes count front).map fun cut => (cut.1, cut.2 ++ back) :=
  splitBytesFrom_append_of_le [] h back

/-- From the start of a line up to an offset in front of the next line, the text is cut where the line
is. -/
theorem sliceBytes_of_mem_line {text line : List Char} {index offset : Nat}
    (h : (splitLines text)[index]? = some line) (hfrom : lineOffset text index ≤ offset)
    (hto : ∀ next, (splitLines text)[index + 1]? = some next → offset < lineOffset text (index + 1)) :
    sliceBytes (lineOffset text index) offset text
      = (splitBytes (offset - lineOffset text index) line).map Prod.fst := by
  obtain ⟨front, back, htext, hfront⟩ := exists_around_line h
  have hslice : sliceBytes (lineOffset text index) offset text
      = (splitBytes (offset - lineOffset text index) (line ++ back)).map Prod.fst := by
    have hcut : splitBytes (lineOffset text index) text = some (front, line ++ back) := by
      rw [← hfront]
      exact htext ▸ splitBytes_append front (line ++ back)
    rw [sliceBytes, if_neg (Nat.not_lt.mpr hfrom), hcut]
    show (splitBytes (offset - lineOffset text index) (line ++ back) >>= _) = _
    cases splitBytes (offset - lineOffset text index) (line ++ back) <;> rfl
  rw [hslice]
  cases hnext : (splitLines text)[index + 1]? with
  | some next =>
    have hlt := hto next hnext
    rw [lineOffset_succ h] at hlt
    rw [splitBytes_append_of_le (by omega), Option.map_map]
    rfl
  | none =>
    -- the line is the last one, so nothing stands behind it
    have hback : byteLength back = 0 := by
      have hlength := congrArg byteLength htext
      rw [byteLength_append, byteLength_append, hfront] at hlength
      have hlast := lineOffset_add_of_last h hnext
      omega
    have hnil : back = [] := by
      by_contra hne
      exact Nat.ne_of_gt (byteLength_pos hne) hback
    rw [hnil, List.append_nil]

end Text

namespace SourceMap

open Text

/-! ## Steps -/

/-- A step that has no answer. -/
inductive Fault where
  /-- There is no number below zero. -/
  | countdown
  /-- No number has the index. -/
  | index
  /-- The bytes are not within the text, or they begin or end inside a character. -/
  | cut
  /-- The column of the end is before that of the start. -/
  | columns
deriving DecidableEq, Repr

def oneBelow : Nat → Except Fault Nat
  | 0 => .error .countdown
  | number + 1 => .ok number

def numberAt (numbers : List Nat) (index : Nat) : Except Fault Nat :=
  match numbers[index]? with
  | some number => .ok number
  | none => .error .index

/-- The text between two byte offsets. -/
def cutText (start stop : Nat) (text : List Char) : Except Fault (List Char) :=
  match sliceBytes start stop text with
  | some middle => .ok middle
  | none => .error .cut

theorem numberAt_eq_ok {numbers : List Nat} {index number : Nat} (h : numbers[index]? = some number) :
    numberAt numbers index = .ok number := by
  rw [numberAt, h]

/-! ## Halving -/

/-- Where a search through numbers ends. -/
inductive SearchEnd where
  /-- The number with this index is the one. -/
  | found (index : Nat)
  /-- It is none of the numbers, and would stand at this index. -/
  | missing (index : Nat)
deriving DecidableEq, Repr

/-- Goes on with a search in the numbers from `base` on, `size` of them, until only one is left. Its
index is the answer. -/
def halve (numbers : List Nat) (key base size : Nat) : Except Fault Nat :=
  if size ≤ 1 then .ok base
  else do
    let middle ← numberAt numbers (base + size / 2)
    halve numbers key (if key < middle then base else base + size / 2) (size - size / 2)
termination_by size
decreasing_by omega

/-- Searches for a number in numbers that stand in their order. -/
def search (numbers : List Nat) (key : Nat) : Except Fault SearchEnd :=
  if numbers.length = 0 then .ok (.missing 0)
  else do
    let index ← halve numbers key 0 numbers.length
    let number ← numberAt numbers index
    if number = key then return .found index
    else return .missing (if number < key then index + 1 else index)

/-- The numbers stand in their order, and none stands twice. -/
def IsIncreasing (numbers : List Nat) : Prop :=
  ∀ ⦃index index' number number' : Nat⦄, numbers[index]? = some number → numbers[index']? = some number' →
    index < index' → number < number'

/-- The part of the numbers from `base` on, `size` of them, is where a key has to be looked for. -/
structure Frames (numbers : List Nat) (key base size : Nat) : Prop where
  pos : 0 < size
  fits : base + size ≤ numbers.length
  low : base = 0 ∨ ∃ number, numbers[base]? = some number ∧ number ≤ key
  high : ∀ index number, base + size ≤ index → numbers[index]? = some number → key < number

/-- Halving keeps the part in which the key has to be looked for. -/
theorem Frames.halve {numbers : List Nat} (hsorted : IsIncreasing numbers) {key base size middle : Nat}
    (h : Frames numbers key base size) (hsize : 1 < size)
    (hmiddle : numbers[base + size / 2]? = some middle) :
    Frames numbers key (if key < middle then base else base + size / 2) (size - size / 2) := by
  have hfits := h.fits
  by_cases hkey : key < middle
  · rw [if_pos hkey]
    refine ⟨by omega, by omega, h.low, fun index number hindex hnumber => ?_⟩
    -- the middle is past the key, and so is all that is behind it
    obtain hsame | hbehind := Nat.eq_or_lt_of_le (show base + size / 2 ≤ index by omega)
    · rw [← hsame, hmiddle] at hnumber
      cases hnumber
      exact hkey
    · exact Nat.lt_trans hkey (hsorted hmiddle hnumber hbehind)
  · rw [if_neg hkey]
    refine ⟨by omega, by omega, .inr ⟨middle, hmiddle, Nat.not_lt.mp hkey⟩,
      fun index number hindex hnumber => h.high index number (by omega) hnumber⟩

/-- Halving ends at one number without a fault. -/
theorem Frames.exists_halve {numbers : List Nat} (hsorted : IsIncreasing numbers)
    {key base size : Nat} (h : Frames numbers key base size) :
    ∃ index, SourceMap.halve numbers key base size = .ok index ∧ Frames numbers key index 1 := by
  induction size using Nat.strongRecOn generalizing base with
  | ind size ih =>
    have hpos := h.pos
    have hfits := h.fits
    rw [SourceMap.halve]
    by_cases hone : size ≤ 1
    · obtain rfl : size = 1 := by omega
      exact ⟨base, if_pos hone, h⟩
    · have hmiddle : numbers[base + size / 2]? = some numbers[base + size / 2] :=
        List.getElem?_eq_getElem (by omega)
      rw [if_neg hone, numberAt_eq_ok hmiddle, ok_bind]
      exact ih _ (by omega) (h.halve hsorted (by omega) hmiddle)

/-- A search in numbers that begin at or below the key ends at the last one that is not past the
key, or right behind it. -/
theorem exists_search {numbers : List Nat} (hsorted : IsIncreasing numbers) {key : Nat}
    (hfirst : ∃ first, numbers[0]? = some first ∧ first ≤ key) :
    ∃ index number, numbers[index]? = some number ∧ number ≤ key ∧
      (∀ next, numbers[index + 1]? = some next → key < next) ∧
      (search numbers key = .ok (.found index) ∨ search numbers key = .ok (.missing (index + 1))) := by
  obtain ⟨first, hnumber, hfirst⟩ := hfirst
  have hpos : 0 < numbers.length := (List.getElem?_eq_some_iff.mp hnumber).1
  have hframes : Frames numbers key 0 numbers.length := by
    refine ⟨hpos, by omega, .inl rfl, fun index number hindex hnumber => ?_⟩
    rw [List.getElem?_eq_none (by omega)] at hnumber
    cases hnumber
  obtain ⟨index, hhalve, hend⟩ := hframes.exists_halve hsorted
  obtain ⟨number, hat, hle⟩ : ∃ number, numbers[index]? = some number ∧ number ≤ key := by
    obtain rfl | hlow := hend.low
    · exact ⟨first, hnumber, hfirst⟩
    · exact hlow
  refine ⟨index, number, hat, hle, fun next => hend.high (index + 1) next (Nat.le_refl _), ?_⟩
  rw [search, if_neg (by omega), hhalve, ok_bind, numberAt_eq_ok hat, ok_bind]
  by_cases hkey : number = key
  · exact .inl (if_pos hkey)
  · rw [if_neg hkey, if_pos (Nat.lt_of_le_of_ne hle hkey)]
    exact .inr rfl

/-! ## The position of an offset in steps -/

/-- The index of the line of an offset, from the offsets at which the lines start. -/
def lineIndex (starts : List Nat) (offset : Nat) : Except Fault Nat := do
  match ← search starts offset with
  | .found index => return index
  | .missing index => oneBelow index

/-- The position of a byte offset, step by step. Lines and columns are numbers of bounded size. -/
def positionInSteps (source : String) (offset : Nat) : Except Fault Position := do
  let index ← lineIndex (lineStarts source.toList) offset
  let start ← numberAt (lineStarts source.toList) index
  let passed ← cutText start offset source.toList
  return ⟨offset - start, (index + 1) % Limits.numberSize, (passed.length + 1) % Limits.numberSize⟩

/-- Each offset is behind the start of one line, and in front of that of the next one. The search
finds that line. -/
theorem lineIndex_spec (text : List Char) (offset : Nat) : ∃ index line,
    (splitLines text)[index]? = some line ∧ lineOffset text index ≤ offset ∧
      (∀ next, (splitLines text)[index + 1]? = some next → offset < lineOffset text (index + 1)) ∧
      lineIndex (lineStarts text) offset = .ok index := by
  have hsorted : IsIncreasing (lineStarts text) := fun _ _ _ _ h h' => lineStarts_lt h h'
  obtain ⟨index, start, hstart, hle, hnext, hsearch⟩ :=
    exists_search hsorted ⟨0, rfl, Nat.zero_le offset⟩
  obtain ⟨line, hline, rfl⟩ := exists_of_getElem?_lineStarts hstart
  refine ⟨index, line, hline, hle, fun next hbehind => ?_, ?_⟩
  · exact hnext _ (by rw [getElem?_lineStarts, hbehind, Option.map_some])
  · rw [lineIndex]
    obtain hfound | hmissing := hsearch
    · rw [hfound]
      rfl
    · rw [hmissing]
      rfl

section

variable {source : String} (hlines : (ofText source).lineCount < Limits.numberSize)
  (hcolumns : ∀ line ∈ splitLines source.toList, line.length + 1 < Limits.numberSize)

include hlines hcolumns

/-- The steps come to the position, and if there is none it is for the cut. -/
theorem positionInSteps_eq (offset : Nat) : positionInSteps source offset
    = ((ofText source).positionAt? offset).elim (.error .cut) .ok := by
  obtain ⟨index, line, hline, hfrom, hto, hindex⟩ := lineIndex_spec source.toList offset
  have hstart : (lineStarts source.toList)[index]? = some (lineOffset source.toList index) := by
    rw [getElem?_lineStarts, hline, Option.map_some]
  rw [positionInSteps, hindex, ok_bind, numberAt_eq_ok hstart, ok_bind,
    positionAt?_of_mem_line hline hfrom hto, cutText, sliceBytes_of_mem_line hline hfrom hto]
  cases hcut : splitBytes (offset - lineOffset source.toList index) line with
  | none => rfl
  | some cut =>
    -- the numbers of the line and of the column are within their bounds
    have hnumber : index + 1 < Limits.numberSize := by
      have hlt := (List.getElem?_eq_some_iff.mp hline).1
      rw [lineCount_ofText] at hlines
      omega
    have hcolumn : cut.1.length + 1 < Limits.numberSize := by
      have hbound := hcolumns line (List.mem_of_getElem? hline)
      have hlength := congrArg List.length (splitBytes_eq_some hcut).1
      rw [List.length_append] at hlength
      omega
    simp only [Option.map_some, Option.elim_some, ok_bind, Nat.mod_eq_of_lt hnumber,
      Nat.mod_eq_of_lt hcolumn]
    rfl

end

/-- Each offset between two characters of a text is answered with the one position that tells where
the offset is, and lines and columns have no greater numbers than the text has. Later offsets are
answered with later positions. The steps of the search come to the same answer for every offset, and
the only fault they meet is that the text cannot be cut at the offset. -/
theorem offsets_located {source : String}
    (hlines : (ofText source).lineCount < Limits.numberSize)
    (hcolumns : ∀ line ∈ splitLines source.toList, line.length + 1 < Limits.numberSize) :
    (∀ offset, IsBoundary source.toList offset → ∃ pos,
      positionInSteps source offset = .ok pos ∧
        (ofText source).positionAt? offset = some pos ∧ pos.Locates source.toList offset ∧
        (∀ other : Position, other.Locates source.toList offset → other = pos) ∧
        pos.line < Limits.numberSize ∧ pos.column < Limits.numberSize) ∧
      (∀ offset, positionInSteps source offset
        = ((ofText source).positionAt? offset).elim (.error .cut) .ok) ∧
      ∀ offset offset' pos pos', IsBoundary source.toList offset → IsBoundary source.toList offset' →
        offset < offset' → (ofText source).positionAt? offset = some pos →
        (ofText source).positionAt? offset' = some pos' →
          pos.line < pos'.line ∨ pos.line = pos'.line ∧ pos.offset < pos'.offset := by
  refine ⟨?_, positionInSteps_eq hlines hcolumns, ?_⟩
  · intro offset hoffset
    obtain ⟨index, before, after, hline, hpos, hlocates⟩ := exists_positionAt? hoffset
    refine ⟨_, ?_, hpos, hlocates, fun other hother => hother.unique hlocates, ?_, ?_⟩
    · rw [positionInSteps_eq hlines hcolumns, hpos, Option.elim_some]
    · have hindex := (List.getElem?_eq_some_iff.mp hline).1
      rw [lineCount_ofText] at hlines
      dsimp only
      omega
    · have hcolumn := hcolumns _ (List.mem_of_getElem? hline)
      rw [List.length_append] at hcolumn
      dsimp only
      omega
  · intro offset offset' pos pos' hoffset hoffset' hlt hpos hpos'
    obtain ⟨_, _, _, -, hfound, hlocates⟩ := exists_positionAt? hoffset
    obtain ⟨_, _, _, -, hfound', hlocates'⟩ := exists_positionAt? hoffset'
    rw [hpos, Option.some_inj] at hfound
    rw [hpos', Option.some_inj] at hfound'
    subst hfound hfound'
    exact hlocates.lt hlocates' hlt

/-- A text with a carriage return, an empty line and a character of two bytes. -/
def stackedText : String := "a\r\n\né"

/-- The end of the text is on the third line. -/
theorem stackedText_located :
    (ofText stackedText).lineCount < Limits.numberSize ∧
      (∀ line ∈ splitLines stackedText.toList, line.length + 1 < Limits.numberSize) ∧
      IsBoundary stackedText.toList 6 ∧
      (ofText stackedText).positionAt? 6 = some ⟨2, 3, 2⟩ ∧
      positionInSteps stackedText 6 = .ok ⟨2, 3, 2⟩ ∧
      (Position.mk 2 3 2).Locates stackedText.toList 6 := by
  have hlines : (ofText stackedText).lineCount < Limits.numberSize := by decide
  have hcolumns : ∀ line ∈ splitLines stackedText.toList, line.length + 1 < Limits.numberSize := by
    decide
  have hend : IsBoundary stackedText.toList 6 := ⟨stackedText.toList, List.prefix_rfl, by decide⟩
  have hanswer : (ofText stackedText).positionAt? 6 = some ⟨2, 3, 2⟩ := by decide +kernel
  obtain ⟨pos, hsteps, hpos, hlocates, -⟩ := (offsets_located hlines hcolumns).1 6 hend
  rw [hanswer, Option.some_inj] at hpos
  exact ⟨hlines, hcolumns, hend, hanswer, hpos ▸ hsteps, hpos ▸ hlocates⟩

end SourceMap
end LineLexer
