import LineLexer.Proofs.Tokenize.Safety

/-!
# What an edit touches

Lines are scanned again from the edited one up to the first that settles, that is, ends with the stack
with which the same line has ended before (`Draft.Rescans`, `Buffer.Written.stop`). The lines in front
are as they were, and the lines behind are those that have been there, with the numbers of their new
places (`Buffer.Written.back`). Stacks are compared by their indices, which comes to the same as
comparing their names (`Buffer.Reachable.endState_inj`).
-/

namespace LineLexer

/-! ## Places before and after an edit -/

namespace Edit

/-- The line that an edit names. -/
def index : Edit → Nat
  | update index _ | insert index _ | remove index => index

/-- The place that a line has had before the edit. A line that was put in had none. -/
def origin? : Edit → Nat → Option Nat
  | update _ _, place => some place
  | insert index _, place =>
    if place < index then some place else if place = index then none else some (place - 1)
  | remove index, place => if place < index then some place else some (place + 1)

/-- The line at a place after the edit, as it was before. -/
def lineBefore? (change : Edit) (before : Buffer) (place : Nat) : Option BufferLine :=
  (change.origin? place).bind (before.lines[·]?)

end Edit

/-- The line at a place ends with the stack with which it has ended before the edit. -/
def Edit.Settles (change : Edit) (before after : Buffer) (place : Nat) : Prop :=
  ∃ line line', after.lines[place]? = some line ∧ change.lineBefore? before place = some line' ∧
    line.endState = line'.endState

/-- The same line elsewhere. -/
def BufferLine.onLine (line : BufferLine) (number : Nat) : BufferLine :=
  { line with tokens := line.tokens.map (·.onLine number) }

/-- An edit touches the lines of a range and no others. -/
structure Edit.TouchesOnly (change : Edit) (before after : Buffer) (range : LineRange) : Prop where
  start : range.start = change.index
  stop : (∃ last, range.stop = last + 1 ∧ change.index ≤ last ∧ change.Settles before after last ∧
      ∀ place, change.index ≤ place → place < last → ¬change.Settles before after place) ∨
    (range.stop = after.lineCount ∧
      ∀ place, change.index ≤ place → ¬change.Settles before after place)
  front : after.lines.take change.index = before.lines.take change.index
  back : ∀ place, range.stop ≤ place → after.lines[place]?
    = (change.lineBefore? before place).map (·.onLine (lineNumber place))

/-! ## Drafts -/

/-- The draft holds the lines in the places to which the edit has moved them. From `compareFrom` on
they hold the stacks of these lines, in front of it there is none to compare with. -/
structure Draft.Moves (draft : Draft) (change : Edit) (before : Buffer) : Prop where
  start : draft.start = change.index
  unknown : ∀ place, draft.start ≤ place → ¬draft.compareFrom ≤ place →
    change.lineBefore? before place = none
  frames : ∀ place, draft.start ≤ place → draft.compareFrom ≤ place →
    draft.lines[place]?.map (·.frames) = (change.lineBefore? before place).map (·.frames)
  behind : ∀ place, draft.start < place → draft.lines[place]? = change.lineBefore? before place

theorem Buffer.moves_of_draft {buffer : Buffer} {change : Edit} {draft : Draft}
    (h : buffer.draft change = .ok draft) : draft.Moves change buffer := by
  have hadmissible := admissible_of_draft h
  cases change with
  | update index text =>
    rw [draft_update_eq hadmissible.1 hadmissible.2] at h
    cases h
    refine ⟨rfl, fun place hle hnot => absurd hle hnot, fun place _ _ => ?_, fun place hlt => ?_⟩
    · rw [List.getElem?_modify]
      show _ = (buffer.lines[place]?).map _
      split <;> cases buffer.lines[place]? <;> rfl
    · have hne : index ≠ place := Nat.ne_of_lt hlt
      rw [List.getElem?_modify]
      simp only [if_neg hne]
      exact congrFun Option.map_id _
  | insert index text =>
    rw [draft_insert_eq hadmissible.1 hadmissible.2] at h
    cases h
    have hbehind : ∀ place, index < place →
        (buffer.lines.insertIdx index ⟨lineText text, [], .initial, []⟩)[place]?
          = (Edit.insert index text).lineBefore? buffer place := by
      intro place hlt
      have hnot : ¬place < index := Nat.not_lt.mpr (Nat.le_of_lt hlt)
      rw [List.getElem?_insertIdx, if_neg hnot, if_neg (Nat.ne_of_gt hlt), Edit.lineBefore?,
        Edit.origin?, if_neg hnot, if_neg (Nat.ne_of_gt hlt)]
      rfl
    refine ⟨rfl, fun place hle hnot => ?_, fun place _ hle => ?_, hbehind⟩
    · have heq : place = index := Nat.le_antisymm (Nat.le_of_lt_succ (Nat.not_le.mp hnot)) hle
      rw [heq, Edit.lineBefore?, Edit.origin?, if_neg (Nat.lt_irrefl index), if_pos rfl]
      rfl
    · exact congrArg (Option.map BufferLine.frames) (hbehind place hle)
  | remove index =>
    rw [draft_remove_eq hadmissible] at h
    cases h
    have hfrom : ∀ place, index ≤ place →
        (buffer.lines.eraseIdx index)[place]? = (Edit.remove index).lineBefore? buffer place := by
      intro place hle
      rw [List.getElem?_eraseIdx, if_neg (Nat.not_lt.mpr hle), Edit.lineBefore?, Edit.origin?,
        if_neg (Nat.not_lt.mpr hle)]
      rfl
    refine ⟨rfl, fun place hle hnot => absurd hle hnot, fun place hle _ => ?_,
      fun place hlt => hfrom place (Nat.le_of_lt hlt)⟩
    exact congrArg (Option.map BufferLine.frames) (hfrom place hle)

/-! ## Scanning again -/

/-- A line that was scanned again ends with the stack that it had before. -/
def Draft.SettlesAt (compareFrom index : Nat) (lines new : List BufferLine) (offset : Nat) : Prop :=
  compareFrom ≤ index + offset ∧
    ∃ line line', new[offset]? = some line ∧ lines[offset]? = some line' ∧ line.frames = line'.frames

namespace Draft

variable {grammar : Grammar} {compareFrom index : Nat} {lines new : List BufferLine}

theorem settlesAt_cons_succ {line line' : BufferLine} {offset : Nat} :
    SettlesAt compareFrom index (line :: lines) (line' :: new) (offset + 1)
      ↔ SettlesAt compareFrom (index + 1) lines new offset := by
  rw [SettlesAt, SettlesAt, List.getElem?_cons_succ, List.getElem?_cons_succ, Nat.add_right_comm,
    Nat.add_assoc]

/-- What scanning again has come to: lines one after the other, up to the first one that settles. -/
structure Rescans (compareFrom index : Nat) (lines new kept : List BufferLine) : Prop where
  kept : kept = lines.drop new.length
  first : ∀ offset, offset + 1 < new.length → ¬SettlesAt compareFrom index lines new offset
  stop : new.length = lines.length ∨
    ∃ last, new.length = last + 1 ∧ SettlesAt compareFrom index lines new last

namespace Rescans

variable {kept : List BufferLine} {line line' : BufferLine}

theorem nil (compareFrom index : Nat) : Rescans compareFrom index [] [] [] :=
  ⟨rfl, fun _ hlt => absurd hlt (Nat.not_lt_zero _), .inl rfl⟩

/-- A line that settles is the last one. -/
theorem settle (hcompare : compareFrom ≤ index) (hsame : line'.frames = line.frames) :
    Rescans compareFrom index (line :: kept) [line'] kept :=
  ⟨rfl, fun _ hlt => absurd (Nat.lt_of_succ_lt_succ hlt) (Nat.not_lt_zero _),
    .inr ⟨0, rfl, hcompare, line', line, rfl, rfl, hsame⟩⟩

/-- Behind a line that does not settle scanning goes on. -/
theorem cons (hnot : ¬(compareFrom ≤ index ∧ line'.frames = line.frames))
    (h : Rescans compareFrom (index + 1) lines new kept) :
    Rescans compareFrom index (line :: lines) (line' :: new) kept := by
  refine ⟨h.kept, fun offset hlt => ?_, ?_⟩
  · cases offset with
    | zero =>
      rintro ⟨hcompare, found, found', hfound, hfound', hsame⟩
      cases hfound
      cases hfound'
      exact hnot ⟨hcompare, hsame⟩
    | succ offset =>
      exact fun hsettles =>
        h.first offset (Nat.lt_of_succ_lt_succ hlt) (settlesAt_cons_succ.mp hsettles)
  · rcases h.stop with hall | ⟨last, hlast, hsettles⟩
    · exact .inl (congrArg (· + 1) hall)
    · exact .inr ⟨last + 1, congrArg (· + 1) hlast, settlesAt_cons_succ.mpr hsettles⟩

end Rescans

theorem frames_toBufferLine {line : BufferLine} {scan : Scan} {settled : Bool}
    (h : settled = true → scan.frames = line.frames) :
    ((RescannedLine.mk line scan settled).toBufferLine grammar).frames = scan.frames := by
  cases settled with
  | false => rfl
  | true => exact (h rfl).symm

theorem rescans_rescanFrom (frames : Frames)
    (hfault : (rescanFrom grammar compareFrom [] frames index lines).fault? = none) :
    let rescan := rescanFrom grammar compareFrom [] frames index lines
    Rescans compareFrom index lines (rescan.scanned.map (·.toBufferLine grammar)) rescan.kept := by
  induction lines generalizing frames index with
  | nil => exact .nil compareFrom index
  | cons line rest ih =>
    rw [rescanFrom] at hfault ⊢
    generalize (grammar.scanLine frames index line.text).scan = scan at hfault ⊢
    generalize hsettled : (decide (compareFrom ≤ index) && decide (scan.frames = line.frames)) = settled
      at hfault ⊢
    have hsettles : settled = true ↔ compareFrom ≤ index ∧ scan.frames = line.frames := by
      rw [← hsettled, Bool.and_eq_true, decide_eq_true_iff, decide_eq_true_iff]
    have hline := @frames_toBufferLine grammar line scan settled fun h => (hsettles.mp h).2
    cases hrefused : scan.refused with
    | some state =>
      -- the line would have a fault
      simp only [hrefused, Option.isSome_some, Bool.true_or, if_true] at hfault
      have hnone : scan.fault? = none := hfault
      rw [Scan.fault?_of_refused hrefused] at hnone
      cases hnone
    | none =>
      simp only [hrefused, Option.isSome_none, Bool.false_or] at hfault ⊢
      cases settled with
      | true =>
        obtain ⟨hcompare, hsame⟩ := hsettles.mp rfl
        exact .settle hcompare (hline.trans hsame)
      | false =>
        have hnot : ¬(compareFrom ≤ index ∧ scan.frames = line.frames) :=
          fun h => Bool.false_ne_true (hsettles.mpr h)
        simp only [Bool.false_eq_true, if_false] at hfault ⊢
        rw [Grammar.rescanFrom_append, List.reverse_singleton, List.singleton_append] at hfault ⊢
        rw [Rescan.fault?_cons hrefused _ _ _] at hfault
        exact (ih scan.frames hfault).cons (hline ▸ hnot)

end Draft

/-! ## Stacks by their names -/

namespace Buffer

variable {grammar : Grammar} {buffer after : Buffer} {change : Edit} {draft : Draft}

/-- In buffers of a grammar, lines end with the same stack if they do so by its names. -/
theorem Reachable.endState_inj (hgrammar : grammar.WellFormed) (h : Reachable grammar buffer)
    (hafter : Reachable grammar after) {line line' : BufferLine} (hline : line ∈ after.lines)
    (hline' : line' ∈ buffer.lines) :
    line.endState = line'.endState ↔ line.frames = line'.frames := by
  obtain ⟨rfl, hfresh⟩ := h.fresh
  obtain ⟨hsame, hfresh'⟩ := hafter.fresh
  rw [Fresh, hsame] at hfresh'
  rw [hfresh'.endState_eq line hline, hfresh.endState_eq line' hline']
  exact hgrammar.ofFrames_inj
    (hafter.keeps hgrammar.keeps_validFrames (Grammar.validFrames_nil _) line hline)
    (h.keeps hgrammar.keeps_validFrames (Grammar.validFrames_nil _) line' hline')

end Buffer

/-! ## Lines in their places -/

theorem getElem?_renumberFrom (index : Nat) (lines : List BufferLine) (offset : Nat) :
    (renumberFrom index lines)[offset]?
      = lines[offset]?.map (·.onLine (lineNumber (index + offset))) := by
  rw [renumberFrom, List.getElem?_map, List.getElem?_zipIdx, Option.map_map, Nat.zero_add]
  rfl

theorem BufferLine.onLine_onLine (line : BufferLine) (number number' : Nat) :
    (line.onLine number).onLine number' = line.onLine number' := by
  rw [onLine, onLine, onLine, List.map_map]
  rfl

/-- Where a draft has no line, there was none. -/
theorem Draft.Moves.eq_none {draft : Draft} {change : Edit} {before : Buffer}
    (h : draft.Moves change before) {place : Nat} (hle : draft.start ≤ place)
    (hnone : draft.lines[place]? = none) : change.lineBefore? before place = none := by
  by_cases hcompare : draft.compareFrom ≤ place
  · have hframes := h.frames place hle hcompare
    rw [hnone] at hframes
    exact Option.map_eq_none_iff.mp hframes.symm
  · exact h.unknown place hle hcompare

namespace Buffer

variable {grammar : Grammar} {buffer after : Buffer} {change : Edit} {draft : Draft}
  {new kept : List BufferLine}

/-- Scanning a draft again has come to new lines, which are written between those in front of them and
those behind them. -/
structure Written (buffer after : Buffer) (change : Edit) (draft : Draft)
    (new kept : List BufferLine) : Prop where
  makes : draft.Makes change buffer
  moves : draft.Moves change buffer
  rescans : Draft.Rescans draft.compareFrom draft.start (draft.lines.drop draft.start) new kept
  lines : after.lines = draft.lines.take draft.start ++ new
    ++ if draft.shifted then renumberFrom (draft.start + new.length) kept else kept

namespace Written

variable (h : Written buffer after change draft new kept)

include h

theorem length_front : (draft.lines.take draft.start).length = draft.start := by
  rw [h.makes.front, List.length_take_of_le h.makes.start_le]

theorem front : after.lines.take draft.start = buffer.lines.take draft.start := by
  rw [h.lines, List.append_assoc, List.take_left' h.length_front, h.makes.front]

theorem getElem?_new {offset : Nat} (hlt : offset < new.length) :
    after.lines[draft.start + offset]? = new[offset]? := by
  rw [h.lines, List.append_assoc, List.getElem?_append_right (by rw [h.length_front]; omega),
    h.length_front, Nat.add_sub_cancel_left, List.getElem?_append_left hlt]

/-- Behind the new lines there are those that have been there, with other numbers. -/
theorem back (hfresh : after.Fresh) {place : Nat} (hle : draft.start + new.length ≤ place) :
    after.lines[place]? = (change.lineBefore? buffer place).map (·.onLine (lineNumber place)) := by
  have hbefore : draft.lines[place]? = change.lineBefore? buffer place := by
    by_cases hlt : draft.start < place
    · exact h.moves.behind place hlt
    · -- no line was scanned, so there is none from the start on
      have hall : new.length = (draft.lines.drop draft.start).length := by
        rcases h.rescans.stop with hall | ⟨last, hlast, -⟩
        · exact hall
        · omega
      rw [List.length_drop] at hall
      have hnone : draft.lines[place]? = none := List.getElem?_eq_none (by omega)
      rw [hnone, h.moves.eq_none (by omega) hnone]
  obtain ⟨offset, rfl⟩ := Nat.exists_eq_add_of_le hle
  have hkept : kept[offset]? = draft.lines[draft.start + new.length + offset]? := by
    rw [h.rescans.kept, List.drop_drop, List.getElem?_drop]
  have hlines : after.lines[draft.start + new.length + offset]?
      = (if draft.shifted then renumberFrom (draft.start + new.length) kept else kept)[offset]? := by
    rw [h.lines, List.getElem?_append_right (by rw [List.length_append, h.length_front]; omega),
      List.length_append, h.length_front, Nat.add_sub_cancel_left]
  -- the numbers are right whether they have been written or not
  have hnumbered : (renumberFrom 0 after.lines)[draft.start + new.length + offset]?
      = after.lines[draft.start + new.length + offset]? := by rw [hfresh.renumberFrom_eq]
  rw [← hnumbered, getElem?_renumberFrom, Nat.zero_add, hlines, ← hbefore, ← hkept]
  split
  · rw [getElem?_renumberFrom, Option.map_map]
    exact congrArg (Option.map · _) (funext fun line => line.onLine_onLine _ _)
  · rfl

/-- A new line has settled if its stack has the names that it had before. -/
theorem settles_iff (hgrammar : grammar.WellFormed) (hbefore : Reachable grammar buffer)
    (hafter : Reachable grammar after) {offset : Nat} (hlt : offset < new.length) :
    change.Settles buffer after (draft.start + offset) ↔
      Draft.SettlesAt draft.compareFrom draft.start (draft.lines.drop draft.start) new offset := by
  have hmem {line' : BufferLine}
      (hline' : change.lineBefore? buffer (draft.start + offset) = some line') :
      line' ∈ buffer.lines := by
    obtain ⟨place, -, hplace⟩ := Option.bind_eq_some_iff.mp hline'
    exact List.mem_of_getElem? hplace
  -- end states are compared by names here, and a rescan compares them by ids
  have hends {line line' : BufferLine} (hline : new[offset]? = some line)
      (hline' : change.lineBefore? buffer (draft.start + offset) = some line') :
      line.endState = line'.endState ↔ line.frames = line'.frames :=
    hbefore.endState_inj hgrammar hafter
      (List.mem_of_getElem? ((h.getElem?_new hlt).trans hline)) (hmem hline')
  have hframes := h.moves.frames (draft.start + offset) (Nat.le_add_right ..)
  rw [Edit.Settles, Draft.SettlesAt, h.getElem?_new hlt, List.getElem?_drop]
  constructor
  · rintro ⟨line, line', hline, hline', hend⟩
    have hcompare : draft.compareFrom ≤ draft.start + offset := by
      by_contra hnot
      cases hline'.symm.trans (h.moves.unknown _ (Nat.le_add_right ..) hnot)
    obtain ⟨found, hfound, heq⟩ : ∃ found, draft.lines[draft.start + offset]? = some found ∧
        found.frames = line'.frames := by
      rw [hline'] at hframes
      exact Option.map_eq_some_iff.mp (hframes hcompare)
    exact ⟨hcompare, line, found, hline, hfound, ((hends hline hline').mp hend).trans heq.symm⟩
  · rintro ⟨hcompare, line, found, hline, hfound, hsame⟩
    obtain ⟨line', hline', heq⟩ : ∃ line', change.lineBefore? buffer (draft.start + offset) = some line' ∧
        line'.frames = found.frames := by
      rw [hfound] at hframes
      exact Option.map_eq_some_iff.mp (hframes hcompare).symm
    exact ⟨line, line', hline, hline', (hends hline hline').mpr (hsame.trans heq.symm)⟩

theorem lineCount_eq (hall : new.length = (draft.lines.drop draft.start).length) :
    after.lineCount = draft.start + new.length := by
  have hkept : kept = [] := by
    rw [h.rescans.kept, hall, List.drop_length]
  have hnone : (if draft.shifted then renumberFrom (draft.start + new.length) kept else kept) = [] := by
    rw [hkept]
    exact ite_self _
  rw [lineCount, h.lines, hnone, List.append_nil, List.length_append, h.length_front]

/-- The new lines are those up to the first one that settles, or all if none does. -/
theorem stop (hgrammar : grammar.WellFormed) (hbefore : Reachable grammar buffer)
    (hafter : Reachable grammar after) :
    (∃ last, draft.start + new.length = last + 1 ∧ draft.start ≤ last ∧
        change.Settles buffer after last ∧
        ∀ place, draft.start ≤ place → place < last → ¬change.Settles buffer after place) ∨
      (draft.start + new.length = after.lineCount ∧
        ∀ place, draft.start ≤ place → ¬change.Settles buffer after place) := by
  have hiff {offset : Nat} (hlt : offset < new.length) :=
    h.settles_iff hgrammar hbefore hafter hlt
  by_cases hlast : ∃ last, new.length = last + 1 ∧ Draft.SettlesAt draft.compareFrom draft.start
      (draft.lines.drop draft.start) new last
  · obtain ⟨last, hlength, hsettles⟩ := hlast
    refine .inl ⟨draft.start + last, by omega, Nat.le_add_right .., (hiff (by omega)).mpr hsettles, ?_⟩
    intro place hle hlt hplace
    obtain ⟨offset, rfl⟩ := Nat.exists_eq_add_of_le hle
    exact h.rescans.first offset (by omega) ((hiff (by omega)).mp hplace)
  · have hall := h.rescans.stop.resolve_right hlast
    refine .inr ⟨(h.lineCount_eq hall).symm, fun place hle hplace => ?_⟩
    obtain ⟨offset, rfl⟩ := Nat.exists_eq_add_of_le hle
    have hlt : offset < new.length := by
      obtain ⟨line, -, hline, -⟩ := hplace
      have hcount := (List.getElem?_eq_some_iff.mp hline).1
      have hlines := h.lineCount_eq hall
      rw [lineCount] at hlines
      omega
    have hsettles := (hiff hlt).mp hplace
    by_cases hnext : offset + 1 < new.length
    · exact h.rescans.first offset hnext hsettles
    · exact hlast ⟨offset, by omega, hsettles⟩

end Written

/-- An edit that succeeds has written lines. -/
theorem exists_written {range : LineRange} (h : (buffer.edit change).1 = .ok range) :
    ∃ draft new kept, Written buffer (buffer.edit change).2 change draft new kept ∧
      range = ⟨draft.start, draft.start + new.length⟩ := by
  rw [edit] at h ⊢
  cases hdraft : buffer.draft change with
  | error fault =>
    rw [hdraft] at h
    cases h
  | ok draft =>
    rw [hdraft] at h
    dsimp only at h ⊢
    rw [commit] at h ⊢
    cases hfault : (draft.rescan buffer.grammar).fault? with
    | some fault =>
      rw [hfault] at h
      cases h
    | none =>
      rw [hfault] at h
      cases h
      have hrescans : Draft.Rescans draft.compareFrom draft.start (draft.lines.drop draft.start)
          ((draft.rescan buffer.grammar).scanned.map (·.toBufferLine buffer.grammar))
          (draft.rescan buffer.grammar).kept :=
        Draft.rescans_rescanFrom draft.startFrames hfault
      refine ⟨draft, _, _, ⟨makes_of_draft hdraft, moves_of_draft hdraft, hrescans, ?_⟩, ?_⟩
      · simp only [List.length_map]
      · rw [List.length_map]

end Buffer

/-! ## Counts -/

/-- How many lines there are in ranges, taken together. -/
def LineRange.total (ranges : List LineRange) : Nat :=
  (ranges.map LineRange.length).foldr (· + ·) 0

theorem LineRange.total_append (ranges ranges' : List LineRange) :
    total (ranges ++ ranges') = total ranges + total ranges' := by
  induction ranges with
  | nil => exact (Nat.zero_add _).symm
  | cons range rest ih =>
    show range.length + total (rest ++ ranges') = range.length + total rest + total ranges'
    rw [ih, Nat.add_assoc]

/-- Counts with more lines that were scanned again. -/
def Metrics.addRescanned (metrics : Metrics) (count : Nat) : Metrics :=
  { metrics with rescanned := metrics.rescanned + count }

namespace Buffer

/-- The ranges of the edits that succeed, made in order. -/
def editRanges (buffer : Buffer) : List Edit → List LineRange
  | [] => []
  | change :: edits =>
    (buffer.edit change).1.toOption.toList ++ (buffer.edit change).2.editRanges edits

/-- An edit counts the lines of its range, if it succeeds, and nothing else. -/
theorem metrics_edit (buffer : Buffer) (change : Edit) :
    (buffer.edit change).2.metrics = buffer.metrics.map
      (·.addRescanned (LineRange.total (buffer.edit change).1.toOption.toList)) := by
  have hnone : buffer.metrics = buffer.metrics.map (·.addRescanned (LineRange.total [])) :=
    (congrFun Option.map_id _).symm
  rw [edit]
  cases buffer.draft change with
  | error fault => exact hnone
  | ok draft =>
    dsimp only
    rw [commit]
    cases (draft.rescan buffer.grammar).fault? with
    | some fault => exact hnone
    | none =>
      have htotal : LineRange.total [⟨draft.start, draft.start + (draft.rescan buffer.grammar).scanned.length⟩]
          = (draft.rescan buffer.grammar).scanned.length := Nat.add_sub_cancel_left ..
      dsimp only [Except.toOption, Option.toList]
      rw [htotal]
      rfl

theorem metrics_run (buffer : Buffer) (edits : List Edit) :
    (buffer.run edits).metrics
      = buffer.metrics.map (·.addRescanned (LineRange.total (buffer.editRanges edits))) := by
  induction edits generalizing buffer with
  | nil => exact (congrFun Option.map_id _).symm
  | cons change edits ih =>
    show ((buffer.edit change).2.run edits).metrics = _
    rw [ih, metrics_edit, Option.map_map, editRanges, LineRange.total_append]
    refine congrArg (Option.map · buffer.metrics) (funext fun metrics => ?_)
    rw [Function.comp, Metrics.addRescanned, Metrics.addRescanned, Metrics.addRescanned, Nat.add_assoc]

/-! ## Edits of a grammar's buffers -/

/-- An edit of a reachable buffer touches the lines from its index up to the first one that ends with
the stack that it had before, and no others; behind them only the numbers of the lines change. Over
any edits the lines of the ranges are counted, and no other count changes. -/
theorem edit_touchesOnly {grammar : Grammar} {document : GrammarDocument} {fallbackName : String}
    (hcompile : Grammar.compile document fallbackName = .ok grammar) {buffer : Buffer}
    (hreach : Reachable grammar buffer) :
    (∀ change range, (buffer.edit change).1 = .ok range →
      change.TouchesOnly buffer (buffer.edit change).2 range) ∧
    ∀ edits, (buffer.run edits).metrics
      = buffer.metrics.map (·.addRescanned (LineRange.total (buffer.editRanges edits))) := by
  refine ⟨fun change range hrange => ?_, buffer.metrics_run⟩
  have hgrammar := Grammar.wellFormed_of_compile hcompile
  have hafter := hreach.edit change
  obtain ⟨draft, new, kept, hwritten, rfl⟩ := exists_written hrange
  have hstart := hwritten.moves.start
  refine { start := hstart, stop := ?stop, front := ?front,
           back := fun place hle => hwritten.back hafter.fresh.2 hle }
  case stop => exact hstart ▸ hwritten.stop hgrammar hreach hafter
  case front => exact hstart ▸ hwritten.front

/-- The sample buffer with its counts. -/
def countedBuffer : Buffer := { sampleBuffer with metrics := some ⟨2, 2, 0, 1, 0⟩ }

/-- A line put inside the word leaves the word open, so the line behind it settles. Two of the sample
edits succeed, and they have five lines scanned again. -/
theorem edit_countedBuffer :
    Reachable sampleGrammar countedBuffer ∧
      (countedBuffer.edit (.insert 1 "ab")).1 = .ok ⟨1, 3⟩ ∧
      (Edit.insert 1 "ab").TouchesOnly countedBuffer (countedBuffer.edit (.insert 1 "ab")).2 ⟨1, 3⟩ ∧
      (countedBuffer.run sampleEdits).metrics = some ⟨2, 2, 0, 1, 5⟩ := by
  have hreach : Reachable sampleGrammar countedBuffer :=
    .ofLines (show ofLines sampleGrammar true ["<", ">"] = .ok countedBuffer by decide +kernel)
  have hrange : (countedBuffer.edit (.insert 1 "ab")).1 = .ok ⟨1, 3⟩ := by decide +kernel
  have hranges : countedBuffer.editRanges sampleEdits = [⟨1, 3⟩, ⟨0, 3⟩] := by decide +kernel
  obtain ⟨htouches, hmetrics⟩ := edit_touchesOnly compile_sampleDocument hreach
  refine ⟨hreach, hrange, htouches _ _ hrange, ?_⟩
  rw [hmetrics, hranges]
  rfl

end Buffer

end LineLexer
