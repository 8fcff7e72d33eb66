import LineLexer.Proofs.Except
import LineLexer.Proofs.Tokenize.Scan
import LineLexer.Tokenize.Buffer

/-!
# Fresh lines

The lines of a document as a scan from line to line gives them. Lines are fresh if a scan of their
texts gives just these lines (`Fresh`); a buffer is made of fresh lines (`ofLines_eq`). Lines that
are fresh behind a stack stay so wherever they stand, once their tokens are numbered anew
(`Fresh.renumbered`), and that is what scanning again relies on when it stops
(`freshLines_rescanFrom`).
-/

namespace LineLexer

/-! ## Faults -/

theorem Scan.fault?_eq_none_iff {scan : Scan} : scan.fault? = none ↔ scan.refused = none := by
  rw [fault?, Option.map_eq_none_iff]

theorem Scan.fault?_of_refused {scan : Scan} {state : String} (h : scan.refused = some state) :
    scan.fault? = some (.stackDepthExceeded state Limits.stackDepth) := by
  rw [fault?, h]
  rfl

theorem faultOf_cons {line : ScannedLine} (h : line.scan.refused = none)
    (lines : List ScannedLine) : faultOf (line :: lines) = faultOf lines := by
  rw [faultOf, faultOf, List.getLast?_cons]
  cases lines.getLast? with
  | none => exact Scan.fault?_eq_none_iff.mpr h
  | some last => rfl

theorem Rescan.fault?_cons {line : RescannedLine} (h : line.scan.refused = none)
    (scanned : List RescannedLine) (kept kept' : List BufferLine) :
    (Rescan.mk (line :: scanned) kept).fault? = (Rescan.mk scanned kept').fault? :=
  faultOf_cons h _

/-! ## Lines with other numbers and other stacks -/

theorem renumberFrom_cons (index : Nat) (line : BufferLine) (rest : List BufferLine) :
    renumberFrom index (line :: rest)
      = { line with tokens := line.tokens.map (·.onLine (lineNumber index)) }
        :: renumberFrom (index + 1) rest := by
  rw [renumberFrom, List.zipIdx_cons, List.map_cons, renumberFrom,
    List.zipIdx_succ, List.map_map]
  simp only [Function.comp_def, Nat.add_zero, Nat.add_right_comm, Nat.add_assoc]

theorem map_text_renumberFrom (index : Nat) (lines : List BufferLine) :
    (renumberFrom index lines).map (·.text) = lines.map (·.text) := by
  induction lines generalizing index with
  | nil => rfl
  | cons line rest ih => rw [renumberFrom_cons, List.map_cons, List.map_cons, ih]

/-- A settled line is the line that a scan gives: the stack it keeps is the one it has ended
with. -/
theorem RescannedLine.toBufferLine_eq {grammar : Grammar} {line : BufferLine}
    {scan : Scan} {settled : Bool}
    (h : settled = true → line.endState = .ofFrames grammar line.frames ∧
      scan.frames = line.frames) :
    (RescannedLine.mk line scan settled).toBufferLine grammar
      = (ScannedLine.mk line.text scan).toBufferLine grammar := by
  cases settled with
  | false => rfl
  | true =>
    obtain ⟨hstate, hframes⟩ := h rfl
    rw [RescannedLine.toBufferLine, if_pos rfl, ScannedLine.toBufferLine, hframes, ← hstate]

namespace Grammar

variable {grammar : Grammar}

/-- Scans texts from an index and a stack on: the lines, or the first fault. -/
def freshLines (grammar : Grammar) :
    (index : Nat) → Frames → List String → Except TokenizeError (List BufferLine)
  | _, _, [] => .ok []
  | index, frames, text :: rest =>
    let line := grammar.scanLine frames index text
    match line.scan.fault? with
    | some fault => .error fault
    | none => (grammar.freshLines (index + 1) line.scan.frames rest).map
        (line.toBufferLine grammar :: ·)

/-- A scan of the texts of the lines gives just these lines. -/
def Fresh (grammar : Grammar) (index : Nat) (frames : Frames) (lines : List BufferLine) : Prop :=
  grammar.freshLines index frames (lines.map (·.text)) = .ok lines

/-- The stack behind lines that begin with a stack. -/
def framesAfter (frames : Frames) (lines : List BufferLine) : Frames :=
  (lines.getLast?.map (·.frames)).getD frames

/-! ## Fresh lines, one by one -/

@[simp] theorem fresh_nil (index : Nat) (frames : Frames) : grammar.Fresh index frames [] := rfl

theorem fresh_cons_iff {index : Nat} {frames : Frames} {line : BufferLine}
    {rest : List BufferLine} :
    grammar.Fresh index frames (line :: rest) ↔
      (grammar.scanLine frames index line.text).scan.refused = none ∧
        (grammar.scanLine frames index line.text).toBufferLine grammar = line ∧
          grammar.Fresh (index + 1) line.frames rest := by
  rw [Fresh, List.map_cons, freshLines]
  generalize hscanned : grammar.scanLine frames index line.text = scanned
  cases hfault : scanned.scan.fault? with
  | some fault =>
    have hrefused : scanned.scan.refused ≠ none := by
      intro h
      rw [Scan.fault?_eq_none_iff.mpr h] at hfault
      cases hfault
    simp [hrefused]
  | none =>
    have hroom := Scan.fault?_eq_none_iff.mp hfault
    simp only [hroom, true_and]
    rw [map_eq_ok]
    constructor
    · rintro ⟨lines, hrest, hcons⟩
      obtain ⟨hline, rfl⟩ := List.cons.inj hcons
      refine ⟨hline, ?_⟩
      rw [← hline]
      exact hrest
    · rintro ⟨hline, hrest⟩
      rw [← hline] at hrest
      exact ⟨rest, hrest, congrArg (· :: rest) hline⟩

/-- Fresh lines show their stacks by the names. -/
theorem Fresh.endState_eq {index : Nat} {frames : Frames} {lines : List BufferLine}
    (h : grammar.Fresh index frames lines) :
    ∀ line ∈ lines, line.endState = .ofFrames grammar line.frames := by
  induction lines generalizing index frames with
  | nil => exact fun line hline => absurd hline List.not_mem_nil
  | cons first rest ih =>
    obtain ⟨-, hfirst, hrest⟩ := fresh_cons_iff.mp h
    intro line hline
    rcases List.mem_cons.mp hline with rfl | hline
    · rw [← hfirst]
      rfl
    · exact ih hrest line hline

/-- Lines keep the texts that they are scanned from. -/
theorem map_text_of_freshLines {index : Nat} {frames : Frames} {texts : List String}
    {lines : List BufferLine} (h : grammar.freshLines index frames texts = .ok lines) :
    lines.map (·.text) = texts := by
  induction texts generalizing index frames lines with
  | nil =>
    cases h
    rfl
  | cons text rest ih =>
    rw [freshLines] at h
    split at h
    · cases h
    · obtain ⟨lines', hrest, rfl⟩ := map_eq_ok.mp h
      rw [List.map_cons, ih hrest]
      rfl

/-- What a scan of texts gives is fresh. -/
theorem fresh_of_freshLines {index : Nat} {frames : Frames} {texts : List String}
    {lines : List BufferLine} (h : grammar.freshLines index frames texts = .ok lines) :
    grammar.Fresh index frames lines := by
  rw [Fresh, map_text_of_freshLines h, h]

@[simp] theorem framesAfter_nil (frames : Frames) : framesAfter frames [] = frames := rfl

theorem framesAfter_cons (frames : Frames) (line : BufferLine) (lines : List BufferLine) :
    framesAfter frames (line :: lines) = framesAfter line.frames lines := by
  rw [framesAfter, framesAfter, List.getLast?_cons]
  cases lines.getLast? <;> rfl

/-- Fresh lines in front of other texts are what a scan of all of them begins with. -/
theorem Fresh.freshLines_append {index : Nat} {frames : Frames} {lines : List BufferLine}
    (h : grammar.Fresh index frames lines) (texts : List String) :
    grammar.freshLines index frames (lines.map (·.text) ++ texts)
      = (grammar.freshLines (index + lines.length) (framesAfter frames lines) texts).map
          (lines ++ ·) := by
  induction lines generalizing index frames with
  | nil =>
    rw [List.map_nil, List.nil_append, List.length_nil, Nat.add_zero, framesAfter_nil]
    cases grammar.freshLines index frames texts <;> rfl
  | cons line rest ih =>
    obtain ⟨hroom, hline, hrest⟩ := fresh_cons_iff.mp h
    rw [List.map_cons, List.cons_append, freshLines, framesAfter_cons, List.length_cons,
      Nat.add_comm rest.length, ← Nat.add_assoc]
    rw [Scan.fault?_eq_none_iff.mpr hroom, hline]
    -- the scan goes on behind the first line with the stack that the line holds
    have hframes : (grammar.scanLine frames index line.text).scan.frames = line.frames := by
      rw [← hline]
      rfl
    rw [hframes]
    dsimp only
    rw [ih hrest]
    cases grammar.freshLines (index + 1 + rest.length) (framesAfter line.frames rest) texts <;> rfl

/-- A run of fresh lines can be cut anywhere. -/
theorem fresh_append_iff {index : Nat} {frames : Frames} {lines lines' : List BufferLine} :
    grammar.Fresh index frames (lines ++ lines') ↔ grammar.Fresh index frames lines ∧
      grammar.Fresh (index + lines.length) (framesAfter frames lines) lines' := by
  induction lines generalizing index frames with
  | nil => simp
  | cons line rest ih =>
    rw [List.cons_append, fresh_cons_iff, fresh_cons_iff, ih, framesAfter_cons, List.length_cons,
      Nat.add_comm rest.length, ← Nat.add_assoc]
    simp only [and_assoc]

/-! ## Fresh lines in other places -/

/-- A scan of the line with another index. -/
theorem scanLine_onLine (frames : Frames) (index index' : Nat) (text : String) :
    grammar.scanLine frames index' text
      = ⟨text, (grammar.scanLine frames index text).scan.onLine (lineNumber index')⟩ := by
  rw [scanLine, scanLine, scan_onLine frames text (lineNumber index)]

/-- Fresh lines are fresh behind the same stack in any other place, once they are numbered anew. -/
theorem Fresh.renumbered {index : Nat} {frames : Frames} {lines : List BufferLine}
    (h : grammar.Fresh index frames lines) (index' : Nat) :
    grammar.Fresh index' frames (renumberFrom index' lines) := by
  induction lines generalizing index index' frames with
  | nil => exact fresh_nil _ _
  | cons line rest ih =>
    obtain ⟨hroom, hline, hrest⟩ := fresh_cons_iff.mp h
    rw [renumberFrom_cons, fresh_cons_iff, scanLine_onLine frames index]
    -- the number changes no stack, so the rest begins with the same one
    refine ⟨hroom, ?_, ih hrest _⟩
    rw [← hline]
    rfl

/-- Fresh lines have the numbers that their indices ask for. -/
theorem Fresh.renumberFrom_eq {index : Nat} {frames : Frames} {lines : List BufferLine}
    (h : grammar.Fresh index frames lines) : renumberFrom index lines = lines := by
  have hnumbered := h.renumbered index
  rw [Fresh, map_text_renumberFrom] at hnumbered
  exact Except.ok.inj (hnumbered.symm.trans h)

/-! ## Buffers are made of fresh lines -/

theorem scanLinesFrom_append (done : List ScannedLine) (frames : Frames) (index : Nat)
    (texts : List String) :
    grammar.scanLinesFrom done frames index texts
      = done.reverse ++ grammar.scanLinesFrom [] frames index texts := by
  induction texts generalizing done frames index with
  | nil => simp [scanLinesFrom]
  | cons text rest ih =>
    rw [scanLinesFrom, scanLinesFrom]
    split
    · simp
    · rw [ih, ih [_]]
      simp

/-- The fault of lines scanned in order, or else the lines, are those of a scan from line to
line. -/
theorem freshLines_eq_scanLinesFrom (frames : Frames) (index : Nat) (texts : List String) :
    grammar.freshLines index frames texts
      = match faultOf (grammar.scanLinesFrom [] frames index texts) with
        | some fault => .error fault
        | none => .ok ((grammar.scanLinesFrom [] frames index texts).map
            (·.toBufferLine grammar)) := by
  induction texts generalizing frames index with
  | nil => rfl
  | cons text rest ih =>
    rw [freshLines, scanLinesFrom]
    generalize grammar.scanLine frames index text = line
    cases hrefused : line.scan.refused with
    | some state =>
      simp [faultOf, Scan.fault?_of_refused hrefused]
    | none =>
      rw [Scan.fault?_eq_none_iff.mpr hrefused, ih, if_neg (by simp), scanLinesFrom_append [line],
        List.reverse_singleton, List.singleton_append, faultOf_cons hrefused, List.map_cons]
      cases faultOf (grammar.scanLinesFrom [] line.scan.frames (index + 1) rest) <;> rfl

/-- A buffer holds the fresh lines of its texts. -/
theorem ofLines_eq (collect : Bool) (texts : List String) :
    Buffer.ofLines grammar collect texts
      = (grammar.freshLines 0 [] texts).map fun lines =>
          ⟨grammar, lines, if collect then some (.ofScans (grammar.scanLines texts)) else none⟩ := by
  rw [freshLines_eq_scanLinesFrom, Buffer.ofLines, Buffer.ofScans, scanLines]
  cases faultOf (grammar.scanLinesFrom [] [] 0 texts) <;> rfl

/-! ## Scanning again -/

/-- Scanning lines again may stop at any line from `compareFrom` on that ends with the stack it had
before: the stack is shown by its names, and behind it the lines are fresh, in their places unless
they have been shifted. -/
def Resumable (grammar : Grammar) (compareFrom : Nat) (shifted : Bool) :
    Nat → List BufferLine → Prop
  | _, [] => True
  | index, line :: rest =>
    (compareFrom ≤ index → line.endState = .ofFrames grammar line.frames ∧
      ∃ place, (shifted = false → place = index + 1) ∧ grammar.Fresh place line.frames rest) ∧
    grammar.Resumable compareFrom shifted (index + 1) rest

/-- Fresh lines can be resumed anywhere. -/
theorem Fresh.resumable {place : Nat} {frames : Frames} {lines : List BufferLine}
    (h : grammar.Fresh place frames lines) (compareFrom : Nat) {shifted : Bool} {index : Nat}
    (hplace : shifted = false → place = index) :
    grammar.Resumable compareFrom shifted index lines := by
  induction lines generalizing place index frames with
  | nil => trivial
  | cons line rest ih =>
    obtain ⟨-, hline, hrest⟩ := fresh_cons_iff.mp h
    have hnext : shifted = false → place + 1 = index + 1 := fun hs => by rw [hplace hs]
    refine ⟨fun _ => ⟨?_, place + 1, hnext, hrest⟩, ih hrest hnext⟩
    rw [← hline]
    rfl

theorem rescanFrom_append (compareFrom : Nat) (done : List RescannedLine) (frames : Frames)
    (index : Nat) (lines : List BufferLine) :
    Draft.rescanFrom grammar compareFrom done frames index lines
      = ⟨done.reverse ++ (Draft.rescanFrom grammar compareFrom [] frames index lines).scanned,
          (Draft.rescanFrom grammar compareFrom [] frames index lines).kept⟩ := by
  induction lines generalizing done frames index with
  | nil => simp [Draft.rescanFrom]
  | cons line rest ih =>
    rw [Draft.rescanFrom, Draft.rescanFrom]
    split
    · simp
    · rw [ih, ih [_]]
      simp

/-- The lines that scanning again ends with: those that were scanned and those that were kept. -/
def rescannedLines (grammar : Grammar) (shifted : Bool) (index : Nat) (rescan : Rescan) :
    List BufferLine :=
  rescan.scanned.map (·.toBufferLine grammar) ++
    if shifted then renumberFrom (index + rescan.scanned.length) rescan.kept else rescan.kept

/-- What is kept behind a settled line is what a scan would give there. -/
theorem Fresh.freshLines_kept {place index : Nat} {frames : Frames} {kept : List BufferLine}
    (h : grammar.Fresh place frames kept) {shifted : Bool}
    (hplace : shifted = false → place = index) :
    grammar.freshLines index frames (kept.map (·.text))
      = .ok (if shifted then renumberFrom index kept else kept) := by
  cases shifted with
  | true =>
    have hmoved := h.renumbered index
    rwa [Fresh, map_text_renumberFrom] at hmoved
  | false => exact hplace rfl ▸ h

/-- Scanning again up to a settled line gives what a scan of all the texts gives. -/
theorem freshLines_rescanFrom {compareFrom : Nat} {shifted : Bool} {index : Nat}
    {lines : List BufferLine} (h : grammar.Resumable compareFrom shifted index lines)
    (frames : Frames) :
    let rescan := Draft.rescanFrom grammar compareFrom [] frames index lines
    grammar.freshLines index frames (lines.map (·.text))
      = match rescan.fault? with
        | some fault => .error fault
        | none => .ok (grammar.rescannedLines shifted index rescan) := by
  induction lines generalizing index frames with
  | nil => cases shifted <;> rfl
  | cons line rest ih =>
    obtain ⟨hsettle, hrest⟩ := h
    obtain ⟨scan, hscan⟩ : ∃ scan, grammar.scanLine frames index line.text = ⟨line.text, scan⟩ :=
      ⟨_, rfl⟩
    rw [List.map_cons, freshLines, Draft.rescanFrom, hscan]
    dsimp only
    cases hrefused : scan.refused with
    | some state =>
      -- the line has a fault, in both scans
      have hrescan (settled : Bool) :
          (Rescan.mk [⟨line, scan, settled⟩] rest).fault? = scan.fault? := rfl
      simp [hrescan, Scan.fault?_of_refused hrefused]
    | none =>
      have hnone : scan.fault? = none := Scan.fault?_eq_none_iff.mpr hrefused
      rw [hnone]
      by_cases hsettled : (decide (compareFrom ≤ index) && decide (scan.frames = line.frames)) = true
      · -- the line is settled: what is kept is fresh behind it
        rw [Bool.and_eq_true, decide_eq_true_eq, decide_eq_true_eq] at hsettled
        obtain ⟨hcompare, hframes⟩ := hsettled
        obtain ⟨hstate, place, hplace, hkept⟩ := hsettle hcompare
        have hline := @RescannedLine.toBufferLine_eq grammar line scan true
          fun _ => ⟨hstate, hframes⟩
        have hrescan : (Rescan.mk [⟨line, scan, true⟩] rest).fault? = none := hnone
        simp only [hcompare, hframes, decide_true, Bool.and_self, Bool.or_true, if_true]
        rw [hkept.freshLines_kept hplace, List.reverse_singleton, hrescan, rescannedLines,
          List.map_singleton, hline]
        rfl
      · -- the line is not settled: scanning goes on
        rw [Bool.not_eq_true] at hsettled
        have hline := @RescannedLine.toBufferLine_eq grammar line scan false fun h => nomatch h
        rw [ih hrest scan.frames]
        simp only [hsettled, Option.isSome_none, Bool.or_self, Bool.false_eq_true, if_false]
        rw [rescanFrom_append compareFrom [_], List.reverse_singleton, List.singleton_append]
        generalize Draft.rescanFrom grammar compareFrom [] scan.frames (index + 1) rest = rescan
        rw [Rescan.fault?_cons hrefused _ _ rescan.kept]
        cases rescan.fault? with
        | some fault => rfl
        | none =>
          rw [rescannedLines, rescannedLines, List.map_cons, hline, List.length_cons,
            Nat.add_comm rescan.scanned.length, ← Nat.add_assoc]
          rfl

end Grammar
end LineLexer
