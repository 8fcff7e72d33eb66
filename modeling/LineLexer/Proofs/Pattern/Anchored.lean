import LineLexer.Pattern.Search

/-!
# Anchored programs

An expression that is put behind the test for the start of the text. Its program is the one of the
expression with one more instruction, and what it finds in a text is what the expression finds at the
very front of it (`matchEnd?_anchored`).
-/

namespace LineLexer.Pattern

/-- The expression, bound to the start of the text. -/
def Expr.anchored (e : Expr) : Expr := .seqs [.look .textStart, e]

/-! ## The code of an anchored expression -/

namespace Expr

/-- The code of a sequence is that of its parts, one after the other. -/
theorem layOut_ofItems_cons (e : Expr) (rest : List Expr) (layout : Layout) :
    (ofItems (e :: rest)).layOut layout = e.layOut ((ofItems rest).layOut layout) := by
  cases rest with
  | nil => rfl
  | cons next rest => rfl

theorem layOut_ofItems_items (e : Expr) (layout : Layout) :
    (ofItems e.items).layOut layout = e.layOut layout := by
  induction e with
  | seq a b _ ihb => rw [items, layOut_ofItems_cons, ihb, layOut]
  | empty | chars | look | alt | loop | group => rfl

theorem anchored_eq (e : Expr) : e.anchored = ofItems (.look .textStart :: e.items) := by
  rw [anchored, seqs, List.flatMap_cons, List.flatMap_singleton]
  rfl

theorem startsAnchored_anchored (e : Expr) : e.anchored.startsAnchored = true := by
  rw [anchored_eq]
  cases e.items <;> rfl

/-- One more instruction tests for the start of the text. -/
theorem layOut_anchored (e : Expr) (layout : Layout) :
    e.anchored.layOut layout
      = Layout.emit (.test .textStart (e.layOut layout).1) (e.layOut layout).2 := by
  rw [anchored_eq, layOut_ofItems_cons, layOut_ofItems_items, layOut]

end Expr

/-! ## Addresses that were entered -/

/-- The addresses of a code that were not entered so far. -/
def unseen (size seen : Nat) : Nat := (List.range size).countP fun address => !seen.testBit address

theorem testBit_mark (seen address other : Nat) :
    (seen ||| (1 <<< address)).testBit other = (seen.testBit other || decide (address = other)) := by
  rw [Nat.testBit_or, Nat.one_shiftLeft, Nat.testBit_two_pow]

theorem mark_of_testBit {seen address : Nat} (hseen : seen.testBit address = true) :
    seen ||| (1 <<< address) = seen := by
  refine Nat.eq_of_testBit_eq fun other => ?_
  rw [testBit_mark]
  by_cases heq : address = other
  · rw [← heq, hseen, Bool.true_or]
  · rw [decide_eq_false heq, Bool.or_false]

theorem unseen_congr {size seen seen' : Nat}
    (hsame : ∀ address < size, seen'.testBit address = seen.testBit address) :
    unseen size seen' = unseen size seen :=
  List.countP_congr fun address hmem => by rw [hsame address (List.mem_range.mp hmem)]

theorem unseen_succ (size seen : Nat) :
    unseen (size + 1) seen = unseen size seen + if seen.testBit size then 0 else 1 := by
  rw [unseen, List.range_succ, List.countP_append, List.countP_singleton, unseen]
  cases seen.testBit size <;> rfl

/-- Entering an address of the code leaves one address less. -/
theorem unseen_mark {size seen address : Nat} (hlt : address < size)
    (hnew : seen.testBit address = false) :
    unseen size (seen ||| (1 <<< address)) + 1 = unseen size seen := by
  induction size with
  | zero => exact absurd hlt (Nat.not_lt_zero _)
  | succ size ih =>
    rw [unseen_succ, unseen_succ, testBit_mark]
    by_cases heq : address = size
    · have hsame : unseen size (seen ||| (1 <<< address)) = unseen size seen :=
        unseen_congr fun other hother => by
          rw [testBit_mark, decide_eq_false (by omega), Bool.or_false]
      rw [hsame, heq, decide_eq_true rfl, Bool.or_true, ← heq, hnew]
      rfl
    · rw [decide_eq_false heq, Bool.or_false, Nat.add_right_comm, ih (by omega)]

/-! ## Frontiers -/

/-- What entering an instruction comes to, if `go` tells what addresses come to from there on. -/
def follow (before after : Option Char) (rest : List Nat) (go : List Nat → Frontier) :
    Option Instr → Frontier
  | some (.consume set next) => (go rest).wait set next
  | some (.test condition next) =>
    if condition.holds before after then go (next :: rest) else go rest
  | some (.split first second) => go (first :: second :: rest)
  | some .accept => ⟨[], true⟩
  | none => go rest

section

variable {code : Array Instr} {before after : Option Char}

theorem frontier_cons (fuel address : Nat) (rest : List Nat) (seen : Nat) :
    frontier code before after (fuel + 1) (address :: rest) seen
      = if seen.testBit address then frontier code before after fuel rest seen
        else follow before after rest
          (fun more => frontier code before after fuel more (seen ||| (1 <<< address)))
          code[address]? := by
  rw [frontier]
  split
  · rfl
  · cases code[address]? with
    | none => rfl
    | some instr => cases instr <;> rfl

/-- An address that was entered before, or from which nothing follows, only becomes an entered one. -/
theorem frontier_skip {address seen : Nat} {rest : List Nat} (fuel : Nat)
    (hskip : seen.testBit address = true ∨
      ∀ go, follow before after rest go code[address]? = go rest) :
    frontier code before after (fuel + 1) (address :: rest) seen
      = frontier code before after fuel rest (seen ||| (1 <<< address)) := by
  rw [frontier_cons]
  by_cases hseen : seen.testBit address
  · rw [if_pos hseen, mark_of_testBit hseen]
  · rw [if_neg hseen]
    exact hskip.resolve_left hseen _

/-- An instruction puts at most two addresses on the list. -/
theorem follow_congr {rest : List Nat} {go go' : List Nat → Frontier}
    (hgo : ∀ more, more.length ≤ rest.length + 2 → go more = go' more) (instr? : Option Instr) :
    follow before after rest go instr? = follow before after rest go' instr? := by
  have hrest : go rest = go' rest := hgo rest (Nat.le_add_right _ 2)
  cases instr? with
  | none => exact hrest
  | some instr =>
    cases instr with
    | consume set next => rw [follow, follow, hrest]
    | test condition next =>
      rw [follow, follow, hrest, hgo (next :: rest) (Nat.le_succ _)]
    | split first second => exact hgo (first :: second :: rest) (Nat.le_refl _)
    | accept => rfl

/-- The instruction behind a code has no part in a frontier if it was entered before, or if it is a
test that fails here. Any two amounts of fuel do, if there is enough of both. -/
theorem frontier_push {condition : Look} {next fuel fuel' : Nat} {addresses : List Nat}
    {seen seen' : Nat} (hfuel : addresses.length + 2 * unseen code.size seen < fuel)
    (hfuel' : addresses.length + 2 * unseen code.size seen < fuel')
    (hsame : ∀ address < code.size, seen'.testBit address = seen.testBit address)
    (hlast : seen'.testBit code.size = true ∨ condition.holds before after = false) :
    frontier (code.push (.test condition next)) before after fuel' addresses seen'
      = frontier code before after fuel addresses seen := by
  induction fuel generalizing fuel' addresses seen seen' with
  | zero => exact absurd hfuel (Nat.not_lt_zero _)
  | succ fuel ih =>
    obtain _ | fuel' := fuel'
    · exact absurd hfuel' (Nat.not_lt_zero _)
    obtain _ | ⟨address, rest⟩ := addresses
    · rfl
    rw [List.length_cons] at hfuel hfuel'
    have hlast' : (seen' ||| (1 <<< address)).testBit code.size = true ∨
        condition.holds before after = false :=
      hlast.imp_left fun hseen => by rw [testBit_mark, hseen, Bool.true_or]
    by_cases hlt : address < code.size
    · have hinstr : (code.push (.test condition next))[address]? = code[address]? := by
        rw [Array.getElem?_push, if_neg (Nat.ne_of_lt hlt)]
      -- An instruction of the code is entered by both, or by none of them.
      rw [frontier_cons, frontier_cons, hsame address hlt, hinstr]
      split
      · exact ih (by omega) (by omega) hsame hlast
      · have hless := unseen_mark hlt (Bool.eq_false_iff.mpr ‹_›)
        refine follow_congr (fun more hmore => ih (by omega) (by omega) (fun other hother => ?_)
          hlast') _
        rw [testBit_mark, testBit_mark, hsame other hother]
    · -- An address behind the code leads nowhere.
      have hout (marks : Nat) : ∀ other < code.size,
          (marks ||| (1 <<< address)).testBit other = marks.testBit other :=
        fun other hother => by rw [testBit_mark, decide_eq_false (by omega), Bool.or_false]
      have hnone : code[address]? = none := Array.getElem?_eq_none (Nat.le_of_not_lt hlt)
      have hskip : ∀ go : List Nat → Frontier, follow before after rest go code[address]? = go rest :=
        fun go => by rw [hnone, follow]
      have hskip' : seen'.testBit address = true ∨ ∀ go : List Nat → Frontier,
          follow before after rest go (code.push (.test condition next))[address]? = go rest := by
        rw [Array.getElem?_push, hnone]
        split
        · rename_i heq
          refine (heq ▸ hlast).imp_right fun hfails go => ?_
          rw [follow, hfails, if_neg Bool.false_ne_true]
        · exact .inr fun go => rfl
      rw [frontier_skip fuel (.inr hskip), frontier_skip fuel' hskip']
      refine ih ?_ ?_ (fun other hother => ?_) hlast'
      · rw [unseen_congr (hout seen)]
        omega
      · rw [unseen_congr (hout seen)]
        omega
      · rw [hout seen' other hother, hout seen other hother, hsame other hother]

end

/-! ## Runs -/

theorem unseen_zero (size : Nat) : unseen size 0 = size := by
  induction size with
  | zero => rfl
  | succ size ih => rw [unseen_succ, ih, Nat.zero_testBit]; rfl

/-- The program that tests for the start of the text before it does what `program` does. -/
def Program.behindStart (program : Program) : Program :=
  ⟨program.code.push (.test .textStart program.start), program.code.size, true⟩

namespace Program

variable (program : Program)

/-- Within a text, the test for its start has no part in what the program does. -/
theorem frontier_behindStart (before : Char) (after : Option Char) (addresses : List Nat) :
    program.behindStart.frontier (some before) after addresses
      = program.frontier (some before) after addresses := by
  refine frontier_push ?_ ?_ (fun _ _ => rfl) (.inr rfl)
  · rw [unseen_zero]
    exact Nat.lt_succ_self _
  · rw [unseen_zero, behindStart, Array.size_push]
    omega

/-- At the start of the text, the program goes on from the test. -/
theorem frontier_behindStart_start (after : Option Char) :
    program.behindStart.frontier none after [program.behindStart.start]
      = program.frontier none after [program.start] := by
  have hinstr : program.behindStart.code[program.behindStart.start]?
      = some (.test .textStart program.start) := by
    rw [behindStart, Array.getElem?_push_size]
  rw [Program.frontier, frontier_cons, Nat.zero_testBit, if_neg Bool.false_ne_true, hinstr, follow,
    if_pos (show Look.textStart.holds none after = true from rfl)]
  -- The test comes first and is entered, so it is passed over wherever it comes up again.
  refine frontier_push ?_ ?_ (fun other hother => ?_) (.inl ?_)
  · rw [unseen_zero]
    exact Nat.lt_succ_self _
  · rw [unseen_zero, behindStart, Array.size_push, List.length_singleton, List.length_singleton]
    omega
  · rw [testBit_mark, behindStart, decide_eq_false (Nat.ne_of_gt hother), Bool.or_false]
  · rw [testBit_mark, behindStart, decide_eq_true rfl, Bool.or_true]

theorem run_behindStart (addresses : List Nat) (before : Char) (rest : List Char) (passed : Nat)
    (best : Option Nat) :
    program.behindStart.run addresses (some before) rest passed best
      = program.run addresses (some before) rest passed best := by
  induction rest generalizing addresses before passed best with
  | nil => rw [run, run, frontier_behindStart]
  | cons c rest ih =>
    rw [run, run, frontier_behindStart]
    cases (program.frontier (some before) (some c) addresses).advance c with
    | nil => rfl
    | cons address addresses => exact ih _ _ _ _

/-- What is found from the start of a text is found behind the test. -/
theorem matchEnd?_behindStart (text : List Char) :
    program.behindStart.matchEnd? text = program.matchHere? none text := by
  show program.behindStart.run [program.behindStart.start] none text 0 none
    = program.run [program.start] none text 0 none
  cases text with
  | nil => rw [run, run, frontier_behindStart_start]
  | cons c rest =>
    rw [run, run, frontier_behindStart_start]
    cases (program.frontier none (some c) [program.start]).advance c with
    | nil => rfl
    | cons address addresses => exact program.run_behindStart _ _ _ _ _

theorem ofExpr_anchored (e : Expr) : ofExpr e.anchored = (ofExpr e).behindStart := by
  rw [ofExpr, Expr.layOut_anchored, Expr.startsAnchored_anchored]
  rfl

/-- What an anchored expression finds in a text is what the expression finds at its front. -/
theorem matchEnd?_anchored (e : Expr) (text : List Char) :
    (ofExpr e.anchored).matchEnd? text = (ofExpr e).matchHere? none text := by
  rw [ofExpr_anchored, matchEnd?_behindStart]

end Program

end LineLexer.Pattern
