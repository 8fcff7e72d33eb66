import LineLexer.Proofs.Pattern.Anchored

/-!
# What a search finds

An expression denotes passages: pieces of a text, each with the character before it and the text
behind it, on which the tests for a place depend. The code of an expression leads over nothing but
passages that the expression denotes, whatever code stands around it (`Expr.lays`), and a search
follows nothing but ways through the code. So what a search finds at the front of a text is a passage
that the expression denotes (`Program.denotes_of_matchHere?`).
-/

namespace LineLexer.Pattern

open Unicode

/-! ## Passages -/

/-- The character before the place at the end of a text that stands behind `before`. -/
def lastOf : (before : Option Char) → (text : List Char) → Option Char
  | before, [] => before
  | _, c :: text => lastOf (some c) text

theorem lastOf_append (before : Option Char) (first second : List Char) :
    lastOf before (first ++ second) = lastOf (lastOf before first) second := by
  induction first generalizing before with
  | nil => rfl
  | cons c first ih => exact ih (some c)

/-- Pieces of texts, each between a character, if there is one, and the rest of the text. -/
abbrev Passages := (before : Option Char) → (text rest : List Char) → Prop

namespace Passages

variable {P Q R : Passages} {before : Option Char} {text rest : List Char}

/-- A passage with another one behind it. -/
def seq (P Q : Passages) : Passages := fun before text rest =>
  ∃ first second, text = first ++ second ∧ P before first (second ++ rest) ∧
    Q (lastOf before first) second rest

/-- A number of passages, one behind the other. -/
def copies (P : Passages) : Nat → Passages
  | 0 => fun _ text _ => text = []
  | n + 1 => P.seq (P.copies n)

/-- Any number of passages, one behind the other. -/
def many (P : Passages) : Passages := fun before text rest => ∃ n, P.copies n before text rest

theorem seq_assoc (h : ((P.seq Q).seq R) before text rest) :
    (P.seq (Q.seq R)) before text rest := by
  obtain ⟨_, third, rfl, ⟨first, second, rfl, hfirst, hsecond⟩, hthird⟩ := h
  rw [lastOf_append] at hthird
  refine ⟨first, second ++ third, List.append_assoc _ _ _, ?_, second, third, rfl, hsecond, hthird⟩
  rwa [List.append_assoc]

theorem copies_one (h : P before text rest) : P.copies 1 before text rest :=
  ⟨text, [], (List.append_nil text).symm, h, rfl⟩

theorem copies_add {m n : Nat} (h : ((P.copies m).seq (P.copies n)) before text rest) :
    P.copies (m + n) before text rest := by
  induction m generalizing before text with
  | zero =>
    obtain ⟨_, second, rfl, rfl, hsecond⟩ := h
    rw [Nat.zero_add]
    exact hsecond
  | succ m ih =>
    obtain ⟨first, others, rfl, hfirst, hothers⟩ := seq_assoc h
    rw [Nat.succ_add]
    exact ⟨first, others, rfl, hfirst, ih hothers⟩

/-- What holds of the characters of each passage holds of those of several. -/
theorem forall_mem_of_copies {p : Char → Prop} {n : Nat}
    (hp : ∀ before text rest, P before text rest → ∀ c ∈ text, p c)
    (h : P.copies n before text rest) : ∀ c ∈ text, p c := by
  induction n generalizing before text with
  | zero => exact fun c hc => absurd (h ▸ hc) List.not_mem_nil
  | succ n ih =>
    obtain ⟨first, others, rfl, hfirst, hothers⟩ := h
    intro c hc
    exact (List.mem_append.mp hc).elim (hp _ _ _ hfirst c) (ih hothers c)

end Passages

namespace Expr

/-- The passages that an expression denotes. -/
def Denotes : Expr → Passages
  | .empty => fun _ text _ => text = []
  | .chars set => fun _ text _ => ∃ c ∈ set, text = [c]
  | .look condition => fun before text rest => text = [] ∧ condition.holds before rest.head? = true
  | .seq a b => a.Denotes.seq b.Denotes
  | .alt a b => fun before text rest => a.Denotes before text rest ∨ b.Denotes before text rest
  | .loop body min max _ => fun before text rest =>
    ∃ more, (∀ bound ∈ max, more ≤ bound - min) ∧
      body.Denotes.copies (min + more) before text rest
  | .group _ body => body.Denotes

/-- The sets of which the characters of a match are members. -/
def sets : Expr → List CharSet
  | .empty | .look _ => []
  | .chars set => [set]
  | .seq a b | .alt a b => a.sets ++ b.sets
  | .loop body _ _ _ | .group _ body => body.sets

theorem Denotes.exists_set {e : Expr} {before : Option Char} {text rest : List Char}
    (h : e.Denotes before text rest) : ∀ c ∈ text, ∃ set ∈ e.sets, c ∈ set := by
  induction e generalizing before text rest with
  | empty => exact fun c hc => absurd (h ▸ hc) List.not_mem_nil
  | chars set =>
    obtain ⟨c, hc, rfl⟩ := h
    intro d hd
    rw [List.mem_singleton.mp hd]
    exact ⟨set, List.mem_singleton_self set, hc⟩
  | look condition => exact fun c hc => absurd (h.1 ▸ hc) List.not_mem_nil
  | seq a b iha ihb =>
    obtain ⟨first, second, rfl, hfirst, hsecond⟩ := h
    intro c hc
    rcases List.mem_append.mp hc with hc | hc
    · obtain ⟨set, hset, hmem⟩ := iha hfirst c hc
      exact ⟨set, List.mem_append_left _ hset, hmem⟩
    · obtain ⟨set, hset, hmem⟩ := ihb hsecond c hc
      exact ⟨set, List.mem_append_right _ hset, hmem⟩
  | alt a b iha ihb =>
    intro c hc
    rcases h with h | h
    · obtain ⟨set, hset, hmem⟩ := iha h c hc
      exact ⟨set, List.mem_append_left _ hset, hmem⟩
    · obtain ⟨set, hset, hmem⟩ := ihb h c hc
      exact ⟨set, List.mem_append_right _ hset, hmem⟩
  | loop body min max greedy ih =>
    obtain ⟨more, -, hcopies⟩ := h
    exact Passages.forall_mem_of_copies (fun _ _ _ hbody => ih hbody) hcopies
  | group index body ih => exact ih h

end Expr

/-! ## Ways through code -/

/-- From an address the instructions lead, in a number of steps, over a text to an accepting one;
`rest` stands behind the text. -/
inductive Leads (code : Array Instr) (rest : List Char) :
    (steps address : Nat) → (before : Option Char) → (text : List Char) → Prop
  | accept {address : Nat} {before : Option Char} (hinstr : code[address]? = some .accept) :
      Leads code rest 0 address before []
  | consume {steps address next : Nat} {before : Option Char} {set : CharSet} {c : Char}
      {text : List Char} (hinstr : code[address]? = some (.consume set next)) (hc : c ∈ set)
      (hleads : Leads code rest steps next (some c) text) :
      Leads code rest (steps + 1) address before (c :: text)
  | test {steps address next : Nat} {before : Option Char} {condition : Look} {text : List Char}
      (hinstr : code[address]? = some (.test condition next))
      (hholds : condition.holds before (text ++ rest).head? = true)
      (hleads : Leads code rest steps next before text) :
      Leads code rest (steps + 1) address before text
  | first {steps address first second : Nat} {before : Option Char} {text : List Char}
      (hinstr : code[address]? = some (.split first second))
      (hleads : Leads code rest steps first before text) :
      Leads code rest (steps + 1) address before text
  | second {steps address first second : Nat} {before : Option Char} {text : List Char}
      (hinstr : code[address]? = some (.split first second))
      (hleads : Leads code rest steps second before text) :
      Leads code rest (steps + 1) address before text

namespace Leads

variable {code : Array Instr} {rest text : List Char} {steps address next : Nat}
  {before : Option Char}

theorem of_accept (h : Leads code rest steps address before text)
    (hinstr : code[address]? = some .accept) : text = [] := by
  cases h with
  | accept => rfl
  | consume hinstr' | test hinstr' | first hinstr' | second hinstr' =>
    rw [hinstr] at hinstr'
    cases hinstr'

theorem of_consume {set : CharSet} (h : Leads code rest steps address before text)
    (hinstr : code[address]? = some (.consume set next)) :
    ∃ c ∈ set, ∃ others, text = c :: others ∧
      ∃ fewer ≤ steps, Leads code rest fewer next (some c) others := by
  cases h with
  | consume hinstr' hc hleads =>
    rw [hinstr] at hinstr'
    cases hinstr'
    exact ⟨_, hc, _, rfl, _, Nat.le_succ _, hleads⟩
  | accept hinstr' | test hinstr' | first hinstr' | second hinstr' =>
    rw [hinstr] at hinstr'
    cases hinstr'

theorem of_test {condition : Look} (h : Leads code rest steps address before text)
    (hinstr : code[address]? = some (.test condition next)) :
    condition.holds before (text ++ rest).head? = true ∧
      ∃ fewer ≤ steps, Leads code rest fewer next before text := by
  cases h with
  | test hinstr' hholds hleads =>
    rw [hinstr] at hinstr'
    cases hinstr'
    exact ⟨hholds, _, Nat.le_succ _, hleads⟩
  | accept hinstr' | consume hinstr' | first hinstr' | second hinstr' =>
    rw [hinstr] at hinstr'
    cases hinstr'

/-- A choice is left by one of its ways, in less steps. -/
theorem of_choice {greedy : Bool} {first second : Nat}
    (h : Leads code rest steps address before text)
    (hinstr : code[address]? = some (Layout.choice greedy first second)) :
    ∃ fewer < steps, Leads code rest fewer first before text ∨
      Leads code rest fewer second before text := by
  cases h with
  | first hinstr' hleads =>
    rw [hinstr] at hinstr'
    cases greedy <;> cases hinstr'
    · exact ⟨_, Nat.lt_succ_self _, .inr hleads⟩
    · exact ⟨_, Nat.lt_succ_self _, .inl hleads⟩
  | second hinstr' hleads =>
    rw [hinstr] at hinstr'
    cases greedy <;> cases hinstr'
    · exact ⟨_, Nat.lt_succ_self _, .inl hleads⟩
    · exact ⟨_, Nat.lt_succ_self _, .inr hleads⟩
  | accept hinstr' | consume hinstr' | test hinstr' =>
    rw [hinstr] at hinstr'
    cases greedy <;> cases hinstr'

end Leads

/-- A way over a text crosses a passage and leads on, over what is left, from an address. -/
def Crosses (code : Array Instr) (P : Passages) (next steps : Nat) (before : Option Char)
    (text rest : List Char) : Prop :=
  ∃ front back, text = front ++ back ∧ P before front (back ++ rest) ∧
    ∃ fewer ≤ steps, Leads code rest fewer next (lastOf before front) back

namespace Crosses

variable {code : Array Instr} {P Q : Passages} {next steps steps' : Nat} {before : Option Char}
  {text rest : List Char}

theorem imp (h : Crosses code P next steps before text rest) (hle : steps ≤ steps')
    (hPQ : ∀ before text rest, P before text rest → Q before text rest) :
    Crosses code Q next steps' before text rest := by
  obtain ⟨front, back, htext, hfront, fewer, hfewer, hleads⟩ := h
  exact ⟨front, back, htext, hPQ _ _ _ hfront, fewer, Nat.le_trans hfewer hle, hleads⟩

/-- Nothing has been crossed yet. -/
theorem nothing (P : Passages) (hleads : Leads code rest steps next before text) :
    Crosses code (P.copies 0) next steps before text rest :=
  ⟨[], text, rfl, rfl, steps, Nat.le_refl _, hleads⟩

/-- A way that crosses a passage and then another one. -/
theorem seq {middle : Nat} (h : Crosses code P middle steps before text rest)
    (hnext : ∀ fewer ≤ steps, ∀ before text, Leads code rest fewer middle before text →
      Crosses code Q next fewer before text rest) :
    Crosses code (P.seq Q) next steps before text rest := by
  obtain ⟨first, _, rfl, hfirst, fewer, hfewer, hleads⟩ := h
  obtain ⟨second, back, rfl, hsecond, fewest, hfewest, hleads⟩ := hnext fewer hfewer _ _ hleads
  refine ⟨first ++ second, back, (List.append_assoc _ _ _).symm, ⟨first, second, rfl, ?_, hsecond⟩,
    fewest, Nat.le_trans hfewest hfewer, ?_⟩
  · rwa [← List.append_assoc]
  · rwa [lastOf_append]

/-- A body that comes back to a choice between itself and a way on: the way on is taken in the end,
as every round takes steps. -/
theorem loop {greedy : Bool} {back first : Nat}
    (hback : code[back]? = some (Layout.choice greedy first next))
    (hbody : ∀ steps before text, Leads code rest steps first before text →
      Crosses code P back steps before text rest)
    (hleads : Leads code rest steps first before text) :
    Crosses code (P.seq P.many) next steps before text rest := by
  -- by the steps that are left, as a body may cross nothing and leave the text as it is
  induction steps using Nat.strongRecOn generalizing before text with
  | ind steps ih =>
    refine (hbody steps before text hleads).seq fun fewer hfewer before text hleads => ?_
    obtain ⟨fewest, hfewest, hleads | hleads⟩ := hleads.of_choice hback
    · have hmore := ih fewest (Nat.lt_of_lt_of_le hfewest hfewer) hleads
      refine hmore.imp (Nat.le_of_lt hfewest) fun before text rest h => ?_
      obtain ⟨first, others, htext, hfirst, n, hothers⟩ := h
      exact ⟨n + 1, first, others, htext, hfirst, hothers⟩
    · exact (nothing P hleads).imp (Nat.le_of_lt hfewest) fun _ _ _ h => ⟨0, h⟩

end Crosses

/-! ## Layouts -/

/-- From an address on, the code is the same as far as the second one goes. -/
def AgreesFrom (start : Nat) (code code' : Array Instr) : Prop :=
  ∀ address, start ≤ address → address < code'.size → code[address]? = code'[address]?

/-- The later layout has the code of the earlier one with code before it that crosses passages: in any
code that agrees with it from there on, a way from its start crosses one to the start of the earlier
layout. -/
structure Lays (P : Passages) (later earlier : Layout) : Prop where
  size_le : earlier.2.size ≤ later.2.size
  kept : ∀ address < earlier.2.size, later.2[address]? = earlier.2[address]?
  crosses : ∀ code, AgreesFrom earlier.2.size code later.2 → ∀ rest steps before text,
    Leads code rest steps later.1 before text → Crosses code P earlier.1 steps before text rest

namespace Lays

variable {P Q : Passages} {later middle earlier : Layout}

theorem agrees_later {code : Array Instr} (h : Lays Q middle earlier)
    (hagrees : AgreesFrom earlier.2.size code later.2) : AgreesFrom middle.2.size code later.2 :=
  fun address hle hlt => hagrees address (Nat.le_trans h.size_le hle) hlt

theorem agrees_earlier {code : Array Instr} (h : Lays P later middle)
    (hagrees : AgreesFrom earlier.2.size code later.2) :
    AgreesFrom earlier.2.size code middle.2 :=
  fun address hle hlt =>
    (hagrees address hle (Nat.lt_of_lt_of_le hlt h.size_le)).trans (h.kept address hlt)

theorem imp (h : Lays P later earlier)
    (hPQ : ∀ before text rest, P before text rest → Q before text rest) : Lays Q later earlier where
  size_le := h.size_le
  kept := h.kept
  crosses code hagrees rest steps before text hleads :=
    (h.crosses code hagrees rest steps before text hleads).imp (Nat.le_refl _) hPQ

theorem nothing (P : Passages) (layout : Layout) : Lays (P.copies 0) layout layout where
  size_le := Nat.le_refl _
  kept _ _ := rfl
  crosses _ _ _ _ _ _ hleads := .nothing P hleads

theorem seq (hP : Lays P later middle) (hQ : Lays Q middle earlier) :
    Lays (P.seq Q) later earlier where
  size_le := Nat.le_trans hQ.size_le hP.size_le
  kept address hlt :=
    (hP.kept address (Nat.lt_of_lt_of_le hlt hQ.size_le)).trans (hQ.kept address hlt)
  crosses code hagrees rest steps before text hleads := by
    have hfirst := hP.crosses code (hQ.agrees_later hagrees) rest steps before text hleads
    exact hfirst.seq fun fewer _ before text hleads =>
      hQ.crosses code (hP.agrees_earlier hagrees) rest fewer before text hleads

/-- One more instruction is laid out, and it comes first. -/
theorem emit {instr : Instr} {code : Array Instr} (hsize : earlier.2.size ≤ code.size)
    (hkept : ∀ address < earlier.2.size, code[address]? = earlier.2[address]?)
    (hcrosses : ∀ final, AgreesFrom earlier.2.size final code → final[code.size]? = some instr →
      ∀ rest steps before text, Leads final rest steps code.size before text →
        Crosses final P earlier.1 steps before text rest) :
    Lays P (Layout.emit instr code) earlier where
  size_le := by
    rw [Layout.emit, Array.size_push]
    exact Nat.le_succ_of_le hsize
  kept address hlt := by
    rw [Layout.emit, Array.getElem?_push, if_neg (by omega), hkept address hlt]
  crosses final hagrees := by
    rw [Layout.emit] at hagrees
    refine hcrosses final (fun address hle hlt => ?_) ?_
    · have hsame := hagrees address hle (by rw [Array.size_push]; exact Nat.lt_succ_of_lt hlt)
      rwa [Array.getElem?_push, if_neg (Nat.ne_of_lt hlt)] at hsame
    · have hlast := hagrees code.size hsize (by rw [Array.size_push]; exact Nat.lt_succ_self _)
      rwa [Array.getElem?_push_size] at hlast

/-- A choice between the code of one passage and that of another one, both laid out before the same
code. -/
theorem choice {first second next : Nat} {code₂ code₁ code : Array Instr} (greedy : Bool)
    (hP : Lays P (first, code₂) (next, code₁)) (hQ : Lays Q (second, code₁) (next, code)) :
    Lays (fun before text rest => P before text rest ∨ Q before text rest)
      (Layout.emit (Layout.choice greedy first second) code₂) (next, code) := by
  have hkept : ∀ address < code.size, code₂[address]? = code[address]? := fun address hlt =>
    (hP.kept address (Nat.lt_of_lt_of_le hlt hQ.size_le)).trans (hQ.kept address hlt)
  refine emit (Nat.le_trans hQ.size_le hP.size_le) hkept ?_
  intro final hagrees hinstr rest steps before text hleads
  obtain ⟨fewer, hfewer, hleads | hleads⟩ := hleads.of_choice hinstr
  · exact (hP.crosses final (hQ.agrees_later hagrees) _ _ _ _ hleads).imp (Nat.le_of_lt hfewer)
      fun _ _ _ => .inl
  · exact (hQ.crosses final (hP.agrees_earlier hagrees) _ _ _ _ hleads).imp (Nat.le_of_lt hfewer)
      fun _ _ _ => .inr

/-! ### Repetitions -/

variable {lay : Layout → Layout}

theorem copies (hlay : ∀ layout, Lays P (lay layout) layout) (n : Nat) (layout : Layout) :
    Lays (P.copies n) (Layout.copies lay n layout) layout := by
  induction n generalizing layout with
  | zero => exact nothing P layout
  | succ n ih =>
    refine ((ih (lay layout)).seq (hlay layout)).imp fun before text rest h => ?_
    obtain ⟨first, second, htext, hfirst, hsecond⟩ := h
    exact Passages.copies_add ⟨first, second, htext, hfirst, Passages.copies_one hsecond⟩

theorem optional (hlay : ∀ layout, Lays P (lay layout) layout) (greedy : Bool) (n next : Nat)
    (code : Array Instr) :
    Lays (fun before text rest => ∃ k ≤ n, P.copies k before text rest)
      (Layout.optional lay greedy next n (next, code)) (next, code) := by
  induction n with
  | zero => exact (nothing P _).imp fun _ _ _ h => ⟨0, Nat.le_refl _, h⟩
  | succ n ih =>
    refine (((hlay _).seq ih).choice greedy (nothing P (next, code))).imp ?_
    rintro before text rest (⟨first, others, htext, hfirst, k, hk, hothers⟩ | h)
    · exact ⟨k + 1, Nat.succ_le_succ hk, first, others, htext, hfirst, hothers⟩
    · exact ⟨0, Nat.zero_le _, h⟩

/-- The choice after a copy, to which the body has led, is put in the place that was kept for it. -/
theorem atLeastOne (hlay : ∀ layout, Lays P (lay layout) layout) (greedy : Bool) (next : Nat)
    (code : Array Instr) :
    let (first, code') := Layout.atLeastOne lay greedy (next, code)
    Lays (P.seq P.many) (first, code') (next, code) ∧
      code.size < code'.size ∧ code'[code.size]? = some (Layout.choice greedy first next) := by
  -- while the body is laid out, an accepting instruction stands in the place of the choice
  have hbody : Lays P (lay (code.size, code.push .accept)) (code.size, code.push .accept) := hlay _
  rw [Layout.atLeastOne]
  generalize lay (code.size, code.push .accept) = laid at hbody
  obtain ⟨first, code'⟩ := laid
  dsimp only
  have hlt : code.size < code'.size := by
    have hle := hbody.size_le
    rwa [Array.size_push] at hle
  have hback : (code'.setIfInBounds code.size (Layout.choice greedy first next))[code.size]?
      = some (Layout.choice greedy first next) := by
    rw [Array.getElem?_setIfInBounds_self_of_lt hlt]
  have hother {address : Nat} (hne : code.size ≠ address) :
      (code'.setIfInBounds code.size (Layout.choice greedy first next))[address]?
        = code'[address]? := Array.getElem?_setIfInBounds_ne hne
  have hsize : (code'.setIfInBounds code.size (Layout.choice greedy first next)).size
      = code'.size := Array.size_setIfInBounds
  refine ⟨⟨?_, fun address haddress => ?_, fun final hagrees rest steps before text hleads => ?_⟩,
    hsize ▸ hlt, hback⟩
  · exact hsize ▸ Nat.le_of_lt hlt
  · rw [hother (Nat.ne_of_gt haddress), hbody.kept address, Array.getElem?_push,
      if_neg (Nat.ne_of_lt haddress)]
    rw [Array.size_push]
    exact Nat.lt_succ_of_lt haddress
  · have hfinal := (hagrees code.size (Nat.le_refl _) (hsize ▸ hlt)).trans hback
    refine Crosses.loop hfinal (fun steps before text => hbody.crosses final ?_ rest steps before text)
      hleads
    intro address hle haddress
    rw [Array.size_push] at hle
    exact (hagrees address (Nat.le_of_succ_le hle) (hsize ▸ haddress)).trans
      (hother (Nat.ne_of_lt hle))

theorem starConsuming (hlay : ∀ layout, Lays P (lay layout) layout) (greedy : Bool) (next : Nat)
    (code : Array Instr) :
    Lays P.many (Layout.starConsuming lay greedy (next, code)) (next, code) := by
  obtain ⟨hsome, hlt, hback⟩ := atLeastOne hlay greedy next code
  refine ⟨hsome.size_le, hsome.kept, fun final hagrees rest steps before text hleads => ?_⟩
  -- the way begins at the choice itself
  have hfinal := (hagrees code.size (Nat.le_refl _) hlt).trans hback
  obtain ⟨fewer, hfewer, hleads | hleads⟩ := hleads.of_choice hfinal
  · exact (hsome.crosses final hagrees rest fewer before text hleads).imp (Nat.le_of_lt hfewer)
      fun _ _ _ ⟨first, others, htext, hfirst, n, h⟩ => ⟨n + 1, first, others, htext, hfirst, h⟩
  · exact (Crosses.nothing P hleads).imp (Nat.le_of_lt hfewer) fun _ _ _ h => ⟨0, h⟩

theorem star (hlay : ∀ layout, Lays P (lay layout) layout) (greedy : Bool) (next : Nat)
    (code : Array Instr) :
    Lays P.many (Layout.star lay greedy (next, code)) (next, code) := by
  have hsome := (atLeastOne hlay greedy next code).1
  refine (hsome.choice greedy (nothing P (next, code))).imp ?_
  rintro before text rest (⟨first, others, htext, hfirst, n, h⟩ | h)
  · exact ⟨n + 1, first, others, htext, hfirst, h⟩
  · exact ⟨0, h⟩

end Lays

/-- The code of an expression leads over the passages that it denotes. -/
theorem Expr.lays (e : Expr) (layout : Layout) : Lays e.Denotes (e.layOut layout) layout := by
  induction e generalizing layout with
  | empty => exact Lays.nothing Expr.empty.Denotes layout
  | chars set =>
    refine Lays.emit (Nat.le_refl _) (fun _ _ => rfl) ?_
    intro code _ hinstr rest steps before text hleads
    obtain ⟨c, hc, others, rfl, hway⟩ := hleads.of_consume hinstr
    exact ⟨[c], others, rfl, ⟨c, hc, rfl⟩, hway⟩
  | look condition =>
    refine Lays.emit (Nat.le_refl _) (fun _ _ => rfl) ?_
    intro code _ hinstr rest steps before text hleads
    obtain ⟨hholds, hway⟩ := hleads.of_test hinstr
    exact ⟨[], text, rfl, ⟨rfl, hholds⟩, hway⟩
  | seq a b iha ihb => exact (iha _).seq (ihb layout)
  | alt a b iha ihb => exact (iha _).choice true (ihb layout)
  | loop body min max greedy ih =>
    obtain ⟨next, code⟩ := layout
    cases max with
    | some max =>
      rw [layOut]
      refine ((Lays.copies ih min _).seq (Lays.optional ih greedy (max - min) next code)).imp ?_
      rintro before text rest ⟨first, second, htext, hfirst, more, hmore, hsecond⟩
      refine ⟨more, fun bound hbound => ?_, Passages.copies_add ⟨first, second, htext, hfirst, hsecond⟩⟩
      cases hbound
      exact hmore
    | none =>
      obtain _ | n := min
      · -- the two layouts without a bound differ in their code but cross the same passages
        have hunbounded (before : Option Char) (text rest : List Char)
            (h : Passages.many body.Denotes before text rest) :
            (Expr.loop body 0 none greedy).Denotes before text rest := by
          obtain ⟨n, h⟩ := h
          exact ⟨n, fun bound hbound => absurd hbound (Option.some_ne_none bound).symm,
            (Nat.zero_add n).symm ▸ h⟩
        rw [layOut]
        split
        · exact (Lays.starConsuming ih greedy next code).imp hunbounded
        · exact (Lays.star ih greedy next code).imp hunbounded
      · rw [layOut]
        refine ((Lays.copies ih n _).seq (Lays.atLeastOne ih greedy next code).1).imp ?_
        rintro before text rest
          ⟨first, second, htext, hfirst, one, others, hsecond, hone, more, hothers⟩
        refine ⟨more, fun bound hbound => absurd hbound (Option.some_ne_none bound).symm, ?_⟩
        rw [Nat.add_assoc, Nat.add_comm 1]
        exact Passages.copies_add ⟨first, second, htext, hfirst, one, others, hsecond, hone, hothers⟩
  | group index body ih => exact ih layout

/-! ## Searches -/

/-- A way over the text is open at a frontier: it waits for the first character, or it has been
accepted if there is none. -/
def Frontier.Opens (frontier : Frontier) (code : Array Instr) (rest : List Char) : List Char → Prop
  | [] => frontier.accepted = true
  | c :: text =>
    ∃ way ∈ frontier.waiting, c ∈ way.1 ∧ ∃ steps, Leads code rest steps way.2 (some c) text

section

variable {code : Array Instr} {before : Option Char} {text rest : List Char}

theorem Frontier.not_opens_empty : ¬Frontier.Opens ⟨[], false⟩ code rest text := by
  cases text with
  | nil => exact Bool.false_ne_true
  | cons c text => exact fun ⟨way, hway, _⟩ => List.not_mem_nil hway

theorem Frontier.opens_wait {frontier : Frontier} {set : CharSet} {next : Nat}
    (h : (frontier.wait set next).Opens code rest text) :
    frontier.Opens code rest text ∨
      ∃ c ∈ set, ∃ others, text = c :: others ∧
        ∃ steps, Leads code rest steps next (some c) others := by
  cases text with
  | nil => exact .inl h
  | cons c text =>
    obtain ⟨way, hway, hc, hleads⟩ := h
    rcases List.mem_cons.mp hway with rfl | hway
    · exact .inr ⟨c, hc, text, rfl, hleads⟩
    · exact .inl ⟨way, hway, hc, hleads⟩

/-- A way that is open after an address was entered begins there or at another address of the list. -/
theorem leads_of_follow {address : Nat} {others : List Nat} {go : List Nat → Frontier}
    (hgo : ∀ more, (go more).Opens code rest text →
      ∃ address ∈ more, ∃ steps, Leads code rest steps address before text)
    (h : (follow before (text ++ rest).head? others go code[address]?).Opens code rest text) :
    ∃ start ∈ address :: others, ∃ steps, Leads code rest steps start before text := by
  have hothers (h : (go others).Opens code rest text) :
      ∃ start ∈ address :: others, ∃ steps, Leads code rest steps start before text := by
    obtain ⟨start, hstart, hleads⟩ := hgo others h
    exact ⟨start, List.mem_cons_of_mem _ hstart, hleads⟩
  cases hinstr : code[address]? with
  | none =>
    rw [hinstr] at h
    exact hothers h
  | some instr =>
    rw [hinstr] at h
    cases instr with
    | consume set next =>
      rcases Frontier.opens_wait h with h | ⟨c, hc, text, rfl, steps, hleads⟩
      · exact hothers h
      · exact ⟨address, List.mem_cons_self, steps + 1, .consume hinstr hc hleads⟩
    | test condition next =>
      rw [follow] at h
      split at h
      · rename_i hholds
        obtain ⟨start, hstart, steps, hleads⟩ := hgo _ h
        rcases List.mem_cons.mp hstart with rfl | hstart
        · exact ⟨address, List.mem_cons_self, steps + 1, .test hinstr hholds hleads⟩
        · exact ⟨start, List.mem_cons_of_mem _ hstart, steps, hleads⟩
      · exact hothers h
    | split first second =>
      obtain ⟨start, hstart, steps, hleads⟩ := hgo _ h
      rcases List.mem_cons.mp hstart with rfl | hstart
      · exact ⟨address, List.mem_cons_self, steps + 1, .first hinstr hleads⟩
      rcases List.mem_cons.mp hstart with rfl | hstart
      · exact ⟨address, List.mem_cons_self, steps + 1, .second hinstr hleads⟩
      · exact ⟨start, List.mem_cons_of_mem _ hstart, steps, hleads⟩
    | accept =>
      cases text with
      | nil => exact ⟨address, List.mem_cons_self, 0, .accept hinstr⟩
      | cons c text =>
        -- nothing waits for a character where a text is accepted
        obtain ⟨way, hway, _⟩ := h
        exact absurd hway List.not_mem_nil

/-- A way that is open at a frontier begins at one of its addresses. -/
theorem leads_of_opens {fuel : Nat} {addresses : List Nat} {seen : Nat}
    (h : (frontier code before (text ++ rest).head? fuel addresses seen).Opens code rest text) :
    ∃ start ∈ addresses, ∃ steps, Leads code rest steps start before text := by
  induction fuel generalizing addresses seen with
  | zero => exact absurd h Frontier.not_opens_empty
  | succ fuel ih =>
    cases addresses with
    | nil => exact absurd h Frontier.not_opens_empty
    | cons address others =>
      rw [frontier_cons] at h
      split at h
      · obtain ⟨start, hstart, hleads⟩ := ih h
        exact ⟨start, List.mem_cons_of_mem _ hstart, hleads⟩
      · exact leads_of_follow (fun _ => ih) h

end

namespace Program

variable {program : Program} {addresses : List Nat} {before : Option Char} {chars : List Char}
  {passed stop : Nat}

/-- A way from one of the addresses leads over a front of the text, up to `stop` if `passed`
characters stand before it. -/
def StopsAt (program : Program) (addresses : List Nat) (before : Option Char) (chars : List Char)
    (passed stop : Nat) : Prop :=
  ∃ text rest, chars = text ++ rest ∧ stop = passed + text.length ∧
    ∃ start ∈ addresses, ∃ steps, Leads program.code rest steps start before text

theorem stopsAt_of_accepted
    (haccepted : (program.frontier before chars.head? addresses).accepted = true) (passed : Nat) :
    program.StopsAt addresses before chars passed passed := by
  have hopens : (program.frontier before chars.head? addresses).Opens program.code chars [] :=
    haccepted
  exact ⟨[], chars, rfl, rfl, leads_of_opens hopens⟩

theorem stopsAt_of_advance {c : Char}
    (h : program.StopsAt ((program.frontier before (some c) addresses).advance c) (some c) chars
      (passed + 1) stop) :
    program.StopsAt addresses before (c :: chars) passed stop := by
  obtain ⟨text, rest, rfl, rfl, start, hstart, steps, hleads⟩ := h
  rw [Frontier.advance, List.mem_filterMap] at hstart
  obtain ⟨⟨set, next⟩, hway, hnext⟩ := hstart
  rw [Option.ite_none_right_eq_some] at hnext
  obtain ⟨hc, ⟨⟩⟩ := hnext
  have hopens : (program.frontier before (some c) addresses).Opens program.code rest (c :: text) :=
    ⟨(set, start), hway, hc, steps, hleads⟩
  refine ⟨c :: text, rest, rfl, ?_, leads_of_opens hopens⟩
  rw [List.length_cons, Nat.add_right_comm, Nat.add_assoc]

/-- A run stops where one of its ways does, unless nothing better is found than what it began
with. -/
theorem stopsAt_of_run {best : Option Nat}
    (h : program.run addresses before chars passed best = some stop) :
    best = some stop ∨ program.StopsAt addresses before chars passed stop := by
  induction chars generalizing addresses before passed best with
  | nil =>
    rw [run] at h
    split at h
    · rename_i haccepted
      cases h
      exact .inr (stopsAt_of_accepted haccepted _)
    · exact .inl h
  | cons c chars ih =>
    -- either nothing goes on over `c`, or what is found there is no better than what was found so far
    have hbest (h : (if (program.frontier before (some c) addresses).accepted then some passed
        else best) = some stop) :
        best = some stop ∨ program.StopsAt addresses before (c :: chars) passed stop := by
      split at h
      · rename_i haccepted
        cases h
        exact .inr (stopsAt_of_accepted haccepted _)
      · exact .inl h
    rw [run] at h
    cases hadvance : (program.frontier before (some c) addresses).advance c with
    | nil =>
      rw [hadvance] at h
      exact hbest h
    | cons next others =>
      rw [hadvance] at h
      rcases ih h with h | h
      · exact hbest h
      · exact .inr (stopsAt_of_advance (hadvance.symm ▸ h))

variable {e : Expr} {text : List Char} {length : Nat}

/-- What the program of an expression finds right here is a passage that the expression denotes. -/
theorem denotes_of_matchHere? (h : (ofExpr e).matchHere? before text = some length) :
    e.Denotes before (text.take length) (text.drop length) := by
  obtain h | ⟨front, rest, rfl, rfl, start, hstart, steps, hleads⟩ := stopsAt_of_run h
  · cases h
  rw [Nat.zero_add, List.take_left, List.drop_left]
  rw [List.mem_singleton.mp hstart] at hleads
  have hlays : Lays e.Denotes (e.layOut (0, #[.accept])) (0, #[.accept]) := e.lays _
  obtain ⟨passage, back, rfl, hpassage, fewer, -, hback⟩ :=
    hlays.crosses _ (fun _ _ _ => rfl) rest steps before front hleads
  -- nothing is left to cross behind the code of the expression
  obtain rfl : back = [] := hback.of_accept (hlays.kept 0 Nat.zero_lt_one)
  rwa [List.append_nil]

/-- What the expression finds when it is bound to the start of a text is a passage there that it
denotes. -/
theorem denotes_of_matchEnd?_anchored (h : (ofExpr e.anchored).matchEnd? text = some length) :
    e.Denotes none (text.take length) (text.drop length) := by
  rw [matchEnd?_anchored] at h
  exact denotes_of_matchHere? h

end Program

end LineLexer.Pattern
