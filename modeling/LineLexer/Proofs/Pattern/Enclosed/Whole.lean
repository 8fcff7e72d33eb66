import LineLexer.Proofs.Pattern.Enclosed.Around

/-!
# Whole texts within a group

A text that is read to its end is read in the same way within a group, up to the parenthesis that
closes the group. What fails on its own fails there too, unless it closes a group that it did not
open.
-/

namespace LineLexer.Pattern.ParseState

variable {text text' : List Char}

/-! ## One step -/

theorem extends_addElement (st : ParseState) (element : Element) {length : Nat}
    (hlength : text.length ≤ length) (h : Carries text text') :
    Extends length Stuck (st.addElement element >>= fun st => pure (st, text))
      (st.addElement element >>= fun st => pure (st, text')) :=
  .bind_same _ fun _ => .read hlength h

/-- The edge of a word is added, but the brace behind it holds no count. -/
theorem misses_addElement (st : ParseState) {element : Element} {rest : List Char}
    (hlost : LostEscape st.flags element rest) :
    Misses Stuck (st.addElement element >>= fun st => pure (st, rest)) := by
  have hadd : st.addElement element >>= (fun st => pure (st, rest))
      = st.flags.denote element >>= fun expr => pure (st.add { expr }, rest) := by
    unfold addElement
    cases st.flags.denote element <;> rfl
  rw [hadd]
  exact .bind_same _ fun expr => .ok (hlost.imp id And.right)

theorem extends_step (st : ParseState) (c : Char) (h : Carries text text') :
    Extends text.length Stuck (st.step c text) (st.step c text') := by
  unfold step
  split
  · exact extends_readGroup st h
  · exact .bind_same _ fun _ => .read (Nat.le_refl _) h
  · exact .read (Nat.le_refl _) h
  · exact .bind (extends_readClass st.flags h) .read nofun
  · exact extends_readRepetition st 0 (some 1) h
  · exact extends_readRepetition st 0 none h
  · exact extends_readRepetition st 1 none h
  · exact extends_readCounted st h
  · exact .bind (extends_readEscape st.flags h) (extends_addElement st _) (misses_addElement st)
  · exact .bind_same _ fun _ => .read (Nat.le_refl _) h
  · exact extends_addElement st _ (Nat.le_refl _) h
  · exact extends_addElement st _ (Nat.le_refl _) h
  · exact extends_addElement st _ (Nat.le_refl _) h

theorem step_close (st : ParseState) (rest : List Char) :
    st.step ')' rest = st.closeGroup >>= fun st => pure (st, rest) := rfl

theorem closeGroup_of_nil {st : ParseState} (hgroups : st.groups = []) :
    st.closeGroup = .error .groupUnopened := by
  rw [closeGroup, hgroups]

/-- A step that closes nothing around the text closes a group of its own. -/
theorem groups_ne_nil_of_close {st : ParseState} {c : Char} (rest : List Char)
    (hstep : st.step c rest ≠ .error .groupUnopened) (hc : c = ')') : st.groups ≠ [] := by
  rintro hgroups
  rw [hc, step_close, closeGroup_of_nil hgroups] at hstep
  exact hstep rfl

/-! ## All steps -/

/-- Reads to the end of the text, without asking whether all groups are closed there. -/
def readTo : (fuel : Nat) → ParseState → List Char → Except PatternError ParseState
  | 0, st, _ => .ok st
  | fuel + 1, st, text =>
    match st.flags.skip text with
    | [] => .ok st
    | c :: rest => do
      let (st, rest) ← st.step c rest
      readTo fuel st rest

theorem readTo_of_nil {st : ParseState} (hskip : st.flags.skip text = []) (fuel : Nat) :
    readTo fuel st text = .ok st := by
  cases fuel with
  | zero => rfl
  | succ fuel => rw [readTo, hskip]

theorem readTo_of_cons {st : ParseState} {c : Char} {rest : List Char}
    (hskip : st.flags.skip text = c :: rest) (fuel : Nat) :
    readTo (fuel + 1) st text = st.step c rest >>= fun (st, rest) => readTo fuel st rest := by
  rw [readTo, hskip]

theorem readFrom_eq (fuel : Nat) (st : ParseState) (text : List Char) :
    readFrom fuel st text = readTo fuel st text >>= finish := by
  induction fuel generalizing st text with
  | zero => rfl
  | succ fuel ih =>
    rw [readFrom, readTo]
    cases st.flags.skip text with
    | nil => rfl
    | cons c rest =>
      dsimp only
      cases st.step c rest with
      | error error => rfl
      | ok result => exact ih _ _

theorem finish_of_groups {st : ParseState} (hgroups : st.groups ≠ []) :
    st.finish = .error .groupUnclosed := by
  rw [finish, if_pos]
  simpa using hgroups

theorem under_groups_ne_nil {outers : List OpenGroup} (houters : outers ≠ []) (st : ParseState) :
    (st.under outers).groups ≠ [] :=
  fun hnil => houters (List.append_eq_nil_iff.mp hnil).2

theorem finish_under {outers : List OpenGroup} (houters : outers ≠ []) (st : ParseState) :
    (st.under outers).finish = .error .groupUnclosed :=
  finish_of_groups (under_groups_ne_nil houters st)

/-- Where a reader is stuck it fails, if groups are open. -/
theorem readFrom_of_stuck {st : ParseState} (hgroups : st.groups ≠ []) (rest : List Char)
    (hstuck : Stuck st rest) (fuel : Nat) : ∃ error, readFrom fuel st rest = .error error := by
  have hopen := finish_of_groups hgroups
  obtain rfl | ⟨behind, rfl, hskip⟩ := hstuck
  · rw [readFrom_eq, readTo_of_nil st.flags.skip_nil]
    exact ⟨_, hopen⟩
  · cases fuel with
    | zero => exact ⟨_, hopen⟩
    | succ fuel =>
      refine ⟨.countEmpty, ?_⟩
      rw [readFrom_eq, readTo_of_cons (st.flags.skip_brace behind)]
      change (st.readCounted behind >>= _) >>= _ = _
      rw [readCounted_close st hskip]
      rfl

/-- A text that is refused is refused within a group too. -/
theorem readFrom_of_readTo_error {outers : List OpenGroup} (houters : outers ≠ []) {fuel : Nat}
    {st : ParseState} {error : PatternError} (hread : readTo fuel st text = .error error)
    (hopened : error ≠ .groupUnopened) (h : Carries text text') (fuel' : Nat) :
    ∃ error', readFrom fuel' (st.under outers) text' = .error error' := by
  -- Up to the step that fails, the steps are the same within the group. That step fails there too, or
  -- the parenthesis lets it go on to a place where the next one fails.
  induction fuel generalizing st text text' fuel' with
  | zero => cases hread
  | succ fuel ih =>
    cases fuel' with
    | zero => exact ⟨_, finish_under houters st⟩
    | succ fuel' =>
      have hskip := h.skip st.flags
      cases hrest : st.flags.skip text with
      | nil =>
        rw [readTo_of_nil hrest] at hread
        cases hread
      | cons c rest =>
        rw [hrest] at hskip
        obtain ⟨rest', hrest', -⟩ := hskip.of_cons
        rw [hrest'] at hskip
        rw [readTo_of_cons hrest] at hread
        have hstep := st.extends_step c hskip.tail
        have hclose (hc : c = ')') : st.groups ≠ [] := by
          refine groups_ne_nil_of_close rest (fun hunopened => hopened ?_) hc
          rw [hunopened] at hread
          cases hread
          rfl
        have hunder : (st.under outers).flags.skip text' = c :: rest' := hrest'
        rw [readFrom_eq, readTo_of_cons hunder, step_under outers st c rest' hclose]
        cases hone : st.step c rest with
        | error failure =>
          rw [hone] at hstep
          cases hother : st.step c rest' with
          | error failure' => exact ⟨failure', rfl⟩
          | ok next =>
            obtain ⟨next, behind⟩ := next
            have hstuck : Stuck next behind := hstep.of_error _ _ hother
            obtain ⟨error', herror'⟩ :=
              readFrom_of_stuck (under_groups_ne_nil houters next) behind hstuck fuel'
            refine ⟨error', ?_⟩
            rw [← herror', readFrom_eq]
            rfl
        | ok next =>
          obtain ⟨next, behind⟩ := next
          rw [hone] at hstep hread
          obtain ⟨behind', heq, -, hbehind⟩ := hstep.of_ok
          obtain ⟨error', herror'⟩ := ih hread hbehind fuel'
          refine ⟨error', ?_⟩
          rw [heq, ← herror', readFrom_eq]
          rfl

/-- A text that is read to its end is read in the same way within further groups. The parenthesis
behind it closes what is open there, unless it belongs to a comment; which of the two it is does not
depend on the groups. -/
theorem readTo_of_readTo_ok {fuel : Nat} {st st' : ParseState}
    (hread : readTo fuel st text = .ok st') (hfuel : text.length < fuel) (h : Carries text text') :
    ∃ swallowed : Bool, ∀ outers fuel', text.length + 1 < fuel' →
      readTo fuel' (st.under outers) text'
        = if swallowed then .ok (st'.under outers) else (st'.under outers).closeGroup := by
  -- The groups around come last: the rest of the text after a step does not depend on them.
  induction fuel generalizing st text text' with
  | zero => exact absurd hfuel (Nat.not_lt_zero _)
  | succ fuel ih =>
    have hskip := h.skip st.flags
    have hle := st.flags.length_skip_le text
    cases hrest : st.flags.skip text with
    | nil =>
      rw [readTo_of_nil hrest] at hread
      obtain rfl := Except.ok.inj hread
      rw [hrest] at hskip
      obtain hclose | hnil := hskip.of_nil
      · refine ⟨false, fun outers fuel' hfuel' => ?_⟩
        obtain ⟨fuel', rfl⟩ := Nat.exists_eq_add_one.mpr (Nat.zero_lt_of_lt hfuel')
        have hunder : (st.under outers).flags.skip text' = [')'] := hclose
        rw [readTo_of_cons hunder, step_close]
        cases (st.under outers).closeGroup with
        | error error => rfl
        | ok closed => exact readTo_of_nil closed.flags.skip_nil fuel'
      · refine ⟨true, fun outers fuel' _ => ?_⟩
        have hunder : (st.under outers).flags.skip text' = [] := hnil
        exact readTo_of_nil hunder fuel'
    | cons c rest =>
      rw [hrest] at hskip hle
      obtain ⟨rest', hrest', -⟩ := hskip.of_cons
      rw [hrest'] at hskip
      rw [readTo_of_cons hrest] at hread
      have hstep := st.extends_step c hskip.tail
      cases hone : st.step c rest with
      | error failure =>
        rw [hone] at hread
        cases hread
      | ok next =>
        obtain ⟨next, behind⟩ := next
        rw [hone] at hstep hread
        obtain ⟨behind', heq, hlength, hbehind⟩ := hstep.of_ok
        have hclose : c = ')' → st.groups ≠ [] := groups_ne_nil_of_close rest (by simp [hone])
        have hshorter : behind.length < fuel := by
          rw [List.length_cons] at hle
          omega
        obtain ⟨swallowed, hswallowed⟩ := ih hread hshorter hbehind
        refine ⟨swallowed, fun outers fuel' hfuel' => ?_⟩
        rw [List.length_cons] at hle
        obtain ⟨fuel', rfl⟩ := Nat.exists_eq_add_one.mpr (Nat.zero_lt_of_lt hfuel')
        have hunder : (st.under outers).flags.skip text' = c :: rest' := hrest'
        rw [readTo_of_cons hunder, step_under outers st c rest' hclose, heq,
          ← hswallowed outers fuel' (by omega)]
        rfl

end LineLexer.Pattern.ParseState
