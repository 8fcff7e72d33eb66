import LineLexer.Proofs.Pattern.Enclosed.Group

/-!
# Steps within a group

The groups that are open around a text make no difference to a step of its reader, unless the step
closes one of them.
-/

namespace LineLexer.Pattern.ParseState

/-- The same state with more groups open around it. -/
def under (outers : List OpenGroup) (st : ParseState) : ParseState :=
  { st with groups := st.groups ++ outers }

theorem under_nil (st : ParseState) : st.under [] = st := by
  rw [under, List.append_nil]

/-- The same answer with more groups open around it. -/
def underAll (outers : List OpenGroup) (answer : Except PatternError (ParseState × List Char)) :
    Except PatternError (ParseState × List Char) :=
  answer.map fun (st, rest) => (st.under outers, rest)

/-- What a reader makes of more groups around, if it reads something first. -/
theorem bind_underAll {α : Type} {outers : List OpenGroup} (x : Except PatternError α)
    {f f' : α → Except PatternError (ParseState × List Char)}
    (h : ∀ value, f' value = underAll outers (f value)) :
    x >>= f' = underAll outers (x >>= f) := by
  cases x with
  | error error => rfl
  | ok value => exact h value

variable (outers : List OpenGroup) (st : ParseState)

theorem namedGroup_under (text : List Char) :
    (st.under outers).namedGroup text = underAll outers (st.namedGroup text) :=
  bind_underAll (readGroupName st.names text) fun _ => rfl

theorem flagGroup_under (letters : List Char) (ending : Char) (rest : List Char) :
    (st.under outers).flagGroup letters ending rest
      = underAll outers (st.flagGroup letters ending rest) := by
  unfold flagGroup
  dsimp only
  split
  · rfl
  · cases letters <;> rfl

theorem groupAt_under (text : List Char) :
    (st.under outers).groupAt text = underAll outers (st.groupAt text) := by
  unfold groupAt
  split
  case h_5 => exact namedGroup_under outers st _
  case h_6 => exact namedGroup_under outers st _
  case h_7 => exact bind_underAll _ fun _ => flagGroup_under outers st _ _ _
  all_goals rfl

theorem repeatLast_under (min : Nat) (max : Option Nat) (greedy : Bool) :
    (st.under outers).repeatLast min max greedy
      = (st.repeatLast min max greedy).map (under outers) := by
  unfold repeatLast under
  dsimp only
  split
  · split
    · rfl
    · rfl
  · rfl

theorem readRepetition_under (min : Nat) (max : Option Nat) (text : List Char) :
    (st.under outers).readRepetition min max text
      = underAll outers (st.readRepetition min max text) := by
  unfold readRepetition
  dsimp only
  rw [repeatLast_under]
  cases st.repeatLast min max (readGreed text).1 <;> rfl

theorem readCounted_under (text : List Char) :
    (st.under outers).readCounted text = underAll outers (st.readCounted text) := by
  rw [readCounted_eq, readCounted_eq]
  exact bind_underAll (regroup (readBounds st.flags (st.flags.skip text)))
    fun _ => readRepetition_under outers st _ _ _

theorem addElement_under (element : Element) (rest : List Char) :
    ((st.under outers).addElement element >>= fun st => pure (st, rest))
      = underAll outers (st.addElement element >>= fun st => pure (st, rest)) := by
  unfold addElement
  change (st.flags.denote element >>= _) >>= _
    = underAll outers ((st.flags.denote element >>= _) >>= _)
  cases st.flags.denote element <;> rfl

theorem closeGroup_under (hgroups : st.groups ≠ []) :
    (st.under outers).closeGroup = st.closeGroup.map (under outers) := by
  obtain ⟨outer, groups, hgroups⟩ := List.exists_cons_of_ne_nil hgroups
  unfold closeGroup under
  simp only [hgroups]
  rfl

/-- A step does the same within further groups, unless it closes one of them. -/
theorem step_under (c : Char) (rest : List Char) (hclose : c = ')' → st.groups ≠ []) :
    (st.under outers).step c rest = underAll outers (st.step c rest) := by
  -- Of all steps, only one that closes a group looks at the groups that are open.
  unfold step
  split
  · exact groupAt_under outers st _
  · rw [closeGroup_under outers st (hclose rfl)]
    cases st.closeGroup <;> rfl
  · rfl
  · exact bind_underAll (readClass st.flags rest) fun _ => rfl
  · exact readRepetition_under outers st 0 (some 1) rest
  · exact readRepetition_under outers st 0 none rest
  · exact readRepetition_under outers st 1 none rest
  · exact readCounted_under outers st rest
  · exact bind_underAll (st.flags.readEscape rest) fun _ => addElement_under outers st _ _
  · exact bind_underAll st.flags.dot fun _ => rfl
  · exact addElement_under outers st _ rest
  · exact addElement_under outers st _ rest
  · exact addElement_under outers st _ rest

end LineLexer.Pattern.ParseState
