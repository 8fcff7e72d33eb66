import LineLexer.Proofs.Grammar.Compiled
import LineLexer.Proofs.Pattern.Anchored
import LineLexer.Proofs.Pattern.Enclosed.Whole

/-!
# Anchored patterns

A pattern is put into a group behind the test for the start of the text. If it closes no group that
it did not open, the group holds all of it, and what its rule matches is what the pattern matches at
the front of the text. A parenthesis that the pattern did not open closes the group that was meant to
hold the pattern, and then a rule may match behind the place where it is tried.
-/

namespace LineLexer.Pattern

/-! ## Reading within the group -/

open ParseState

/-- The state in which a pattern is read. -/
def initialState (ignoreCase : Bool) : ParseState := { flags := { ignoreCase := ignoreCase } }

/-- The test for the start of the text. -/
def startPart : Part := { expr := .look .textStart }

/-- The group that a pattern is put into. -/
def anchorGroup (ignoreCase : Bool) : OpenGroup where
  index := none
  parts := [startPart]
  branches := []
  flags := { ignoreCase := ignoreCase }

/-- What a text denotes, before the limit on its depth. -/
def readPart (ignoreCase : Bool) (text : List Char) : Except PatternError Part := do
  let st ← readTo (text.length + 1) (initialState ignoreCase) text
  if st.groups.isEmpty then .ok st.current else .error .groupUnclosed

theorem parse_eq (ignoreCase : Bool) (text : List Char) :
    parse ignoreCase text
      = readPart ignoreCase text >>= fun part =>
          if maxDepth < part.depth then .error .nestedTooDeep else .ok part.expr := by
  rw [parse, readFrom_eq, readPart]
  change readTo (text.length + 1) (initialState ignoreCase) text >>= _ = _
  cases readTo (text.length + 1) (initialState ignoreCase) text with
  | error error => rfl
  | ok st =>
    change st.finish = (if st.groups.isEmpty then Except.ok st.current else .error .groupUnclosed) >>= _
    cases hgroups : st.groups <;> simp [finish, hgroups] <;> rfl

theorem readPart_of_readTo {ignoreCase : Bool} {text : List Char} {st : ParseState}
    (hread : readTo (text.length + 1) (initialState ignoreCase) text = .ok st) :
    readPart ignoreCase text
      = if st.groups.isEmpty then .ok st.current else .error .groupUnclosed := by
  rw [readPart, hread]
  rfl

theorem step_textStart (ignoreCase : Bool) (rest : List Char) :
    (initialState ignoreCase).step '\\' ('A' :: rest)
      = .ok ((initialState ignoreCase).add startPart, rest) := rfl

theorem step_anchorGroup (ignoreCase : Bool) (rest : List Char) :
    ((initialState ignoreCase).add startPart).step '(' ('?' :: ':' :: rest)
      = .ok ((initialState ignoreCase).under [anchorGroup ignoreCase], rest) := rfl

/-- Two steps open the group around a pattern. -/
theorem parse_anchorPattern (ignoreCase : Bool) (body : List Char) :
    parse ignoreCase (anchorPattern body)
      = readTo (body.length + 5) ((initialState ignoreCase).under [anchorGroup ignoreCase])
          (body ++ [')']) >>= finish := by
  have hanchor : anchorPattern body = '\\' :: 'A' :: '(' :: '?' :: ':' :: (body ++ [')']) := rfl
  have hlength : (anchorPattern body).length + 1 = body.length + 5 + 1 + 1 := by
    simp only [hanchor, List.length_cons, List.length_append, List.length_nil]
  rw [parse, readFrom_eq, hlength, hanchor]
  change readTo (body.length + 5 + 1 + 1) (initialState ignoreCase) _ >>= _ = _
  rw [readTo_of_cons rfl, step_textStart]
  change readTo (body.length + 5 + 1) ((initialState ignoreCase).add startPart)
    ('(' :: '?' :: ':' :: (body ++ [')'])) >>= _ = _
  rw [readTo_of_cons rfl, step_anchorGroup]
  rfl

theorem finish_ne_groupUnopened (st : ParseState) : st.finish ≠ .error .groupUnopened := by
  rw [finish]
  split
  · simp
  · split <;> simp

/-- The parenthesis behind a pattern closes the group around it. -/
theorem finish_anchorGroup (ignoreCase : Bool) {st : ParseState} (hgroups : st.groups = []) :
    ((st.under [anchorGroup ignoreCase]).closeGroup >>= finish)
      = if maxDepth < st.current.depth + 2 then .error .nestedTooDeep
        else .ok st.current.expr.anchored := by
  have hunder : (st.under [anchorGroup ignoreCase]).groups = [anchorGroup ignoreCase] := by
    rw [under, hgroups, List.nil_append]
  have hclosed : (Part.ofBranch [st.current.group none, startPart])
      = ⟨st.current.expr.anchored, st.current.depth + 2, true⟩ := by
    have hdepth : 1 + max (max 0 (st.current.depth + 1)) 0 = st.current.depth + 2 := by omega
    exact congrArg (Part.mk st.current.expr.anchored · true) hdepth
  -- The group and the test before it are the two parts of the only branch.
  rw [closeGroup, hunder]
  change (if maxDepth < (Part.ofBranch [st.current.group none, startPart]).depth then _
    else Except.ok (Part.ofBranch [st.current.group none, startPart]).expr) = _
  rw [hclosed]

/-- The group around a pattern stays open if the pattern leaves one open. -/
theorem finish_anchorGroup_of_groups (ignoreCase : Bool) {st : ParseState}
    (hgroups : st.groups ≠ []) :
    ((st.under [anchorGroup ignoreCase]).closeGroup >>= finish) = .error .groupUnclosed := by
  rw [closeGroup_under _ _ hgroups]
  obtain ⟨outer, groups, hgroups⟩ := List.exists_cons_of_ne_nil hgroups
  unfold closeGroup
  rw [hgroups]
  exact finish_under (by simp) _

/-! ## What the group holds -/

/-- A text that a group of its own can hold: it is well-formed, does not end in a comment, and there
is room for it in the group. -/
structure Encloses (ignoreCase : Bool) (body : List Char) (part : Part) : Prop where
  reads : readPart ignoreCase body = .ok part
  ends : parse ignoreCase (body ++ [')']) = .error .groupUnopened
  depth : part.depth + 2 ≤ maxDepth
  room : part.expr.anchored.checkRoom = .ok ()

variable {ignoreCase : Bool} {body : List Char}

/-- What its group can hold is well-formed on its own. -/
theorem Encloses.parse_eq {part : Part} (h : Encloses ignoreCase body part) :
    parse ignoreCase body = .ok part.expr := by
  have hdepth : ¬maxDepth < part.depth := Nat.not_lt_of_le (Nat.le_of_add_right_le h.depth)
  rw [Pattern.parse_eq, h.reads]
  exact if_neg hdepth

/-- The two ways on at the end of a text that was read: the parenthesis belongs to its last comment,
or it closes what is open. -/
theorem exists_swallowed {st : ParseState}
    (hread : readTo (body.length + 1) (initialState ignoreCase) body = .ok st) :
    ∃ swallowed : Bool,
      parse ignoreCase (body ++ [')'])
          = (if swallowed then .ok st else st.closeGroup) >>= finish ∧
        parse ignoreCase (anchorPattern body)
          = (if swallowed then .ok (st.under [anchorGroup ignoreCase])
              else (st.under [anchorGroup ignoreCase]).closeGroup) >>= finish := by
  obtain ⟨swallowed, hswallowed⟩ := readTo_of_readTo_ok hread (Nat.lt_succ_self _) (.kept body)
  refine ⟨swallowed, ?_, ?_⟩
  -- The same parenthesis, with no group around the pattern and with the one that it is put into.
  · have hclose := hswallowed [] (body.length + 1 + 1) (Nat.lt_succ_self _)
    rw [under_nil, under_nil] at hclose
    rw [parse, readFrom_eq, List.length_append]
    exact congrArg (· >>= finish) hclose
  · rw [parse_anchorPattern, hswallowed [anchorGroup ignoreCase] _ (by omega)]

/-- A well-formed text in a group: the parenthesis belongs to its last comment, or it closes the
group. -/
theorem parse_anchorPattern_of_ok {part : Part} (hpart : readPart ignoreCase body = .ok part) :
    parse ignoreCase (anchorPattern body)
      = if parse ignoreCase (body ++ [')']) = .error .groupUnopened then
          if maxDepth < part.depth + 2 then .error .nestedTooDeep else .ok part.expr.anchored
        else .error .groupUnclosed := by
  cases hread : readTo (body.length + 1) (initialState ignoreCase) body with
  | error error =>
    rw [readPart, hread] at hpart
    cases hpart
  | ok st =>
    rw [readPart_of_readTo hread] at hpart
    cases hgroups : st.groups with
    | cons outer groups =>
      rw [hgroups] at hpart
      cases hpart
    | nil =>
      rw [hgroups] at hpart
      obtain rfl := Except.ok.inj hpart
      obtain ⟨swallowed, hclose, hparse⟩ := exists_swallowed hread
      rw [hparse, hclose]
      -- With no group around it, the parenthesis is refused unless a comment takes it.
      cases swallowed with
      | true =>
        change (st.under [anchorGroup ignoreCase]).finish
          = if st.finish = .error .groupUnopened then _ else _
        rw [if_neg (finish_ne_groupUnopened st), finish_under (by simp)]
      | false =>
        have hclosed : (st.closeGroup >>= finish) = .error .groupUnopened := by
          rw [closeGroup_of_nil hgroups]
          rfl
        change ((st.under [anchorGroup ignoreCase]).closeGroup >>= finish)
          = if (st.closeGroup >>= finish) = .error .groupUnopened then _ else _
        rw [if_pos hclosed, finish_anchorGroup ignoreCase hgroups]

/-- A text that is not well-formed is not well-formed in a group either, unless it closes the
group. -/
theorem parse_anchorPattern_of_error {error : PatternError}
    (hpart : readPart ignoreCase body = .error error) (hopened : error ≠ .groupUnopened) :
    ∃ error', parse ignoreCase (anchorPattern body) = .error error' := by
  cases hread : readTo (body.length + 1) (initialState ignoreCase) body with
  | error error =>
    rw [readPart, hread] at hpart
    cases hpart
    rw [parse_anchorPattern, ← readFrom_eq]
    exact readFrom_of_readTo_error (by simp) hread hopened (.kept body) _
  | ok st =>
    have hgroups : st.groups ≠ [] := by
      intro hgroups
      rw [readPart_of_readTo hread, hgroups] at hpart
      cases hpart
    obtain ⟨swallowed, -, hparse⟩ := exists_swallowed hread
    rw [hparse]
    cases swallowed with
    | true => exact ⟨_, finish_under (by simp) st⟩
    | false => exact ⟨_, finish_anchorGroup_of_groups ignoreCase hgroups⟩

theorem parse_eq_groupUnopened_iff :
    parse ignoreCase body = .error .groupUnopened ↔
      readPart ignoreCase body = .error .groupUnopened := by
  rw [parse_eq]
  cases readPart ignoreCase body with
  | error error => constructor <;> (rintro ⟨⟩; rfl)
  | ok part =>
    change (if maxDepth < part.depth then _ else _) = _ ↔ _
    split <;> simp

/-- What can be read in the group around a pattern, and has room. -/
theorem parse_anchorPattern_iff (hopened : parse ignoreCase body ≠ .error .groupUnopened)
    {expr : Expr} :
    parse ignoreCase (anchorPattern body) = .ok expr ∧ expr.checkRoom = .ok () ↔
      ∃ part, Encloses ignoreCase body part ∧ expr = part.expr.anchored := by
  constructor
  · rintro ⟨hparse, hroom⟩
    cases hpart : readPart ignoreCase body with
    | error error =>
      have hother : error ≠ .groupUnopened := by
        rintro rfl
        exact hopened (parse_eq_groupUnopened_iff.mpr hpart)
      obtain ⟨error', herror'⟩ := parse_anchorPattern_of_error hpart hother
      rw [hparse] at herror'
      cases herror'
    | ok part =>
      rw [parse_anchorPattern_of_ok hpart] at hparse
      split at hparse
      · rename_i hends
        split at hparse
        · cases hparse
        · rename_i hdepth
          obtain rfl := Except.ok.inj hparse
          exact ⟨part, ⟨hpart, hends, Nat.le_of_not_lt hdepth, hroom⟩, rfl⟩
      · cases hparse
  · rintro ⟨part, hpart, rfl⟩
    rw [parse_anchorPattern_of_ok hpart.reads, if_pos hpart.ends,
      if_neg (Nat.not_lt_of_le hpart.depth)]
    exact ⟨rfl, hpart.room⟩

end LineLexer.Pattern

namespace LineLexer

open Pattern

/-- A pattern that closes no group which it did not open is accepted if and only if it is well-formed,
does not end in a comment and has room in its group. Wherever its rule is admitted, the rule matches
what the pattern matches at the front of the text. -/
theorem compilePattern_of_closed {ignoreCase : Bool} {pattern : String}
    (hopened : parse ignoreCase (splitLineStart pattern.toList).1 ≠ .error .groupUnopened) :
    ((compilePattern ignoreCase pattern).isOk ↔
        ∃ part, Encloses ignoreCase (splitLineStart pattern.toList).1 part) ∧
      ∀ rule : Rule, compilePattern ignoreCase pattern = .ok (rule.program, rule.lineStartOnly) →
        ∃ part, Encloses ignoreCase (splitLineStart pattern.toList).1 part ∧
          ∀ (atLineStart : Bool) rest, (rule.lineStartOnly → atLineStart) →
            rule.match? atLineStart rest = (Program.ofExpr part.expr).matchHere? none rest := by
  refine ⟨⟨fun haccepted => ?_, ?_⟩, fun rule hcompile => ?_⟩
  · cases hcompile : compilePattern ignoreCase pattern with
    | error error =>
      rw [hcompile] at haccepted
      cases haccepted
    | ok compiled =>
      obtain ⟨-, expr, hexpr, -⟩ := compilePattern_eq_ok_iff.mp hcompile
      obtain ⟨part, hpart, -⟩ := (parse_anchorPattern_iff hopened).mp hexpr
      exact ⟨part, hpart⟩
  · rintro ⟨part, hpart⟩
    have hexpr := (parse_anchorPattern_iff hopened).mpr ⟨part, hpart, rfl⟩
    rw [compilePattern_eq_ok_iff.mpr ⟨rfl, _, hexpr, rfl⟩]
    rfl
  · obtain ⟨-, expr, hexpr, hprogram⟩ := compilePattern_eq_ok_iff.mp hcompile
    obtain ⟨part, hpart, rfl⟩ := (parse_anchorPattern_iff hopened).mp hexpr
    refine ⟨part, hpart, fun atLineStart rest hadmitted => ?_⟩
    have hcond : (rule.lineStartOnly && !atLineStart) = false := by
      cases hline : rule.lineStartOnly with
      | false => rfl
      | true => simp [hadmitted hline]
    rw [Rule.match?, hcond, hprogram]
    exact Program.matchEnd?_anchored part.expr rest

/-- A rule for one of two words. -/
def wordRule : Rule where
  pattern := "a|bc"
  program := ((compilePattern false "a|bc").toOption.map Prod.fst).getD default
  lineStartOnly := false
  action := .token "word"
  transition := .stay

theorem wordRule_match :
    ∃ part, Encloses false "a|bc".toList part ∧
      wordRule.match? false "bcd".toList = (Program.ofExpr part.expr).matchHere? none "bcd".toList := by
  have hopened : parse false (splitLineStart "a|bc".toList).1 ≠ .error .groupUnopened := by
    decide +kernel
  obtain ⟨part, hpart, hmatch⟩ := (compilePattern_of_closed hopened).2 wordRule (by decide +kernel)
  exact ⟨part, hpart, hmatch false _ (by decide)⟩

/-- A pattern that is not well-formed on its own, since it closes a group that it did not open. It is
accepted, and its rule matches behind the place where it is tried. -/
theorem compilePattern_escape :
    parse false (splitLineStart "a)|(b".toList).1 = .error .groupUnopened ∧
      (compilePattern false "a)|(b").map (fun compiled => compiled.1.matchEnd? "zb".toList)
        = .ok (some 2) := by
  decide +kernel

end LineLexer
