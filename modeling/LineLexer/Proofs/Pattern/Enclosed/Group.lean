import LineLexer.Proofs.Pattern.Enclosed.Class

/-!
# Groups with a closing parenthesis behind

What opens a group at the end of a text, and the signs of repetition, if a closing parenthesis
follows.
-/

namespace LineLexer.Pattern

variable {text text' : List Char}

namespace ParseState

/-- There is no way on: nothing is left, or a brace that holds no count. -/
def Stuck (st : ParseState) (rest : List Char) : Prop :=
  rest = [] ∨ ∃ behind, rest = '{' :: behind ∧ st.flags.skip behind = [')']

/-! ## Flags and names -/

theorem extends_readFlagLetters (taken : List Char) (h : Carries text text') :
    Extends text.length (fun read rest => read.2 = ')' ∧ rest = [])
      (regroup (readFlagLetters taken text)) (regroup (readFlagLetters taken text')) := by
  induction text generalizing taken text' with
  | nil =>
    -- The parenthesis is one of the two signs that end the letters.
    obtain rfl | rfl := h.of_nil
    · rw [readFlagLetters, readFlagLetters, if_pos (.inr rfl)]
      split
      · exact .refused _ _
      · exact .lost _ ⟨rfl, rfl⟩
    · exact .refused _ _
  | cons c rest ih =>
    obtain ⟨rest', rfl, hrest⟩ := h.of_cons
    rw [readFlagLetters, readFlagLetters]
    split
    · split
      · exact .refused _ _
      · exact .read (Nat.le_succ _) hrest
    · split
      · exact .refused _ _
      · split
        · exact .refused _ _
        · exact (ih _ hrest).mono (Nat.le_succ _)

/-- A name, given with what stands behind the angle bracket that ends it. -/
def nameBefore (names : List (List Char)) (name rest : List Char) :
    Except PatternError (List Char × List Char) :=
  match name, rest with
  | first :: others, '>' :: rest =>
    if !(isNameStart first && others.all isNameChar) then .error .groupNameInvalid
    else if names.contains name then .error (.groupNameTwice (String.ofList name))
    else .ok (name, rest)
  | _, _ => .error .groupNameInvalid

theorem readGroupName_eq (names : List (List Char)) (text : List Char) :
    readGroupName names text
      = nameBefore names (text.span (· != '>')).1 (text.span (· != '>')).2 := rfl

theorem nameBefore_nil (names : List (List Char)) (name : List Char) :
    nameBefore names name [] = .error .groupNameInvalid := by
  cases name <;> rfl

theorem extends_nameBefore (names : List (List Char)) (name : List Char) (c : Char) {length : Nat}
    (hlength : text.length ≤ length) (h : Carries text text') :
    Extends length Never (nameBefore names name (c :: text)) (nameBefore names name (c :: text')) := by
  cases name with
  | nil => exact .refused _ _
  | cons first others =>
    by_cases hc : c = '>'
    · subst hc
      simp only [nameBefore]
      split
      · exact .refused _ _
      · split
        · exact .refused _ _
        · exact .read hlength h
    · have hother (rest : List Char) :
          nameBefore names (first :: others) (c :: rest) = .error .groupNameInvalid := by
        unfold nameBefore
        split
        · rename_i heq
          exact absurd (List.cons.inj heq).1 hc
        · rfl
      rw [hother, hother]
      exact .refused _ _

theorem extends_readGroupName (names : List (List Char)) (h : Carries text text') :
    Extends text.length Never (readGroupName names text) (readGroupName names text') := by
  rw [readGroupName_eq, readGroupName_eq]
  obtain ⟨hnil, hnil'⟩ | ⟨name, c, rest, rest', heq, heq', hlt, hrest⟩ :=
    h.span_of_kind (· != '>') (by decide)
  · rw [hnil, hnil', nameBefore_nil, nameBefore_nil]
    exact .refused _ _
  · rw [heq, heq']
    exact extends_nameBefore names name c (Nat.le_of_lt hlt) hrest

/-- What the letters of a group stand for, up to the sign that ends them. -/
def flagGroup (st : ParseState) (letters : List Char) (ending : Char) (rest : List Char) :
    Except PatternError (ParseState × List Char) := do
  let flags := applyFlags st.flags true letters
  if ending = ':' then return (st.openParens none flags, rest)
  if letters.isEmpty then throw .nothingToRepeat
  return ({ st.add .setting with flags := flags }, rest)

theorem extends_flagGroup (st : ParseState) (letters : List Char)
    (ending : Char) {length : Nat} (hlength : text.length ≤ length) (h : Carries text text') :
    Extends length Stuck (st.flagGroup letters ending text)
      (st.flagGroup letters ending text') := by
  unfold flagGroup
  dsimp only
  split
  · exact .read hlength h
  · cases letters with
    | nil => exact .refused _ _
    | cons letter letters => exact .read hlength h

/-- The parenthesis may end the letters, if nothing else does. -/
theorem misses_flagGroup_close (st : ParseState) (letters : List Char) :
    Misses Stuck (st.flagGroup letters ')' []) := by
  cases letters with
  | nil => exact .error _
  | cons letter letters => exact .ok (.inl rfl)

/-- A group with a name. -/
def namedGroup (st : ParseState) (rest : List Char) :
    Except PatternError (ParseState × List Char) := do
  let (name, rest) ← readGroupName st.names rest
  return ({ st.openGroup with names := name :: st.names }, rest)

theorem extends_namedGroup (st : ParseState) (h : Carries text text') :
    Extends text.length Stuck (st.namedGroup text) (st.namedGroup text') := by
  unfold namedGroup
  exact .bind (extends_readGroupName st.names h) .read nofun

/-- What opens a group, after its parenthesis and what may stand behind that. -/
def groupAt (st : ParseState) (text : List Char) : Except PatternError (ParseState × List Char) :=
  match text with
  | '?' :: '=' :: _ | '?' :: '!' :: _ | '?' :: '<' :: '=' :: _ | '?' :: '<' :: '!' :: _ =>
    .error .lookaround
  | '?' :: 'P' :: '<' :: rest => st.namedGroup rest
  | '?' :: '<' :: rest => st.namedGroup rest
  | '?' :: rest =>
    readFlagLetters [] rest >>= fun (letters, ending, rest) => st.flagGroup letters ending rest
  | text => .ok (st.openGroup, text)

theorem readGroup_eq (st : ParseState) (text : List Char) :
    st.readGroup text = st.groupAt (st.flags.skip text) := rfl

theorem groupAt_plain (st : ParseState) (hmark : ∀ rest, text ≠ '?' :: rest) :
    st.groupAt text = .ok (st.openGroup, text) := by
  unfold groupAt
  split
  case h_8 => rfl
  all_goals exact absurd rfl (hmark _)

theorem groupAt_angle (st : ParseState) {rest : List Char} (hequal : ∀ tail, rest ≠ '=' :: tail)
    (hbang : ∀ tail, rest ≠ '!' :: tail) : st.groupAt ('?' :: '<' :: rest) = st.namedGroup rest := by
  rw [groupAt]
  · exact hequal
  · exact hbang

/-- The letters of flags come next. -/
structure FlagsNext (rest : List Char) : Prop where
  equal : ∀ tail, rest ≠ '=' :: tail
  bang : ∀ tail, rest ≠ '!' :: tail
  angle : ∀ tail, rest ≠ '<' :: tail
  named : ∀ tail, rest ≠ 'P' :: '<' :: tail

theorem FlagsNext.of_carries (hflags : FlagsNext text) (h : Carries text text') :
    FlagsNext text' where
  equal := h.ne_cons hflags.equal (by decide)
  bang := h.ne_cons hflags.bang (by decide)
  angle := h.ne_cons hflags.angle (by decide)
  named := by
    rintro tail rfl
    obtain ⟨rest, rfl, hrest⟩ := h.to_cons (by decide)
    obtain ⟨tail, rfl, -⟩ := hrest.to_cons (by decide)
    exact hflags.named tail rfl

theorem flagsNext_or (rest : List Char) :
    FlagsNext rest ∨ (∃ tail, rest = '=' :: tail) ∨ (∃ tail, rest = '!' :: tail) ∨
      (∃ tail, rest = '<' :: tail) ∨ ∃ tail, rest = 'P' :: '<' :: tail := by
  by_contra hnone
  simp only [not_or, not_exists] at hnone
  obtain ⟨hflags, hequal, hbang, hangle, hnamed⟩ := hnone
  exact hflags ⟨hequal, hbang, hangle, hnamed⟩

theorem groupAt_flags (st : ParseState) {rest : List Char} (hflags : FlagsNext rest) :
    st.groupAt ('?' :: rest)
      = regroup (readFlagLetters [] rest) >>= fun ((letters, ending), rest) =>
          st.flagGroup letters ending rest := by
  rw [groupAt, ← bind_regroup]
  · exact hflags.equal
  · exact hflags.bang
  · exact fun _ => hflags.angle _
  · exact fun _ => hflags.angle _
  · exact hflags.named
  · exact hflags.angle

theorem extends_groupAt_flags (st : ParseState)
    (hflags : FlagsNext text) (h : Carries text text') :
    Extends text.length Stuck (st.groupAt ('?' :: text)) (st.groupAt ('?' :: text')) := by
  rw [groupAt_flags _ hflags, groupAt_flags _ (hflags.of_carries h)]
  refine .bind (extends_readFlagLetters [] h) ?_ ?_
  · rintro ⟨letters, ending⟩ rest rest' hlength hrest
    exact extends_flagGroup st letters ending hlength hrest
  · rintro ⟨letters, ending⟩ rest' ⟨rfl, rfl⟩
    exact misses_flagGroup_close st letters

/-- Behind an angle bracket stands a name, or the sign of a condition that is not supported. -/
theorem extends_groupAt_angle (st : ParseState)
    (h : Carries text text') :
    Extends text.length Stuck (st.groupAt ('?' :: '<' :: text))
      (st.groupAt ('?' :: '<' :: text')) := by
  by_cases hequal : ∃ tail, text = '=' :: tail
  · obtain ⟨tail, rfl⟩ := hequal
    obtain ⟨tail', rfl, -⟩ := h.of_cons
    exact .refused _ _
  · by_cases hbang : ∃ tail, text = '!' :: tail
    · obtain ⟨tail, rfl⟩ := hbang
      obtain ⟨tail', rfl, -⟩ := h.of_cons
      exact .refused _ _
    · have hequal' := h.ne_cons (not_exists.mp hequal) (by decide)
      have hbang' := h.ne_cons (not_exists.mp hbang) (by decide)
      rw [groupAt_angle st (not_exists.mp hequal) (not_exists.mp hbang),
        groupAt_angle st hequal' hbang']
      exact extends_namedGroup st h

theorem extends_groupAt_mark (st : ParseState)
    (h : Carries text text') :
    Extends text.length Stuck (st.groupAt ('?' :: text)) (st.groupAt ('?' :: text')) := by
  obtain hflags | ⟨tail, rfl⟩ | ⟨tail, rfl⟩ | ⟨tail, rfl⟩ | ⟨tail, rfl⟩ := flagsNext_or text
  · exact extends_groupAt_flags st hflags h
  · obtain ⟨tail', rfl, -⟩ := h.of_cons
    exact .refused _ _
  · obtain ⟨tail', rfl, -⟩ := h.of_cons
    exact .refused _ _
  · obtain ⟨tail', rfl, htail⟩ := h.of_cons
    exact (extends_groupAt_angle st htail).mono (Nat.le_succ _)
  · obtain ⟨rest', rfl, hrest⟩ := h.of_cons
    obtain ⟨tail', rfl, htail⟩ := hrest.of_cons
    exact (extends_namedGroup st htail).mono (Nat.le_add_right _ 2)

theorem extends_groupAt (st : ParseState) (h : Carries text text') :
    Extends text.length Stuck (st.groupAt text) (st.groupAt text') := by
  by_cases hmark : ∃ rest, text = '?' :: rest
  · obtain ⟨rest, rfl⟩ := hmark
    obtain ⟨rest', rfl, hrest⟩ := h.of_cons
    exact (extends_groupAt_mark st hrest).mono (Nat.le_succ _)
  · have hmark' := h.ne_cons (not_exists.mp hmark) (by decide)
    rw [groupAt_plain st (not_exists.mp hmark), groupAt_plain st hmark']
    exact .read (Nat.le_refl _) h

theorem extends_readGroup (st : ParseState) (h : Carries text text') :
    Extends text.length Stuck (st.readGroup text) (st.readGroup text') := by
  rw [readGroup_eq, readGroup_eq]
  exact (extends_groupAt st (h.skip st.flags)).mono (st.flags.length_skip_le text)

/-! ## Repetitions -/

theorem Carries.readGreed (h : Carries text text') :
    (readGreed text').1 = (readGreed text).1 ∧ (readGreed text).2.length ≤ text.length ∧
      Carries (readGreed text).2 (readGreed text').2 := by
  unfold ParseState.readGreed
  split
  · rename_i rest'
    obtain ⟨rest, rfl, hrest⟩ := h.to_cons (by decide)
    exact ⟨rfl, Nat.le_succ _, hrest⟩
  · rename_i hmark
    split
    · obtain ⟨rest', rfl, -⟩ := h.of_cons
      exact absurd rfl (hmark rest')
    · exact ⟨rfl, Nat.le_refl _, h⟩

theorem extends_readRepetition (st : ParseState) (min : Nat)
    (max : Option Nat) (h : Carries text text') :
    Extends text.length Stuck (st.readRepetition min max text)
      (st.readRepetition min max text') := by
  obtain ⟨hgreed, hle, hrest⟩ := Carries.readGreed h
  unfold readRepetition
  dsimp only
  rw [hgreed]
  cases st.repeatLast min max (readGreed text).1 with
  | error error => exact .refused _ _
  | ok st => exact .read hle hrest

/-- The greatest count, behind a comma. -/
def boundBehind (flags : Flags) (text : List Char) :
    Except PatternError (Option Nat × List Char) :=
  match text with
  | [] => throw .countUnclosed
  | '}' :: rest => pure (none, '}' :: rest)
  | rest => do
    let (max, rest) := flags.readCount rest
    pure (some (← checkCount max), rest)

/-- The greatest count, behind the least one. -/
def boundAt (flags : Flags) (min : Option Nat) (text : List Char) :
    Except PatternError (Option Nat × List Char) :=
  match text with
  | [] => throw .countUnclosed
  | ',' :: rest => boundBehind flags (flags.skip rest)
  | rest => do pure (some (← checkCount min), rest)

/-- The end of the bounds. -/
def boundsEnd (min : Option Nat) (max : Option Nat) (text : List Char) :
    Except PatternError (Nat × Option Nat × List Char) := do
  let min ← checkCount min
  match text with
  | '}' :: rest =>
    match max with
    | some bound => if bound < min then throw (.countReversed min bound)
    | none => pure ()
    return (min, max, rest)
  | _ => throw .countUnclosed

theorem boundBehind_count (flags : Flags) (hnil : text ≠ [])
    (hbrace : ∀ rest, text ≠ '}' :: rest) :
    boundBehind flags text
      = checkCount (flags.readCount text).1 >>= fun max =>
          pure (some max, (flags.readCount text).2) := by
  unfold boundBehind
  split
  · exact absurd rfl hnil
  · exact absurd rfl (hbrace _)
  · rfl

theorem boundAt_count (flags : Flags) (min : Option Nat) (hnil : text ≠ [])
    (hcomma : ∀ rest, text ≠ ',' :: rest) :
    boundAt flags min text = checkCount min >>= fun max => pure (some max, text) := by
  unfold boundAt
  split
  · exact absurd rfl hnil
  · exact absurd rfl (hcomma _)
  · rfl

theorem readBounds_eq (flags : Flags) (text : List Char) :
    readBounds flags text
      = boundAt flags (flags.readCount text).1 (flags.readCount text).2 >>= fun (max, rest) =>
          boundsEnd (flags.readCount text).1 max rest := by
  unfold readBounds
  generalize flags.readCount text = counted
  obtain ⟨min, rest⟩ := counted
  dsimp only
  split
  · rfl
  · rename_i rest
    change _ = boundBehind flags (flags.skip rest) >>= _
    split
    · rename_i heq
      rw [heq]
      rfl
    · rename_i heq
      rw [heq]
      rfl
    · rename_i hnil hbrace
      rw [boundBehind_count flags hnil hbrace]
      cases checkCount (flags.readCount (flags.skip rest)).1 <;> rfl
  · rename_i hnil hcomma
    rw [boundAt_count flags min hnil hcomma]
    unfold boundsEnd
    cases checkCount min <;> rfl

theorem readCount_close (flags : Flags) : flags.readCount [')'] = (none, [')']) := by
  have hblank : [')'].dropWhile isBlank = [')'] := by
    rw [List.dropWhile_cons_of_neg (by rw [Carries.isBlank_close]; decide)]
  have hdigits : flags.takeWhile Char.isDigit false [')'] = ([], [')']) := by
    simp [Flags.takeWhile, Carries.isBlank_close]
  rw [Flags.readCount, hblank, hdigits]
  dsimp only
  rw [hblank, flags.skip_close]
  rfl

/-- A parenthesis bounds no count. -/
theorem misses_boundBehind_close (flags : Flags) :
    Misses Never (boundBehind flags [')']) := by
  rw [boundBehind_count flags (by simp) (by simp), readCount_close]
  exact .error _

theorem extends_boundBehind (flags : Flags) (h : Carries text text') :
    Extends text.length Never (boundBehind flags text) (boundBehind flags text') := by
  cases text with
  | nil =>
    obtain rfl | rfl := h.of_nil
    · exact .of_misses _ (misses_boundBehind_close flags)
    · exact .refused _ _
  | cons c rest =>
    obtain ⟨rest', rfl, hrest⟩ := h.of_cons
    by_cases hc : c = '}'
    · subst hc
      exact .read (Nat.le_refl _) h
    · have hbrace (rest behind : List Char) : c :: rest ≠ '}' :: behind :=
        fun heq => hc (List.cons.inj heq).1
      obtain ⟨hcount, hle, hbehind⟩ := h.readCount flags
      rw [boundBehind_count flags (List.cons_ne_nil _ _) (hbrace _),
        boundBehind_count flags (List.cons_ne_nil _ _) (hbrace _), hcount]
      exact .bind_same _ fun _ => .read hle hbehind

/-- Only a brace ends the bounds. -/
theorem boundsEnd_error (min max : Option Nat) (hbrace : ∀ rest, text ≠ '}' :: rest) :
    ∃ error, boundsEnd min max text = .error error := by
  unfold boundsEnd
  cases checkCount min with
  | error error => exact ⟨error, rfl⟩
  | ok min =>
    dsimp only [bind, Except.bind]
    split
    · exact absurd rfl (hbrace _)
    · exact ⟨_, rfl⟩

theorem extends_boundsEnd (min max : Option Nat) {length : Nat} (hlength : text.length ≤ length)
    (h : Carries text text') :
    Extends length Never (regroup (boundsEnd min max text)) (regroup (boundsEnd min max text')) := by
  by_cases hbrace : ∃ rest, text = '}' :: rest
  · obtain ⟨rest, rfl⟩ := hbrace
    obtain ⟨rest', rfl, hrest⟩ := h.of_cons
    have hread (least : Nat) : Extends length Never (.ok ((least, max), rest))
        (.ok ((least, max), rest')) := .read (Nat.le_of_succ_le hlength) hrest
    unfold boundsEnd
    cases checkCount min with
    | error error => exact .refused _ _
    | ok least =>
      cases max with
      | none => exact hread least
      | some bound =>
        by_cases hlt : bound < least
        · simp only [bind, Except.bind, if_pos hlt]
          exact .refused _ _
        · simp only [bind, Except.bind, if_neg hlt]
          exact hread least
  · have hbrace' := h.ne_cons (not_exists.mp hbrace) (by decide)
    obtain ⟨error, herror⟩ := boundsEnd_error min max (not_exists.mp hbrace)
    obtain ⟨error', herror'⟩ := boundsEnd_error min max hbrace'
    rw [herror, herror']
    exact .refused _ _

theorem extends_boundAt (flags : Flags) (min : Option Nat) {length : Nat}
    (hlength : text.length ≤ length) (h : Carries text text') :
    Extends length (fun _ rest => rest = [')']) (boundAt flags min text)
      (boundAt flags min text') := by
  cases text with
  | nil =>
    obtain rfl | rfl := h.of_nil
    · have hcount := boundAt_count flags min (List.cons_ne_nil ')' []) (by simp)
      rw [hcount]
      refine .of_misses _ ?_
      cases checkCount min with
      | error error => exact .error _
      | ok bound => exact .ok rfl
    · exact .refused _ _
  | cons c rest =>
    obtain ⟨rest', rfl, hrest⟩ := h.of_cons
    by_cases hc : c = ','
    · subst hc
      have hle := Nat.le_trans (flags.length_skip_le rest) (Nat.le_of_succ_le hlength)
      exact ((extends_boundBehind flags (hrest.skip flags)).mono hle).of_never
    · have hcomma (rest behind : List Char) : c :: rest ≠ ',' :: behind :=
        fun heq => hc (List.cons.inj heq).1
      rw [boundAt_count flags min (List.cons_ne_nil _ _) (hcomma _),
        boundAt_count flags min (List.cons_ne_nil _ _) (hcomma _)]
      exact .bind_same _ fun _ => .read hlength h

theorem extends_readBounds (flags : Flags) (h : Carries text text') :
    Extends text.length Never (regroup (readBounds flags text))
      (regroup (readBounds flags text')) := by
  obtain ⟨hcount, hle, hrest⟩ := h.readCount flags
  have hregroup (min : Option Nat) (rest : List Char) :
      regroup (boundAt flags min rest >>= fun (max, rest) => boundsEnd min max rest)
        = boundAt flags min rest >>= fun (max, rest) => regroup (boundsEnd min max rest) := by
    cases boundAt flags min rest <;> rfl
  rw [readBounds_eq, readBounds_eq, hcount, hregroup, hregroup]
  -- At the end of the text the parenthesis is taken to follow the count, but no brace does.
  refine .bind (extends_boundAt flags _ hle hrest) (extends_boundsEnd _ _) ?_
  rintro max rest' rfl
  have hclose : ∀ rest, [')'] ≠ '}' :: rest := by simp
  obtain ⟨error, herror⟩ := boundsEnd_error (flags.readCount text).1 max hclose
  simp only [herror]
  exact .error _

theorem readCounted_eq (st : ParseState) (text : List Char) :
    st.readCounted text
      = regroup (readBounds st.flags (st.flags.skip text)) >>= fun ((min, max), rest) =>
          st.readRepetition min max (st.flags.skip rest) := by
  rw [← bind_regroup]
  rfl

theorem extends_readCounted (st : ParseState) (h : Carries text text') :
    Extends text.length Stuck (st.readCounted text) (st.readCounted text') := by
  rw [readCounted_eq, readCounted_eq]
  refine .bind ((extends_readBounds st.flags (h.skip st.flags)).mono
    (st.flags.length_skip_le text)) ?_ nofun
  rintro ⟨min, max⟩ rest rest' hlength hrest
  exact (extends_readRepetition st min max (hrest.skip st.flags)).mono
    (Nat.le_trans (st.flags.length_skip_le rest) hlength)

/-- There is no count behind a brace if a parenthesis comes next. -/
theorem readCounted_close (st : ParseState) (hskip : st.flags.skip text = [')']) :
    st.readCounted text = .error .countEmpty := by
  have hbounds : readBounds st.flags [')'] = .error .countEmpty := by
    rw [readBounds_eq, readCount_close]
    rfl
  rw [readCounted_eq, hskip, hbounds]
  rfl

end ParseState

end LineLexer.Pattern
