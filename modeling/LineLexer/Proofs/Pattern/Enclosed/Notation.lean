import LineLexer.Proofs.Pattern.Enclosed.Carry

/-!
# Elements with a closing parenthesis behind

An element at the end of a text is the same if a closing parenthesis follows, or there is none. Only
an escape that has nothing behind its backslash takes the parenthesis, and an edge of a word may have
an opening brace behind it that is not closed.
-/

namespace LineLexer.Pattern

open Unicode

variable {text text' : List Char}

theorem Carries.takeBraced (flags : Flags) (h : Carries text text') :
    (flags.takeBraced text = none ∧ flags.takeBraced text' = none) ∨
      ∃ taken rest rest', flags.takeBraced text = some (taken, rest) ∧
        flags.takeBraced text' = some (taken, rest') ∧ rest.length ≤ text.length ∧
        Carries rest rest' := by
  have hlength := flags.length_takeWhile_le (· != '}') false text
  rw [Flags.takeBraced, Flags.takeBraced]
  obtain ⟨hnil, hnil'⟩ | ⟨taken, c, rest, rest', heq, heq', hrest⟩ :=
    h.takeWhile_of_kind (· != '}') (by decide) flags
  · generalize flags.takeWhile (· != '}') false text = taken at hnil
    generalize flags.takeWhile (· != '}') false text' = taken' at hnil'
    obtain ⟨taken, rest⟩ := taken
    obtain ⟨taken', rest'⟩ := taken'
    subst hnil
    subst hnil'
    exact .inl ⟨rfl, rfl⟩
  · rw [heq] at hlength
    rw [heq, heq']
    exact .inr ⟨taken, rest, rest', rfl, rfl, Nat.le_of_succ_le hlength, hrest⟩

/-! ## Numbers -/

theorem Carries.readCount (flags : Flags) (h : Carries text text') :
    (flags.readCount text').1 = (flags.readCount text).1 ∧
      (flags.readCount text).2.length ≤ text.length ∧
      Carries (flags.readCount text).2 (flags.readCount text').2 := by
  have hblank := h.dropWhile isBlank_close
  obtain ⟨htaken, hrest⟩ := hblank.takeWhile_of_not Char.isDigit (by decide) flags
  have hskip := (hrest.dropWhile isBlank_close).skip flags
  have hlength : (flags.skip ((flags.takeWhile Char.isDigit false
      (text.dropWhile isBlank)).2.dropWhile isBlank)).length ≤ text.length :=
    calc _ ≤ ((flags.takeWhile Char.isDigit false (text.dropWhile isBlank)).2.dropWhile
            isBlank).length := flags.length_skip_le _
      _ ≤ (flags.takeWhile Char.isDigit false (text.dropWhile isBlank)).2.length :=
        (List.dropWhile_sublist _).length_le
      _ ≤ (text.dropWhile isBlank).length := flags.length_takeWhile_le _ _ _
      _ ≤ text.length := (List.dropWhile_sublist _).length_le
  rw [Flags.readCount, Flags.readCount]
  dsimp only
  rw [htaken]
  split
  · exact ⟨rfl, hlength, hskip⟩
  · exact ⟨rfl, hlength, hskip⟩

/-! ## Characters by their codes -/

theorem extends_readHexDigits (flags : Flags) (width : Nat) (h : Carries text text') :
    Extends text.length Never (flags.readHexDigits width text)
      (flags.readHexDigits width text') := by
  induction width generalizing text text' with
  | zero => exact .read (Nat.le_refl _) h
  | succ width ih =>
    cases text with
    | nil =>
      obtain rfl | rfl := h.of_nil
      · exact .refused _ _
      · exact .refused _ _
    | cons c rest =>
      obtain ⟨rest', rfl, hrest⟩ := h.of_cons
      rw [Flags.readHexDigits, Flags.readHexDigits]
      refine .throwIf (.bind ((ih (hrest.skip flags)).mono ?_) (fun hlength hrest => ?_) nofun)
      · exact Nat.le_succ_of_le (flags.length_skip_le rest)
      · exact .read hlength hrest

theorem extends_readHex (flags : Flags) {width : Nat} (hwidth : 0 < width)
    (h : Carries text text') :
    Extends text.length Never (flags.readHex width text) (flags.readHex width text') := by
  have hskip := h.skip flags
  have hlength := flags.length_skip_le text
  rw [Flags.readHex, Flags.readHex]
  generalize flags.skip text = rest at hskip hlength
  generalize flags.skip text' = rest' at hskip
  split
  · obtain rfl | rfl := hskip.of_nil
    · obtain ⟨width, rfl⟩ := Nat.exists_eq_add_one.mpr hwidth
      exact .refused _ _
    · exact .refused _ _
  · obtain ⟨rest', rfl, hrest⟩ := hskip.of_cons
    obtain ⟨hnone, hnone'⟩ | ⟨digits, behind, behind', hsome, hsome', hle, hbehind⟩ :=
      hrest.takeBraced flags
    · simp only [hnone, hnone']
      exact .refused _ _
    · simp only [hsome, hsome']
      refine .throwIf (.throwIf (.bind_same _ fun c => .read ?_ (hbehind.skip flags)))
      exact Nat.le_trans (flags.length_skip_le behind)
        (Nat.le_trans hle (Nat.le_of_succ_le hlength))
  · rename_i hnil hbrace
    have hdigits := (extends_readHexDigits flags width hskip).mono hlength
    split
    · exact absurd hskip.to_nil hnil
    · obtain ⟨rest, rfl, -⟩ := hskip.to_cons (by decide)
      exact absurd rfl (hbrace rest)
    · exact .bind hdigits (fun hle hrest => .bind_same _ fun c => .read hle hrest) nofun

/-! ## Classes by their names -/

/-- The class under a name, with what stands behind the name. -/
def classBehind (flags : Flags) (negated : Bool) (name behind : List Char) :
    Except PatternError (Element × List Char) := do
  if !flags.unicode then throw .unicodeOff
  let (set, unequal) ← namedClass name
  return (.set (← flags.finishSet (negated != unequal) set), behind)

theorem extends_classBehind (flags : Flags) (negated : Bool) (name : List Char) {length : Nat}
    (hlength : text.length ≤ length) (h : Carries text text') :
    Extends length Never (classBehind flags negated name text)
      (classBehind flags negated name text') := by
  rw [classBehind, classBehind]
  exact .throwIf (.bind_same _ fun _ => .bind_same _ fun _ => .read hlength h)

/-- A closing parenthesis names no class. -/
theorem misses_classBehind_close (flags : Flags) (negated : Bool) (behind : List Char) :
    Misses Never (classBehind flags negated [')'] behind) := by
  have hnone : (namedClass [')']).isOk = false := by decide +kernel
  rw [classBehind]
  refine .throwIf ?_
  cases hclass : namedClass [')'] with
  | error error => exact .error error
  | ok found =>
    rw [hclass] at hnone
    cases hnone

theorem extends_readProperty (flags : Flags) (negated : Bool) (h : Carries text text') :
    Extends text.length Never (flags.readProperty negated text)
      (flags.readProperty negated text') := by
  have hskip := h.skip flags
  have hlength := flags.length_skip_le text
  rw [Flags.readProperty, Flags.readProperty]
  generalize flags.skip text = rest at hskip hlength
  generalize flags.skip text' = rest' at hskip
  split
  · obtain rfl | rfl := hskip.of_nil
    · exact .of_misses _ (misses_classBehind_close flags negated _)
    · exact .refused _ _
  · obtain ⟨rest', rfl, hrest⟩ := hskip.of_cons
    obtain ⟨hnone, hnone'⟩ | ⟨name, behind, behind', hsome, hsome', hle, hbehind⟩ :=
      hrest.takeBraced flags
    · simp only [hnone, hnone']
      exact .refused _ _
    · simp only [hsome, hsome']
      exact extends_classBehind flags negated name
        (Nat.le_trans hle (Nat.le_of_succ_le hlength)) hbehind
  · obtain ⟨rest', rfl, -⟩ := hskip.of_cons
    exact .refused _ _
  · rename_i c rest hbrace hslash
    obtain ⟨rest', rfl, hrest⟩ := hskip.of_cons
    change Extends text.length Never (classBehind flags negated [c] (flags.skip rest)) _
    split
    · rename_i heq
      cases heq
    · rename_i heq
      exact absurd (List.cons.inj heq).1 hbrace
    · rename_i heq
      exact absurd (List.cons.inj heq).1 hslash
    · rename_i heq
      cases heq
      exact extends_classBehind flags negated [c]
        (Nat.le_trans (flags.length_skip_le rest) (Nat.le_of_succ_le hlength)) (hrest.skip flags)

/-! ## Escapes -/

/-- What an escape may be mistaken for if a closing parenthesis follows. Nothing is left behind an
escaped parenthesis, and a brace that is open behind the edge of a word holds no count. -/
def LostEscape (flags : Flags) (element : Element) (rest : List Char) : Prop :=
  rest = [] ∨ (∃ condition, element = .look condition) ∧
    ∃ behind, rest = '{' :: behind ∧ flags.skip behind = [')']

theorem extends_readWordEdge (flags : Flags) (h : Carries text text') :
    Extends text.length (LostEscape flags) (flags.readWordEdge text)
      (flags.readWordEdge text') := by
  unfold Flags.readWordEdge
  dsimp only
  split
  · rename_i rest
    obtain ⟨rest', rfl, hrest⟩ := h.of_cons
    have hskip := hrest.skip flags
    have hlength := flags.length_skip_le rest
    split
    · rename_i hnil
      rw [hnil] at hskip
      -- A parenthesis begins no name, so the brace before it is left for the reader of counts.
      obtain hskip' | hskip' := hskip.of_nil
      · simp only [hskip']
        exact .lost _ (.inr ⟨⟨_, rfl⟩, rest', rfl, hskip'⟩)
      · simp only [hskip']
        exact .refused _ _
    · rename_i c behind hcons
      rw [hcons] at hskip hlength
      obtain ⟨behind', hcons', -⟩ := hskip.of_cons
      rw [hcons'] at hskip
      simp only [hcons']
      split
      · exact .read (Nat.le_refl _) h
      · have hnames := flags.length_takeWhile_le (fun c => isAsciiLetter c || c == '-') false
          (c :: behind)
        obtain ⟨hname, hbehind⟩ := hskip.takeWhile_of_not
          (fun c => isAsciiLetter c || c == '-') (by decide) flags
        generalize flags.takeWhile (fun c => isAsciiLetter c || c == '-') false (c :: behind)
          = taken at hname hbehind hnames
        generalize flags.takeWhile (fun c => isAsciiLetter c || c == '-') false (c :: behind')
          = taken' at hname hbehind
        obtain ⟨name, behind⟩ := taken
        obtain ⟨name', behind'⟩ := taken'
        dsimp only at hname hbehind hnames
        subst hname
        split
        · rename_i heq
          obtain ⟨rfl, rfl⟩ := Prod.mk.inj heq
          obtain ⟨last', rfl, hlast⟩ := hbehind.of_cons
          have hle := Nat.le_of_succ_le hnames
          cases hedge : wordEdge? (String.ofList name') with
          | none =>
            simp only [hedge]
            exact .refused _ _
          | some edge =>
            simp only [hedge]
            exact .read (by rw [List.length_cons]; omega) hlast
        · rename_i hother
          split
          · rename_i heq
            obtain ⟨rfl, rfl⟩ := Prod.mk.inj heq
            obtain ⟨behind, rfl, -⟩ := hbehind.to_cons (by decide)
            exact absurd rfl (hother _ _)
          · exact .refused _ _
  · rename_i hbrace
    split
    · obtain ⟨rest, rfl, -⟩ := h.to_cons (by decide)
      exact absurd rfl (hbrace rest)
    · exact .read (Nat.le_refl _) h

theorem extends_readEscape (flags : Flags) (h : Carries text text') :
    Extends text.length (LostEscape flags) (flags.readEscape text) (flags.readEscape text') := by
  cases text with
  | nil =>
    obtain rfl | rfl := h.of_nil
    · exact .lost _ (.inl rfl)
    · exact .refused _ _
  | cons c rest =>
    obtain ⟨rest', rfl, hrest⟩ := h.of_cons
    have hread (element : Element) : Extends (c :: rest).length (LostEscape flags)
        (.ok (element, rest)) (.ok (element, rest')) :=
      .read (Nat.le_succ _) hrest
    unfold Flags.readEscape
    dsimp only
    split
    · exact .refused _ _
    · split
      · exact hread _
      · have hhex (width : Nat) (hwidth : 0 < width) : Extends (c :: rest).length (LostEscape flags)
            (flags.readHex width rest) (flags.readHex width rest') :=
          ((extends_readHex flags hwidth hrest).mono (Nat.le_succ _)).of_never
        have hproperty (negated : Bool) : Extends (c :: rest).length (LostEscape flags)
            (flags.readProperty negated rest) (flags.readProperty negated rest') :=
          ((extends_readProperty flags negated hrest).mono (Nat.le_succ _)).of_never
        split
        case h_20 => exact (extends_readWordEdge flags hrest).mono (Nat.le_succ _)
        all_goals first
          | exact hread _
          | exact .bind_same _ hread
          | exact hproperty _
          | exact hhex _ (by decide)
          | exact .refused _ _

end LineLexer.Pattern
