import Mathlib.Data.List.TakeDrop
import LineLexer.Pattern.Parser

/-!
# Reading with a closing parenthesis behind

A text is read once as it is and once with a closing parenthesis behind it.
-/

namespace LineLexer.Pattern

/-! ## What is left of a text -/

/-- What is left of a text, and what is left of it if a closing parenthesis follows: the parenthesis
is left too, unless it was taken to be part of a comment. -/
inductive Carries : List Char → List Char → Prop
  | kept (rest : List Char) : Carries rest (rest ++ [')'])
  | swallowed : Carries [] []

namespace Carries

variable {text text' : List Char}

theorem of_nil (h : Carries [] text') : text' = [')'] ∨ text' = [] := by
  cases h with
  | kept => exact .inl rfl
  | swallowed => exact .inr rfl

theorem of_cons {c : Char} (h : Carries (c :: text) text') :
    ∃ rest', text' = c :: rest' ∧ Carries text rest' := by
  cases h with
  | kept => exact ⟨text ++ [')'], rfl, .kept text⟩

theorem tail {c : Char} (h : Carries (c :: text) (c :: text')) : Carries text text' := by
  obtain ⟨rest', heq, hrest⟩ := h.of_cons
  cases heq
  exact hrest

theorem to_nil (h : Carries text []) : text = [] := by
  cases h' : text with
  | nil => rfl
  | cons c rest =>
    obtain ⟨rest', hnil, -⟩ := (h' ▸ h).of_cons
    cases hnil

theorem to_cons {c : Char} {rest' : List Char} (h : Carries text (c :: rest')) (hne : c ≠ ')') :
    ∃ rest, text = c :: rest ∧ Carries rest rest' := by
  cases h' : text with
  | nil =>
    obtain heq | heq := (h' ▸ h).of_nil
    · exact absurd (List.cons.inj heq).1 hne
    · cases heq
  | cons d rest =>
    obtain ⟨behind, heq, hrest⟩ := (h' ▸ h).of_cons
    cases heq
    exact ⟨rest, rfl, hrest⟩

/-- A character that does not come next does not come next before the parenthesis. -/
theorem ne_cons {c : Char} (hne : ∀ rest, text ≠ c :: rest) (hc : c ≠ ')') (h : Carries text text')
    (rest' : List Char) : text' ≠ c :: rest' := by
  rintro rfl
  obtain ⟨rest, rfl, -⟩ := h.to_cons hc
  exact hne rest rfl

theorem dropWhile {kind : Char → Bool} (hkind : kind ')' = false) (h : Carries text text') :
    Carries (text.dropWhile kind) (text'.dropWhile kind) := by
  cases h with
  | swallowed => exact .swallowed
  | kept =>
    induction text with
    | nil =>
      rw [List.nil_append, List.dropWhile_cons, hkind]
      exact .kept []
    | cons c rest ih =>
      rw [List.cons_append, List.dropWhile_cons, List.dropWhile_cons]
      split
      · exact ih
      · exact .kept (c :: rest)

theorem isBlank_close : isBlank ')' = false := by decide

theorem skipComments (inComment : Bool) (h : Carries text text') :
    Carries (skipComments inComment text) (skipComments inComment text') := by
  cases h with
  | swallowed => exact .swallowed
  | kept =>
    induction text generalizing inComment with
    | nil =>
      -- The parenthesis comes next: within a comment it is dropped.
      cases inComment with
      | true => exact .swallowed
      | false =>
        have hclose : Pattern.skipComments false [')'] = [')'] := by decide
        rw [List.nil_append, hclose]
        exact .kept []
    | cons c rest ih =>
      cases inComment with
      | true => exact ih _
      | false =>
        rw [List.cons_append, Pattern.skipComments, Pattern.skipComments]
        split
        · exact ih _
        · split
          · exact ih _
          · exact .kept (c :: rest)

theorem skip (flags : Flags) (h : Carries text text') :
    Carries (flags.skip text) (flags.skip text') := by
  rw [Flags.skip, Flags.skip]
  split
  · exact h.skipComments false
  · exact h

/-- The same characters are taken, unless the parenthesis is of their kind and comes next. -/
theorem takeWhile (flags : Flags) (kind : Char → Bool) (inComment : Bool)
    (h : Carries text text') :
    ((flags.takeWhile kind inComment text').1 = (flags.takeWhile kind inComment text).1 ∧
        Carries (flags.takeWhile kind inComment text).2
          (flags.takeWhile kind inComment text').2) ∧
        (kind ')' = true → (flags.takeWhile kind inComment text).2 = [] →
          (flags.takeWhile kind inComment text').2 = []) ∨
      kind ')' = true ∧ (flags.takeWhile kind inComment text).2 = [] ∧
        (flags.takeWhile kind inComment text').2 = [] := by
  cases h with
  | swallowed => exact .inl ⟨⟨rfl, .swallowed⟩, fun _ => id⟩
  | kept =>
    induction text generalizing inComment with
    | nil =>
      cases inComment with
      | true => exact .inl ⟨⟨rfl, .swallowed⟩, fun _ => id⟩
      | false =>
        have hclose : flags.takeWhile kind false [')']
            = if kind ')' then ([')'], []) else ([], [')']) := by
          simp [Flags.takeWhile, isBlank_close]
        rw [List.nil_append, hclose]
        split
        · exact .inr ⟨‹_›, rfl, rfl⟩
        · exact .inl ⟨⟨rfl, .kept []⟩, fun hkind => absurd hkind ‹_›⟩
    | cons c rest ih =>
      cases inComment with
      | true => exact ih _
      | false =>
        rw [List.cons_append, Flags.takeWhile, Flags.takeWhile]
        split
        · exact ih _
        · split
          · exact ih _
          · split
            · refine (ih false).imp_left fun hsame => ⟨⟨?_, hsame.1.2⟩, hsame.2⟩
              exact congrArg (c :: ·) hsame.1.1
            · exact .inl ⟨⟨rfl, .kept (c :: rest)⟩, nofun⟩

theorem takeWhile_of_not (kind : Char → Bool) (hkind : kind ')' = false) (flags : Flags)
    (h : Carries text text') :
    (flags.takeWhile kind false text').1 = (flags.takeWhile kind false text).1 ∧
      Carries (flags.takeWhile kind false text).2 (flags.takeWhile kind false text').2 := by
  obtain ⟨hsame, -⟩ | ⟨htaken, -⟩ := h.takeWhile flags kind false
  · exact hsame
  · exact absurd (hkind.symm.trans htaken) Bool.false_ne_true

/-- If the parenthesis is of the kind that is taken, it matters only where nothing stops the
characters that are. -/
theorem takeWhile_of_kind (kind : Char → Bool) (hkind : kind ')' = true) (flags : Flags)
    (h : Carries text text') :
    ((flags.takeWhile kind false text).2 = [] ∧ (flags.takeWhile kind false text').2 = []) ∨
      ∃ taken c rest rest', flags.takeWhile kind false text = (taken, c :: rest) ∧
        flags.takeWhile kind false text' = (taken, c :: rest') ∧ Carries rest rest' := by
  obtain ⟨⟨htaken, hrest⟩, hnil⟩ | ⟨-, hboth⟩ := h.takeWhile flags kind false
  · cases heq : (flags.takeWhile kind false text).2 with
    | nil => exact .inl ⟨rfl, hnil hkind heq⟩
    | cons c rest =>
      rw [heq] at hrest
      obtain ⟨rest', heq', hcarries⟩ := hrest.of_cons
      exact .inr ⟨_, c, rest, rest', Prod.ext rfl heq, Prod.ext htaken heq', hcarries⟩
  · exact .inl hboth

/-- The same, where there are no comments. -/
theorem span_of_kind (kind : Char → Bool) (hkind : kind ')' = true) (h : Carries text text') :
    ((text.span kind).2 = [] ∧ (text'.span kind).2 = []) ∨
      ∃ taken c rest rest', text.span kind = (taken, c :: rest) ∧
        text'.span kind = (taken, c :: rest') ∧ rest.length < text.length ∧ Carries rest rest' := by
  simp only [List.span_eq_takeWhile_dropWhile]
  cases h with
  | swallowed => exact .inl ⟨rfl, rfl⟩
  | kept =>
    induction text with
    | nil => simp [hkind]
    | cons c rest ih =>
      cases hc : kind c with
      | false =>
        rw [List.cons_append, List.takeWhile_cons_of_neg (by simp [hc]),
          List.dropWhile_cons_of_neg (by simp [hc]), List.takeWhile_cons_of_neg (by simp [hc]),
          List.dropWhile_cons_of_neg (by simp [hc])]
        exact .inr ⟨[], c, rest, rest ++ [')'], rfl, rfl, Nat.lt_succ_self _, .kept rest⟩
      | true =>
        rw [List.cons_append, List.takeWhile_cons_of_pos hc, List.dropWhile_cons_of_pos hc,
          List.takeWhile_cons_of_pos hc, List.dropWhile_cons_of_pos hc]
        refine ih.imp id ?_
        rintro ⟨taken, d, behind, behind', heq, heq', hlt, hbehind⟩
        obtain ⟨htaken, hdrop⟩ := Prod.mk.inj heq
        obtain ⟨htaken', hdrop'⟩ := Prod.mk.inj heq'
        rw [htaken, hdrop, htaken', hdrop']
        exact ⟨c :: taken, d, behind, behind', rfl, rfl, Nat.lt_succ_of_lt hlt, hbehind⟩

end Carries

/-! ## What is skipped -/

theorem Flags.skip_close (flags : Flags) : flags.skip [')'] = [')'] := by
  have hclose : skipComments false [')'] = [')'] := by decide
  rw [skip, hclose, ite_self]

theorem Flags.skip_brace (flags : Flags) (rest : List Char) :
    flags.skip ('{' :: rest) = '{' :: rest := by
  have hbrace : skipComments false ('{' :: rest) = '{' :: rest := by
    rw [skipComments, if_neg (by decide), if_neg (by decide)]
  rw [skip, hbrace, ite_self]

theorem Flags.skip_nil (flags : Flags) : flags.skip [] = [] := by
  rw [skip, skipComments, ite_self]

/-! ## Less is left -/

theorem length_skipComments_le (inComment : Bool) (text : List Char) :
    (skipComments inComment text).length ≤ text.length := by
  induction text generalizing inComment with
  | nil => cases inComment <;> exact Nat.le_refl _
  | cons c rest ih =>
    cases inComment with
    | true => exact Nat.le_succ_of_le (ih _)
    | false =>
      rw [skipComments]
      split
      · exact Nat.le_succ_of_le (ih _)
      · split
        · exact Nat.le_succ_of_le (ih _)
        · exact Nat.le_refl _

theorem Flags.length_skip_le (flags : Flags) (text : List Char) :
    (flags.skip text).length ≤ text.length := by
  rw [skip]
  split
  · exact length_skipComments_le false text
  · exact Nat.le_refl _

theorem Flags.length_takeWhile_le (flags : Flags) (kind : Char → Bool) (inComment : Bool)
    (text : List Char) : (flags.takeWhile kind inComment text).2.length ≤ text.length := by
  induction text generalizing inComment with
  | nil => cases inComment <;> exact Nat.le_refl _
  | cons c rest ih =>
    cases inComment with
    | true => exact Nat.le_succ_of_le (ih _)
    | false =>
      rw [takeWhile]
      split
      · exact Nat.le_succ_of_le (ih _)
      · split
        · exact Nat.le_succ_of_le (ih _)
        · split
          · exact Nat.le_succ_of_le (ih false)
          · exact Nat.le_refl _

/-! ## What is read -/

/-- What a reader answers to a text, and what it answers if a closing parenthesis follows. It reads
the same, or it fails both times; or it gets on with the parenthesis where it failed without, but
only to what `Lost` tells, from which there is no way on. What is left is no longer than `length`. -/
inductive Extends {α : Type} (length : Nat) (Lost : α → List Char → Prop) :
    Except PatternError (α × List Char) → Except PatternError (α × List Char) → Prop
  | read {value : α} {rest rest' : List Char} (hlength : rest.length ≤ length)
      (hrest : Carries rest rest') : Extends length Lost (.ok (value, rest)) (.ok (value, rest'))
  | refused (error error' : PatternError) : Extends length Lost (.error error) (.error error')
  | lost {value : α} {rest' : List Char} (error : PatternError) (hlost : Lost value rest') :
      Extends length Lost (.error error) (.ok (value, rest'))

/-- There is always a way on. -/
abbrev Never {α : Type} : α → List Char → Prop := fun _ _ => False

/-- An answer is a failure or lost. -/
def Misses {α : Type} (Lost : α → List Char → Prop) (answer : Except PatternError (α × List Char)) :
    Prop :=
  ∀ value rest, answer = .ok (value, rest) → Lost value rest

namespace Misses

variable {α γ : Type} {Lost Lost' : α → List Char → Prop}

theorem error (error : PatternError) : Misses Lost (.error error) := nofun

theorem ok {value : α} {rest : List Char} (hlost : Lost value rest) :
    Misses Lost (.ok (value, rest)) := by
  rintro _ _ ⟨⟩
  exact hlost

theorem bind_same (x : Except PatternError γ) {f : γ → Except PatternError (α × List Char)}
    (h : ∀ value, Misses Lost (f value)) : Misses Lost (x >>= f) := by
  cases x with
  | error error => exact .error error
  | ok value => exact h value

theorem throwIf {c : Prop} [Decidable c] {error : PatternError}
    {next : PUnit → Except PatternError (α × List Char)} (hnext : Misses Lost (next ⟨⟩)) :
    Misses Lost (if c then throw error >>= next else next ⟨⟩) := by
  split
  · exact .error error
  · exact hnext

theorem mono {x : Except PatternError (α × List Char)} (hx : Misses Lost x)
    (himp : ∀ value rest, Lost value rest → Lost' value rest) : Misses Lost' x :=
  fun value rest heq => himp value rest (hx value rest heq)

end Misses

namespace Extends

variable {α β γ : Type} {length length' : Nat} {Lost : α → List Char → Prop}
  {Lost' : β → List Char → Prop}

theorem of_misses {answer : Except PatternError (α × List Char)} (error : PatternError)
    (h : Misses Lost answer) : Extends length Lost (.error error) answer := by
  cases hanswer : answer with
  | error error' => exact .refused error error'
  | ok result => exact .lost error (h _ _ hanswer)

theorem of_ok {value : α} {rest : List Char} {answer : Except PatternError (α × List Char)}
    (h : Extends length Lost (.ok (value, rest)) answer) :
    ∃ rest', answer = .ok (value, rest') ∧ rest.length ≤ length ∧ Carries rest rest' := by
  cases h with
  | read hlength hrest => exact ⟨_, rfl, hlength, hrest⟩

theorem of_error {error : PatternError} {answer : Except PatternError (α × List Char)}
    (h : Extends length Lost (.error error) answer) : Misses Lost answer := by
  cases h with
  | refused error error' => exact .error error'
  | lost error hlost => exact .ok hlost

theorem bind {x x' : Except PatternError (α × List Char)}
    {f f' : α × List Char → Except PatternError (β × List Char)} (hx : Extends length Lost x x')
    (hread : ∀ {value rest rest'}, rest.length ≤ length → Carries rest rest' →
      Extends length Lost' (f (value, rest)) (f' (value, rest')))
    (hlost : ∀ {value rest'}, Lost value rest' → Misses Lost' (f' (value, rest'))) :
    Extends length Lost' (x >>= f) (x' >>= f') := by
  cases hx with
  | read hlength hrest => exact hread hlength hrest
  | refused error error' => exact .refused error error'
  | lost error hlost' => exact .of_misses error (hlost hlost')

/-- What does not depend on the text answers the same. -/
theorem bind_same (x : Except PatternError γ) {f f' : γ → Except PatternError (β × List Char)}
    (h : ∀ value, Extends length Lost' (f value) (f' value)) :
    Extends length Lost' (x >>= f) (x >>= f') := by
  cases x with
  | error error => exact .refused error error
  | ok value => exact h value

theorem mono {x x' : Except PatternError (α × List Char)} (hx : Extends length Lost x x')
    (hle : length ≤ length') : Extends length' Lost x x' := by
  cases hx with
  | read hlength hrest => exact .read (Nat.le_trans hlength hle) hrest
  | refused error error' => exact .refused error error'
  | lost error hlost => exact .lost error hlost

theorem of_never {x x' : Except PatternError (α × List Char)} (hx : Extends length Never x x') :
    Extends length Lost x x' := by
  cases hx with
  | read hlength hrest => exact .read hlength hrest
  | refused error error' => exact .refused error error'
  | lost error hlost => exact hlost.elim

/-- Something may be refused on the way. -/
theorem throwIf {c : Prop} [Decidable c] {error : PatternError}
    {next next' : PUnit → Except PatternError (α × List Char)}
    (hnext : Extends length Lost (next ⟨⟩) (next' ⟨⟩)) :
    Extends length Lost (if c then throw error >>= next else next ⟨⟩)
      (if c then throw error >>= next' else next' ⟨⟩) := by
  split
  · exact .refused error error
  · exact hnext

end Extends

/-- The same answer, with what is left of the text apart from all that was read. -/
def regroup {α β : Type} (answer : Except PatternError (α × β × List Char)) :
    Except PatternError ((α × β) × List Char) :=
  answer.map fun (first, second, rest) => ((first, second), rest)

theorem bind_regroup {α β γ : Type} (x : Except PatternError (α × β × List Char))
    (f : (α × β) × List Char → Except PatternError γ) :
    (x >>= fun (first, second, rest) => f ((first, second), rest)) = regroup x >>= f := by
  cases x <;> rfl

end LineLexer.Pattern
