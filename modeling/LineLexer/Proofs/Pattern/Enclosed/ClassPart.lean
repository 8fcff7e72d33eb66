import LineLexer.Proofs.Pattern.Enclosed.Notation

/-!
# Parts of classes with a closing parenthesis behind

Within a class a closing parenthesis is a character. Behind the last part of a class that is not
closed it may be taken as a part or as the end of a range, and then nothing or only itself is left.
-/

namespace LineLexer.Pattern

open Unicode

variable {text text' : List Char}

/-- Within a class, there is no way on from an end, nor from a single parenthesis. -/
def LostInClass {α : Type} (_ : α) (rest : List Char) : Prop := rest = [] ∨ rest = [')']

/-! ## Elements -/

theorem extends_readClassElement (flags : Flags) (h : Carries text text') :
    Extends (text.length - 1) (LostEscape flags) (readClassElement flags text)
      (readClassElement flags text') := by
  unfold readClassElement
  split
  · obtain rfl | rfl := h.of_nil
    · exact .lost _ (.inl rfl)
    · exact .refused _ _
  · obtain ⟨rest', rfl, hrest⟩ := h.of_cons
    exact extends_readEscape flags hrest
  · rename_i c rest hslash
    obtain ⟨rest', rfl, hrest⟩ := h.of_cons
    split
    · rename_i heq
      cases heq
    · rename_i heq
      exact absurd (List.cons.inj heq).1 hslash
    · rename_i heq
      cases heq
      exact .read (Nat.le_refl _) hrest

/-- What a hyphen stands before may be the parenthesis, if nothing stands behind it otherwise. -/
theorem nextSignificant_of_carries (flags : Flags) (inComment : Bool) (h : Carries text text') :
    nextSignificant flags inComment text' = nextSignificant flags inComment text ∨
      nextSignificant flags inComment text = none ∧
        nextSignificant flags inComment text' = some ')' := by
  cases h with
  | swallowed => exact .inl rfl
  | kept =>
    induction text generalizing inComment with
    | nil =>
      refine .inr ⟨rfl, ?_⟩
      simp [nextSignificant, Carries.isBlank_close]
    | cons c rest ih =>
      rw [List.cons_append, nextSignificant, nextSignificant]
      split
      · exact .inl rfl
      · split
        · exact ih _
        · split
          · exact ih _
          · exact .inl rfl

/-- A single part of a class, given by its element. -/
def singlePart (flags : Flags) (first : Element) (rest : List Char) :
    Except PatternError (ClassPart × List Char) :=
  match first with
  | .char c byte => do
    checkClassChar flags c byte
    return (.ofSet (.singleton c), rest)
  | .set set => .ok (.ofSet set, rest)
  | .look _ => .error .classEscape

theorem extends_singlePart (flags : Flags) (first : Element) {length : Nat}
    (hlength : text.length ≤ length) (h : Carries text text') :
    Extends length LostInClass (singlePart flags first text) (singlePart flags first text') := by
  cases first with
  | char c byte => exact .bind_same _ fun _ => .read hlength h
  | set set => exact .read hlength h
  | look condition => exact .refused _ _

theorem misses_singlePart (flags : Flags) (first : Element) (rest : List Char) :
    Misses (fun _ rest' => rest' = rest) (singlePart flags first rest) := by
  cases first with
  | char c byte => exact .bind_same _ fun _ => .ok rfl
  | set set => exact .ok rfl
  | look condition => exact .error _

/-- A range of characters, given by the elements at its ends. -/
def rangePart (flags : Flags) (first last : Element) (rest : List Char) :
    Except PatternError (ClassPart × List Char) := do
  let (lo, loByte) ← rangeEnd first
  let (hi, hiByte) ← rangeEnd last
  if hi < lo then throw (.classRangeReversed lo hi)
  checkClassChar flags lo loByte
  checkClassChar flags hi hiByte
  return (.ofSet (.range lo hi), rest)

theorem extends_rangePart (flags : Flags) (first last : Element) {length : Nat}
    (hlength : text.length ≤ length) (h : Carries text text') :
    Extends length LostInClass (rangePart flags first last text)
      (rangePart flags first last text') := by
  rw [rangePart, rangePart]
  refine .bind_same _ fun lo => .bind_same _ fun hi => .throwIf ?_
  exact .bind_same _ fun _ => .bind_same _ fun _ => .read hlength h

theorem misses_rangePart (flags : Flags) (first last : Element) (rest : List Char) :
    Misses (fun _ rest' => rest' = rest) (rangePart flags first last rest) := by
  rw [rangePart]
  refine .bind_same _ fun lo => .bind_same _ fun hi => .throwIf ?_
  exact .bind_same _ fun _ => .bind_same _ fun _ => .ok rfl

theorem misses_rangePart_look (flags : Flags) (first : Element) (condition : Look)
    (rest : List Char) : Misses LostInClass (rangePart flags first (.look condition) rest) :=
  .bind_same _ fun _ => .error _

/-- The rest of a part of a class, after its first element and a hyphen: a range, unless the hyphen
stands at the end of the class or before another one. -/
def behindHyphen (flags : Flags) (first : Element) (rest : List Char) :
    Except PatternError (ClassPart × List Char) :=
  match nextSignificant flags false rest with
  | some ']' | some '-' => singlePart flags first ('-' :: rest)
  | _ => do
    let (last, rest) ← readClassElement flags (flags.skip rest)
    rangePart flags first last rest

theorem extends_behindHyphen (flags : Flags) (first : Element) {length : Nat}
    (hlength : text.length < length) (h : Carries ('-' :: text) ('-' :: text')) :
    Extends length LostInClass (behindHyphen flags first text)
      (behindHyphen flags first text') := by
  have hsingle : Extends length LostInClass (singlePart flags first ('-' :: text))
      (singlePart flags first ('-' :: text')) :=
    extends_singlePart flags first hlength h
  have hrange : Extends length LostInClass
      (do
        let (last, rest) ← readClassElement flags (flags.skip text)
        rangePart flags first last rest)
      (do
        let (last, rest) ← readClassElement flags (flags.skip text')
        rangePart flags first last rest) := by
    refine .bind ((extends_readClassElement flags (h.tail.skip flags)).mono ?_)
      (fun hlength hrest => extends_rangePart flags first _ hlength hrest) ?_
    · have hskip := flags.length_skip_le text
      omega
    -- An escape may take the parenthesis as the end of the range; then nothing is left.
    · rintro last rest' (rfl | ⟨⟨condition, rfl⟩, -⟩)
      · exact (misses_rangePart flags first last []).mono fun _ _ => .inl
      · exact misses_rangePart_look flags first condition rest'
  have hnext := nextSignificant_of_carries flags false h.tail
  unfold behindHyphen
  generalize nextSignificant flags false text = next at hnext
  generalize nextSignificant flags false text' = next' at hnext
  -- If nothing stands behind the hyphen, the parenthesis is no sign that ends the class either.
  obtain rfl | ⟨rfl, rfl⟩ := hnext
  · split
    · exact hsingle
    · exact hsingle
    · exact hrange
  · exact hrange

/-- The rest of a part of a class, after its first element. -/
def restOfPart (flags : Flags) (first : Element) (rest : List Char) :
    Except PatternError (ClassPart × List Char) :=
  match flags.skip rest with
  | [] => throw .classUnclosed
  | '-' :: rest => behindHyphen flags first rest
  | rest => singlePart flags first rest

theorem readClassPart_eq (flags : Flags) (text : List Char) :
    readClassPart flags text
      = readClassElement flags text >>= fun (first, rest) => restOfPart flags first rest := rfl

theorem extends_restOfPart (flags : Flags) (first : Element) {length : Nat}
    (hlength : text.length ≤ length) (h : Carries text text') :
    Extends length LostInClass (restOfPart flags first text) (restOfPart flags first text') := by
  have hskip := h.skip flags
  have hle := Nat.le_trans (flags.length_skip_le text) hlength
  unfold restOfPart
  generalize flags.skip text = rest at hskip hle
  generalize flags.skip text' = rest' at hskip
  split
  · obtain rfl | rfl := hskip.of_nil
    · exact .of_misses _ ((misses_singlePart flags first _).mono fun _ _ => .inr)
    · exact .refused _ _
  · obtain ⟨behind', rfl, -⟩ := hskip.of_cons
    exact extends_behindHyphen flags first hle hskip
  · rename_i hnil hhyphen
    split
    · exact absurd hskip.to_nil hnil
    · obtain ⟨rest, rfl, -⟩ := hskip.to_cons (by decide)
      exact absurd rfl (hhyphen rest)
    · exact extends_singlePart flags first hle hskip

theorem misses_restOfPart_look (flags : Flags) (condition : Look) {rest : List Char}
    (hbrace : ∃ behind, rest = '{' :: behind) :
    Misses LostInClass (restOfPart flags (.look condition) rest) := by
  obtain ⟨behind, rfl⟩ := hbrace
  rw [restOfPart, flags.skip_brace]
  exact .error _

theorem extends_readClassPart (flags : Flags) (h : Carries text text') :
    Extends (text.length - 1) LostInClass (readClassPart flags text) (readClassPart flags text') := by
  rw [readClassPart_eq, readClassPart_eq]
  refine .bind (extends_readClassElement flags h)
    (fun hlength hrest => extends_restOfPart flags _ hlength hrest) ?_
  rintro first rest' (rfl | ⟨⟨condition, rfl⟩, behind, rfl, -⟩)
  · show Misses LostInClass (restOfPart flags first [])
    rw [restOfPart, flags.skip_nil]
    exact .error _
  · exact misses_restOfPart_look flags condition ⟨behind, rfl⟩

/-- A single parenthesis is a character, but no part of a class ends with it. -/
theorem readClassPart_close (flags : Flags) :
    readClassPart flags [')'] = .error .classUnclosed := by
  rw [readClassPart_eq]
  show restOfPart flags _ [] = _
  rw [restOfPart, flags.skip_nil]
  rfl

end LineLexer.Pattern
