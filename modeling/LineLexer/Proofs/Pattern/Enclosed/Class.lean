import LineLexer.Proofs.Pattern.Enclosed.ClassPart

/-!
# Classes with a closing parenthesis behind

A class ends at its bracket, so a closing parenthesis that follows makes no difference. Within a
class that is not closed it may be taken as a character, but the class stays open.
-/

namespace LineLexer.Pattern

open Unicode

variable {text text' : List Char}

/-! ## Opening brackets -/

/-- Whether a caret negates a class of ASCII characters, and what stands behind it. -/
def asciiCaretOf (text : List Char) : Bool × List Char :=
  match text with
  | '^' :: rest => (true, rest)
  | rest => (false, rest)

theorem Carries.asciiCaretOf (h : Carries text text') :
    (asciiCaretOf text').1 = (asciiCaretOf text).1 ∧
      (asciiCaretOf text).2.length ≤ text.length ∧
      Carries (asciiCaretOf text).2 (asciiCaretOf text').2 := by
  unfold Pattern.asciiCaretOf
  split
  · rename_i rest'
    obtain ⟨rest, rfl, hrest⟩ := h.to_cons (by decide)
    exact ⟨rfl, Nat.le_succ _, hrest⟩
  · rename_i hcaret
    split
    · obtain ⟨rest', rfl, -⟩ := h.of_cons
      exact absurd rfl (hcaret rest')
    · exact ⟨rfl, Nat.le_refl _, h⟩

/-- The class of ASCII characters under a name, with what stands behind it. -/
def asciiClassBehind? (negated : Bool) (name behind : List Char) :
    Option (Bool × CharSet × List Char) :=
  match behind with
  | ':' :: ']' :: rest => (asciiClass? (String.ofList name)).map (negated, ·, rest)
  | _ => none

theorem readAsciiClass?_colon (rest : List Char) :
    readAsciiClass? (':' :: rest)
      = asciiClassBehind? (asciiCaretOf rest).1 ((asciiCaretOf rest).2.span (· != ':')).1
          ((asciiCaretOf rest).2.span (· != ':')).2 := rfl

/-- The same class is read both times, or none. -/
def SameAsciiClass (length : Nat) (found found' : Option (Bool × CharSet × List Char)) : Prop :=
  (found = none ∧ found' = none) ∨
    ∃ negated set rest rest', found = some (negated, set, rest) ∧
      found' = some (negated, set, rest') ∧ rest.length ≤ length ∧ Carries rest rest'

theorem sameAsciiClass_behind (negated : Bool) (name : List Char) (c : Char) {length : Nat}
    (hlength : text.length ≤ length) (h : Carries text text') :
    SameAsciiClass length (asciiClassBehind? negated name (c :: text))
      (asciiClassBehind? negated name (c :: text')) := by
  unfold asciiClassBehind?
  split
  · rename_i rest heq
    obtain ⟨rfl, rfl⟩ := List.cons.inj heq
    obtain ⟨rest', rfl, hrest⟩ := h.of_cons
    simp only
    cases asciiClass? (String.ofList name) with
    | none => exact .inl ⟨rfl, rfl⟩
    | some set =>
      exact .inr ⟨negated, set, rest, rest', rfl, rfl, Nat.le_of_succ_le hlength, hrest⟩
  · rename_i hname
    split
    · rename_i rest' heq
      obtain ⟨rfl, rfl⟩ := List.cons.inj heq
      obtain ⟨rest, rfl, -⟩ := h.to_cons (by decide)
      exact absurd rfl (hname rest)
    · exact .inl ⟨rfl, rfl⟩

theorem sameAsciiClass_read (h : Carries text text') :
    SameAsciiClass text.length (readAsciiClass? text) (readAsciiClass? text') := by
  by_cases hcolon : ∃ rest, text = ':' :: rest
  · obtain ⟨rest, rfl⟩ := hcolon
    obtain ⟨rest', rfl, hrest⟩ := h.of_cons
    obtain ⟨hnegated, hle, hcaret⟩ := hrest.asciiCaretOf
    rw [readAsciiClass?_colon, readAsciiClass?_colon, hnegated]
    obtain ⟨hnil, hnil'⟩ | ⟨name, c, behind, behind', heq, heq', hlt, hbehind⟩ :=
      hcaret.span_of_kind (· != ':') (by decide)
    · rw [hnil, hnil']
      exact .inl ⟨rfl, rfl⟩
    · rw [heq, heq']
      refine sameAsciiClass_behind _ _ c ?_ hbehind
      rw [List.length_cons]
      omega
  · have hcolon' := h.ne_cons (not_exists.mp hcolon) (by decide)
    have hnone {text : List Char} (hne : ∀ rest, text ≠ ':' :: rest) :
        readAsciiClass? text = none := by
      unfold readAsciiClass?
      split
      · exact absurd rfl (hne _)
      · rfl
    exact .inl ⟨hnone (not_exists.mp hcolon), hnone hcolon'⟩

/-- Whether a caret negates a class, and what stands behind it. -/
def caretOf (flags : Flags) (text : List Char) : Bool × List Char :=
  match flags.skip text with
  | '^' :: rest => (true, flags.skip rest)
  | text => (false, text)

theorem caretOf_of_not {flags : Flags} {rest : List Char} (hskip : flags.skip text = rest)
    (hcaret : ∀ behind, rest ≠ '^' :: behind) : caretOf flags text = (false, rest) := by
  rw [caretOf, hskip]
  split
  · exact absurd rfl (hcaret _)
  · rfl

theorem Carries.caretOf (flags : Flags) (h : Carries text text') :
    (caretOf flags text').1 = (caretOf flags text).1 ∧
      (caretOf flags text).2.length ≤ text.length ∧
      Carries (caretOf flags text).2 (caretOf flags text').2 := by
  have hskip := h.skip flags
  have hle := flags.length_skip_le text
  by_cases hcaret : ∃ behind, flags.skip text = '^' :: behind
  · obtain ⟨behind, hbehind⟩ := hcaret
    rw [hbehind] at hskip hle
    obtain ⟨behind', hbehind', hrest⟩ := hskip.of_cons
    simp only [Pattern.caretOf, hbehind, hbehind']
    have hle' := flags.length_skip_le behind
    exact ⟨trivial, Nat.le_trans hle' (Nat.le_of_succ_le hle), hrest.skip flags⟩
  · have hcaret' := hskip.ne_cons (not_exists.mp hcaret) (by decide)
    rw [caretOf_of_not rfl hcaret', caretOf_of_not rfl (not_exists.mp hcaret)]
    exact ⟨rfl, hle, hskip⟩

/-- The front of a class behind its hyphens: one closing bracket stands for itself if there are
none. -/
def frontOf (flags : Flags) (negated : Bool) (parts : List ClassPart) (text : List Char) :
    Except PatternError (Bool × List ClassPart × List Char) :=
  match parts, text with
  | _, [] => throw .classUnclosed
  | [], ']' :: rest => do
    if (flags.skip rest).isEmpty then throw .classUnclosed
    return (negated, [.ofSet (.singleton ']')], flags.skip rest)
  | parts, text => return (negated, parts, text)

theorem openClass_eq (flags : Flags) (text : List Char) :
    openClass flags text
      = frontOf flags (caretOf flags text).1
          ((flags.takeWhile (· == '-') false (caretOf flags text).2).1.map
            fun c => ClassPart.ofSet (.singleton c))
          (flags.takeWhile (· == '-') false (caretOf flags text).2).2 := rfl

theorem frontOf_cons (flags : Flags) (negated : Bool) (parts : List ClassPart) (c : Char)
    (rest : List Char) (hfront : parts ≠ [] ∨ c ≠ ']') :
    frontOf flags negated parts (c :: rest) = .ok (negated, parts, c :: rest) := by
  unfold frontOf
  split
  · rename_i heq
    cases heq
  · rename_i heq
    simp [(List.cons.inj heq).1] at hfront
  · rfl

theorem extends_frontOf_close (flags : Flags) (negated : Bool) {length : Nat}
    (hlength : text.length ≤ length) (h : Carries text text') :
    Extends length LostInClass (regroup (frontOf flags negated [] (']' :: text)))
      (regroup (frontOf flags negated [] (']' :: text'))) := by
  have hskip := h.skip flags
  have hle := Nat.le_trans (flags.length_skip_le text) hlength
  simp only [frontOf]
  generalize flags.skip text = rest at hskip hle
  generalize flags.skip text' = rest' at hskip
  cases rest with
  | nil =>
    obtain rfl | rfl := hskip.of_nil
    · exact .lost _ (Or.inr rfl)
    · exact .refused _ _
  | cons d behind =>
    obtain ⟨behind', rfl, -⟩ := hskip.of_cons
    exact .read hle hskip

theorem extends_frontOf (flags : Flags) (negated : Bool) (parts : List ClassPart) {length : Nat}
    (hlength : text.length ≤ length) (h : Carries text text') :
    Extends length LostInClass (regroup (frontOf flags negated parts text))
      (regroup (frontOf flags negated parts text')) := by
  cases text with
  | nil =>
    have hnil : frontOf flags negated parts [] = .error .classUnclosed := by
      cases parts <;> rfl
    obtain rfl | rfl := h.of_nil
    · rw [hnil, frontOf_cons _ _ _ _ _ (.inr (by decide))]
      exact .lost _ (Or.inr rfl)
    · rw [hnil]
      exact .refused _ _
  | cons c rest =>
    obtain ⟨rest', rfl, hrest⟩ := h.of_cons
    by_cases hfront : parts ≠ [] ∨ c ≠ ']'
    · rw [frontOf_cons _ _ _ _ _ hfront, frontOf_cons _ _ _ _ _ hfront]
      exact .read hlength h
    · obtain ⟨hparts, hc⟩ := not_or.mp hfront
      obtain rfl := Classical.not_not.mp hparts
      obtain rfl := Classical.not_not.mp hc
      exact extends_frontOf_close flags negated (Nat.le_of_succ_le hlength) hrest

theorem extends_openClass (flags : Flags) (h : Carries text text') :
    Extends text.length LostInClass (regroup (openClass flags text))
      (regroup (openClass flags text')) := by
  obtain ⟨hnegated, hcaret, hrest⟩ := h.caretOf flags
  obtain ⟨hhyphens, hbehind⟩ := hrest.takeWhile_of_not (· == '-') (by decide) flags
  have hle := Nat.le_trans (flags.length_takeWhile_le (· == '-') false _) hcaret
  rw [openClass_eq, openClass_eq, hnegated, hhyphens]
  exact extends_frontOf flags _ _ hle hbehind

/-! ## Whole classes -/

/-- Where reading a class has got to: it is closed, or there is more of it. -/
inductive ClassTurn where
  | closed (whole : ClassPart)
  | further (frames : List ClassFrame) (parts : List ClassPart)

/-- Reads on in a class that is not closed. -/
def ClassTurn.readOn (flags : Flags) (fuel : Nat) (turn : ClassTurn) (rest : List Char) :
    Except PatternError (ClassPart × List Char) :=
  match turn with
  | .closed whole => .ok (whole, rest)
  | .further frames parts => readClassFrom flags fuel frames parts rest

/-- A further part of a class. -/
def partTurn (flags : Flags) (frames : List ClassFrame) (parts : List ClassPart)
    (text : List Char) : Except PatternError (ClassTurn × List Char) := do
  let (part, rest) ← readClassPart flags text
  return (.further frames (part :: parts), rest)

/-- An opening bracket within a class. -/
def bracketTurn (flags : Flags) (frames : List ClassFrame) (parts : List ClassPart)
    (text : List Char) : Except PatternError (ClassTurn × List Char) :=
  match readAsciiClass? text with
  | some (negated, set, rest) => do
    return (.further frames (.ofSet (← flags.finishSet negated set) :: parts), rest)
  | none => do
    let ((negated, inner), rest) ← regroup (openClass flags text)
    return (.further (.bracket parts negated :: frames) inner, rest)

/-- A closing bracket. -/
def closingTurn (flags : Flags) (frames : List ClassFrame) (parts : List ClassPart)
    (text : List Char) : Except PatternError (ClassTurn × List Char) :=
  match applyPending flags (.join parts) frames with
  | (whole, .bracket before negated :: frames) => do
    let closed : ClassPart := ⟨← flags.finishSet negated whole.set, 1 + whole.depth⟩
    return (if frames.isEmpty then .closed closed else .further frames (closed :: before), text)
  | _ => .error .classUnclosed

/-- A sign that is doubled, or a further part of a class. -/
def signTurn (flags : Flags) (frames : List ClassFrame) (parts : List ClassPart) (c : Char)
    (rest : List Char) : Except PatternError (ClassTurn × List Char) :=
  match setOperator? c, rest with
  | some operator, c' :: rest' =>
    if c = c' then
      let (left, frames) := applyPending flags (.join parts) frames
      .ok (.further (.operator operator left :: frames) [], rest')
    else partTurn flags frames parts (c :: rest)
  | _, _ => partTurn flags frames parts (c :: rest)

/-- Reads a sign or a part of a class, given by its first character. -/
def classTurn (flags : Flags) (frames : List ClassFrame) (parts : List ClassPart) (c : Char)
    (rest : List Char) : Except PatternError (ClassTurn × List Char) :=
  match c with
  | '[' => bracketTurn flags frames parts rest
  | ']' => closingTurn flags frames parts rest
  | c => signTurn flags frames parts c rest

theorem partTurn_readOn (flags : Flags) (fuel : Nat) (frames : List ClassFrame)
    (parts : List ClassPart) (text : List Char) :
    (partTurn flags frames parts text >>= fun (turn, rest) => turn.readOn flags fuel rest)
      = (readClassPart flags text >>= fun (part, rest) =>
          readClassFrom flags fuel frames (part :: parts) rest) := by
  rw [partTurn]
  cases readClassPart flags text <;> rfl

theorem signTurn_readOn (flags : Flags) (fuel : Nat) (frames : List ClassFrame)
    (parts : List ClassPart) (c : Char) (rest : List Char) :
    (signTurn flags frames parts c rest >>= fun (turn, rest) => turn.readOn flags fuel rest)
      = match setOperator? c, rest with
        | some operator, c' :: rest' =>
          if c = c' then
            let (left, frames) := applyPending flags (.join parts) frames
            readClassFrom flags fuel (.operator operator left :: frames) [] rest'
          else
            readClassPart flags (c :: rest) >>= fun (part, rest) =>
              readClassFrom flags fuel frames (part :: parts) rest
        | _, _ =>
          readClassPart flags (c :: rest) >>= fun (part, rest) =>
            readClassFrom flags fuel frames (part :: parts) rest := by
  unfold signTurn
  split
  · split
    · rfl
    · exact partTurn_readOn flags fuel frames parts _
  · exact partTurn_readOn flags fuel frames parts _

theorem bracketTurn_readOn (flags : Flags) (fuel : Nat) (frames : List ClassFrame)
    (parts : List ClassPart) (text : List Char) :
    (bracketTurn flags frames parts text >>= fun (turn, rest) => turn.readOn flags fuel rest)
      = match readAsciiClass? text with
        | some (negated, set, rest) => do
          let set ← flags.finishSet negated set
          readClassFrom flags fuel frames (.ofSet set :: parts) rest
        | none =>
          openClass flags text >>= fun (negated, inner, rest) =>
            readClassFrom flags fuel (.bracket parts negated :: frames) inner rest := by
  rw [bracketTurn]
  cases readAsciiClass? text with
  | some found =>
    obtain ⟨negated, set, rest⟩ := found
    dsimp only
    cases flags.finishSet negated set <;> rfl
  | none =>
    dsimp only
    cases openClass flags text <;> rfl

theorem closingTurn_readOn (flags : Flags) (fuel : Nat) (frames : List ClassFrame)
    (parts : List ClassPart) (text : List Char) :
    (closingTurn flags frames parts text >>= fun (turn, rest) => turn.readOn flags fuel rest)
      = match applyPending flags (.join parts) frames with
        | (whole, .bracket before negated :: frames) => do
          let closed : ClassPart := ⟨← flags.finishSet negated whole.set, 1 + whole.depth⟩
          if frames.isEmpty then return (closed, text)
          readClassFrom flags fuel frames (closed :: before) text
        | _ => .error .classUnclosed := by
  rw [closingTurn]
  split
  · rename_i whole before negated frames' heq
    cases flags.finishSet negated whole.set with
    | error error => rfl
    | ok set => cases frames' <;> rfl
  · rfl

theorem readClassFrom_succ (flags : Flags) (fuel : Nat) (frames : List ClassFrame)
    (parts : List ClassPart) (text : List Char) :
    readClassFrom flags (fuel + 1) frames parts text
      = match flags.skip text with
        | [] => .error .classUnclosed
        | c :: rest =>
          classTurn flags frames parts c rest >>= fun (turn, rest) => turn.readOn flags fuel rest := by
  unfold readClassFrom
  split
  · rename_i heq
    rw [heq]
  · rename_i rest heq
    rw [heq]
    exact (bracketTurn_readOn flags fuel frames parts rest).symm
  · rename_i rest heq
    rw [heq]
    exact (closingTurn_readOn flags fuel frames parts rest).symm
  · rename_i c rest hbracket hclosing heq
    rw [heq]
    have hturn : classTurn flags frames parts c rest = signTurn flags frames parts c rest := by
      unfold classTurn
      split
      · exact absurd rfl hbracket
      · exact absurd rfl hclosing
      · rfl
    dsimp only
    rw [hturn]
    exact (signTurn_readOn flags fuel frames parts c rest).symm

/-- There is no way on in a class of which nothing is left, or a single parenthesis. -/
def ClassTurn.Lost : ClassTurn → List Char → Prop
  | .closed _, _ => False
  | .further _ _, rest => rest = [] ∨ rest = [')']

theorem extends_partTurn (flags : Flags) (frames : List ClassFrame) (parts : List ClassPart)
    (h : Carries text text') :
    Extends (text.length - 1) ClassTurn.Lost (partTurn flags frames parts text)
      (partTurn flags frames parts text') :=
  .bind (extends_readClassPart flags h) .read fun hlost => .ok hlost

theorem extends_bracketTurn (flags : Flags) (frames : List ClassFrame) (parts : List ClassPart)
    (h : Carries text text') :
    Extends text.length ClassTurn.Lost (bracketTurn flags frames parts text)
      (bracketTurn flags frames parts text') := by
  unfold bracketTurn
  obtain ⟨hnone, hnone'⟩ | ⟨negated, set, rest, rest', hsome, hsome', hle, hrest⟩ :=
    sameAsciiClass_read h
  · rw [hnone, hnone']
    exact .bind (extends_openClass flags h) .read fun hlost => .ok hlost
  · rw [hsome, hsome']
    exact .bind_same _ fun _ => .read hle hrest

theorem extends_closingTurn (flags : Flags) (frames : List ClassFrame) (parts : List ClassPart)
    (h : Carries text text') :
    Extends text.length ClassTurn.Lost (closingTurn flags frames parts text)
      (closingTurn flags frames parts text') := by
  unfold closingTurn
  split
  · exact .bind_same _ fun _ => .read (Nat.le_refl _) h
  · exact .refused _ _

theorem extends_signTurn (flags : Flags) (frames : List ClassFrame) (parts : List ClassPart)
    (c : Char) (h : Carries (c :: text) (c :: text')) :
    Extends text.length ClassTurn.Lost (signTurn flags frames parts c text)
      (signTurn flags frames parts c text') := by
  have hpart := extends_partTurn flags frames parts h
  have hrest := h.tail
  unfold signTurn
  cases hoperator : setOperator? c with
  | none => exact hpart
  | some operator =>
    cases text with
    | nil =>
      -- The parenthesis is the second sign, but no operator is written with parentheses.
      obtain rfl | rfl := hrest.of_nil
      · have hne : c ≠ ')' := by
          rintro rfl
          cases hoperator
        simp only [if_neg hne]
        exact hpart
      · exact hpart
    | cons d rest =>
      obtain ⟨rest', rfl, hbehind⟩ := hrest.of_cons
      by_cases hcd : c = d
      · simp only [if_pos hcd]
        exact .read (Nat.le_succ _) hbehind
      · simp only [if_neg hcd]
        exact hpart

theorem extends_classTurn (flags : Flags) (frames : List ClassFrame) (parts : List ClassPart)
    (c : Char) (h : Carries (c :: text) (c :: text')) :
    Extends text.length ClassTurn.Lost (classTurn flags frames parts c text)
      (classTurn flags frames parts c text') := by
  unfold classTurn
  split
  · exact extends_bracketTurn flags frames parts h.tail
  · exact extends_closingTurn flags frames parts h.tail
  · exact extends_signTurn flags frames parts _ h

/-- A class stays open at a parenthesis. -/
theorem classTurn_close (flags : Flags) (frames : List ClassFrame) (parts : List ClassPart) :
    classTurn flags frames parts ')' [] = .error .classUnclosed := by
  show partTurn flags frames parts [')'] = _
  rw [partTurn, readClassPart_close]
  rfl

theorem readClassFrom_nil (flags : Flags) (fuel : Nat) (frames : List ClassFrame)
    (parts : List ClassPart) : readClassFrom flags fuel frames parts [] = .error .classUnclosed := by
  cases fuel with
  | zero => rfl
  | succ fuel => rw [readClassFrom_succ, flags.skip_nil]

theorem readClassFrom_close (flags : Flags) (fuel : Nat) (frames : List ClassFrame)
    (parts : List ClassPart) :
    readClassFrom flags fuel frames parts [')'] = .error .classUnclosed := by
  cases fuel with
  | zero => rfl
  | succ fuel =>
    rw [readClassFrom_succ, flags.skip_close]
    simp only [classTurn_close]
    rfl

theorem ClassTurn.misses_readOn (flags : Flags) (fuel : Nat) {turn : ClassTurn}
    {rest : List Char} (hlost : turn.Lost rest) :
    Misses Never (turn.readOn flags fuel rest) := by
  cases turn with
  | closed whole => exact hlost.elim
  | further frames parts =>
    rw [readOn]
    obtain rfl | rfl := hlost
    · rw [readClassFrom_nil]
      exact .error _
    · rw [readClassFrom_close]
      exact .error _

/-- A class is read to its end, or refused, no matter whether a parenthesis follows the text. The
fuel suffices both times. -/
theorem extends_readClassFrom (flags : Flags) {fuel fuel' : Nat} (frames : List ClassFrame)
    (parts : List ClassPart) (hfuel : text.length < fuel) (hfuel' : text.length + 1 < fuel')
    (h : Carries text text') :
    Extends text.length Never (readClassFrom flags fuel frames parts text)
      (readClassFrom flags fuel' frames parts text') := by
  -- Each turn takes a character of both texts; the parenthesis takes one turn more.
  induction fuel generalizing fuel' frames parts text text' with
  | zero => exact absurd hfuel (Nat.not_lt_zero _)
  | succ fuel ih =>
    obtain ⟨fuel', rfl⟩ := Nat.exists_eq_add_one.mpr (Nat.zero_lt_of_lt hfuel')
    have hskip := h.skip flags
    have hle := flags.length_skip_le text
    rw [readClassFrom_succ, readClassFrom_succ]
    generalize flags.skip text = rest at hskip hle
    generalize flags.skip text' = rest' at hskip
    cases rest with
    | nil =>
      -- The class is open at the end of the text, and it stays open.
      obtain rfl | rfl := hskip.of_nil
      · simp only [classTurn_close]
        exact .refused _ _
      · exact .refused _ _
    | cons c rest =>
      obtain ⟨rest', rfl, -⟩ := hskip.of_cons
      rw [List.length_cons] at hle
      have hturns : Extends rest.length Never
          (classTurn flags frames parts c rest >>= fun (turn, rest) => turn.readOn flags fuel rest)
          (classTurn flags frames parts c rest' >>= fun (turn, rest) =>
            turn.readOn flags fuel' rest) := by
        refine .bind (extends_classTurn flags frames parts c hskip)
          (fun {turn behind behind'} hlength hbehind => ?_)
          (fun hlost => ClassTurn.misses_readOn flags fuel' hlost)
        cases turn with
        | closed whole => exact .read hlength hbehind
        | further frames parts =>
          exact (ih frames parts (by omega) (by omega) hbehind).mono hlength
      exact hturns.mono (Nat.le_of_succ_le hle)

theorem extends_readClass (flags : Flags) (h : Carries text text') :
    Extends text.length Never (readClass flags text) (readClass flags text') := by
  have hread (text : List Char) : readClass flags text
      = regroup (openClass flags text) >>= fun ((negated, parts), rest) =>
        readClassFrom flags (rest.length + 1) [.bracket [] negated] parts rest := by
    rw [← bind_regroup]
    rfl
  rw [hread, hread]
  refine .bind (extends_openClass flags h) ?_ ?_
  · rintro ⟨negated, parts⟩ rest rest' hlength hrest
    cases hrest with
    | swallowed =>
      dsimp only
      rw [readClassFrom_nil]
      exact .refused _ _
    | kept =>
      refine (extends_readClassFrom flags _ _ (Nat.lt_succ_self _) ?_ (.kept rest)).mono hlength
      rw [List.length_append]
      exact Nat.lt_succ_self _
  · rintro ⟨negated, parts⟩ rest' hlost
    change Misses Never
      (ClassTurn.readOn flags (rest'.length + 1) (.further [.bracket [] negated] parts) rest')
    exact ClassTurn.misses_readOn flags _ hlost

end LineLexer.Pattern
