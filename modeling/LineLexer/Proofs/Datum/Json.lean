import LineLexer.Datum.Json
import Mathlib.Data.List.TakeDrop

/-!
# What is written as JSON is read back

The reader gives back the data that the compact writer has written (`parse_compact`), as far as JSON
has a form for it (`Plain`). Three parts of the text carry the argument, each with what may follow:
an escaped character is read as one code (`readCodes_escapeChar`), the digits of a number end where
no digit follows (`readNumber_toDigits`), and the elements of a list or record end at its closing
bracket (`readItems_joined`, `readFields_joined`).
-/

namespace LineLexer.Json

/-! ## Strings -/

theorem hexDigit?_hexDigit {n : Nat} (h : n < 16) : hexDigit? (hexDigit n) = some n := by
  have hall : ∀ n < 16, hexDigit? (hexDigit n) = some n := by decide
  exact hall n h

/-- An escaped character is one code. -/
theorem readCodes_escapeChar (c : Char) (fuel : Nat) (taken : List Nat) (rest : List Char) :
    readCodes (fuel + 1) taken (escapeChar c ++ rest)
      = readCodes fuel (c.toNat :: taken) rest := by
  -- the characters with an escape of their own come first
  unfold escapeChar
  split
  · subst c; rfl
  split
  · subst c; rfl
  split
  · subst c; rfl
  split
  · subst c; rfl
  split
  · subst c; rfl
  split
  · subst c; rfl
  split
  · subst c; rfl
  split
  · -- the other control characters are below 32, so two of their four digits are zero
    rename_i hcontrol
    have hhigh : hexDigit? (hexDigit (c.toNat / 16)) = some (c.toNat / 16) :=
      hexDigit?_hexDigit (by omega)
    have hlow : hexDigit? (hexDigit (c.toNat % 16)) = some (c.toNat % 16) :=
      hexDigit?_hexDigit (by omega)
    have hzero : hexDigit? '0' = some 0 := rfl
    have hvalue : ((0 * 16 + 0) * 16 + c.toNat / 16) * 16 + c.toNat % 16 = c.toNat := by omega
    have hunit : readUnit ('0' :: '0' :: hexDigit (c.toNat / 16) :: hexDigit (c.toNat % 16) :: rest)
        = .ok (c.toNat, rest) := by
      rw [readUnit, hzero, hhigh, hlow]
      dsimp only
      rw [hvalue]
    simp only [List.cons_append, List.nil_append, readCodes]
    rw [if_neg (by decide), if_pos trivial, readEscape, hunit]
    rfl
  · rename_i hquote hbackslash _ _ _ _ _ hcontrol
    rw [List.singleton_append, readCodes, if_neg hquote, if_neg hbackslash, if_neg hcontrol]

theorem readCodes_escaped (text : List Char) (fuel : Nat) (taken : List Nat) (rest : List Char)
    (hfuel : text.length < fuel) :
    readCodes fuel taken (text.flatMap escapeChar ++ '"' :: rest)
      = .ok (taken.reverse ++ text.map Char.toNat, rest) := by
  induction text generalizing fuel taken with
  | nil =>
    obtain ⟨fuel, rfl⟩ := Nat.exists_eq_add_of_lt hfuel
    simp [readCodes]
  | cons c text ih =>
    rw [List.length_cons] at hfuel
    obtain ⟨fuel, rfl⟩ : ∃ less, fuel = less + 1 := ⟨fuel - 1, by omega⟩
    rw [List.flatMap_cons, List.append_assoc, readCodes_escapeChar, ih fuel _ (by omega)]
    simp

/-- No character is half of a pair of surrogates. -/
theorem not_surrogate (c : Char) : (isLeading c.toNat || isTrailing c.toNat) = false := by
  have hvalid : c.toNat.isValidChar := c.valid
  unfold Nat.isValidChar at hvalid
  simp only [isLeading, isTrailing, Bool.or_eq_false_iff, Bool.and_eq_false_iff,
    decide_eq_false_iff_not]
  omega

theorem textOf?_codes (taken text : List Char) :
    textOf? taken (text.map Char.toNat) = some (String.ofList (taken.reverse ++ text)) := by
  induction text generalizing taken with
  | nil => simp [textOf?]
  | cons c text ih =>
    have hc := not_surrogate c
    have hleading : isLeading c.toNat = false := (Bool.or_eq_false_iff.mp hc).1
    have hnext := ih (c :: taken)
    rw [List.reverse_cons, List.append_assoc, List.singleton_append] at hnext
    rw [← hnext]
    cases text with
    | nil => simp [textOf?, hc, Char.ofNat_toNat]
    | cons d text => simp [textOf?, (Bool.or_eq_false_iff.mp hc).2, hleading, Char.ofNat_toNat]

/-- An escape is not shorter than its character. -/
theorem length_le_flatMap_escapeChar (text : List Char) :
    text.length ≤ (text.flatMap escapeChar).length := by
  have hone (c : Char) : 1 ≤ (escapeChar c).length := by
    unfold escapeChar
    repeat' split
    all_goals simp
  induction text with
  | nil => exact Nat.le_refl _
  | cons c text ih =>
    have := hone c
    rw [List.flatMap_cons, List.length_append, List.length_cons]
    omega

/-- A quoted text is read back, behind its opening quote. -/
theorem readString_quoted (text : String) (rest : List Char) :
    readString (text.toList.flatMap escapeChar ++ '"' :: rest) = .ok (some text, rest) := by
  have hlength := length_le_flatMap_escapeChar text.toList
  unfold readString
  rw [readCodes_escaped]
  · show Except.ok (textOf? [] (text.toList.map Char.toNat), rest) = _
    rw [textOf?_codes, List.reverse_nil, List.nil_append, String.ofList_toList]
  · rw [List.length_append]
    omega

theorem toList_quote (text : String) :
    (quote text).toList = '"' :: (text.toList.flatMap escapeChar ++ ['"']) :=
  String.toList_ofList

/-! ## Numbers -/

/-- What stands behind a value: nothing, a comma or a closing bracket. -/
def Follows (rest : List Char) : Prop :=
  ∀ c ∈ rest.head?, c = ',' ∨ c = ']' ∨ c = '\x7d'

theorem follows_nil : Follows [] := fun _ hc => by cases hc

theorem follows_cons {c : Char} (h : c = ',' ∨ c = ']' ∨ c = '\x7d') (rest : List Char) :
    Follows (c :: rest) := by
  rintro _ ⟨⟩
  exact h

theorem Follows.isDigit_eq_false {c : Char} {rest : List Char} (h : Follows (c :: rest)) :
    c.isDigit = false := by
  obtain rfl | rfl | rfl := h c rfl
  all_goals rfl

theorem readDigits_append {digits rest : List Char} (hne : digits ≠ [])
    (hdigits : ∀ c ∈ digits, c.isDigit = true) (hrest : Follows rest) :
    readDigits (digits ++ rest) = .ok (digits, rest) := by
  have hspan : (digits ++ rest).span Char.isDigit = (digits, rest) := by
    rw [List.span_eq_takeWhile_dropWhile, List.takeWhile_append_of_pos hdigits,
      List.dropWhile_append_of_pos hdigits]
    cases rest with
    | nil => simp
    | cons c rest =>
      have hc : c.isDigit = false := hrest.isDigit_eq_false
      rw [List.takeWhile_cons_of_neg (by simp [hc]), List.dropWhile_cons_of_neg (by simp [hc]),
        List.append_nil]
  rw [readDigits, hspan]
  cases digits with
  | nil => exact absurd rfl hne
  | cons c digits => rfl

/-- Only the number zero begins with a zero. -/
theorem exists_toDigits_eq_cons {n : Nat} (h : 0 < n) :
    ∃ c rest, Nat.toDigits 10 n = c :: rest ∧ c ≠ '0' := by
  induction n using Nat.strongRecOn with
  | _ n ih =>
    by_cases hlt : n < 10
    · have hne : ∀ n < 10, 0 < n → n.digitChar ≠ '0' := by decide
      exact ⟨_, [], Nat.toDigits_of_lt_base hlt, hne n hlt h⟩
    · obtain ⟨c, rest, heq, hc⟩ := ih (n / 10) (by omega) (by omega)
      exact ⟨c, _, by rw [Nat.toDigits_of_base_le (by omega) (by omega), heq]; rfl, hc⟩

theorem isDigit_toDigits (n : Nat) : ∀ c ∈ Nat.toDigits 10 n, c.isDigit = true :=
  fun _ hc => Nat.isDigit_of_mem_toDigits (by omega) (by omega) hc

theorem readWhole_toDigits (n : Nat) {rest : List Char} (hrest : Follows rest) :
    readWhole (Nat.toDigits 10 n ++ rest) = .ok (Nat.toDigits 10 n, rest) := by
  have hdigits := readDigits_append Nat.toDigits_ne_nil (isDigit_toDigits n) hrest
  rcases Nat.eq_zero_or_pos n with rfl | hpos
  · cases rest with
    | nil => exact hdigits
    | cons c rest =>
      show readWhole ('0' :: c :: rest) = .ok (['0'], c :: rest)
      rw [readWhole, if_neg (by simp [hrest.isDigit_eq_false])]
  · obtain ⟨c, digits, heq, hc⟩ := exists_toDigits_eq_cons hpos
    rw [heq] at hdigits ⊢
    rw [List.cons_append] at hdigits ⊢
    rw [← hdigits, readWhole]
    intro d rest' hrest'
    exact absurd (List.cons.inj hrest').1 hc

theorem readFraction_of_follows {rest : List Char} (hrest : Follows rest) :
    readFraction rest = .ok ([], rest) := by
  rw [readFraction]
  rintro rest' rfl
  rcases hrest '.' rfl with h | h | h <;> cases h

theorem readExponent_of_follows {rest : List Char} (hrest : Follows rest) :
    readExponent rest = .ok ([], rest) := by
  cases rest with
  | nil => rfl
  | cons c rest =>
    have hc : ¬(c = 'e' ∨ c = 'E') := by
      rcases hrest c rfl with rfl | rfl | rfl <;> decide
    unfold readExponent
    exact if_neg hc

theorem readNumber_toDigits (n : Nat) {rest : List Char} (hrest : Follows rest) :
    readNumber (Nat.toDigits 10 n ++ rest) = .ok (toString n, rest) := by
  obtain ⟨c, digits, heq⟩ := List.exists_cons_of_ne_nil (Nat.toDigits_ne_nil (b := 10) (n := n))
  have hwhole := readWhole_toDigits n hrest
  have hminus : c ≠ '-' := by
    rintro rfl
    exact absurd (isDigit_toDigits n '-' (heq ▸ List.mem_cons_self)) (by decide)
  rw [readNumber]
  · rw [hwhole]
    show (readFraction rest >>= _) = _
    rw [readFraction_of_follows hrest]
    show (readExponent rest >>= _) = _
    rw [readExponent_of_follows hrest]
    show Except.ok (String.ofList _, rest) = _
    simp [Nat.repr_eq_ofList_toDigits]
  · rw [heq]
    intro rest' hrest'
    exact hminus (List.cons.inj hrest').1

/-! ## Values -/

/-- Data that JSON has a form for; numbers are whole and not below zero. -/
inductive Plain : Datum → Prop
  | null : Plain .null
  | boolean (value : Bool) : Plain (.boolean value)
  | number (n : Nat) : Plain (.ofNat n)
  | text (value : String) : Plain (.text value)
  | list {items : List Datum} (h : ∀ item ∈ items, Plain item) : Plain (.list items)
  | record {fields : List (String × Datum)} (h : ∀ field ∈ fields, Plain field.2) :
      Plain (.record fields)

theorem Plain.ofMap {α : Type} {encode : α → Datum} (h : ∀ item, Plain (encode item))
    (items : List α) : Plain (.list (items.map encode)) := by
  refine .list fun datum hdatum => ?_
  obtain ⟨item, -, rfl⟩ := List.mem_map.mp hdatum
  exact h item

/-- The characters of elements with commas between them. -/
def joined (elements : List String) : List Char :=
  [','].intercalate (elements.map String.toList)

theorem joined_singleton (element : String) : joined [element] = element.toList := by
  simp [joined]

theorem joined_cons_cons (element next : String) (elements : List String) :
    joined (element :: next :: elements) = element.toList ++ ',' :: joined (next :: elements) := by
  simp [joined, List.intercalate_cons_cons]

theorem exists_joined_cons (element : String) (elements : List String) :
    ∃ more, joined (element :: elements) = element.toList ++ more := by
  cases elements with
  | nil => exact ⟨[], by rw [joined_singleton, List.append_nil]⟩
  | cons next elements => exact ⟨_, joined_cons_cons element next elements⟩

theorem toList_bracketed (level : Nat) (opening closing : String) (elements : List String) :
    (bracketed .compact level opening closing elements).toList
      = opening.toList ++ joined elements ++ closing.toList := by
  unfold bracketed
  split
  · rename_i hempty
    rw [List.isEmpty_iff.mp hempty]
    simp [joined]
  · simp [joined, Spacing.compact, String.toList_intercalate]

theorem toList_toString (n : Nat) : (toString n).toList = Nat.toDigits 10 n := by
  show n.repr.toList = _
  rw [Nat.repr_eq_ofList_toDigits, String.toList_ofList]

theorem isSpace_of_isDigit {c : Char} (hc : c.isDigit = true) : isSpace c = false := by
  unfold isSpace
  by_contra hspace
  simp only [Bool.not_eq_false, Bool.or_eq_true, decide_eq_true_eq] at hspace
  rcases hspace with ((rfl | rfl) | rfl) | rfl <;> exact absurd hc (by decide)

/-- What begins a value: neither space nor the end of a list. -/
theorem Plain.exists_head {datum : Datum} (h : Plain datum) (level : Nat) :
    ∃ c rest, (write .compact level datum).toList = c :: rest ∧ isSpace c = false ∧ c ≠ ']' := by
  cases h with
  | null => exact ⟨'n', _, by rw [write]; rfl, by decide, by decide⟩
  | boolean value =>
    cases value with
    | false => exact ⟨'f', _, by rw [write]; rfl, by decide, by decide⟩
    | true => exact ⟨'t', _, by rw [write]; rfl, by decide, by decide⟩
  | number n =>
    obtain ⟨c, digits, heq⟩ := List.exists_cons_of_ne_nil (Nat.toDigits_ne_nil (b := 10) (n := n))
    have hc : c.isDigit = true := isDigit_toDigits n c (heq ▸ List.mem_cons_self)
    refine ⟨c, digits, ?_, ?_, ?_⟩
    · rw [← heq, Datum.ofNat, write, toList_toString]
    · exact isSpace_of_isDigit hc
    · rintro rfl
      exact absurd hc (by decide)
  | text value => exact ⟨'"', _, by rw [write, toList_quote], by decide, by decide⟩
  | list => exact ⟨'[', _, by rw [write, toList_bracketed]; rfl, by decide, by decide⟩
  | record => exact ⟨'\x7b', _, by rw [write, toList_bracketed]; rfl, by decide, by decide⟩

theorem skipSpace_of_head {c : Char} (h : isSpace c = false) (rest : List Char) :
    skipSpace (c :: rest) = c :: rest :=
  List.dropWhile_cons_of_neg (by simp [h])

/-! ### One step of the reader -/

theorem readValue_quote (fuel : Nat) (rest : List Char) :
    readValue (fuel + 1) ('"' :: rest)
      = readString rest >>= fun (value, rest) => .ok (stringDatum value, rest) := rfl

theorem readValue_digit {c : Char} (hc : c.isDigit = true) (fuel : Nat) (rest : List Char) :
    readValue (fuel + 1) (c :: rest)
      = readNumber (c :: rest) >>= fun (literal, rest) => .ok (.number literal, rest) := by
  rw [readValue, skipSpace_of_head (isSpace_of_isDigit hc)]
  split
  case h_8 first rest' _ _ _ _ _ _ heq =>
    cases heq
    rw [if_pos (by simp [hc])]
    rfl
  -- every other kind of value begins with a character that is no digit
  all_goals
    rename_i heq
    cases heq
  all_goals exact absurd hc (by decide)

theorem readValue_list_nil (fuel : Nat) (rest : List Char) :
    readValue (fuel + 1) ('[' :: ']' :: rest) = .ok (.list [], rest) := rfl

theorem readValue_record_nil (fuel : Nat) (rest : List Char) :
    readValue (fuel + 1) ('\x7b' :: '\x7d' :: rest) = .ok (.record [], rest) := rfl

theorem readValue_list_cons {c : Char} (hspace : isSpace c = false) (hc : c ≠ ']') (fuel : Nat)
    (rest : List Char) :
    readValue (fuel + 1) ('[' :: c :: rest)
      = readItems fuel (c :: rest) >>= fun (items, rest) => .ok (.list items, rest) := by
  have hbracket : isSpace '[' = false := rfl
  rw [readValue, skipSpace_of_head hbracket]
  simp only [skipSpace_of_head hspace]
  split
  · rename_i heq
    exact absurd (List.cons.inj heq).1 hc
  · rfl

theorem readValue_record_cons (fuel : Nat) (rest : List Char) :
    readValue (fuel + 1) ('\x7b' :: '"' :: rest)
      = readFields fuel ('"' :: rest) >>= fun (fields, rest) => .ok (recordDatum fields, rest) := rfl

theorem readItems_last {fuel : Nat} {text rest : List Char} {item : Datum}
    (h : readValue fuel text = .ok (item, ']' :: rest)) :
    readItems (fuel + 1) text = .ok ([item], rest) := by
  rw [readItems, h]
  rfl

theorem readItems_comma {fuel : Nat} {text rest : List Char} {item : Datum}
    (h : readValue fuel text = .ok (item, ',' :: rest)) :
    readItems (fuel + 1) text
      = readItems fuel rest >>= fun (items, rest) => .ok (item :: items, rest) := by
  rw [readItems, h]
  rfl

theorem readFields_last {fuel : Nat} {text inner rest : List Char} {name : Option String}
    {value : Datum} (hname : readString text = .ok (name, ':' :: inner))
    (hvalue : readValue fuel inner = .ok (value, '\x7d' :: rest)) :
    readFields (fuel + 1) ('"' :: text) = .ok ([(name, value)], rest) := by
  show (readString text >>= _) = _
  rw [hname]
  show (readValue fuel inner >>= _) = _
  rw [hvalue]
  rfl

theorem readFields_comma {fuel : Nat} {text inner rest : List Char} {name : Option String}
    {value : Datum} (hname : readString text = .ok (name, ':' :: inner))
    (hvalue : readValue fuel inner = .ok (value, ',' :: rest)) :
    readFields (fuel + 1) ('"' :: text)
      = readFields fuel rest >>= fun (fields, rest) => .ok ((name, value) :: fields, rest) := by
  show (readString text >>= _) = _
  rw [hname]
  show (readValue fuel inner >>= _) = _
  rw [hvalue]
  rfl

/-! ### Whole values -/

/-- The datum is read back from what is written, whatever may follow. Every level of nesting takes
two characters at least, so there is fuel enough. -/
def Reads (datum : Datum) : Prop :=
  ∀ level fuel rest, (write .compact level datum).toList.length ≤ fuel → Follows rest →
    readValue fuel ((write .compact level datum).toList ++ rest) = .ok (datum, rest)

theorem readItems_joined {items : List Datum} (hne : items ≠ [])
    (h : ∀ item ∈ items, Reads item) (level fuel : Nat) (rest : List Char)
    (hfuel : (joined (writeItems .compact level items)).length < fuel) :
    readItems fuel (joined (writeItems .compact level items) ++ ']' :: rest)
      = .ok (items, rest) := by
  induction items generalizing fuel with
  | nil => exact absurd rfl hne
  | cons item items ih =>
    obtain ⟨fuel, rfl⟩ : ∃ less, fuel = less + 1 := ⟨fuel - 1, by omega⟩
    have hitem := h item List.mem_cons_self level fuel
    cases items with
    | nil =>
      rw [writeItems, writeItems, joined_singleton] at hfuel ⊢
      exact readItems_last (hitem _ (by omega) (follows_cons (by decide) _))
    | cons next items =>
      rw [writeItems, writeItems, joined_cons_cons] at hfuel ⊢
      rw [List.length_append, List.length_cons] at hfuel
      have hrest := ih (List.cons_ne_nil _ _) (fun other hother => h other (.tail _ hother)) fuel
        (by rw [writeItems]; omega)
      rw [writeItems] at hrest
      rw [List.append_assoc, List.cons_append,
        readItems_comma (hitem _ (by omega) (follows_cons (by decide) _)), hrest]
      rfl

theorem toList_writeField (level : Nat) (name : String) (value : Datum) (rest : List Char) :
    (quote name ++ Spacing.compact.colon ++ write .compact level value).toList ++ rest
      = '"' :: (name.toList.flatMap escapeChar
          ++ '"' :: ':' :: ((write .compact level value).toList ++ rest)) := by
  rw [String.toList_append, String.toList_append, toList_quote]
  simp [Spacing.compact]

theorem readFields_joined {fields : List (String × Datum)} (hne : fields ≠ [])
    (h : ∀ field ∈ fields, Reads field.2) (level fuel : Nat) (rest : List Char)
    (hfuel : (joined (writeFields .compact level fields)).length < fuel) :
    readFields fuel (joined (writeFields .compact level fields) ++ '\x7d' :: rest)
      = .ok (fields.map fun (name, value) => (some name, value), rest) := by
  induction fields generalizing fuel with
  | nil => exact absurd rfl hne
  | cons field fields ih =>
    obtain ⟨name, value⟩ := field
    obtain ⟨fuel, rfl⟩ : ∃ less, fuel = less + 1 := ⟨fuel - 1, by omega⟩
    have hvalue : Reads value := h (name, value) List.mem_cons_self
    cases fields with
    | nil =>
      rw [writeFields, writeFields, joined_singleton] at hfuel ⊢
      rw [String.toList_append, List.length_append] at hfuel
      rw [toList_writeField]
      exact readFields_last (readString_quoted _ _)
        (hvalue level fuel _ (by omega) (follows_cons (by decide) _))
    | cons next fields =>
      obtain ⟨name', value'⟩ := next
      rw [writeFields, writeFields, joined_cons_cons] at hfuel ⊢
      rw [List.length_append, String.toList_append, List.length_append, List.length_cons] at hfuel
      have hrest := ih (List.cons_ne_nil _ _) (fun other hother => h other (.tail _ hother)) fuel
        (by rw [writeFields]; omega)
      rw [writeFields] at hrest
      rw [List.append_assoc, toList_writeField, List.cons_append,
        readFields_comma (readString_quoted _ _) (hvalue level fuel _ (by omega) (follows_cons (by decide) _)),
        hrest]
      rfl

theorem recordDatum_map (fields : List (String × Datum)) :
    recordDatum (fields.map fun (name, value) => (some name, value)) = .record fields := by
  have hmap (keep : Option String × Datum → Option (String × Datum))
      (hkeep : ∀ name value, keep (some name, value) = some (name, value)) :
      (fields.map fun (name, value) => (some name, value)).mapM keep = some fields := by
    induction fields with
    | nil => rfl
    | cons field fields ih =>
      rw [List.map_cons, List.mapM_cons, ih, hkeep]
      rfl
  rw [recordDatum, hmap _ fun _ _ => rfl]

/-- The reader takes a step for each value, so a value is to be read in a step. -/
theorem Plain.reads_of_step {datum : Datum} (h : Plain datum)
    (hstep : ∀ level fuel rest, (write .compact level datum).toList.length ≤ fuel + 1 →
      Follows rest →
      readValue (fuel + 1) ((write .compact level datum).toList ++ rest) = .ok (datum, rest)) :
    Reads datum := by
  intro level fuel rest hfuel hrest
  obtain ⟨c, tail, hhead, -⟩ := h.exists_head level
  have hpos : 0 < (write .compact level datum).toList.length := hhead ▸ Nat.succ_pos _
  cases fuel with
  | zero => exact absurd hfuel (Nat.not_le_of_gt hpos)
  | succ fuel => exact hstep level fuel rest hfuel hrest

theorem reads_ofNat (n : Nat) : Reads (.ofNat n) := by
  refine (Plain.number n).reads_of_step fun level fuel rest _ hrest => ?_
  obtain ⟨c, digits, heq⟩ := List.exists_cons_of_ne_nil (Nat.toDigits_ne_nil (b := 10) (n := n))
  have hc : c.isDigit = true := isDigit_toDigits n c (heq ▸ List.mem_cons_self)
  have hnumber := readNumber_toDigits n hrest
  rw [Datum.ofNat, write, toList_toString]
  rw [heq, List.cons_append] at hnumber ⊢
  rw [readValue_digit hc, hnumber]
  rfl

theorem reads_text (value : String) : Reads (.text value) := by
  refine (Plain.text value).reads_of_step fun level fuel rest _ _ => ?_
  rw [write, toList_quote, List.cons_append, List.append_assoc, List.singleton_append,
    readValue_quote, readString_quoted]
  rfl

theorem reads_list {items : List Datum} (h : ∀ item ∈ items, Plain item)
    (hreads : ∀ item ∈ items, Reads item) : Reads (.list items) := by
  refine (Plain.list h).reads_of_step fun level fuel rest hfuel _ => ?_
  have hwritten : (write .compact level (.list items)).toList
      = '[' :: (joined (writeItems .compact (level + 1) items) ++ [']']) := by
    rw [write, toList_bracketed]
    rfl
  rw [hwritten] at hfuel ⊢
  rw [List.length_cons, List.length_append, List.length_singleton] at hfuel
  rw [List.cons_append, List.append_assoc, List.singleton_append]
  cases items with
  | nil => exact readValue_list_nil fuel rest
  | cons item items =>
    have hitems := readItems_joined (List.cons_ne_nil item items) hreads (level + 1) fuel rest
      (by omega)
    obtain ⟨c, tail, hhead, hspace, hc⟩ := (h item List.mem_cons_self).exists_head (level + 1)
    obtain ⟨more, hmore⟩ := exists_joined_cons (write .compact (level + 1) item)
      (writeItems .compact (level + 1) items)
    rw [writeItems, hmore, hhead, List.cons_append, List.cons_append] at hitems ⊢
    rw [readValue_list_cons hspace hc, hitems]
    rfl

theorem reads_record {fields : List (String × Datum)} (h : ∀ field ∈ fields, Plain field.2)
    (hreads : ∀ field ∈ fields, Reads field.2) : Reads (.record fields) := by
  refine (Plain.record h).reads_of_step fun level fuel rest hfuel _ => ?_
  have hwritten : (write .compact level (.record fields)).toList
      = '\x7b' :: (joined (writeFields .compact (level + 1) fields) ++ ['\x7d']) := by
    rw [write, toList_bracketed]
    rfl
  rw [hwritten] at hfuel ⊢
  rw [List.length_cons, List.length_append, List.length_singleton] at hfuel
  rw [List.cons_append, List.append_assoc, List.singleton_append]
  cases fields with
  | nil => exact readValue_record_nil fuel rest
  | cons field fields =>
    have hfields := readFields_joined (List.cons_ne_nil field fields) hreads (level + 1) fuel rest
      (by omega)
    obtain ⟨name, value⟩ := field
    obtain ⟨more, hmore⟩ := exists_joined_cons
      (quote name ++ Spacing.compact.colon ++ write .compact (level + 1) value)
      (writeFields .compact (level + 1) fields)
    rw [writeFields, hmore, List.append_assoc, toList_writeField] at hfields ⊢
    rw [readValue_record_cons, hfields]
    show Except.ok (recordDatum _, rest) = _
    rw [recordDatum_map]

/-- Every value with a form in JSON is read back. -/
theorem Plain.reads {datum : Datum} (h : Plain datum) : Reads datum := by
  induction h with
  | null =>
    refine Plain.null.reads_of_step fun level fuel rest _ _ => ?_
    rw [write]
    rfl
  | boolean value =>
    refine (Plain.boolean value).reads_of_step fun level fuel rest _ _ => ?_
    cases value <;> rw [write] <;> rfl
  | number n => exact reads_ofNat n
  | text value => exact reads_text value
  | list h ih => exact reads_list h ih
  | record h ih => exact reads_record h ih

/-- What is written on one line is read back. -/
theorem parse_compact {datum : Datum} (h : Plain datum) : parse (compact datum) = .ok datum := by
  have hread := h.reads 0 ((compact datum).toList.length + 1) [] (Nat.le_succ _) follows_nil
  rw [List.append_nil] at hread
  unfold parse
  show (readValue ((compact datum).toList.length + 1) (compact datum).toList >>= _) = _
  rw [compact] at hread ⊢
  rw [hread]
  rfl

end LineLexer.Json
