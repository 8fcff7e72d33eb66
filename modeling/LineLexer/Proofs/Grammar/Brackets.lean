import LineLexer.Proofs.Grammar.Validation

/-!
# Tables of brackets

A text is looked up in the first pair of the table that has it as a delimiter
(`bracketKind_eq_iff`). A document is checked pair by pair: the delimiters of one pair differ
(`opening_ne_closing_of_compile`), but a delimiter may be in several pairs. It then has the kind and
the side of the first of them (`classify_delimiter`).
-/

namespace LineLexer

/-! ## Pairs -/

theorem BracketEntry.compile_eq_ok_iff {entry : BracketEntry} {index : Nat} {pair : BracketPair} :
    entry.compile index = .ok pair ↔
      entry.Valid ∧ ⟨entry.opening, entry.closing, entry.token⟩ = pair := by
  rw [compile_eq]
  constructor
  · intro h
    split_ifs at h with hopening hclosing hsame hblank
    exact ⟨⟨hopening, hclosing, hsame, Bool.eq_false_iff.mpr hblank⟩, Except.ok.inj h⟩
  · rintro ⟨hvalid, rfl⟩
    rw [if_neg hvalid.opening, if_neg hvalid.closing, if_neg hvalid.distinct, hvalid.label]
    rfl

namespace BracketPair

variable {pair : BracketPair} {text : String} {side : BracketSide}

/-- The delimiter of the pair on a side. -/
def delimiter (pair : BracketPair) : BracketSide → String
  | .opening => pair.opening
  | .closing => pair.closing

theorem delimiter_of_side? (h : pair.side? text = some side) : pair.delimiter side = text := by
  rw [side?] at h
  split_ifs at h with hopening hclosing
  · cases h
    exact hopening
  · cases h
    exact hclosing

theorem side?_eq_none_iff : pair.side? text = none ↔ ∀ side, pair.delimiter side ≠ text := by
  constructor
  · intro h side hside
    rw [side?] at h
    split_ifs at h with hopening hclosing
    cases side with
    | opening => exact hopening hside
    | closing => exact hclosing hside
  · intro h
    exact (if_neg (h .opening)).trans (if_neg (h .closing))

/-- A pair with two different delimiters knows each of them by its side. -/
theorem side?_delimiter (h : pair.opening ≠ pair.closing) (side : BracketSide) :
    pair.side? (pair.delimiter side) = some side := by
  cases side with
  | opening => exact if_pos rfl
  | closing => exact (if_neg h).trans (if_pos rfl)

/-- The pair is the first one of a table that has the text as a delimiter. -/
def IsFirst (pair : BracketPair) (table : List BracketPair) (text : String) : Prop :=
  ∃ before after, table = before ++ pair :: after ∧ (∃ side, pair.delimiter side = text) ∧
    ∀ earlier ∈ before, ∀ side, earlier.delimiter side ≠ text

theorem IsFirst.mem {table : List BracketPair} (h : pair.IsFirst table text) : pair ∈ table := by
  obtain ⟨before, after, rfl, -⟩ := h
  exact List.mem_append_right _ List.mem_cons_self

theorem IsFirst.delimits {table : List BracketPair} (h : pair.IsFirst table text) :
    ∃ side, pair.delimiter side = text := by
  obtain ⟨before, after, -, hside, -⟩ := h
  exact hside

/-- A delimiter of two pairs stands on the same side of both, and they have the same kind. -/
def Unambiguous (table : List BracketPair) : Prop :=
  ∀ a ∈ table, ∀ b ∈ table, ∀ side side', a.delimiter side = b.delimiter side' →
    side = side' ∧ a.kind = b.kind

end BracketPair

namespace Grammar

open BracketPair

variable {grammar : Grammar} {text kind : String} {side : BracketSide}

/-! ## Looking up a text -/

/-- A text gets a side from the first pair that has it as a delimiter. -/
theorem bracketKind_eq_iff : grammar.bracketKind text = (kind, some side) ↔
    ∃ pair : BracketPair, pair.IsFirst grammar.brackets text ∧ pair.side? text = some side ∧
      pair.kind = kind := by
  let label := fun pair : BracketPair => (pair.side? text).map (pair.kind, some ·)
  have hfound : grammar.bracketKind text = (kind, some side) ↔
      grammar.brackets.findSome? label = some (kind, some side) := by
    rw [bracketKind]
    cases grammar.brackets.findSome? label with
    | none => simp
    | some found => rw [Option.getD_some, Option.some_inj]
  have hlabel (pair : BracketPair) :
      label pair = some (kind, some side) ↔ pair.side? text = some side ∧ pair.kind = kind := by
    simp only [label, Option.map_eq_some_iff, Prod.mk.injEq, Option.some_inj]
    constructor
    · rintro ⟨found, hside, hkind, rfl⟩
      exact ⟨hside, hkind⟩
    · rintro ⟨hside, hkind⟩
      exact ⟨side, hside, hkind, rfl⟩
  have hnone (pair : BracketPair) :
      label pair = none ↔ ∀ side, pair.delimiter side ≠ text := by
    rw [Option.map_eq_none_iff, side?_eq_none_iff]
  rw [hfound, List.findSome?_eq_some_iff]
  constructor
  · rintro ⟨before, pair, after, htable, hpair, hbefore⟩
    obtain ⟨hside, hkind⟩ := (hlabel pair).mp hpair
    refine ⟨pair, ⟨before, after, htable, ⟨side, delimiter_of_side? hside⟩, ?_⟩, hside, hkind⟩
    exact fun earlier hearlier => (hnone earlier).mp (hbefore earlier hearlier)
  · rintro ⟨pair, ⟨before, after, htable, -, hbefore⟩, hpair⟩
    refine ⟨before, pair, after, htable, (hlabel pair).mpr hpair, ?_⟩
    exact fun earlier hearlier => (hnone earlier).mpr (hbefore earlier hearlier)

/-- A delimiter of a pair has a first pair. -/
theorem exists_isFirst {table : List BracketPair} {pair : BracketPair} (hpair : pair ∈ table)
    (side : BracketSide) :
    ∃ first : BracketPair, first.IsFirst table (pair.delimiter side) := by
  have hsome : (table.find? fun other => (other.side? (pair.delimiter side)).isSome).isSome := by
    rw [List.find?_isSome]
    refine ⟨pair, hpair, Option.isSome_iff_ne_none.mpr fun hnone => ?_⟩
    exact side?_eq_none_iff.mp hnone side rfl
  obtain ⟨first, hfirst⟩ := Option.isSome_iff_exists.mp hsome
  obtain ⟨hside, before, after, htable, hbefore⟩ := List.find?_eq_some_iff_append.mp hfirst
  obtain ⟨side', hside'⟩ := Option.isSome_iff_exists.mp hside
  refine ⟨first, before, after, htable, ⟨side', delimiter_of_side? hside'⟩, ?_⟩
  intro earlier hearlier
  have hnone := hbefore earlier hearlier
  rw [Bool.not_eq_true', Option.isSome_eq_false_iff, Option.isNone_iff_eq_none] at hnone
  exact side?_eq_none_iff.mp hnone

/-! ## Tables of compiled grammars -/

variable {document : GrammarDocument} {fallbackName : String}

/-- The pairs of a compiled grammar have passed the checks of a pair. -/
theorem opening_ne_closing_of_compile (hcompile : compile document fallbackName = .ok grammar) :
    ∀ pair ∈ grammar.brackets, pair.opening ≠ pair.closing := by
  obtain ⟨-, -, hbrackets⟩ := settings_of_compile hcompile
  intro pair hpair
  obtain ⟨⟨entry, index⟩, -, hentry⟩ := exists_of_forall₂ (forall₂_of_mapM hbrackets) hpair
  obtain ⟨hvalid, rfl⟩ := BracketEntry.compile_eq_ok_iff.mp hentry
  exact hvalid.distinct

/-- A delimiter of a pair is looked up in the first pair that has it. -/
theorem exists_first_of_delimiter (hcompile : compile document fallbackName = .ok grammar)
    {pair : BracketPair} (hpair : pair ∈ grammar.brackets) (side : BracketSide) :
    ∃ first side', IsFirst first grammar.brackets (pair.delimiter side) ∧
      first.delimiter side' = pair.delimiter side ∧
        grammar.bracketKind (pair.delimiter side) = (first.kind, some side') := by
  obtain ⟨first, hfirst⟩ := exists_isFirst hpair side
  obtain ⟨side', hside'⟩ := hfirst.delimits
  have hdistinct := opening_ne_closing_of_compile hcompile first hfirst.mem
  have hknown := side?_delimiter hdistinct side'
  rw [hside'] at hknown
  exact ⟨first, side', hfirst, hside', bracketKind_eq_iff.mpr ⟨first, hfirst, hknown, rfl⟩⟩

/-- A delimiter of a pair has the kind and the side that the first pair with it gives it. So all
pairs of a table have their kind and their sides at their own delimiters just if no two pairs
disagree on a delimiter that they share. -/
theorem classify_delimiter (hcompile : compile document fallbackName = .ok grammar) :
    (∀ pair ∈ grammar.brackets, ∀ side, ∃ first side', IsFirst first grammar.brackets
      (pair.delimiter side) ∧ first.delimiter side' = pair.delimiter side ∧
        grammar.classify .brackets (pair.delimiter side) = (first.kind, some side')) ∧
    ((∀ pair ∈ grammar.brackets,
        grammar.classify .brackets pair.opening = (pair.kind, some .opening) ∧
          grammar.classify .brackets pair.closing = (pair.kind, some .closing)) ↔
      Unambiguous grammar.brackets) := by
  have hsides : (∀ pair ∈ grammar.brackets,
        grammar.classify .brackets pair.opening = (pair.kind, some .opening) ∧
          grammar.classify .brackets pair.closing = (pair.kind, some .closing)) ↔
      ∀ pair ∈ grammar.brackets, ∀ side,
        grammar.bracketKind (pair.delimiter side) = (pair.kind, some side) := by
    refine forall₂_congr fun pair hpair => ⟨fun h side => ?_, fun h => ⟨h .opening, h .closing⟩⟩
    cases side with
    | opening => exact h.1
    | closing => exact h.2
  refine ⟨fun pair hpair side => exists_first_of_delimiter hcompile hpair side, ?_⟩
  rw [hsides]
  constructor
  · intro hall a ha b hb side side' hshared
    have hboth := (hall a ha side).symm.trans ((congrArg _ hshared).trans (hall b hb side'))
    obtain ⟨hkind, hside⟩ := Prod.mk.inj hboth
    exact ⟨Option.some.inj hside, hkind⟩
  · intro hagree pair hpair side
    obtain ⟨first, side', hfirst, hside', hlabel⟩ := exists_first_of_delimiter hcompile hpair side
    obtain ⟨rfl, hkind⟩ := hagree first hfirst.mem pair hpair side' side hside'
    exact hkind ▸ hlabel

/-! ## Two pairs with one end -/

/-- Blocks and choices, both closed by the same word. -/
def blockDocument : GrammarDocument where
  name := some "blocks"
  initial := "text"
  defaultToken := none
  ignoreCase := false
  brackets := [⟨"begin", "end", "block"⟩, ⟨"case", "end", "choice"⟩]
  states := .ofList [("text", [⟨"[a-z]+", none, true, .stay, none⟩])]

/-- The word that closes both pairs is looked up in the first one. -/
theorem exists_blockGrammar : ∃ grammar, compile blockDocument "grammar" = .ok grammar ∧
    ⟨"case", "end", "choice"⟩ ∈ grammar.brackets ∧
    grammar.classify .brackets "end" = ("block", some .closing) := by
  have hmap : (compile blockDocument "grammar").map (fun grammar =>
      (grammar.brackets, grammar.classify .brackets "end")) =
        .ok ([⟨"begin", "end", "block"⟩, ⟨"case", "end", "choice"⟩], "block", some .closing) := by
    decide +kernel
  obtain ⟨grammar, hcompile, hmade⟩ := map_eq_ok.mp hmap
  obtain ⟨hbrackets, hend⟩ := Prod.mk.inj hmade
  exact ⟨grammar, hcompile, hbrackets ▸ by decide, hend⟩

/-- The document is accepted, but its table is not unambiguous. -/
theorem blockDocument_ambiguous : ∃ grammar, compile blockDocument "grammar" = .ok grammar ∧
    ⟨"case", "end", "choice"⟩ ∈ grammar.brackets ∧ ¬Unambiguous grammar.brackets := by
  obtain ⟨grammar, hcompile, hchoice, hend⟩ := exists_blockGrammar
  obtain ⟨-, hall⟩ := classify_delimiter hcompile
  refine ⟨grammar, hcompile, hchoice, fun hagree => ?_⟩
  have hclosing := (hall.mpr hagree _ hchoice).2
  exact absurd (hend.symm.trans hclosing) (by decide)

/-- A pair of an accepted table may close with a delimiter that is looked up in another pair. -/
theorem not_forall_classify_delimiter : ¬∀ (document : GrammarDocument) (fallbackName : String)
    (grammar : Grammar), compile document fallbackName = .ok grammar → ∀ pair ∈ grammar.brackets,
      grammar.classify .brackets pair.opening = (pair.kind, some .opening) ∧
        grammar.classify .brackets pair.closing = (pair.kind, some .closing) := by
  intro hall
  obtain ⟨grammar, hcompile, hchoice, hend⟩ := exists_blockGrammar
  obtain ⟨-, hclosing⟩ := hall blockDocument "grammar" grammar hcompile _ hchoice
  exact absurd (hend.symm.trans hclosing) (by decide)

end Grammar
end LineLexer
