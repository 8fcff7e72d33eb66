import LineLexer.Proofs.Words.Hlasm
import LineLexer.Proofs.Pattern.Denotes
import LineLexer.Proofs.Tokenize.Unmatched

/-!
# Words of the High Level Assembler

The tokens that are words are of four kinds. The rules that make them look for characters of symbols
and for white space, so a letter in such a token is an ASCII one. The letter in front of a quoted
number is the exception: letter case is ignored there beyond ASCII, and the sign for Kelvin is a
variant of the letter `k`.
-/

namespace LineLexer

open Pattern Unicode

namespace Unicode.CharSet

/-! ## Sets and ranges -/

theorem exists_range_of_mem {set : CharSet} {c : Char} (h : c ∈ set) :
    ∃ range ∈ set.ranges, range.1 ≤ c.toNat ∧ c.toNat ≤ range.2 := by
  have hcovers {ranges : List (Nat × Nat)} (h : covers ranges c.toNat = true) :
      ∃ range ∈ ranges, range.1 ≤ c.toNat ∧ c.toNat ≤ range.2 := by
    induction ranges with
    | nil => cases h
    | cons range rest ih =>
      rw [covers] at h
      split at h
      · cases h
      · rename_i hle
        rcases Bool.or_eq_true_iff.mp h with h | h
        · exact ⟨range, List.mem_cons_self, Nat.not_lt.mp hle, of_decide_eq_true h⟩
        · obtain ⟨range', hmem, hin⟩ := ih h
          exact ⟨range', List.mem_cons_of_mem _ hmem, hin⟩
  exact hcovers h

theorem lt_of_isAscii {set : CharSet} (h : set.isAscii = true) {c : Char} (hc : c ∈ set) :
    c.toNat < 128 := by
  obtain ⟨range, hrange, -, hle⟩ := exists_range_of_mem hc
  exact Nat.lt_of_le_of_lt hle (of_decide_eq_true (List.all_eq_true.mp h range hrange))

theorem eq_of_mem_singleton {c d : Char} (h : d ∈ singleton c) : d = c := by
  obtain ⟨range, hrange, hlo, hhi⟩ := exists_range_of_mem h
  cases List.mem_singleton.mp hrange
  exact Char.toNat_inj.mp (Nat.le_antisymm hhi hlo)

/-- No range of the one set reaches into a range of the other. -/
def apart (a b : CharSet) : Bool :=
  a.ranges.all fun range => b.ranges.all fun range' => range.2 < range'.1 || range'.2 < range.1

theorem not_mem_of_apart {a b : CharSet} (h : a.apart b = true) {c : Char} (ha : c ∈ a) :
    c ∉ b := by
  intro hb
  obtain ⟨range, hrange, hlo, hhi⟩ := exists_range_of_mem ha
  obtain ⟨range', hrange', hlo', hhi'⟩ := exists_range_of_mem hb
  have hapart := List.all_eq_true.mp (List.all_eq_true.mp h range hrange) range' hrange'
  rcases Bool.or_eq_true_iff.mp hapart with hlt | hlt
  · exact absurd (of_decide_eq_true hlt) (by omega)
  · exact absurd (of_decide_eq_true hlt) (by omega)

end Unicode.CharSet

namespace Hlasm

/-! ## What the rules for words look for -/

/-- The kinds of tokens that are words. -/
def wordKinds : List String := ["type", "keyword", "number", "variable.name"]

/-- What the rules for words other than numbers look for. -/
def plainWords : List (List Expr) :=
  [[oneOrMore symbol, oneOrMore blank], [oneOrMore symbol, zeroOrMore blank, lineEnd],
    [zeroOrMore blank, .chars (.ofList ['x', 'X']), lineEnd], [oneOrMore symbol, char '=']]

/-- The characters behind the quote of a number. -/
def numberDigits : List CharSet := [wordAnd ['(', ')', '&', '#', '$'], operand]

/-- The rules that make tokens of the kinds of words. -/
theorem items_of_word : ∀ state ∈ table, ∀ row ∈ state.2, row.kind ∈ wordKinds →
    row.items ∈ plainWords ∨
      row.kind = "number" ∧ ∃ digits ∈ numberDigits, row.items = number digits := by
  simp [table, wordKinds, plainWords, numberDigits]

/-- The letters of a text are ASCII. -/
def AsciiLetters (text : List Char) : Prop := ∀ c ∈ text, c ∈ Category.letter → c.toNat < 128

theorem blank_apart_letter : blank.apart Category.letter = true := by decide +kernel

theorem isAscii_or_blank : ∀ items ∈ plainWords, ∀ set ∈ (Expr.seqs items).sets,
    set.isAscii = true ∨ set = blank := by
  decide

variable {rest : List Char} {length : Nat}

theorem asciiLetters_of_plain {items : List Expr} (hitems : items ∈ plainWords)
    (h : (bound items).matchEnd? rest = some length) : AsciiLetters (rest.take length) := by
  intro c hc hletter
  obtain ⟨set, hset, hmem⟩ := (Program.denotes_of_matchEnd?_anchored h).exists_set c hc
  rcases isAscii_or_blank items hitems set hset with hascii | rfl
  · exact CharSet.lt_of_isAscii hascii hmem
  · exact absurd hletter (CharSet.not_mem_of_apart blank_apart_letter hmem)

/-- The letter in front of a number is ASCII or the sign for Kelvin. -/
theorem ascii_or_kelvin {c : Char} (h : c ∈ numberLetter) : c.toNat < 128 ∨ c = '\u212A' := by
  have hranges : ∀ range ∈ numberLetter.ranges,
      range.2 < 128 ∨ range = ('\u212A'.toNat, '\u212A'.toNat) := by
    decide
  obtain ⟨range, hrange, hlo, hhi⟩ := CharSet.exists_range_of_mem h
  rcases hranges range hrange with hlt | rfl
  · exact .inl (Nat.lt_of_le_of_lt hhi hlt)
  · exact .inr (Char.toNat_inj.mp (Nat.le_antisymm hhi hlo))

theorem ascii_of_number {digits : CharSet} (hdigits : digits ∈ numberDigits)
    (h : (bound (number digits)).matchEnd? rest = some length) :
    ∃ c others, rest.take length = c :: '\'' :: others ∧ (c.toNat < 128 ∨ c = '\u212A') ∧
      ∀ d ∈ others, d.toNat < 128 := by
  obtain ⟨_, _, htext, ⟨c, hc, rfl⟩, _, others, rfl, ⟨quote, hquote, rfl⟩, hothers⟩ :=
    Program.denotes_of_matchEnd?_anchored h
  obtain rfl := CharSet.eq_of_mem_singleton hquote
  refine ⟨c, others, htext, ascii_or_kelvin hc, fun d hd => ?_⟩
  have hascii : ∀ digits ∈ numberDigits, digits.isAscii = true := by decide
  obtain ⟨set, hset, hmem⟩ := Expr.Denotes.exists_set hothers d hd
  cases List.mem_singleton.mp hset
  exact CharSet.lt_of_isAscii (hascii digits hdigits) hmem

/-! ## Words -/

/-- The letters of a word are ASCII. In a number, the first character may also be the sign for
Kelvin, and what follows it is ASCII. -/
theorem letters_of_word {hlasm : Grammar} (hgrammar : Language.hlasm.grammar = .ok hlasm)
    {stack : StateStack} {line : String} {number : Nat} {result : LineTokens}
    (hline : hlasm.tokenizeLineAt stack line number = .ok result) {token : Token}
    (htoken : token ∈ result.tokens) (hkind : token.kind ∈ wordKinds) :
    ∃ text, token.text? line = some (String.ofList text) ∧
      (AsciiLetters text ∨ token.kind = "number" ∧
        ∃ others, text = '\u212A' :: '\'' :: others ∧ ∀ c ∈ others, c.toNat < 128) := by
  obtain rfl : hlasm = grammar := Except.ok.inj (hgrammar.symm.trans language_grammar)
  have hother : token.kind ≠ grammar.defaultKind := by
    rintro heq
    rw [heq] at hkind
    exact absurd hkind (by decide)
  obtain ⟨state, hstate, rule, hrule, rest, length, hmatch, htext, hclass⟩ :=
    Grammar.exists_rule_of_kind_ne hline htoken hother
  refine ⟨_, htext, ?_⟩
  cases haction : rule.action with
  | brackets =>
    -- without a table of brackets they are of the default kind
    rw [haction] at hclass
    exact absurd hclass hother
  | token kind =>
    rw [haction] at hclass
    obtain rfl : token.kind = kind := hclass
    obtain ⟨entry, hentry, rfl⟩ := List.mem_map.mp hstate
    obtain ⟨row, hrow, rfl⟩ := List.mem_map.mp hrule
    have hrowKind : row.kind = token.kind := TokenAction.token.inj haction
    rcases items_of_word entry hentry row hrow (hrowKind ▸ hkind) with
      hitems | ⟨hnumber, digits, hdigits, hitems⟩
    · exact .inl (asciiLetters_of_plain hitems hmatch)
    · rw [Row.rule, hitems] at hmatch
      obtain ⟨c, others, hpieces, hc | rfl, hothers⟩ := ascii_of_number hdigits hmatch
      · refine .inl fun d hd _ => ?_
        rw [hpieces] at hd
        rcases List.mem_cons.mp hd with rfl | hd
        · exact hc
        rcases List.mem_cons.mp hd with rfl | hd
        · decide
        · exact hothers d hd
      · exact .inr ⟨hrowKind ▸ hnumber, others, hpieces, hothers⟩

/-- A line with a word of each kind. Its number begins with the sign for Kelvin. -/
def kelvinLine : String := "LOOP MVC A=\u212A'1"

def kelvinTokens : List Token :=
  [⟨⟨⟨0, 1, 1⟩, ⟨5, 1, 6⟩⟩, "type", none⟩, ⟨⟨⟨5, 1, 6⟩, ⟨9, 1, 10⟩⟩, "keyword", none⟩,
    ⟨⟨⟨9, 1, 10⟩, ⟨11, 1, 12⟩⟩, "variable.name", none⟩,
    ⟨⟨⟨11, 1, 12⟩, ⟨16, 1, 15⟩⟩, "number", none⟩]

theorem tokenizeLine_kelvinLine :
    grammar.tokenizeLineAt .initial kelvinLine 1
      = .ok ⟨kelvinTokens, ⟨["operator", "operands", "value", "operands"]⟩⟩ := by
  decide +kernel

theorem letters_of_kelvinTokens :
    ∃ hlasm result, Language.hlasm.grammar = .ok hlasm ∧
      hlasm.tokenizeLineAt .initial kelvinLine 1 = .ok result ∧ result.tokens = kelvinTokens ∧
      ∀ token ∈ result.tokens, token.kind ∈ wordKinds ∧
        ∃ text, token.text? kelvinLine = some (String.ofList text) ∧
          (AsciiLetters text ∨ token.kind = "number" ∧
            ∃ others, text = '\u212A' :: '\'' :: others ∧ ∀ c ∈ others, c.toNat < 128) := by
  have hkinds : ∀ token ∈ kelvinTokens, token.kind ∈ wordKinds := by decide
  exact ⟨grammar, _, language_grammar, tokenizeLine_kelvinLine, rfl, fun token htoken =>
    ⟨hkinds token htoken,
      letters_of_word language_grammar tokenizeLine_kelvinLine htoken (hkinds token htoken)⟩⟩

/-- So there is a number with a letter that is not ASCII. -/
theorem number_not_asciiLetters :
    ∃ hlasm result, Language.hlasm.grammar = .ok hlasm ∧
      hlasm.tokenizeLineAt .initial kelvinLine 1 = .ok result ∧
      ∃ token ∈ result.tokens, token.kind = "number" ∧
        token.text? kelvinLine = some "\u212A'1" ∧ ¬AsciiLetters "\u212A'1".toList := by
  refine ⟨grammar, _, language_grammar, tokenizeLine_kelvinLine,
    ⟨⟨⟨11, 1, 12⟩, ⟨16, 1, 15⟩⟩, "number", none⟩, by decide, rfl, by decide +kernel, fun h => ?_⟩
  have hletter : Category.letter.contains '\u212A' = true := by decide +kernel
  have hmem : '\u212A' ∈ "\u212A'1".toList := by decide
  exact absurd (h _ hmem hletter) (by decide)

end Hlasm
end LineLexer
