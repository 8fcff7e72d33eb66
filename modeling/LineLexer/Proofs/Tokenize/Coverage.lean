import LineLexer.Proofs.Grammar.Compiled
import LineLexer.Proofs.Tokenize.Scan
import Mathlib.Data.List.Chain

/-!
# Tokens cover their line

The tokens of a line stand side by side, from the line's start to its end. `Tiles` says so by
recursion on the tokens and is what a run of the scan keeps (`Scans.tiles`); `CoversLine` says what
it means for offsets, columns and texts. Every line that is taken apart is covered.
-/

namespace LineLexer

/-- The tokens stand side by side from a position on, each on some text, and together they are on
the whole text. -/
inductive Tiles : Position → List Token → List Char → Prop
  | nil (position : Position) : Tiles position [] []
  | cons {position : Position} {token : Token} {tokens : List Token} {piece rest : List Char}
      (hpiece : piece ≠ []) (hspan : token.span = .covering position piece)
      (hrest : Tiles (position.advanceOver piece) tokens rest) :
      Tiles position (token :: tokens) (piece ++ rest)

/-- The position stands on the line with the number, between two characters of it, and its column
counts the characters before. -/
def Position.StandsOn (position : Position) (line : String) (number : Nat) : Prop :=
  ∃ before after, line = before ++ after ∧ position.offset = before.utf8ByteSize ∧
    position.line = number ∧ position.column = 1 + before.length

/-- The tokens cover the line with the number without gap or overlap. -/
structure CoversLine (line : String) (number : Nat) (tokens : List Token) : Prop where
  /-- Only an empty line has no tokens. -/
  nil_iff : tokens = [] ↔ line = ""
  first : ∀ token ∈ tokens.head?, token.span.start = .lineStart number
  /-- Each token starts where the one before it stops. -/
  chained : tokens.IsChain fun a b => b.span.start = a.span.stop
  nonempty : ∀ token ∈ tokens, token.span.start.offset < token.span.stop.offset
  last : ∀ token ∈ tokens.getLast?, token.span.stop.offset = line.utf8ByteSize
  /-- No token cuts a character, and lines and columns are right. -/
  standsOn : ∀ token ∈ tokens,
    token.span.start.StandsOn line number ∧ token.span.stop.StandsOn line number
  /-- Every token has a text, and the texts together are the line. -/
  texts : ∃ texts, tokens.mapM (·.text? line) = some texts ∧ String.join texts = line
  length_le : tokens.length ≤ line.length

/-! ## What tiles are -/

theorem Position.advanceOver_append (position : Position) (a b : List Char) :
    position.advanceOver (a ++ b) = (position.advanceOver a).advanceOver b :=
  List.foldl_append

namespace Tiles

variable {position : Position} {tokens : List Token} {text : List Char}

theorem nil_iff (h : Tiles position tokens text) : tokens = [] ↔ text = [] := by
  cases h with
  | nil => simp
  | cons hpiece hspan hrest => simp [hpiece]

theorem start_eq (h : Tiles position tokens text) :
    ∀ token ∈ tokens.head?, token.span.start = position := by
  cases h with
  | nil => simp
  | cons hpiece hspan hrest =>
    intro token htoken
    rw [List.head?_cons, Option.mem_some_iff] at htoken
    rw [← htoken, hspan]
    rfl

theorem isChain (h : Tiles position tokens text) :
    tokens.IsChain fun a b => b.span.start = a.span.stop := by
  induction h with
  | nil => exact .nil
  | cons hpiece hspan hrest ih =>
    refine ih.cons fun next hnext => ?_
    rw [hrest.start_eq next hnext, hspan]
    rfl

theorem stop_eq (h : Tiles position tokens text) :
    ∀ token ∈ tokens.getLast?, token.span.stop = position.advanceOver text := by
  induction h with
  | nil => simp
  | @cons position token tokens piece rest hpiece hspan hrest ih =>
    intro last hlast
    rw [Position.advanceOver_append]
    rw [List.getLast?_cons] at hlast
    cases htokens : tokens.getLast? with
    | none =>
      -- no token follows, so no text does
      have hnil := hrest.nil_iff.mp (List.getLast?_eq_none_iff.mp htokens)
      rw [htokens, Option.getD_none, Option.mem_some_iff] at hlast
      rw [← hlast, hspan, hnil]
      rfl
    | some final =>
      rw [htokens, Option.getD_some, Option.mem_some_iff] at hlast
      exact ih last (hlast ▸ htokens)

/-- Where a token of the tiles stands. -/
theorem mem (h : Tiles position tokens text) :
    ∀ token ∈ tokens, ∃ before piece after, text = before ++ (piece ++ after) ∧ piece ≠ [] ∧
      token.span = .covering (position.advanceOver before) piece := by
  induction h with
  | nil => simp
  | @cons position head tokens piece rest hpiece hspan hrest ih =>
    intro token htoken
    rcases List.mem_cons.mp htoken with rfl | htoken
    · exact ⟨[], piece, rest, rfl, hpiece, hspan⟩
    · obtain ⟨before, middle, after, hrest', hmiddle, hspan'⟩ := ih token htoken
      refine ⟨piece ++ before, middle, after, ?_, hmiddle, ?_⟩
      · rw [hrest', List.append_assoc]
      · rw [hspan', Position.advanceOver_append]

theorem length_le (h : Tiles position tokens text) : tokens.length ≤ text.length := by
  induction h with
  | nil => exact Nat.le_refl 0
  | cons hpiece hspan hrest ih =>
    have hpos := List.length_pos_iff.mpr hpiece
    rw [List.length_cons, List.length_append]
    omega

/-- The text of a token between what stands before and behind it. -/
theorem text?_covering {token : Token} {number : Nat} {before piece after : List Char}
    (hspan : token.span = .covering ((Position.lineStart number).advanceOver before) piece) :
    token.text? (String.ofList (before ++ (piece ++ after))) = some (String.ofList piece) := by
  rw [Token.text?, Span.slice?, hspan, Span.covering, Position.advanceOver_eq,
    Position.advanceOver_eq, String.toList_ofList]
  have hslice := Text.sliceBytes_append before piece after
  simp only [Position.lineStart, Nat.zero_add, hslice, Option.map_some]

/-- The texts of the tokens on what is left of a line, `before` being read. -/
theorem exists_texts {number : Nat} {before : List Char}
    (h : Tiles ((Position.lineStart number).advanceOver before) tokens text) :
    ∃ texts, tokens.mapM (·.text? (String.ofList (before ++ text))) = some texts ∧
      (String.join texts).toList = text := by
  induction tokens generalizing before text with
  | nil => exact ⟨[], rfl, (h.nil_iff.mp rfl).symm⟩
  | cons token tokens ih =>
    cases h with
    | @cons _ _ _ piece rest hpiece hspan hrest =>
      rw [← Position.advanceOver_append] at hrest
      obtain ⟨texts, htexts, hjoin⟩ := ih hrest
      refine ⟨String.ofList piece :: texts, ?_, ?_⟩
      · rw [List.append_assoc] at htexts
        rw [List.mapM_cons, text?_covering hspan, htexts]
        rfl
      · rw [String.toList_join] at hjoin ⊢
        rw [List.flatMap_cons, hjoin, String.toList_ofList]

end Tiles

/-- A place behind a front of the line stands on the line. -/
theorem Position.standsOn_advanceOver {line : String} {before after : List Char}
    (h : line.toList = before ++ after) (number : Nat) :
    ((lineStart number).advanceOver before).StandsOn line number := by
  refine ⟨String.ofList before, String.ofList after, ?_, ?_, ?_, ?_⟩
  · rw [← String.ofList_append, ← h, String.ofList_toList]
  all_goals rw [advanceOver_eq]
  · rw [← Text.byteLength_toList, String.toList_ofList]
    exact Nat.zero_add _
  · rfl
  · rw [String.length_ofList]
    rfl

/-- Tiles from a line's start to its end cover the line. -/
theorem Tiles.coversLine {line : String} {number : Nat} {tokens : List Token}
    (h : Tiles (.lineStart number) tokens line.toList) : CoversLine line number tokens where
  nil_iff := by rw [h.nil_iff, String.toList_eq_nil_iff]
  first := h.start_eq
  chained := h.isChain
  nonempty := by
    intro token htoken
    obtain ⟨before, piece, after, -, hpiece, hspan⟩ := h.mem token htoken
    have hpos := Text.byteLength_pos hpiece
    rw [hspan, Span.covering, Position.advanceOver_eq _ piece]
    exact Nat.lt_add_of_pos_right hpos
  last := by
    intro token htoken
    rw [h.stop_eq token htoken, Position.advanceOver_eq, Text.byteLength_toList]
    exact Nat.zero_add _
  standsOn := by
    intro token htoken
    obtain ⟨before, piece, after, hline, -, hspan⟩ := h.mem token htoken
    rw [hspan, Span.covering]
    refine ⟨Position.standsOn_advanceOver hline number, ?_⟩
    rw [← Position.advanceOver_append]
    rw [← List.append_assoc] at hline
    exact Position.standsOn_advanceOver hline number
  texts := by
    have h : Tiles ((Position.lineStart number).advanceOver []) tokens line.toList := h
    obtain ⟨texts, htexts, hjoin⟩ := h.exists_texts
    rw [List.nil_append, String.ofList_toList] at htexts
    exact ⟨texts, htexts, String.toList_inj.mp hjoin⟩
  length_le := by
    rw [← String.length_toList]
    exact h.length_le

/-! ## Tiles of a scan -/

theorem Scan.toLineTokens_eq_ok_iff {grammar : Grammar} {scan : Scan} {result : LineTokens} :
    scan.toLineTokens grammar = .ok result ↔
      scan.refused = none ∧ result = ⟨scan.tokens, .ofFrames grammar scan.frames⟩ := by
  rw [toLineTokens, fault?]
  cases hrefused : scan.refused with
  | some name => simp
  | none => simp [eq_comm]

namespace Grammar

variable {grammar : Grammar} {limit : Option Nat}

/-- A run that finds room for every push leaves tokens on all that was left of the line. -/
theorem Scans.tiles {frames : Frames} {position : Position} {rest : List Char} {scan : Scan}
    (h : Scans grammar limit frames position rest scan) (hroom : scan.refused = none) :
    Tiles position scan.tokens rest := by
  induction h with
  | finish frames position => exact .nil position
  | @take frames after position c rest rule length scan hrule hafter hscan ih =>
    have htext : c :: rest = (c :: rest.take length) ++ rest.drop length := by
      rw [List.cons_append, List.take_append_drop]
    rw [htext]
    exact .cons (List.cons_ne_nil _ _) rfl (ih hroom)
  | refuse hrule hname => cases hroom
  | @skip frames position c rest scan hrule hscan ih =>
    show Tiles position (grammar.unmatchedToken position c :: scan.tokens) ([c] ++ rest)
    exact .cons (List.cons_ne_nil c []) rfl (ih hroom)

theorem tiles_scan {frames : Frames} {line : String} {number : Nat}
    (hroom : (grammar.scan limit frames line number).refused = none) :
    Tiles (.lineStart number) (grammar.scan limit frames line number).tokens line.toList := by
  by_cases hlong : Limits.lineLength < line.utf8ByteSize
  · -- a line that is too long is not empty, so its one token is on some text
    have hne : line.toList ≠ [] := by
      intro hnil
      rw [← Text.byteLength_toList, hnil] at hlong
      exact Nat.not_lt_zero _ hlong
    rw [scan, if_pos hlong, ← List.append_nil line.toList]
    exact .cons hne (by rw [List.append_nil]; rfl) (.nil _)
  · exact (scans_scan (Nat.not_lt.mp hlong)).tiles hroom

/-- The scan behind the tokens of a line. -/
theorem tokenizeLineAt_eq_ok_iff {stack : StateStack} {line : String} {number : Nat}
    {result : LineTokens} :
    grammar.tokenizeLineAt stack line number = .ok result ↔
      ∃ frames, stack.resolve grammar = .ok frames ∧
        let scan := grammar.scan (some Limits.stackDepth) frames line number
        scan.refused = none ∧ result = ⟨scan.tokens, .ofFrames grammar scan.frames⟩ := by
  rw [tokenizeLineAt, bind_eq_ok]
  exact exists_congr fun frames => and_congr_right fun _ => Scan.toLineTokens_eq_ok_iff

/-- The tokens of a line cover it, whatever the rules match: a line of any length, from any
stack. -/
theorem tokenizeLineAt_coversLine {stack : StateStack} {line : String} {number : Nat}
    {result : LineTokens} (h : grammar.tokenizeLineAt stack line number = .ok result) :
    CoversLine line number result.tokens := by
  obtain ⟨frames, -, hroom, rfl⟩ := tokenizeLineAt_eq_ok_iff.mp h
  exact (tiles_scan hroom).coversLine

/-- The tokens of a line of the sample grammar: a mark, a parenthesis, a character of two bytes that
no rule takes, an angle bracket and a word. -/
def sampleTokens : List Token :=
  [⟨⟨⟨0, 7, 1⟩, ⟨1, 7, 2⟩⟩, "mark", none⟩, ⟨⟨⟨1, 7, 2⟩, ⟨2, 7, 3⟩⟩, "paren", some .opening⟩,
    ⟨⟨⟨2, 7, 3⟩, ⟨4, 7, 4⟩⟩, "unmatched", none⟩, ⟨⟨⟨4, 7, 4⟩, ⟨5, 7, 5⟩⟩, "angle", none⟩,
    ⟨⟨⟨5, 7, 5⟩, ⟨7, 7, 7⟩⟩, "word", none⟩]

theorem tokenizeLineAt_sample :
    sampleGrammar.tokenizeLineAt .initial "!(é<ab" 7 = .ok ⟨sampleTokens, ⟨["word"]⟩⟩ := by
  decide +kernel

theorem sampleTokens_cover :
    sampleGrammar.tokenizeLineAt .initial "!(é<ab" 7 = .ok ⟨sampleTokens, ⟨["word"]⟩⟩ ∧
      CoversLine "!(é<ab" 7 sampleTokens :=
  ⟨tokenizeLineAt_sample, tokenizeLineAt_coversLine tokenizeLineAt_sample⟩

end Grammar
end LineLexer
