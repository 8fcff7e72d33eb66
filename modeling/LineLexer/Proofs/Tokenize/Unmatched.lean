import LineLexer.Proofs.Tokenize.Coverage
import LineLexer.Proofs.Tokenize.Fresh
import LineLexer.Proofs.Tokenize.Rounds

/-!
# Tokens that no rule has made

A character that no rule takes becomes a token of the default kind. These tokens are among those of
the default kind (`Scans.sublist_fallbackTokens`), but a rule may make one of that kind too, and so is
the one token of a line that is too long. So a line's tokens of the default kind are those that no
rule has made just if the line is not too long and no rule has made one of that kind
(`filter_scan_eq_iff`).

Every token of a run is made in one round, and as the position tells the round apart from all others
(`Reaches.eq_of_position`), no token is made in both ways.
-/

namespace LineLexer

theorem Position.offset_lt_advanceOver (position : Position) (c : Char) (text : List Char) :
    position.offset < (position.advanceOver (c :: text)).offset := by
  rw [advanceOver_eq]
  exact Nat.lt_add_of_pos_right (Text.byteLength_pos (List.cons_ne_nil c text))

namespace Token

theorem filter_cons_of_kind {token : Token} {kind : String} (h : token.kind = kind)
    (tokens : List Token) :
    (token :: tokens).filter (·.kind = kind) = token :: tokens.filter (·.kind = kind) :=
  List.filter_cons_of_pos (decide_eq_true h)

theorem filter_cons_of_other {token : Token} {kind : String} (h : token.kind ≠ kind)
    (tokens : List Token) :
    (token :: tokens).filter (·.kind = kind) = tokens.filter (·.kind = kind) :=
  List.filter_cons_of_neg fun hkind => h (of_decide_eq_true hkind)

end Token

namespace Grammar

variable {grammar : Grammar} {limit : Option Nat}

/-! ## Moments of one line -/

theorem Round.offset_lt {a b : Moment} (h : grammar.Round limit a b) :
    a.position.offset < b.position.offset := by
  cases h with
  | take hrule hafter => exact Position.offset_lt_advanceOver _ _ _
  | @skip frames position c rest hrule => exact Position.offset_lt_advanceOver position c []

theorem Reaches.eq_or_offset_lt {a b : Moment} (h : grammar.Reaches limit a b) :
    a = b ∨ a.position.offset < b.position.offset := by
  induction h with
  | refl => exact .inl rfl
  | tail _ hround ih =>
    rcases ih with rfl | hlt
    · exact .inr hround.offset_lt
    · exact .inr (Nat.lt_trans hlt hround.offset_lt)

/-- At a position a scan is once only. -/
theorem Reaches.eq_of_position {start a b : Moment} (ha : grammar.Reaches limit start a)
    (hb : grammar.Reaches limit start b) (hposition : a.position = b.position) : a = b := by
  have hunique : Relator.RightUnique (grammar.Round limit) := fun _ _ _ h h' => h.eq h'
  rcases Relation.ReflTransGen.total_of_right_unique hunique ha hb with hab | hba
  · rcases Reaches.eq_or_offset_lt hab with heq | hlt
    · exact heq
    · exact absurd hlt (by rw [hposition]; exact Nat.lt_irrefl _)
  · rcases Reaches.eq_or_offset_lt hba with heq | hlt
    · exact heq.symm
    · exact absurd hlt (by rw [hposition]; exact Nat.lt_irrefl _)

/-- What is left at a moment stands behind a front of what was left before. -/
theorem Reaches.exists_front {a b : Moment} (h : grammar.Reaches limit a b) :
    ∃ front, a.rest = front ++ b.rest ∧ b.position = a.position.advanceOver front := by
  induction h with
  | refl => exact ⟨[], rfl, rfl⟩
  | tail _ hround ih =>
    obtain ⟨front, hrest, hposition⟩ := ih
    cases hround with
    | @take _ _ _ c rest _ length hrule hafter =>
      refine ⟨front ++ (c :: rest.take length), ?_, ?_⟩
      · rw [hrest, List.append_assoc, List.cons_append, List.take_append_drop]
      · rw [Position.advanceOver_append, ← hposition]
    | @skip _ _ c rest hrule =>
      refine ⟨front ++ [c], ?_, ?_⟩
      · rw [hrest, List.append_assoc]
        rfl
      · rw [Position.advanceOver_append, ← hposition]
        rfl

/-! ## What has made a token -/

/-- The tokens of the characters that no rule has taken, in order. -/
def fallbackTokens (grammar : Grammar) (scan : Scan) : List Token :=
  scan.unmatched.map fun char => grammar.unmatchedToken char.position char.char

/-- On the way from a moment a rule makes the token. -/
def RuleMakes (grammar : Grammar) (limit : Option Nat) (start : Moment) (token : Token) : Prop :=
  ∃ frames position c rest rule length,
    grammar.Reaches limit start ⟨frames, position, c :: rest⟩ ∧
      grammar.chosenRule? frames position (c :: rest) = some (rule, length + 1) ∧
        token = grammar.ruleToken rule position (c :: rest.take length)

/-- On the way from a moment the token is made of a character that no rule takes. -/
def FallsBack (grammar : Grammar) (limit : Option Nat) (start : Moment) (token : Token) : Prop :=
  ∃ frames position c rest,
    grammar.Reaches limit start ⟨frames, position, c :: rest⟩ ∧
      (∀ rule length,
        grammar.chosenRule? frames position (c :: rest) ≠ some (rule, length + 1)) ∧
        token = grammar.unmatchedToken position c

theorem RuleMakes.head {a b : Moment} {token : Token} (hround : grammar.Round limit a b)
    (h : grammar.RuleMakes limit b token) : grammar.RuleMakes limit a token := by
  obtain ⟨frames, position, c, rest, rule, length, hreach, hmade⟩ := h
  exact ⟨frames, position, c, rest, rule, length, .head hround hreach, hmade⟩

theorem FallsBack.head {a b : Moment} {token : Token} (hround : grammar.Round limit a b)
    (h : grammar.FallsBack limit b token) : grammar.FallsBack limit a token := by
  obtain ⟨frames, position, c, rest, hreach, hmade⟩ := h
  exact ⟨frames, position, c, rest, .head hround hreach, hmade⟩

/-- A token that a rule makes on a line is on what the rule finds, and the rule gives it its label. -/
theorem RuleMakes.exists_rule {frames : Frames} {line : String} {number : Nat} {token : Token}
    (h : grammar.RuleMakes limit ⟨frames, .lineStart number, line.toList⟩ token) :
    ∃ state ∈ grammar.states, ∃ rule ∈ state.rules, ∃ rest length,
      let text := rest.take length
      rule.program.matchEnd? rest = some length ∧
        token.text? line = some (String.ofList text) ∧
        (token.kind, token.bracket) = grammar.classify rule.action (String.ofList text) := by
  obtain ⟨frames', position, c, rest, rule, length, hreach, hchosen, rfl⟩ := h
  obtain ⟨state, hstate, hrule⟩ := exists_state_of_mem_rulesOf (mem_rulesOf_of_chosenRule? hchosen)
  obtain ⟨front, hfront, hposition⟩ := hreach.exists_front
  refine ⟨state, List.mem_of_getElem? hstate, rule, hrule, c :: rest, length + 1,
    matchEnd?_of_chosenRule? hchosen, ?_, rfl⟩
  -- the token stands behind the front of the line that was read before it
  have hpieces : line.toList = front ++ ((c :: rest.take length) ++ rest.drop length) := by
    rw [List.cons_append, List.take_append_drop]
    exact hfront
  have hspan : (grammar.ruleToken rule position (c :: rest.take length)).span
      = .covering ((Position.lineStart number).advanceOver front) (c :: rest.take length) :=
    congrArg (Span.covering · _) hposition
  have htext : Token.text? _
      (String.ofList (front ++ ((c :: rest.take length) ++ rest.drop length))) = _ :=
    Tiles.text?_covering hspan
  rwa [← hpieces, String.ofList_toList] at htext

/-- No token is made in both ways. -/
theorem FallsBack.not_ruleMakes {start : Moment} {token : Token}
    (h : grammar.FallsBack limit start token) : ¬grammar.RuleMakes limit start token := by
  rintro ⟨frames', position', c', rest', rule, length, hreach', hrule, htoken'⟩
  obtain ⟨frames, position, c, rest, hreach, hnone, htoken⟩ := h
  have hposition : position = position' := congrArg (·.span.start) (htoken.symm.trans htoken')
  cases hreach.eq_of_position hreach' hposition
  exact hnone rule length hrule

/-! ## The tokens of a run -/

namespace Scans

variable {frames : Frames} {position : Position} {rest : List Char} {scan : Scan}

/-- The tokens of characters that no rule has taken are of the default kind. -/
theorem sublist_fallbackTokens (h : Scans grammar limit frames position rest scan) :
    (grammar.fallbackTokens scan).Sublist
      (scan.tokens.filter (·.kind = grammar.defaultKind)) := by
  induction h with
  | finish frames position => exact .slnil
  | take hrule hafter hscan ih => exact ih.trans ((List.sublist_cons_self _ _).filter _)
  | refuse hrule hname => exact List.nil_sublist _
  | @skip frames position c rest scan hrule hscan ih =>
    have hkind : (grammar.unmatchedToken position c).kind = grammar.defaultKind := rfl
    have htokens := Token.filter_cons_of_kind hkind scan.tokens
    exact htokens ▸ ih.cons_cons _

theorem ruleMakes_or_mem (h : Scans grammar limit frames position rest scan) :
    ∀ token ∈ scan.tokens, grammar.RuleMakes limit ⟨frames, position, rest⟩ token ∨
      token ∈ grammar.fallbackTokens scan := by
  induction h with
  | finish frames position => exact fun token htoken => absurd htoken List.not_mem_nil
  | take hrule hafter hscan ih =>
    intro token htoken
    rcases List.mem_cons.mp htoken with rfl | htoken
    · exact .inl ⟨_, _, _, _, _, _, .refl, hrule, rfl⟩
    · exact (ih token htoken).imp_left (.head (.take hrule hafter))
  | refuse hrule hname =>
    intro token htoken
    rcases List.mem_cons.mp htoken with rfl | htoken
    · exact .inl ⟨_, _, _, _, _, _, .refl, hrule, rfl⟩
    · exact absurd htoken List.not_mem_nil
  | skip hrule hscan ih =>
    intro token htoken
    rcases List.mem_cons.mp htoken with rfl | htoken
    · exact .inr List.mem_cons_self
    · exact (ih token htoken).imp (.head (.skip hrule)) (List.mem_cons_of_mem _)

theorem fallsBack (h : Scans grammar limit frames position rest scan) :
    ∀ token ∈ grammar.fallbackTokens scan,
      grammar.FallsBack limit ⟨frames, position, rest⟩ token := by
  induction h with
  | finish frames position => exact fun token htoken => absurd htoken List.not_mem_nil
  | take hrule hafter hscan ih => exact fun token htoken => (ih token htoken).head (.take hrule hafter)
  | refuse hrule hname => exact fun token htoken => absurd htoken List.not_mem_nil
  | skip hrule hscan ih =>
    intro token htoken
    rcases List.mem_cons.mp htoken with rfl | htoken
    · exact ⟨_, _, _, _, .refl, hrule, rfl⟩
    · exact (ih token htoken).head (.skip hrule)

/-- If no rule makes a token of the default kind, all that are of this kind come from characters that
no rule has taken. -/
theorem filter_eq (h : Scans grammar limit frames position rest scan)
    (hother : ∀ token ∈ scan.tokens, grammar.RuleMakes limit ⟨frames, position, rest⟩ token →
      token.kind ≠ grammar.defaultKind) :
    scan.tokens.filter (·.kind = grammar.defaultKind) = grammar.fallbackTokens scan := by
  induction h with
  | finish frames position => rfl
  | take hrule hafter hscan ih =>
    have hfirst := hother _ List.mem_cons_self ⟨_, _, _, _, _, _, .refl, hrule, rfl⟩
    refine (Token.filter_cons_of_other hfirst _).trans (ih fun token htoken hmade => ?_)
    exact hother token (List.mem_cons_of_mem _ htoken) (.head (.take hrule hafter) hmade)
  | refuse hrule hname =>
    have hfirst := hother _ List.mem_cons_self ⟨_, _, _, _, _, _, .refl, hrule, rfl⟩
    exact Token.filter_cons_of_other hfirst []
  | skip hrule hscan ih =>
    refine (Token.filter_cons_of_kind rfl _).trans (congrArg _ (ih fun token htoken hmade => ?_))
    exact hother token (List.mem_cons_of_mem _ htoken) (.head (.skip hrule) hmade)

end Scans

/-! ## The tokens of a line -/

variable {frames : Frames} {line : String} {number : Nat}

theorem sublist_fallbackTokens_scan :
    (grammar.fallbackTokens (grammar.scan limit frames line number)).Sublist
      ((grammar.scan limit frames line number).tokens.filter (·.kind = grammar.defaultKind)) := by
  by_cases hlong : Limits.lineLength < line.utf8ByteSize
  · rw [scan, if_pos hlong]
    exact List.nil_sublist _
  · exact (scans_scan (Nat.not_lt.mp hlong)).sublist_fallbackTokens

/-- The tokens of the default kind are those that no rule has made, just if the line is taken apart
and no rule makes one of this kind. -/
theorem filter_scan_eq_iff :
    (grammar.scan limit frames line number).tokens.filter (·.kind = grammar.defaultKind)
        = grammar.fallbackTokens (grammar.scan limit frames line number) ↔
      line.utf8ByteSize ≤ Limits.lineLength ∧
        ∀ token ∈ (grammar.scan limit frames line number).tokens,
          grammar.RuleMakes limit (.ofLine frames line number) token →
            token.kind ≠ grammar.defaultKind := by
  by_cases hlong : Limits.lineLength < line.utf8ByteSize
  · -- the one token of a line that is too long is of the default kind
    have hkind : (Token.covering (.lineStart number) line.toList grammar.defaultKind none).kind
        = grammar.defaultKind := rfl
    have hone := Token.filter_cons_of_kind hkind []
    rw [scan, if_pos hlong]
    exact ⟨fun heq => absurd (hone.symm.trans heq) (List.cons_ne_nil _ _),
      fun hshort => absurd hlong (Nat.not_lt.mpr hshort.1)⟩
  · have hshort := Nat.not_lt.mp hlong
    have hrun : Scans grammar limit frames (.lineStart number) line.toList
        (grammar.scan limit frames line number) := scans_scan hshort
    rw [Moment.ofLine, if_neg hlong]
    constructor
    · refine fun heq => ⟨hshort, fun token htoken hmade hkind => ?_⟩
      have hmem : token ∈ grammar.fallbackTokens (grammar.scan limit frames line number) :=
        heq ▸ List.mem_filter.mpr ⟨htoken, decide_eq_true hkind⟩
      exact (hrun.fallsBack token hmem).not_ruleMakes hmade
    · exact fun h => hrun.filter_eq h.2

/-- A token of another kind than the default one is on what a rule of the grammar finds. -/
theorem exists_rule_of_kind_ne {stack : StateStack} {result : LineTokens}
    (hline : grammar.tokenizeLineAt stack line number = .ok result) {token : Token}
    (htoken : token ∈ result.tokens) (hkind : token.kind ≠ grammar.defaultKind) :
    ∃ state ∈ grammar.states, ∃ rule ∈ state.rules, ∃ rest length,
      let text := rest.take length
      rule.program.matchEnd? rest = some length ∧
        token.text? line = some (String.ofList text) ∧
        token.kind = (grammar.classify rule.action (String.ofList text)).1 := by
  obtain ⟨frames, -, -, rfl⟩ := tokenizeLineAt_eq_ok_iff.mp hline
  by_cases hlong : Limits.lineLength < line.utf8ByteSize
  · rw [scan, if_pos hlong] at htoken
    exact absurd (List.mem_singleton.mp htoken ▸ rfl) hkind
  have hrun : Scans grammar (some Limits.stackDepth) frames (.lineStart number) line.toList
      (grammar.scan (some Limits.stackDepth) frames line number) := scans_scan (Nat.not_lt.mp hlong)
  rcases hrun.ruleMakes_or_mem token htoken with hmade | hmem
  · obtain ⟨state, hstate, rule, hrule, rest, length, hmatch, htext, hlabel⟩ := hmade.exists_rule
    exact ⟨state, hstate, rule, hrule, rest, length, hmatch, htext, congrArg Prod.fst hlabel⟩
  · obtain ⟨char, -, rfl⟩ := List.mem_map.mp hmem
    exact absurd rfl hkind

/-! ## The tokens of a document -/

/-- The scan of each fresh line, from the stack that the lines before it have left. -/
theorem Fresh.getElem?_scanLinesFrom {place : Nat} {lines : List BufferLine}
    (h : grammar.Fresh place frames lines) {index : Nat} {line : BufferLine}
    (hline : lines[index]? = some line) :
    let scanned := grammar.scanLine (framesAfter frames (lines.take index)) (place + index) line.text
    (grammar.scanLinesFrom [] frames place (lines.map (·.text)))[index]? = some scanned ∧
      scanned.toBufferLine grammar = line := by
  induction lines generalizing place frames index with
  | nil => cases hline
  | cons first rest ih =>
    obtain ⟨hroom, hfirst, hrest⟩ := fresh_cons_iff.mp h
    have hframes : (grammar.scanLine frames place first.text).scan.frames = first.frames := by
      nth_rewrite 2 [← hfirst]
      rfl
    rw [List.map_cons, scanLinesFrom, hroom, if_neg (by simp), scanLinesFrom_append, hframes]
    cases index with
    | zero =>
      cases hline
      exact ⟨rfl, hfirst⟩
    | succ index =>
      have hnext := ih hrest hline
      rw [Nat.add_right_comm] at hnext
      rw [List.take_succ_cons, framesAfter_cons]
      exact hnext

/-- The tokens of all characters of a text that no rule has taken, in order. -/
def fallbackOf (grammar : Grammar) (source : String) : List Token :=
  (grammar.scanLines (documentLines source)).flatMap fun line => grammar.fallbackTokens line.scan

end Grammar
end LineLexer
