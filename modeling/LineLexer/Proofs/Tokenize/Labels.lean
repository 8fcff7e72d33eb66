import LineLexer.Proofs.Grammar.Brackets
import LineLexer.Proofs.Tokenize.Unmatched

/-!
# Labels of tokens

The kind of a token is declared by its grammar: a rule names it, or a pair of the table of brackets
does, or it is the default kind (`declared_classify`). A side comes from the table only, from the
first pair that has the token's text as a delimiter (`exists_isFirst_of_classify`). A token that no
rule has made, of a character or of a whole line, has the default kind and no side
(`WithoutRule.default`). So the tokens of a line have labels that the summary of the grammar lists
(`tokenizeLineAt_declares`).
-/

namespace LineLexer

/-! ## Kinds in order, each once -/

theorem mem_eraseReps_loop {a : String} (current : String) (rest taken : List String) :
    a ∈ List.eraseRepsBy.loop (· == ·) current rest taken ↔
      a ∈ taken ∨ a = current ∨ a ∈ rest := by
  induction rest generalizing current taken with
  | nil => simp [List.eraseRepsBy.loop]
  | cons next rest ih =>
    rw [List.eraseRepsBy.loop]
    by_cases hsame : current == next
    · rw [hsame, ih, List.mem_cons, eq_of_beq hsame, or_self_left]
    · rw [Bool.eq_false_iff.mpr hsame, ih, List.mem_cons, List.mem_cons, or_assoc, or_left_comm]

namespace Grammar

theorem mem_sortedOnce {texts : List String} {text : String} :
    text ∈ sortedOnce texts ↔ text ∈ texts := by
  have hsorted : text ∈ (texts.mergeSort fun a b => decide (a ≤ b)) ↔ text ∈ texts :=
    List.mem_mergeSort
  rw [sortedOnce, ← hsorted]
  cases texts.mergeSort fun a b => decide (a ≤ b) with
  | nil => exact Iff.rfl
  | cons first rest =>
    refine (mem_eraseReps_loop first rest []).trans ?_
    rw [or_iff_right List.not_mem_nil, List.mem_cons]

variable {grammar : Grammar}

theorem mem_summary_kinds {kind : String} :
    kind ∈ grammar.summary.kinds ↔ kind ∈ grammar.declaredKinds :=
  mem_sortedOnce

/-! ## Labels of text -/

/-- The kind that a rule of the grammar gives a text is declared, or it is the default kind. -/
theorem declared_classify {state : State} (hstate : state ∈ grammar.states) {rule : Rule}
    (hrule : rule ∈ state.rules) (text : String) :
    (grammar.classify rule.action text).1 ∈ grammar.summary.kinds ∨
      (grammar.classify rule.action text).1 = grammar.defaultKind := by
  rw [mem_summary_kinds, declaredKinds, List.mem_append]
  cases haction : rule.action with
  | token kind =>
    refine .inl (.inl (List.mem_flatMap.mpr ⟨state, hstate, ?_⟩))
    exact List.mem_filterMap.mpr ⟨rule, hrule, by rw [haction]; rfl⟩
  | brackets =>
    rw [classify, bracketKind]
    cases hfound : grammar.brackets.findSome? fun pair =>
        (pair.side? text).map (pair.kind, some ·) with
    | none => exact .inr rfl
    | some found =>
      obtain ⟨pair, hpair, hlabel⟩ := List.exists_of_findSome?_eq_some hfound
      obtain ⟨side, -, rfl⟩ := Option.map_eq_some_iff.mp hlabel
      exact .inl (.inr (List.mem_map.mpr ⟨pair, hpair, rfl⟩))

/-- A side is that of the text in the first pair that has it as a delimiter, and the kind is the
pair's. -/
theorem exists_isFirst_of_classify {action : TokenAction} {text kind : String} {side : BracketSide}
    (h : grammar.classify action text = (kind, some side)) :
    ∃ pair, BracketPair.IsFirst pair grammar.brackets text ∧ pair.delimiter side = text ∧
      pair.kind = kind := by
  cases action with
  | token other => cases h
  | brackets =>
    obtain ⟨pair, hfirst, hside, hkind⟩ := bracketKind_eq_iff.mp h
    exact ⟨pair, hfirst, BracketPair.delimiter_of_side? hside, hkind⟩

/-! ## Labels of tokens -/

/-- What a grammar declares of the label of a token on a line. -/
structure Declares (grammar : Grammar) (line : String) (token : Token) : Prop where
  /-- The summary lists the kind, or it is the default kind. -/
  kind : token.kind ∈ grammar.summary.kinds ∨ token.kind = grammar.defaultKind
  /-- With a side the text is the delimiter on this side of a pair of the kind, and no earlier pair
  has it as a delimiter. -/
  bracket : ∀ side, token.bracket = some side → ∃ pair text, token.text? line = some text ∧
    BracketPair.IsFirst pair grammar.brackets text ∧ pair.delimiter side = text ∧
      pair.kind = token.kind

variable {limit : Option Nat} {frames : Frames} {line : String} {number : Nat} {token : Token}

theorem Declares.of_default (h : token.kind = grammar.defaultKind ∧ token.bracket = none) :
    grammar.Declares line token where
  kind := .inr h.1
  bracket _ hside := nomatch h.2.symm.trans hside

theorem RuleMakes.declares
    (h : grammar.RuleMakes limit ⟨frames, .lineStart number, line.toList⟩ token) :
    grammar.Declares line token := by
  obtain ⟨state, hstate, rule, hrule, rest, length, -, htext, hlabel⟩ := h.exists_rule
  have hdeclared := declared_classify hstate hrule (String.ofList (rest.take length))
  rw [← hlabel] at hdeclared
  refine ⟨hdeclared, fun side hside => ?_⟩
  have hsided := hlabel.symm.trans (congrArg (token.kind, ·) hside)
  obtain ⟨pair, hfirst, hdelimiter, hpair⟩ := exists_isFirst_of_classify hsided
  exact ⟨pair, _, htext, hfirst, hdelimiter, hpair⟩

/-- The token is not a rule's: it is of a character that no rule takes, or of a line that is too
long. -/
def WithoutRule (grammar : Grammar) (limit : Option Nat) (frames : Frames) (line : String)
    (number : Nat) (token : Token) : Prop :=
  grammar.FallsBack limit (.ofLine frames line number) token ∨
    Limits.lineLength < line.utf8ByteSize

theorem ruleMakes_or_withoutRule_scan : ∀ token ∈ (grammar.scan limit frames line number).tokens,
    grammar.RuleMakes limit (.ofLine frames line number) token ∨
      grammar.WithoutRule limit frames line number token := by
  intro token htoken
  by_cases hlong : Limits.lineLength < line.utf8ByteSize
  · exact .inr (.inr hlong)
  have hrun : Scans grammar limit frames (.lineStart number) line.toList
      (grammar.scan limit frames line number) := scans_scan (Nat.not_lt.mp hlong)
  rw [WithoutRule, Moment.ofLine, if_neg hlong]
  exact (hrun.ruleMakes_or_mem token htoken).imp_right fun hmem => .inl (hrun.fallsBack token hmem)

theorem WithoutRule.default (h : grammar.WithoutRule limit frames line number token)
    (htoken : token ∈ (grammar.scan limit frames line number).tokens) :
    token.kind = grammar.defaultKind ∧ token.bracket = none := by
  rcases h with ⟨frames', position, c, rest, -, -, rfl⟩ | hlong
  · exact ⟨rfl, rfl⟩
  · rw [scan, if_pos hlong] at htoken
    cases List.mem_singleton.mp htoken
    exact ⟨rfl, rfl⟩

theorem declares_scan :
    ∀ token ∈ (grammar.scan limit frames line number).tokens, grammar.Declares line token := by
  intro token htoken
  rcases ruleMakes_or_withoutRule_scan token htoken with hmade | hwithout
  · by_cases hlong : Limits.lineLength < line.utf8ByteSize
    · exact .of_default (WithoutRule.default (.inr hlong) htoken)
    · rw [Moment.ofLine, if_neg hlong] at hmade
      exact hmade.declares
  · exact .of_default (hwithout.default htoken)

/-- The tokens of a line, from a stack that the grammar resolves, have labels that the grammar
declares. A token that is not a rule's has the default kind and no side. -/
theorem tokenizeLineAt_declares {stack : StateStack} (hstack : stack.resolve grammar = .ok frames)
    {result : LineTokens} (hline : grammar.tokenizeLineAt stack line number = .ok result) :
    ∀ token ∈ result.tokens, grammar.Declares line token ∧
      (grammar.RuleMakes (some Limits.stackDepth) (.ofLine frames line number) token ∨
        grammar.WithoutRule (some Limits.stackDepth) frames line number token) ∧
      (grammar.WithoutRule (some Limits.stackDepth) frames line number token →
        token.kind = grammar.defaultKind ∧ token.bracket = none) := by
  obtain ⟨frames', hstack', -, rfl⟩ := tokenizeLineAt_eq_ok_iff.mp hline
  cases hstack.symm.trans hstack'
  exact fun token htoken => ⟨declares_scan token htoken,
    ruleMakes_or_withoutRule_scan token htoken, fun hwithout => hwithout.default htoken⟩

/-- The parenthesis on a line of the sample grammar is that of a pair. -/
theorem sampleTokens_declared :
    StateStack.initial.resolve sampleGrammar = .ok [] ∧
      sampleGrammar.tokenizeLineAt .initial "!(é<ab" 7 = .ok ⟨sampleTokens, ⟨["word"]⟩⟩ ∧
      ∃ parenthesis ∈ sampleTokens, parenthesis.bracket = some .opening ∧
        ∃ pair, BracketPair.IsFirst pair sampleGrammar.brackets "(" ∧ pair.opening = "(" ∧
          pair.kind = parenthesis.kind := by
  let parenthesis : Token := ⟨⟨⟨1, 7, 2⟩, ⟨2, 7, 3⟩⟩, "paren", some .opening⟩
  have hmem : parenthesis ∈ sampleTokens := .tail _ (.head _)
  have hdeclares := (tokenizeLineAt_declares rfl tokenizeLineAt_sample parenthesis hmem).1
  obtain ⟨pair, text, htext, hfirst, hopening, hkind⟩ := hdeclares.bracket .opening rfl
  have hcut : parenthesis.text? "!(é<ab" = some "(" := by decide
  cases htext.symm.trans hcut
  exact ⟨rfl, tokenizeLineAt_sample, parenthesis, hmem, rfl, pair, hfirst, hopening, hkind⟩

end Grammar
end LineLexer
