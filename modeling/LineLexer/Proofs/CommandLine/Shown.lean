import LineLexer.CommandLine.Render
import LineLexer.Proofs.Position.Report
import LineLexer.Proofs.Tokenize.Places
import Mathlib.Data.List.DropRight

/-!
# The lines that reports show

A report shows the line of a source map, while the token that it is about stands on the line of a
document. Both come from the same cut of the text at its line feeds, so they are equally many. But a
document drops one carriage return at the end of a line and a source map drops all of them, so the
line that is shown is the document's line just if that one does not end in a carriage return
(`line?_eq_some_iff`). Then the row of carets stands under the characters of the token
(`underlines_report`).
-/

namespace LineLexer

/-! ## Lines of the source map -/

namespace SourceMap

theorem trimReturns_eq (line : List Char) : trimReturns line = line.rdropWhile (· = '\r') := rfl

theorem trimReturns_eq_self_iff {line : List Char} :
    trimReturns line = line ↔ line.getLast? ≠ some '\r' := by
  rw [trimReturns_eq, List.rdropWhile_eq_self_iff]
  constructor
  · rintro h hlast
    obtain ⟨hne, hreturn⟩ := List.mem_getLast?_eq_getLast hlast
    exact h hne (decide_eq_true hreturn.symm)
  · intro h hne hreturn
    exact h ((List.getLast?_eq_some_getLast hne).trans (congrArg some (of_decide_eq_true hreturn)))

/-- It makes no difference that one carriage return was dropped before. -/
theorem trimReturns_dropReturn (line : List Char) :
    trimReturns (Text.dropReturn line) = trimReturns line := by
  rw [Text.dropReturn]
  split
  · rename_i hlast
    nth_rewrite 2 [← List.dropLast_append_getLast? '\r' hlast]
    exact (List.rdropWhile_concat_pos (fun c => decide (c = '\r')) _ _ rfl).symm
  · rfl

/-- The line with a number is that of the document without carriage returns at its end. -/
theorem line?_of_documentLines {source text : String} {index : Nat}
    (h : (documentLines source)[index]? = some text) :
    (ofText source).line? (index + 1) = some (String.ofList (trimReturns text.toList)) := by
  rw [documentLines, List.getElem?_map, Option.map_eq_some_iff] at h
  obtain ⟨line, hline, rfl⟩ := h
  rw [line?, if_neg (Nat.succ_ne_zero index), Nat.add_sub_cancel, getElem?_lines_ofText, hline,
    String.toList_ofList, trimReturns_dropReturn]
  rfl

theorem line?_eq_some_iff {source text : String} {index : Nat}
    (h : (documentLines source)[index]? = some text) :
    (ofText source).line? (index + 1) = some text ↔ ¬EndsInReturn text := by
  rw [line?_of_documentLines h, Option.some_inj, ← String.toList_inj, String.toList_ofList,
    trimReturns_eq_self_iff, EndsInReturn]

end SourceMap

/-! ## Carets under a line -/

/-- The report ends in a line of text and a row of carets under a part of it. -/
def Underlines (report : String) (before covered after : List Char) : Prop :=
  ∃ head lead pad : List Char,
    report.toList = head ++ lead ++ (before ++ covered ++ after) ++ ['\n'] ++ pad
      ++ List.replicate covered.length '^' ++ ['\n'] ∧
    head.getLast? = some '\n' ∧ '\n' ∉ lead ∧ (∀ c ∈ pad, c ≠ '\n' ∧ c ≠ '^') ∧
    pad.length = lead.length + before.length

namespace SourceMap

theorem charLength?_covering (start : Position) (text : List Char) :
    (Span.covering start text).charLength? = some text.length := by
  rw [Span.charLength?, Span.covering, Position.advanceOver_eq]
  dsimp only
  rw [if_neg (Nat.not_lt.mpr (Nat.le_add_right _ _)), Nat.add_sub_cancel_left]

/-- There is a report on every text. -/
theorem exists_report?_covering (map : SourceMap) (start : Position) (text : List Char)
    (message : String) : ∃ report, map.report? (.covering start text) message = some report := by
  rw [← Option.ne_none_iff_exists', Ne, report?_eq_none_iff, charLength?_covering]
  rintro ⟨-, hnone⟩
  cases hnone

theorem newline_not_mem_toString (n : Nat) : '\n' ∉ (toString n).toList := by
  rw [Nat.toString_eq_ofList_toDigits, String.toList_ofList]
  intro hmem
  exact absurd (Nat.isDigit_of_mem_toDigits (by decide) (by decide) hmem) (by decide)

/-- A report on a token of a line has its carets under the token, if the line is shown as it is. -/
theorem underlines_report {map : SourceMap} {number : Nat} {before covered after : List Char}
    (hline : map.line? number = some (String.ofList (before ++ covered ++ after)))
    (hne : covered ≠ []) (message : String) :
    ∃ report, map.report? (.covering ((Position.lineStart number).advanceOver before) covered)
        message = some report ∧ Underlines report before covered after := by
  have hlength : max covered.length 1 = covered.length :=
    Nat.max_eq_left (List.length_pos_iff.mpr hne)
  have hcolumn : 1 + before.length - 1 = before.length := Nat.add_sub_cancel_left 1 before.length
  let start : Position := ⟨0 + Text.byteLength before, number, 1 + before.length⟩
  have hstart : (Position.lineStart number).advanceOver before = start :=
    Position.advanceOver_eq _ before
  rw [hstart, report?_eq, charLength?_covering]
  simp only [Span.covering, start, hline, Option.map_some, underlined, heading, hlength, hcolumn]
  let margin := blanks (toString number).length
  refine ⟨_, rfl,
    ("warning: " ++ message ++ "\n  --> " ++ start.display ++ "\n" ++ margin ++ " |\n").toList,
    (toString number ++ " | ").toList, (margin ++ " | " ++ blanks before.length).toList,
    ?whole, ?head, ?lead, ?pad, ?length⟩
  case whole =>
    simp only [String.toList_append, String.toList_ofList, List.append_assoc]
    rfl
  case head =>
    rw [String.toList_append]
    exact List.getLast?_append_of_ne_nil _ (List.cons_ne_nil _ _)
  case lead =>
    rw [String.toList_append, List.mem_append, not_or]
    exact ⟨newline_not_mem_toString number, by decide⟩
  case pad =>
    simp only [String.toList_append, blanks, String.toList_ofList, margin, List.mem_append]
    rintro c ((hc | hc) | hc)
    · rw [List.eq_of_mem_replicate hc]
      decide
    · have hbar : (" | ".toList.all fun c => c ≠ '\n' ∧ c ≠ '^') = true := by decide
      exact of_decide_eq_true (List.all_eq_true.mp hbar c hc)
    · rw [List.eq_of_mem_replicate hc]
      decide
  case length =>
    simp only [String.length_toList, String.length_append, margin, blanks, String.length_ofList,
      List.length_replicate]

end SourceMap

/-! ## Reports on a document -/

namespace Buffer

open CommandLine

variable {grammar : Grammar} {collect : Bool} {source : String} {buffer : Buffer}

theorem lineCount_sourceMap (hload : ofText grammar collect source = .ok buffer) :
    (SourceMap.ofText source).lineCount = buffer.lineCount := by
  have hcount := congrArg List.length (texts_of_ofText hload)
  rw [texts, documentLines, List.length_map, List.length_map] at hcount
  rw [SourceMap.lineCount_ofText, lineCount, hcount]

/-- Where a report on a document comes from: a token of the default kind, and the piece of its line
that the token is on. -/
structure Reported (buffer : Buffer) (index : Nat) (line : BufferLine) (token : Token)
    (before covered after : List Char) : Prop where
  line_eq : buffer.lines[index]? = some line
  mem : token ∈ line.tokens
  kind : token.kind = buffer.grammar.defaultKind
  text_eq : line.text.toList = before ++ covered ++ after
  covered_ne : covered ≠ []
  span : token.span = .covering ((Position.lineStart (lineNumber index)).advanceOver before) covered

theorem exists_reported (hload : ofText grammar collect source = .ok buffer) {token : Token}
    (htoken : token ∈ defaultTokens buffer) :
    ∃ index line before covered after, buffer.Reported index line token before covered after := by
  rw [defaultTokens, List.mem_filter, tokens, List.mem_flatMap] at htoken
  obtain ⟨⟨line, hmem, htoken⟩, hkind⟩ := htoken
  obtain ⟨index, hline⟩ := List.mem_iff_getElem?.mp hmem
  have htiles := (fresh_of_ofLines hload).2.tiles hline
  rw [Nat.zero_add] at htiles
  obtain ⟨before, covered, after, htext, hne, hspan⟩ := htiles.mem token htoken
  rw [← List.append_assoc] at htext
  exact ⟨index, line, before, covered, after, hline, htoken, of_decide_eq_true hkind, htext, hne,
    hspan⟩

/-- The source map of a text has the lines of the document that the text is read as, without the
carriage returns at their ends: a line is shown as it was tokenized just if it has none there. Each
report is on a token of the default kind, and if the token's line is shown as it was tokenized, the
carets stand under the token's characters. -/
theorem reports_underline (hload : ofText grammar collect source = .ok buffer) :
    (SourceMap.ofText source).lineCount = buffer.lineCount ∧
      (∀ (index : Nat) (line : BufferLine), buffer.lines[index]? = some line →
        (SourceMap.ofText source).line? (index + 1)
            = some (String.ofList (SourceMap.trimReturns line.text.toList)) ∧
          ((SourceMap.ofText source).line? (index + 1) = some line.text ↔
            ¬EndsInReturn line.text)) ∧
      ∀ report ∈ unmatchedReports buffer source,
        ∃ index line token before covered after,
          buffer.Reported index line token before covered after ∧
            (∃ message, (SourceMap.ofText source).report? token.span message = some report) ∧
              (index + 1 < Limits.numberSize → ¬EndsInReturn line.text →
                Underlines report before covered after) := by
  refine ⟨lineCount_sourceMap hload, fun index line hline => ?lines, fun report hreport => ?report⟩
  case lines =>
    have htext := getElem?_documentLines hload hline
    exact ⟨SourceMap.line?_of_documentLines htext, SourceMap.line?_eq_some_iff htext⟩
  case report =>
    obtain ⟨token, htoken, hreport⟩ := List.mem_filterMap.mp hreport
    obtain ⟨index, line, before, covered, after, hon⟩ := exists_reported hload htoken
    refine ⟨index, line, token, before, covered, after, hon, ⟨_, hreport⟩, fun hbound hnot => ?_⟩
    have hshown := (SourceMap.line?_eq_some_iff (getElem?_documentLines hload hon.line_eq)).mpr hnot
    rw [← String.ofList_toList (s := line.text), hon.text_eq] at hshown
    obtain ⟨report', hreport', hunder⟩ := SourceMap.underlines_report hshown hon.covered_ne _
    rw [hon.span, Grammar.lineNumber_eq hbound, hreport'] at hreport
    exact Option.some_inj.mp hreport ▸ hunder

/-- A text of two lines, the first of which ends in a carriage return. Each has a character that no
rule takes. -/
def shownText : String := "!é\r\n<ab>?"

theorem isOk_shownText : (ofText sampleGrammar false shownText).isOk = true := by
  decide +kernel

/-- Its lines are shown as they were tokenized, so all reports have their carets under a token. -/
theorem reports_shownText :
    ∃ buffer, ofText sampleGrammar false shownText = .ok buffer ∧
      (SourceMap.ofText shownText).lineCount = buffer.lineCount ∧
      ∀ report ∈ unmatchedReports buffer shownText, ∃ line ∈ buffer.lines,
        ∃ before covered after, line.text.toList = before ++ covered ++ after ∧
          Underlines report before covered after := by
  cases hload : ofText sampleGrammar false shownText with
  | error fault =>
    have hok := isOk_shownText
    rw [hload] at hok
    cases hok
  | ok buffer =>
    have htexts : buffer.texts = ["!é", "<ab>?"] := (texts_of_ofText hload).trans (by decide)
    have hnot : ∀ text ∈ buffer.texts, ¬EndsInReturn text := by
      rw [htexts]
      decide
    have hcount : buffer.lines.length = 2 := by
      rw [← List.length_map (·.text), ← texts, htexts]
      rfl
    obtain ⟨hlines, -, hreports⟩ := reports_underline hload
    refine ⟨buffer, rfl, hlines, fun report hreport => ?_⟩
    obtain ⟨index, line, token, before, covered, after, hon, -, hunder⟩ := hreports report hreport
    have hmem := List.mem_of_getElem? hon.line_eq
    have hbound : index + 1 < Limits.numberSize := by
      have hindex := (List.getElem?_eq_some_iff.mp hon.line_eq).1
      rw [hcount] at hindex
      exact Nat.lt_trans (Nat.succ_lt_succ hindex) (by decide)
    exact ⟨line, hmem, before, covered, after, hon.text_eq,
      hunder hbound (hnot _ (List.mem_map_of_mem hmem))⟩

/-- Of two carriage returns at its end a line keeps one, and this one is not shown: the carets of a
report on it stand behind the line. -/
theorem return_not_shown :
    Grammar.compile sampleDocument "grammar" = .ok sampleGrammar ∧
      (ofText sampleGrammar false "ab\r\r").map (·.texts) = .ok ["ab\r"] ∧
      (SourceMap.ofText "ab\r\r").line? 1 = some "ab" ∧
      (ofText sampleGrammar false "ab\r\r").map (fun buffer =>
          (unmatchedReports buffer "ab\r\r").getLast?)
        = .ok (some ("warning: input not matched by grammar 'sample'\n  --> 1:3\n"
            ++ "  |\n1 | ab\n  |   ^\n")) := by
  refine ⟨compile_sampleDocument, ?_, ?_, ?_⟩
  all_goals decide +kernel

end Buffer
end LineLexer
