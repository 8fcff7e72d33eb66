import LineLexer.Batch.Run
import LineLexer.Proofs.CommandLine.Shown
import LineLexer.Proofs.Tokenize.Unmatched
import Mathlib.Data.List.Flatten

/-!
# What is reported as unmatched

The counts of a document go by the scan, which knows the characters that no rule has taken. A batch
counts the tokens of the default kind, and those of such characters are among these. Each of them is
reported, and the batch counts nothing else just if all lines are taken apart and no rule has made a
token of the default kind (`fallback_reported`).
-/

namespace LineLexer

/-! ## Lists that are put together -/

/-- Lists that are put together of parts of other lists are these only if the parts are all. -/
theorem flatMap_eq_flatMap_iff {α β : Type} {f g : α → List β} {items : List α}
    (h : ∀ item ∈ items, (g item).Sublist (f item)) :
    items.flatMap f = items.flatMap g ↔ ∀ item ∈ items, f item = g item := by
  refine ⟨fun heq => ?_, fun heq => List.flatMap_congr heq⟩
  induction items with
  | nil => exact fun item hitem => absurd hitem List.not_mem_nil
  | cons first rest ih =>
    have hfirst := h first List.mem_cons_self
    have hrest : ∀ item ∈ rest, (g item).Sublist (f item) :=
      fun item hitem => h item (List.mem_cons_of_mem _ hitem)
    rw [List.flatMap_cons, List.flatMap_cons] at heq
    -- no part is longer than what it is a part of, so none is shorter
    have hlength := congrArg List.length heq
    rw [List.length_append, List.length_append] at hlength
    have hrestLength := (List.Sublist.flatMap_right rest hrest).length_le
    have hfirstLength := hfirst.length_le
    obtain ⟨hhead, htail⟩ := List.append_inj heq (by omega)
    exact List.forall_mem_cons.mpr ⟨hhead, ih hrest htail⟩

theorem map_some_filterMap {α β : Type} {f : α → Option β} {items : List α}
    (h : ∀ item ∈ items, ∃ value, f item = some value) :
    (items.filterMap f).map some = items.map f := by
  induction items with
  | nil => rfl
  | cons first rest ih =>
    obtain ⟨value, hvalue⟩ := h first List.mem_cons_self
    rw [List.filterMap_cons_some hvalue, List.map_cons, List.map_cons, hvalue,
      ih fun item hitem => h item (List.mem_cons_of_mem _ hitem)]

namespace Metrics

theorem unmatched_ofScans (lines : List ScannedLine) :
    (ofScans lines).unmatched = (lines.flatMap fun line => line.scan.unmatched).length := by
  have hfrom (metrics : Metrics) : (lines.foldl (fun m line => m.add line.scan) metrics).unmatched
      = metrics.unmatched + (lines.flatMap fun line => line.scan.unmatched).length := by
    induction lines generalizing metrics with
    | nil => simp
    | cons line lines ih =>
      rw [List.foldl_cons, ih, List.flatMap_cons, List.length_append, add]
      exact Nat.add_assoc _ _ _
  exact (hfrom zero).trans (Nat.zero_add _)

end Metrics

namespace Buffer

open CommandLine

variable {grammar : Grammar} {collect : Bool} {source : String} {buffer : Buffer}

/-! ## Reports -/

/-- There is one report for each token of the default kind, in order. -/
theorem map_some_unmatchedReports (hload : ofText grammar collect source = .ok buffer) :
    (unmatchedReports buffer source).map some = (defaultTokens buffer).map fun token =>
      (SourceMap.ofText source).report? token.span
        s!"input not matched by grammar '{buffer.grammar.name}'" := by
  refine map_some_filterMap fun token htoken => ?_
  obtain ⟨index, line, before, covered, after, hon⟩ := exists_reported hload htoken
  rw [hon.span]
  exact SourceMap.exists_report?_covering _ _ _ _

/-! ## Lines and their scans -/

theorem lines_of_ofText (hload : ofText grammar collect source = .ok buffer) :
    buffer.lines = (grammar.scanLines (documentLines source)).map (·.toBufferLine grammar) ∧
      buffer.metrics = if collect then some (.ofScans (grammar.scanLines (documentLines source)))
        else none := by
  rw [ofText, ofLines, ofScans] at hload
  split at hload
  · cases hload
  · cases hload
    exact ⟨rfl, rfl⟩

theorem defaultTokens_eq (hload : ofText grammar collect source = .ok buffer) :
    defaultTokens buffer = (grammar.scanLines (documentLines source)).flatMap fun line =>
      line.scan.tokens.filter (·.kind = grammar.defaultKind) := by
  rw [defaultTokens, tokens, (lines_of_ofText hload).1, List.flatMap_map, List.filter_flatMap,
    (fresh_of_ofLines hload).1]
  rfl

theorem length_fallbackOf (grammar : Grammar) (source : String) :
    (Metrics.ofScans (grammar.scanLines (documentLines source))).unmatched
      = (grammar.fallbackOf source).length := by
  rw [Metrics.unmatched_ofScans, Grammar.fallbackOf, List.length_flatMap, List.length_flatMap]
  simp only [Grammar.fallbackTokens, List.length_map]

/-- The stack with which a line begins. -/
def framesBefore (buffer : Buffer) (index : Nat) : Frames :=
  Grammar.framesAfter [] (buffer.lines.take index)

/-- Each line comes from a scan, which begins with the stack of the lines before it. -/
theorem exists_mem_scanLines (hload : ofText grammar collect source = .ok buffer) {index : Nat}
    {line : BufferLine} (hline : buffer.lines[index]? = some line) :
    ∃ scanned, (grammar.scanLines (documentLines source))[index]? = some scanned ∧
      scanned.toBufferLine grammar = line ∧
        scanned.scan = grammar.scan (some Limits.stackDepth) (buffer.framesBefore index) line.text
          (lineNumber index) := by
  obtain ⟨rfl, hfresh⟩ := fresh_of_ofLines hload
  obtain ⟨hscanned, hsame⟩ := hfresh.getElem?_scanLinesFrom hline
  rw [← texts, texts_of_ofText hload, Nat.zero_add] at hscanned
  rw [Nat.zero_add] at hsame
  exact ⟨_, hscanned, hsame, rfl⟩

/-- Each scan has made a line. -/
theorem exists_line_of_mem_scanLines (hload : ofText grammar collect source = .ok buffer)
    {scanned : ScannedLine} (hmem : scanned ∈ grammar.scanLines (documentLines source)) :
    ∃ index line, buffer.lines[index]? = some line ∧ line.tokens = scanned.scan.tokens ∧
      scanned.scan = grammar.scan (some Limits.stackDepth) (buffer.framesBefore index) line.text
        (lineNumber index) := by
  obtain ⟨index, hindex⟩ := List.mem_iff_getElem?.mp hmem
  have hline : buffer.lines[index]? = some (scanned.toBufferLine grammar) := by
    rw [(lines_of_ofText hload).1, List.getElem?_map, hindex]
    rfl
  obtain ⟨scanned', hindex', -, hscan⟩ := exists_mem_scanLines hload hline
  cases hindex.symm.trans hindex'
  exact ⟨index, _, hline, rfl, hscan⟩

/-- All lines are taken apart, and no rule makes a token of the default kind. -/
def RulesAvoidDefault (buffer : Buffer) : Prop :=
  ∀ index line, buffer.lines[index]? = some line →
    line.text.utf8ByteSize ≤ Limits.lineLength ∧
      ∀ token ∈ line.tokens,
        buffer.grammar.RuleMakes (some Limits.stackDepth)
            (.ofLine (buffer.framesBefore index) line.text (lineNumber index)) token →
          token.kind ≠ buffer.grammar.defaultKind

/-- Of each line the tokens of the default kind are those that no rule has made, just if no rule
makes one of this kind. -/
theorem forall_mem_scanLines_iff (hload : ofText grammar collect source = .ok buffer) :
    (∀ line ∈ grammar.scanLines (documentLines source),
        line.scan.tokens.filter (·.kind = grammar.defaultKind) = grammar.fallbackTokens line.scan) ↔
      buffer.RulesAvoidDefault := by
  obtain ⟨rfl, -⟩ := fresh_of_ofLines hload
  constructor
  · intro h index line hline
    obtain ⟨scanned, hindex, rfl, hscan⟩ := exists_mem_scanLines hload hline
    have hsame := h scanned (List.mem_of_getElem? hindex)
    have htokens : (scanned.toBufferLine buffer.grammar).tokens = scanned.scan.tokens := rfl
    rw [htokens, hscan]
    rw [hscan] at hsame
    exact Grammar.filter_scan_eq_iff.mp hsame
  · intro h scanned hmem
    obtain ⟨index, line, hline, htokens, hscan⟩ := exists_line_of_mem_scanLines hload hmem
    have havoid := h index line hline
    rw [htokens, hscan] at havoid
    rw [hscan]
    exact Grammar.filter_scan_eq_iff.mpr havoid

/-! ## Both ways to count -/

/-- Each character that no rule has taken is reported, in the order of the document, and the document
counts them. A batch counts the tokens of the default kind. These are just as many if and only if all
lines are taken apart and no rule has made a token of the default kind, and then nothing else is
reported. -/
theorem fallback_reported (hload : ofText grammar true source = .ok buffer) (sizeBytes : Nat) :
    let report := fun token : Token => (SourceMap.ofText source).report? token.span
      s!"input not matched by grammar '{buffer.grammar.name}'"
    let fallback := grammar.fallbackOf source
    let stats := Batch.FileStats.ofBuffer buffer sizeBytes
    (fallback.map report).Sublist ((unmatchedReports buffer source).map some) ∧
      (∀ token ∈ fallback, token.kind = grammar.defaultKind) ∧
      stats.unmatched = (buffer.tokens.filter (·.kind = grammar.defaultKind)).length ∧
      ∃ metrics, buffer.metrics = some metrics ∧ metrics.unmatched = fallback.length ∧
        (stats.unmatched = metrics.unmatched ↔ buffer.RulesAvoidDefault) ∧
        (buffer.RulesAvoidDefault →
          (unmatchedReports buffer source).map some = fallback.map report ∧
            (unmatchedReports buffer source).length = metrics.unmatched) := by
  have hreports := map_some_unmatchedReports hload
  have hgrammar : buffer.grammar = grammar := (fresh_of_ofLines hload).1
  have hparts : ∀ line ∈ grammar.scanLines (documentLines source),
      (grammar.fallbackTokens line.scan).Sublist
        (line.scan.tokens.filter (·.kind = grammar.defaultKind)) := by
    intro line hmem
    obtain ⟨index, text, -, -, hscan⟩ := exists_line_of_mem_scanLines hload hmem
    rw [hscan]
    exact Grammar.sublist_fallbackTokens_scan
  have hsublist : (grammar.fallbackOf source).Sublist (defaultTokens buffer) := by
    rw [defaultTokens_eq hload]
    exact List.Sublist.flatMap_right _ hparts
  -- the default kind may also come from a rule, and nothing else parts the two lists
  have hexact : defaultTokens buffer = grammar.fallbackOf source ↔ buffer.RulesAvoidDefault := by
    rw [← forall_mem_scanLines_iff hload, ← flatMap_eq_flatMap_iff hparts, defaultTokens_eq hload]
    rfl
  have hcounted : (Batch.FileStats.ofBuffer buffer sizeBytes).unmatched
      = (defaultTokens buffer).length := by
    rw [defaultTokens, Batch.FileStats.ofBuffer, List.countP_eq_length_filter]
  refine ⟨?reported, fun token htoken => ?kind, ?stats, _, (lines_of_ofText hload).2,
    length_fallbackOf grammar source, ?count, fun havoid => ?exact⟩
  case reported =>
    rw [hreports]
    exact hsublist.map _
  case kind =>
    have hmem := hsublist.subset htoken
    rw [defaultTokens, List.mem_filter, hgrammar] at hmem
    exact of_decide_eq_true hmem.2
  case stats => rw [hcounted, defaultTokens, hgrammar]
  case count =>
    rw [hcounted, length_fallbackOf, ← hexact]
    exact ⟨fun heq => (hsublist.eq_of_length heq.symm).symm, congrArg List.length⟩
  case exact =>
    have heq := hexact.mpr havoid
    rw [heq] at hreports
    have hlength := congrArg List.length hreports
    rw [List.length_map, List.length_map] at hlength
    exact ⟨hreports, hlength.trans (length_fallbackOf grammar source).symm⟩

/-- In the text two characters are taken by no rule. A batch counts two, so no rule has made a token
of the default kind. -/
theorem fallback_reported_shownText :
    ∃ buffer, ofText sampleGrammar true shownText = .ok buffer ∧
      (Batch.FileStats.ofBuffer buffer 9).unmatched = 2 ∧ buffer.RulesAvoidDefault ∧
        (unmatchedReports buffer shownText).length = 2 := by
  have hstats : (ofText sampleGrammar true shownText).map (fun buffer =>
      (Batch.FileStats.ofBuffer buffer 9).unmatched) = .ok 2 := by decide +kernel
  have hfallback : (sampleGrammar.fallbackOf shownText).length = 2 := by decide +kernel
  obtain ⟨buffer, hload, htwo⟩ := map_eq_ok.mp hstats
  obtain ⟨-, -, -, metrics, -, hmetrics, hcount, hexact⟩ := fallback_reported hload 9
  rw [hfallback] at hmetrics
  have havoid := hcount.mp (htwo.trans hmetrics.symm)
  exact ⟨buffer, hload, htwo, havoid, (hexact havoid).2.trans hmetrics⟩

/-- A rule for a word gives it the kind of input that no rule matches. -/
def plainDocument : GrammarDocument where
  name := some "plain"
  initial := "text"
  defaultToken := some "plain"
  ignoreCase := false
  brackets := []
  states := .ofList [("text", [⟨"ab", some "plain", false, .stay, none⟩])]

/-- The grammar of the document. -/
def plainGrammar : Grammar where
  name := "plain"
  initial := 0
  states := [⟨"text", [⟨"ab", sampleProgram ['a', 'b'], false, .token "plain", .stay⟩]⟩]
  index := .ofList [("text", 0)]
  defaultKind := "plain"
  ignoreCase := false
  brackets := []
  unreachable := []

/-- The word is taken by the rule, yet it is reported as unmatched, and counted so by a batch. -/
theorem matched_word_reported :
    Grammar.compile plainDocument "grammar" = .ok plainGrammar ∧
      (ofText plainGrammar true "ab").map (fun buffer =>
          (buffer.metrics.map (·.unmatched), (unmatchedReports buffer "ab").length,
            (Batch.FileStats.ofBuffer buffer 2).unmatched)) = .ok (some 0, 1, 1) ∧
      plainGrammar.fallbackOf "ab" = [] := by
  refine ⟨?_, ?_, ?_⟩
  all_goals decide +kernel

end Buffer

end LineLexer
