import LineLexer.Proofs.Datum.Json
import LineLexer.Proofs.Tokenize.Agreement
import LineLexer.Proofs.Tokenize.Depth

/-!
# Stored stacks

Between two lines a session may be put away: its stack is written as JSON, and a new session is
begun from the text some other time. Each stack behind a line is one that the grammar resolves
(`Session.exists_resolve_after`), its names survive the writing and the reading (`ofJson?_toJson`),
and the number of a line only shows in the positions (`Grammar.foldLines_numberedFrom`). So the new
session goes on as the old one would have done (`Session.resume_stored`).
-/

namespace LineLexer

/-! ## Stacks as text -/

namespace StateStack

/-- A stack as a JSON text. -/
def toJson (stack : StateStack) : String := Json.compact stack.toDatum

/-- The stack that a JSON text holds, if it holds one. -/
def ofJson? (text : String) : Option StateStack :=
  match Json.parse text with
  | .ok datum => (decode datum).toOption
  | .error _ => none

theorem decode_toDatum (stack : StateStack) : decode stack.toDatum = .ok stack := by
  have htexts : (stack.names.map Datum.text).mapM Datum.asText = .ok stack.names :=
    mapM_map_eq_self (f := Datum.asText) (g := Datum.text) (fun _ => rfl) stack.names
  rw [toDatum, decode]
  show (((stack.names.map Datum.text).mapM Datum.asText) >>= _) = _
  rw [htexts]
  rfl

/-- Whatever its names, a stack is read back from its text. -/
theorem ofJson?_toJson (stack : StateStack) : ofJson? stack.toJson = some stack := by
  have hplain : Json.Plain stack.toDatum := .ofMap Json.Plain.text stack.names
  rw [ofJson?, toJson, Json.parse_compact hplain]
  dsimp only
  rw [decode_toDatum]
  rfl

end StateStack

/-! ## Lines with other numbers -/

/-- The same tokens on the line with another number. -/
def LineTokens.onLine (line : LineTokens) (number : Nat) : LineTokens :=
  { line with tokens := line.tokens.map (·.onLine number) }

/-- The same lines with the numbers from another one on. -/
def LineRun.numberedFrom (run : LineRun) (number : Nat) : LineRun :=
  { run with lines := run.lines.mapIdx fun index line => line.onLine (number + index) }

theorem LineRun.numberedFrom_cons (line : LineTokens) (run : LineRun) (number : Nat) :
    (run.cons line).numberedFrom number = .cons (line.onLine number) (run.numberedFrom (number + 1)) := by
  unfold numberedFrom
  rw [cons_lines, List.mapIdx_cons, Nat.add_zero]
  simp only [Nat.add_assoc, Nat.add_comm 1]
  rfl

namespace Grammar

variable {grammar : Grammar}

theorem tokenizeLineAt_onLine (stack : StateStack) (line : String) (number number' : Nat) :
    grammar.tokenizeLineAt stack line number'
      = (grammar.tokenizeLineAt stack line number).map (·.onLine number') := by
  unfold tokenizeLineAt
  cases stack.resolve grammar with
  | error fault => rfl
  | ok frames =>
    show (grammar.scan _ frames line number').toLineTokens grammar = Except.map _ _
    rw [scan_onLine frames line number]
    show _ = Except.map _ ((grammar.scan _ frames line number).toLineTokens grammar)
    unfold Scan.toLineTokens
    have hfault (scan : Scan) : (scan.onLine number').fault? = scan.fault? := rfl
    rw [hfault]
    cases (grammar.scan (some Limits.stackDepth) frames line number).fault? <;> rfl

/-- The lines are the same wherever their numbers begin. -/
theorem foldLines_numberedFrom (stack : StateStack) (number number' : Nat) (texts : List String) :
    grammar.foldLines stack number' texts
      = (grammar.foldLines stack number texts).numberedFrom number' := by
  induction texts generalizing stack number number' with
  | nil => rfl
  | cons text rest ih =>
    have hline := @tokenizeLineAt_onLine grammar stack text number number'
    cases hresult : grammar.tokenizeLineAt stack text number with
    | error fault =>
      rw [hresult] at hline
      rw [foldLines_of_error hline, foldLines_of_error hresult]
      rfl
    | ok result =>
      rw [hresult] at hline
      rw [foldLines_of_ok hline, foldLines_of_ok hresult, LineRun.numberedFrom_cons,
        ih _ (number + 1)]
      rfl

end Grammar

/-! ## Sessions that are put away -/

namespace Session

variable {grammar : Grammar}

/-- The session behind lines. -/
def afterLines (session : Session) (texts : List String) : Session :=
  session.after (texts.map .feed)

@[simp] theorem afterLines_nil (session : Session) : session.afterLines [] = session := rfl

theorem afterLines_cons_of_ok {session : Session} {text : String} {tokens : List Token}
    {next : Session} (h : session.feed text = (.ok tokens, next)) (rest : List String) :
    session.afterLines (text :: rest) = next.afterLines rest := by
  have hcall : (session.call (.feed text)).2 = next := by
    rw [call, h]
  show (session.call (.feed text)).2.after (rest.map .feed) = _
  rw [hcall]
  rfl

/-- Lines that are fed without a fault leave the session with which the others begin. -/
theorem feedLines_append {session : Session} {first second : List String}
    (h : (session.feedLines (first ++ second)).fault? = none) :
    (session.feedLines (first ++ second)).lines.drop first.length
        = ((session.afterLines first).feedLines second).lines ∧
      ((session.afterLines first).feedLines second).fault? = none := by
  induction first generalizing session with
  | nil => exact ⟨rfl, h⟩
  | cons text first ih =>
    rw [List.cons_append, feedLines] at h ⊢
    obtain ⟨result, next, hfeed⟩ : ∃ result next, session.feed text = (result, next) := ⟨_, _, rfl⟩
    cases result with
    | error fault =>
      rw [hfeed] at h
      cases h
    | ok tokens =>
      rw [hfeed] at h
      rw [afterLines_cons_of_ok hfeed, hfeed]
      exact ih h

/-- The grammar of a session and a stack that it resolves. -/
def Resolves (session : Session) (grammar : Grammar) : Prop :=
  session.grammar = grammar ∧ ∃ frames, session.stack.resolve grammar = .ok frames

theorem resolves_start (grammar : Grammar) : (start grammar).Resolves grammar :=
  ⟨rfl, [], rfl⟩

/-- A call leaves a stack that is resolved, whether it fails or not. -/
theorem Resolves.call (hgrammar : grammar.WellFormed) {session : Session}
    (h : session.Resolves grammar) (call : Call) : (session.call call).2.Resolves grammar := by
  obtain ⟨rfl, hframes⟩ := h
  cases call with
  | reset => exact resolves_start session.grammar
  | feed line =>
    rw [call_feed]
    cases hresult : session.grammar.tokenizeLineAt session.stack line session.nextLine with
    | error fault => exact ⟨rfl, hframes⟩
    | ok result => exact ⟨rfl, (hgrammar.exists_resolve_endState hresult).2⟩

theorem Resolves.after (hgrammar : grammar.WellFormed) {session : Session}
    (h : session.Resolves grammar) (calls : List Call) : (session.after calls).Resolves grammar := by
  induction calls generalizing session with
  | nil => exact h
  | cons call calls ih => exact ih (h.call hgrammar call)

/-- A session whose stack is resolved goes on from that stack, with the first line's number. -/
theorem Resolves.resume_eq {session : Session} (h : session.Resolves grammar) :
    resume grammar session.stack = .ok ⟨grammar, session.stack, 1⟩ := by
  obtain ⟨-, frames, hframes⟩ := h
  rw [resume, hframes]
  rfl

theorem feedLines_numberedFrom (session : Session) (number : Nat) (texts : List String) :
    (Session.mk session.grammar session.stack number).feedLines texts
      = (session.feedLines texts).numberedFrom number := by
  have hsession := feedLines_eq_foldLines session.grammar session.stack session.nextLine texts
  rw [feedLines_eq_foldLines, Grammar.foldLines_numberedFrom _ session.nextLine, ← hsession]

/-- If lines are fed to a fresh session without a fault, the session may be stored between any two of
them: its stack is read back from its text, and the session that goes on from it gives the tokens and
the stacks that the old one gives, with lines that are counted from one again. -/
theorem resume_stored {document : GrammarDocument} {fallbackName : String}
    (hcompile : Grammar.compile document fallbackName = .ok grammar) {first second : List String}
    (hrun : ((start grammar).feedLines (first ++ second)).fault? = none) :
    let session := (start grammar).afterLines first
    session.feedLines second
        = ⟨((start grammar).feedLines (first ++ second)).lines.drop first.length, none⟩ ∧
      ∃ stack resumed, StateStack.ofJson? session.stack.toJson = some stack ∧
        resume grammar stack = .ok resumed ∧ resumed.nextLine = 1 ∧
        resumed.feedLines second = (session.feedLines second).numberedFrom 1 := by
  intro session
  obtain ⟨hlines, hfault⟩ := feedLines_append hrun
  have hresolves : session.Resolves grammar :=
    (resolves_start grammar).after (Grammar.wellFormed_of_compile hcompile) _
  refine ⟨?_, session.stack, _, StateStack.ofJson?_toJson _, hresolves.resume_eq, rfl, ?_⟩
  · rw [hlines, ← hfault]
  · have hnumbered := feedLines_numberedFrom session 1 second
    rwa [hresolves.1] at hnumbered

/-- Two words are left open before the session is stored, and closed behind it. -/
theorem resume_openWords :
    ((start sampleGrammar).feedLines (["<ab<"] ++ ["ab", ">>("])).fault? = none ∧
      let session := (start sampleGrammar).afterLines ["<ab<"]
      session.stack = ⟨["word", "word"]⟩ ∧
      ∃ stack resumed, StateStack.ofJson? session.stack.toJson = some stack ∧
        resume sampleGrammar stack = .ok resumed ∧
        resumed.feedLines ["ab", ">>("] = (session.feedLines ["ab", ">>("]).numberedFrom 1 := by
  have hrun : ((start sampleGrammar).feedLines (["<ab<"] ++ ["ab", ">>("])).fault? = none := by
    decide +kernel
  obtain ⟨-, stack, resumed, hstack, hresumed, -, hlines⟩ := resume_stored compile_sampleDocument hrun
  exact ⟨hrun, by decide +kernel, stack, resumed, hstack, hresumed, hlines⟩

end Session
end LineLexer
