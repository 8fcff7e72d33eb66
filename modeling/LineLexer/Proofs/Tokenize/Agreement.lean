import LineLexer.Proofs.Tokenize.Coverage
import LineLexer.Proofs.Tokenize.Fresh
import LineLexer.Proofs.Tokenize.Rounds
import LineLexer.Tokenize.Session

/-!
# Three ways through a document

The lines of a document may be scanned as a buffer, which keeps the stack by its indices, fed to a
session, or tokenized one by one, where the stack is kept by its names and resolved again for each
line. All three come to the same lines and fail at the same one (`ofLines_eq_foldLines` for
buffers, `feedLines_eq_foldLines` for sessions). A call that fails is as if it had never been made
(`Session.after_accepted`).
-/

namespace LineLexer

/-- What lines that are tokenized in order come to. -/
structure LineRun where
  /-- The lines before the first fault, each with the stack behind it. -/
  lines : List LineTokens
  fault? : Option TokenizeError
deriving DecidableEq, Repr

namespace LineRun

def empty : LineRun := ⟨[], none⟩

def stopped (fault : TokenizeError) : LineRun := ⟨[], some fault⟩

/-- Puts a line before the others. -/
def cons (line : LineTokens) (run : LineRun) : LineRun := { run with lines := line :: run.lines }

/-- All lines, or the fault. -/
def toExcept (run : LineRun) : Except TokenizeError (List LineTokens) :=
  match run.fault? with
  | some fault => .error fault
  | none => .ok run.lines

@[simp] theorem cons_lines (line : LineTokens) (run : LineRun) :
    (run.cons line).lines = line :: run.lines := rfl

@[simp] theorem cons_fault? (line : LineTokens) (run : LineRun) :
    (run.cons line).fault? = run.fault? := rfl

theorem toExcept_cons (line : LineTokens) (run : LineRun) :
    (run.cons line).toExcept = run.toExcept.map (line :: ·) := by
  unfold toExcept
  rw [cons_fault?]
  cases run.fault? <;> rfl

end LineRun

/-- Tokenizes lines one by one, each from the stack that the one before it has left. -/
def Grammar.foldLines (grammar : Grammar) :
    StateStack → (number : Nat) → List String → LineRun
  | _, _, [] => .empty
  | stack, number, text :: rest =>
    match grammar.tokenizeLineAt stack text number with
    | .error fault => .stopped fault
    | .ok line => .cons line (grammar.foldLines line.endState (number + 1) rest)

/-- Feeds lines to a session, up to the first one that fails. -/
def Session.feedLines : Session → List String → LineRun
  | _, [] => .empty
  | session, text :: rest =>
    match session.feed text with
    | (.error fault, _) => .stopped fault
    | (.ok tokens, next) => .cons ⟨tokens, next.stack⟩ (next.feedLines rest)

/-- The lines of a buffer as tokenizing them one by one gives them. -/
def Buffer.lineTokens (buffer : Buffer) : List LineTokens :=
  buffer.lines.map fun line => ⟨line.tokens, line.endState⟩

/-! ## Sessions -/

theorem Session.feedLines_eq_foldLines (grammar : Grammar) (stack : StateStack) (number : Nat)
    (texts : List String) :
    (Session.mk grammar stack number).feedLines texts = grammar.foldLines stack number texts := by
  induction texts generalizing stack number with
  | nil => rfl
  | cons text rest ih =>
    unfold feedLines Grammar.foldLines feed advance
    cases grammar.tokenizeLineAt stack text number with
    | error fault => rfl
    | ok line => exact congrArg (LineRun.cons line) (ih line.endState (number + 1))

/-- Takes the next line, if the number of the line behind it is still within its bound. -/
def Session.feedWithin? (session : Session) (line : String) :
    Option (Except TokenizeError (List Token) × Session) :=
  let (result, after) := session.feed line
  if result.isOk && Limits.numberSize ≤ session.nextLine + 1 then none else some (result, after)

/-- Feeds lines to a session with numbers that have a bound; none if a number would pass it. -/
def Session.feedLinesWithin? : Session → List String → Option LineRun
  | _, [] => some .empty
  | session, text :: rest => do
    match ← session.feedWithin? text with
    | (.error fault, _) => return .stopped fault
    | (.ok tokens, next) => return .cons ⟨tokens, next.stack⟩ (← next.feedLinesWithin? rest)

/-- As long as there are numbers for all lines, no number passes the bound. -/
theorem Session.feedLinesWithin?_eq {session : Session} {texts : List String}
    (h : session.nextLine + texts.length < Limits.numberSize) :
    session.feedLinesWithin? texts = some (session.feedLines texts) := by
  induction texts generalizing session with
  | nil => rfl
  | cons text rest ih =>
    rw [List.length_cons] at h
    have hnumber : ¬Limits.numberSize ≤ session.nextLine + 1 := by omega
    unfold feedLinesWithin? feedLines feedWithin? feed advance
    cases session.grammar.tokenizeLineAt session.stack text session.nextLine with
    | error fault => rfl
    | ok line =>
      have hrest := @ih ⟨session.grammar, line.endState, session.nextLine + 1⟩ (by dsimp only; omega)
      simp only [hnumber, decide_false, Bool.and_false, Bool.false_eq_true, if_false]
      show (feedLinesWithin? _ rest).bind _ = _
      rw [hrest]
      rfl

/-! ## Where a run fails -/

namespace Grammar

variable {grammar : Grammar}

theorem foldLines_of_error {stack : StateStack} {number : Nat} {text : String}
    {fault : TokenizeError} (h : grammar.tokenizeLineAt stack text number = .error fault)
    (rest : List String) : grammar.foldLines stack number (text :: rest) = .stopped fault := by
  rw [foldLines, h]

theorem foldLines_of_ok {stack : StateStack} {number : Nat} {text : String} {line : LineTokens}
    (h : grammar.tokenizeLineAt stack text number = .ok line) (rest : List String) :
    grammar.foldLines stack number (text :: rest)
      = .cons line (grammar.foldLines line.endState (number + 1) rest) := by
  rw [foldLines, h]

/-- The lines before the fault have none. -/
theorem foldLines_take (stack : StateStack) (number : Nat) (texts : List String) :
    let run := grammar.foldLines stack number texts
    grammar.foldLines stack number (texts.take run.lines.length) = ⟨run.lines, none⟩ := by
  induction texts generalizing stack number with
  | nil => rfl
  | cons text rest ih =>
    dsimp only
    cases hline : grammar.tokenizeLineAt stack text number with
    | error fault =>
      rw [foldLines_of_error hline]
      rfl
    | ok line =>
      rw [foldLines_of_ok hline, LineRun.cons_lines, List.length_cons, List.take_succ_cons,
        foldLines_of_ok hline, ih line.endState (number + 1)]
      rfl

/-- The fault belongs to the line behind them. -/
theorem foldLines_take_succ {stack : StateStack} {number : Nat} {texts : List String}
    {fault : TokenizeError} (h : (grammar.foldLines stack number texts).fault? = some fault) :
    let run := grammar.foldLines stack number texts
    run.lines.length < texts.length ∧
      grammar.foldLines stack number (texts.take (run.lines.length + 1)) = run := by
  induction texts generalizing stack number with
  | nil => cases h
  | cons text rest ih =>
    dsimp only
    cases hline : grammar.tokenizeLineAt stack text number with
    | error fault' =>
      rw [foldLines_of_error hline, List.take_succ_cons, foldLines_of_error hline]
      exact ⟨Nat.succ_pos _, rfl⟩
    | ok line =>
      rw [foldLines_of_ok hline] at h ⊢
      obtain ⟨hlength, htake⟩ := ih h
      rw [LineRun.cons_lines, List.length_cons, List.take_succ_cons, foldLines_of_ok hline, htake]
      exact ⟨Nat.succ_lt_succ hlength, rfl⟩

/-! ## Buffers -/

/-- Numbers below the bound are those of the lines. -/
theorem lineNumber_eq {index : Nat} (h : index + 1 < Limits.numberSize) :
    lineNumber index = index + 1 := by
  unfold lineNumber
  omega

/-- Scanning lines from a stack of indices comes to what tokenizing them from its names does. -/
theorem WellFormed.freshLines_eq_foldLines (h : grammar.WellFormed) {frames : Frames}
    (hframes : grammar.ValidFrames frames) (hdepth : frames.length ≤ Limits.stackDepth)
    {index : Nat} {texts : List String} (hcount : index + texts.length < Limits.numberSize) :
    (grammar.freshLines index frames texts).map
        (·.map fun line => LineTokens.mk line.tokens line.endState)
      = (grammar.foldLines (.ofFrames grammar frames) (index + 1) texts).toExcept := by
  induction texts generalizing index frames with
  | nil => rfl
  | cons text rest ih =>
    rw [List.length_cons] at hcount
    have hnumber : lineNumber index = index + 1 := lineNumber_eq (by omega)
    have hvalid := h.validFrames_scan hframes (some Limits.stackDepth) text (index + 1)
    have hlength := length_frames_scan_le grammar hdepth text (index + 1)
    unfold freshLines foldLines scanLine
    rw [h.tokenizeLineAt_ofFrames hframes hdepth, hnumber, Scan.toLineTokens]
    generalize grammar.scan (some Limits.stackDepth) frames text (index + 1) = scan at *
    dsimp only
    cases scan.fault? with
    | some fault => rfl
    | none =>
      dsimp only
      rw [LineRun.toExcept_cons, ← ih hvalid hlength (by omega)]
      cases grammar.freshLines (index + 1) scan.frames rest <;> rfl

/-- A buffer has the lines that tokenizing one by one gives, or its fault. -/
theorem WellFormed.ofLines_eq_foldLines (h : grammar.WellFormed) {texts : List String}
    (hcount : texts.length < Limits.numberSize) (collect : Bool) :
    (Buffer.ofLines grammar collect texts).map Buffer.lineTokens
      = (grammar.foldLines .initial 1 texts).toExcept := by
  have hfresh := h.freshLines_eq_foldLines grammar.validFrames_nil (Nat.zero_le _)
    ((Nat.zero_add texts.length).symm ▸ hcount)
  rw [StateStack.ofFrames_nil, Nat.zero_add] at hfresh
  rw [← hfresh, ofLines_eq]
  cases grammar.freshLines 0 [] texts <;> rfl

end Grammar

/-! ## Histories of a session -/

namespace Session

/-- What may be asked of a session. -/
inductive Call where
  | feed (line : String)
  | reset
deriving DecidableEq, Repr

/-- The tokens of a call, or its fault, and the session behind it. -/
def call (session : Session) : Call → Except TokenizeError (List Token) × Session
  | .feed line => session.feed line
  | .reset => (.ok [], session.reset)

/-- The session behind a history of calls, whether they fail or not. -/
def after (session : Session) (calls : List Call) : Session :=
  calls.foldl (fun session call => (session.call call).2) session

/-- The calls of a history that do not fail. -/
def accepted : Session → List Call → List Call
  | _, [] => []
  | session, call :: calls =>
    if (session.call call).1.isOk then call :: (session.call call).2.accepted calls
    else (session.call call).2.accepted calls

/-- All that feeding a line can do. -/
theorem call_feed (session : Session) (line : String) :
    session.call (.feed line)
      = match session.grammar.tokenizeLineAt session.stack line session.nextLine with
        | .ok result =>
          (.ok result.tokens, ⟨session.grammar, result.endState, session.nextLine + 1⟩)
        | .error fault => (.error fault, session) := by
  unfold Session.call feed advance
  dsimp only
  cases session.grammar.tokenizeLineAt session.stack line session.nextLine <;> rfl

theorem call_of_error {session : Session} {call : Call} {fault : TokenizeError}
    (h : (session.call call).1 = .error fault) : (session.call call).2 = session := by
  cases call with
  | feed line =>
    rw [call_feed] at h ⊢
    cases hline : session.grammar.tokenizeLineAt session.stack line session.nextLine with
    | error fault' => rfl
    | ok result => rw [hline] at h; cases h
  | reset => cases h

/-- The history without the calls that fail leads to the same session. -/
theorem after_accepted (session : Session) (calls : List Call) :
    session.after (session.accepted calls) = session.after calls := by
  induction calls generalizing session with
  | nil => rfl
  | cons call calls ih =>
    unfold accepted
    cases hcall : (session.call call).1 with
    | ok tokens => exact ih (session.call call).2
    | error fault =>
      have hsame := call_of_error hcall
      show session.after ((session.call call).2.accepted calls)
        = (session.call call).2.after calls
      rw [hsame]
      exact ih session

/-- No call of that history fails. -/
theorem isOk_of_accepted {session : Session} {calls before rest : List Call} {call : Call}
    (h : session.accepted calls = before ++ call :: rest) :
    ((session.after before).call call).1.isOk = true := by
  induction calls generalizing session before with
  | nil => simp [accepted] at h
  | cons first calls ih =>
    unfold accepted at h
    cases hfirst : (session.call first).1 with
    | ok tokens =>
      have h : first :: (session.call first).2.accepted calls = before ++ call :: rest := by
        rw [← h, hfirst]
        rfl
      cases before with
      | nil =>
        obtain ⟨rfl, -⟩ := List.cons.inj h
        show (session.call first).1.isOk = true
        rw [hfirst]
        rfl
      | cons first' before =>
        obtain ⟨rfl, hrest⟩ := List.cons.inj h
        show (((session.call first).2.after before).call call).1.isOk = true
        exact ih hrest
    | error fault =>
      have h : session.accepted calls = before ++ call :: rest := by
        rw [← h, hfirst, call_of_error hfirst]
        rfl
      exact ih h

end Session

/-! ## All three -/

/-- The run is that of the lines in each of the three ways. -/
structure LineRun.IsRunOf (run : LineRun) (grammar : Grammar) (texts : List String) : Prop where
  fold : grammar.foldLines .initial 1 texts = run
  session : (Session.start grammar).feedLines texts = run
  /-- No number of a line passes its bound on the way. -/
  within : (Session.start grammar).feedLinesWithin? texts = some run
  buffer : ∀ collect, (Buffer.ofLines grammar collect texts).map Buffer.lineTokens = run.toExcept
  /-- The lines before the fault make a buffer. -/
  front : ∀ collect, (Buffer.ofLines grammar collect (texts.take run.lines.length)).map
    Buffer.lineTokens = .ok run.lines
  /-- With the next line they make none. -/
  fault : ∀ fault, run.fault? = some fault → run.lines.length < texts.length ∧
    ∀ collect, Buffer.ofLines grammar collect (texts.take (run.lines.length + 1)) = .error fault

namespace Grammar

variable {grammar : Grammar}

theorem WellFormed.isRunOf_foldLines (h : grammar.WellFormed) {texts : List String}
    (hcount : texts.length < Limits.numberSize - 1) :
    (grammar.foldLines .initial 1 texts).IsRunOf grammar texts := by
  have hbuffer (count : Nat) (collect : Bool) :
      (Buffer.ofLines grammar collect (texts.take count)).map Buffer.lineTokens
        = (grammar.foldLines .initial 1 (texts.take count)).toExcept := by
    refine h.ofLines_eq_foldLines ?_ collect
    rw [List.length_take]
    omega
  have hsession := Session.feedLines_eq_foldLines grammar .initial 1 texts
  have hwithin : (Session.start grammar).feedLinesWithin? texts
      = some ((Session.start grammar).feedLines texts) := by
    refine Session.feedLinesWithin?_eq ?_
    show 1 + texts.length < Limits.numberSize
    omega
  refine ⟨rfl, hsession, hwithin.trans (congrArg some hsession),
    h.ofLines_eq_foldLines (by omega), fun collect => ?_, fun fault hfault => ?_⟩
  · rw [hbuffer, foldLines_take]
    rfl
  · obtain ⟨hlength, htake⟩ := foldLines_take_succ hfault
    refine ⟨hlength, fun collect => ?_⟩
    have hresult := hbuffer ((grammar.foldLines .initial 1 texts).lines.length + 1) collect
    rw [htake, LineRun.toExcept, hfault] at hresult
    exact eq_error_of_map hresult

/-- Under a compiled grammar a buffer, a session and tokenizing one by one give the same tokens and
the same stack for each line, and if a line fails it is the same one and the same fault. A session
is where the calls that have not failed have led it. -/
theorem exists_isRunOf {document : GrammarDocument} {fallbackName : String}
    (hcompile : compile document fallbackName = .ok grammar) {texts : List String}
    (hcount : texts.length < Limits.numberSize - 1) :
    (∃ run : LineRun, run.IsRunOf grammar texts) ∧
    ∀ (session : Session) (calls : List Session.Call),
      (∀ call fault, (session.call call).1 = .error fault → (session.call call).2 = session) ∧
      session.after calls = session.after (session.accepted calls) ∧
      ∀ before call rest, session.accepted calls = before ++ call :: rest →
        ((session.after before).call call).1.isOk = true := by
  have hrun := (wellFormed_of_compile hcompile).isRunOf_foldLines hcount
  exact ⟨⟨_, hrun⟩, fun session calls => ⟨fun _ _ => Session.call_of_error,
    (session.after_accepted calls).symm, fun _ _ _ => Session.isOk_of_accepted⟩⟩

/-- Five lines of pushes, of which the first four fill the stack. -/
def overfullTexts : List String :=
  List.replicate 5 (String.ofList (List.replicate (Limits.stackDepth / 4) '<'))

theorem feedLines_overfullTexts :
    let run := (Session.start sampleGrammar).feedLines overfullTexts
    run.fault? = some (.stackDepthExceeded "word" Limits.stackDepth) ∧ run.lines.length = 4 := by
  decide +kernel

/-- The fifth of these lines fails in each of the three ways. -/
theorem overfullTexts_isRunOf :
    overfullTexts.length < Limits.numberSize - 1 ∧
      ∃ run : LineRun, run.IsRunOf sampleGrammar overfullTexts ∧ run.lines.length = 4 ∧
        run.fault? = some (.stackDepthExceeded "word" Limits.stackDepth) := by
  have hcount : overfullTexts.length < Limits.numberSize - 1 := by decide
  obtain ⟨⟨run, hrun⟩, -⟩ := exists_isRunOf compile_sampleDocument hcount
  obtain ⟨hfault, hlength⟩ := feedLines_overfullTexts
  rw [hrun.session] at hfault hlength
  exact ⟨hcount, run, hrun, hlength, hfault⟩

end Grammar
end LineLexer
