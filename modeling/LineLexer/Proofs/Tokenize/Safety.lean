import LineLexer.Proofs.Tokenize.Agreement
import LineLexer.Proofs.Tokenize.Depth
import LineLexer.Proofs.Tokenize.Edits

/-!
# Safety of compiled grammars

While lines are scanned, states are looked up by their indices, and nothing checks that there is
such a state. Under a compiled grammar there always is one. Names and indices stand for each other
(`GrammarDocument.RepresentedBy`), and the stacks that lines, sessions and buffers go through hold
indices of states only (`Grammar.RunsSafely`). A line that begins with such a stack can fail only by
a push for which there is no room.
-/

namespace LineLexer

/-! ## Names and indices -/

/-- The names of a document's states and the indices of a grammar's states stand for each other, in
the order of the names, and what the grammar holds by index is what the document names. -/
structure GrammarDocument.RepresentedBy (document : GrammarDocument) (grammar : Grammar) :
    Prop where
  names : ∀ name, name ∈ document.states.keys ↔ ∃ id, grammar.stateId? name = some id
  indices : ∀ id, id < grammar.states.length ↔ ∃ name, grammar.stateId? name = some id
  named : ∀ name id, grammar.stateId? name = some id ↔
    ∃ state, grammar.state? id = some state ∧ state.name = name
  ordered : ∀ name name' id id', grammar.stateId? name = some id →
    grammar.stateId? name' = some id' → (id < id' ↔ name < name')
  initial : ∃ state, grammar.state? grammar.initial = some state ∧ state.name = document.initial
  push : ∀ state ∈ grammar.states, ∀ rule ∈ state.rules, ∀ target name,
    rule.transition = .push target name →
      ∃ pushed, grammar.state? target = some pushed ∧ pushed.name = name

/-- A grammar represents the document that it is made of. -/
theorem Grammar.representedBy_of_compile {document : GrammarDocument} {fallbackName : String}
    {grammar : Grammar} (hcompile : compile document fallbackName = .ok grammar) :
    document.RepresentedBy grammar := by
  have h := wellFormed_of_compile hcompile
  have hdocument := compiled_of_compile hcompile
  refine
    { names := fun name => ⟨fun hname => ?found, ?name⟩
      indices := fun id => ⟨fun hid => ⟨grammar.stateName id, h.stateId?_stateName hid⟩, ?index⟩
      named := fun name id => h.stateId?_eq_some_iff
      ordered := fun name name' id id' hid hid' => ?ordered
      initial := hdocument.find?_eq_some_iff.mp hdocument.initial
      push := h.push }
  case found =>
    rw [← hdocument.names_eq] at hname
    obtain ⟨state, hstate, hname⟩ := List.mem_map.mp hname
    obtain ⟨id, hid⟩ := List.mem_iff_getElem?.mp hstate
    exact ⟨id, h.stateId?_eq_some_iff.mpr ⟨state, hid, hname⟩⟩
  case name =>
    rintro ⟨id, hid⟩
    obtain ⟨state, hstate, rfl⟩ := h.stateId?_eq_some_iff.mp hid
    rw [← hdocument.names_eq]
    exact List.mem_map_of_mem (List.mem_of_getElem? hstate)
  case index =>
    rintro ⟨name, hname⟩
    exact (h.stateId?_eq_some hname).1
  case ordered =>
    obtain ⟨state, hstate, rfl⟩ := h.stateId?_eq_some_iff.mp hid
    obtain ⟨state', hstate', rfl⟩ := h.stateId?_eq_some_iff.mp hid'
    exact h.lt_iff hstate hstate'

/-! ## Stacks that are seen -/

/-- All states of a stack are there to be looked up, and so is the current one. -/
structure Grammar.InRange (grammar : Grammar) (frames : Frames) : Prop where
  all : ∀ id ∈ frames, ∃ state, grammar.state? id = some state
  current : ∃ state, grammar.state? (grammar.currentState frames) = some state

/-- The stacks that lines go through if each begins with the one that the line before it has left,
whatever the lines' numbers are. -/
inductive Grammar.Visits (grammar : Grammar) : Frames → List String → Frames → Prop
  | during {frames : Frames} {text : String} {number : Nat} {moment : Moment} (rest : List String)
      (hreach : grammar.Reaches (some Limits.stackDepth) (.ofLine frames text number) moment) :
      Visits grammar frames (text :: rest) moment.frames
  /-- The stack whose names a line hands out. -/
  | behind (frames : Frames) (text : String) (number : Nat) (rest : List String) :
      Visits grammar frames (text :: rest)
        (grammar.scan (some Limits.stackDepth) frames text number).frames
  | later {frames seen : Frames} {text : String} {number : Nat} {rest : List String}
      (hrest : Visits grammar (grammar.scan (some Limits.stackDepth) frames text number).frames
        rest seen) :
      Visits grammar frames (text :: rest) seen

/-- The stacks that a session goes through in a history of calls. -/
inductive Session.Visits : Session → List Session.Call → Frames → Prop
  | feed {session : Session} {text : String} {frames seen : Frames} (calls : List Session.Call)
      (hframes : session.stack.resolve session.grammar = .ok frames)
      (hline : session.grammar.Visits frames [text] seen) :
      Visits session (.feed text :: calls) seen
  | later {session : Session} {call : Session.Call} {calls : List Session.Call} {seen : Frames}
      (hrest : Visits (session.call call).2 calls seen) : Visits session (call :: calls) seen

namespace Grammar

variable {grammar : Grammar} {frames seen : Frames}

theorem WellFormed.inRange (h : grammar.WellFormed) (hframes : grammar.ValidFrames frames) :
    grammar.InRange frames := by
  have hget {id : Nat} (hid : id < grammar.states.length) :
      ∃ state, grammar.state? id = some state := ⟨_, List.getElem?_eq_getElem hid⟩
  exact ⟨fun id hid => hget (hframes id hid), hget (h.currentState_lt hframes)⟩

/-- What every round keeps holds of all stacks that lines go through. -/
theorem Keeps.visits {property : Frames → Prop} (hkeeps : grammar.Keeps property)
    {texts : List String} (hvisits : grammar.Visits frames texts seen)
    (hframes : property frames) : property seen := by
  induction hvisits with
  | during rest hreach => exact hkeeps.reaches hreach hframes
  | behind frames text number rest => exact hkeeps.scan hframes _ text number
  | later hrest ih => exact ih (hkeeps.scan hframes _ _ _)

end Grammar

/-! ## Sessions -/

namespace Session

variable {session : Session}

theorem grammar_call (session : Session) (call : Call) :
    (session.call call).2.grammar = session.grammar := by
  cases call with
  | feed line =>
    rw [call_feed]
    cases session.grammar.tokenizeLineAt session.stack line session.nextLine <;> rfl
  | reset => rfl

/-- The stack that a session resolves, if it does, has a property. -/
def Stands (session : Session) (property : Frames → Prop) : Prop :=
  ∀ frames, session.stack.resolve session.grammar = .ok frames → property frames

/-- The stack behind a call has what every round keeps and the empty stack has. -/
theorem Stands.call {property : Frames → Prop} (hstands : session.Stands property)
    (h : session.grammar.WellFormed) (hkeeps : session.grammar.Keeps property)
    (hnil : property []) (call : Call) : (session.call call).2.Stands property := by
  intro after hafter
  cases call with
  | feed line =>
    rw [call_feed] at hafter
    cases hline : session.grammar.tokenizeLineAt session.stack line session.nextLine with
    | error fault =>
      rw [hline] at hafter
      exact hstands after hafter
    | ok result =>
      rw [hline] at hafter
      obtain ⟨frames, hframes, -, rfl⟩ := Grammar.tokenizeLineAt_eq_ok_iff.mp hline
      obtain ⟨hdepth, hvalid, hstack⟩ := StateStack.resolve_eq_ok h hframes
      rw [← hstack, StateStack.depth_ofFrames] at hdepth
      have hvalid' := h.validFrames_scan hvalid (some Limits.stackDepth) line session.nextLine
      have hdepth' := Grammar.length_frames_scan_le session.grammar hdepth line session.nextLine
      -- the stack of the scan is handed out by its names, and these resolve to it again
      cases hafter.symm.trans (StateStack.resolve_ofFrames h hvalid' hdepth')
      exact hkeeps.scan (hstands frames hframes) _ _ _
  | reset =>
    cases hafter
    exact hnil

/-- What every round keeps holds of all stacks that a session goes through. -/
theorem Visits.keeps {property : Frames → Prop} {calls : List Call} {seen : Frames}
    (hvisits : session.Visits calls seen) (h : session.grammar.WellFormed)
    (hkeeps : session.grammar.Keeps property) (hnil : property [])
    (hstands : session.Stands property) : property seen := by
  induction hvisits with
  | feed calls hframes hline => exact hkeeps.visits hline (hstands _ hframes)
  | @later session call calls seen hrest ih =>
    have hafter := hstands.call h hkeeps hnil call
    have hgrammar := session.grammar_call call
    rw [hgrammar] at ih
    exact ih h hkeeps hafter

/-- A call leaves a stack that can be resolved again. -/
theorem exists_resolve_call (h : session.grammar.WellFormed) {frames : Frames}
    (hframes : session.stack.resolve session.grammar = .ok frames) (call : Call) :
    ∃ frames', (session.call call).2.stack.resolve session.grammar = .ok frames' := by
  cases call with
  | feed line =>
    rw [call_feed]
    cases hline : session.grammar.tokenizeLineAt session.stack line session.nextLine with
    | error fault => exact ⟨frames, hframes⟩
    | ok result => exact (h.exists_resolve_endState hline).2
  | reset => exact ⟨[], rfl⟩

theorem exists_resolve_after (h : session.grammar.WellFormed) {frames : Frames}
    (hframes : session.stack.resolve session.grammar = .ok frames) (calls : List Call) :
    (session.after calls).grammar = session.grammar ∧
      ∃ frames', (session.after calls).stack.resolve session.grammar = .ok frames' := by
  induction calls generalizing session frames with
  | nil => exact ⟨rfl, frames, hframes⟩
  | cons call calls ih =>
    have hgrammar := session.grammar_call call
    obtain ⟨frames', hframes'⟩ := exists_resolve_call h hframes call
    rw [← hgrammar] at h hframes'
    obtain ⟨hafter, hstack⟩ := ih h hframes'
    rw [hgrammar] at hafter hstack
    exact ⟨hafter, hstack⟩

end Session

/-! ## Buffers -/

namespace Grammar

variable {grammar : Grammar} {frames : Frames} {property : Frames → Prop}

/-- What every round keeps holds of the stacks behind fresh lines. -/
theorem Keeps.fresh (hkeeps : grammar.Keeps property) {index : Nat} {lines : List BufferLine}
    (hfresh : grammar.Fresh index frames lines) (hframes : property frames) :
    ∀ line ∈ lines, property line.frames := by
  induction lines generalizing index frames with
  | nil => exact fun line hline => absurd hline List.not_mem_nil
  | cons first rest ih =>
    obtain ⟨-, hfirst, hrest⟩ := fresh_cons_iff.mp hfresh
    have hafter : property first.frames := by
      rw [← hfirst]
      exact hkeeps.scan hframes _ _ _
    intro line hline
    rcases List.mem_cons.mp hline with rfl | hline
    · exact hafter
    · exact ih hrest hafter line hline

end Grammar

namespace Buffer

variable {grammar : Grammar} {buffer : Buffer} {property : Frames → Prop}

/-- What every round keeps and the empty stack has holds of the stacks behind all lines. -/
theorem Reachable.keeps (hreach : Reachable grammar buffer) (hkeeps : grammar.Keeps property)
    (hnil : property []) : ∀ line ∈ buffer.lines, property line.frames := by
  obtain ⟨rfl, hfresh⟩ := hreach.fresh
  exact hkeeps.fresh hfresh hnil

/-- So does the stack with which scanning again begins. -/
theorem Reachable.keeps_startFrames (hreach : Reachable grammar buffer)
    (hkeeps : grammar.Keeps property) (hnil : property []) {change : Edit} {draft : Draft}
    (hdraft : buffer.draft change = .ok draft) : property draft.startFrames := by
  have hmakes := makes_of_draft hdraft
  unfold Draft.startFrames
  rw [hmakes.front]
  cases hlast : (buffer.lines.take draft.start).getLast? with
  | none => exact hnil
  | some line =>
    have hmem := List.mem_of_mem_take (List.mem_of_getLast? hlast)
    exact hreach.keeps hkeeps hnil line hmem

end Buffer

/-! ## Faults -/

/-- There was no room for a push. -/
def TokenizeError.IsTooDeep (fault : TokenizeError) : Prop :=
  ∃ state, fault = .stackDepthExceeded state Limits.stackDepth

theorem Scan.isTooDeep {scan : Scan} {fault : TokenizeError} (h : scan.fault? = some fault) :
    fault.IsTooDeep := by
  obtain ⟨state, -, rfl⟩ := Option.map_eq_some_iff.mp h
  exact ⟨state, rfl⟩

namespace Grammar

variable {grammar : Grammar} {frames : Frames} {fault : TokenizeError}

theorem tokenizeLineAt_isTooDeep {stack : StateStack} {line : String} {number : Nat}
    (hframes : stack.resolve grammar = .ok frames)
    (h : grammar.tokenizeLineAt stack line number = .error fault) : fault.IsTooDeep := by
  rw [tokenizeLineAt, hframes] at h
  replace h : (grammar.scan (some Limits.stackDepth) frames line number).toLineTokens grammar
    = .error fault := h
  unfold Scan.toLineTokens at h
  split at h
  · rename_i hfault
    cases h
    exact Scan.isTooDeep hfault
  · cases h

theorem WellFormed.foldLines_isTooDeep (h : grammar.WellFormed) {stack : StateStack} {number : Nat}
    {texts : List String} (hframes : stack.resolve grammar = .ok frames)
    (hfault : (grammar.foldLines stack number texts).fault? = some fault) : fault.IsTooDeep := by
  induction texts generalizing stack number frames with
  | nil => cases hfault
  | cons text rest ih =>
    cases hline : grammar.tokenizeLineAt stack text number with
    | error fault' =>
      rw [foldLines_of_error hline] at hfault
      cases hfault
      exact tokenizeLineAt_isTooDeep hframes hline
    | ok line =>
      rw [foldLines_of_ok hline, LineRun.cons_fault?] at hfault
      obtain ⟨-, frames', hframes'⟩ := h.exists_resolve_endState hline
      exact ih hframes' hfault

theorem freshLines_isTooDeep {index : Nat} {texts : List String}
    (h : grammar.freshLines index frames texts = .error fault) : fault.IsTooDeep := by
  induction texts generalizing index frames with
  | nil => cases h
  | cons text rest ih =>
    unfold freshLines at h
    dsimp only at h
    split at h
    · rename_i hfault
      cases h
      exact Scan.isTooDeep hfault
    · exact ih (eq_error_of_map h)

theorem ofLines_isTooDeep {collect : Bool} {texts : List String}
    (h : Buffer.ofLines grammar collect texts = .error fault) : fault.IsTooDeep := by
  rw [ofLines_eq] at h
  exact freshLines_isTooDeep (eq_error_of_map h)

end Grammar

/-- An edit that is admissible fails only if the edited texts do. -/
theorem Buffer.Reachable.isTooDeep {grammar : Grammar} {buffer : Buffer}
    (hreach : Reachable grammar buffer) {change : Edit} (h : change.Admissible buffer.lineCount)
    {fault : TokenizeError} (hfault : (buffer.edit change).1 = .error fault) :
    fault.IsTooDeep := by
  obtain ⟨rfl, hfresh⟩ := hreach.fresh
  cases hscan : buffer.grammar.freshLines 0 [] (change.applyTo buffer.texts) with
  | error fault' =>
    rw [hfresh.edit_of_error h hscan] at hfault
    cases hfault
    exact Grammar.freshLines_isTooDeep hscan
  | ok lines =>
    obtain ⟨range, metrics, hedit⟩ := hfresh.edit_of_ok h hscan
    rw [hedit] at hfault
    cases hfault

/-! ## Safety -/

/-- No run looks up a state that is not there, and from a stack that can be resolved, such as the
initial one, a run fails only by a push for which there is no room. -/
structure Grammar.RunsSafely (grammar : Grammar) : Prop where
  /-- Lines in order, from any stack that can be resolved. -/
  lines : ∀ (stack : StateStack) (frames : Frames), stack.resolve grammar = .ok frames →
    ∀ texts seen, grammar.Visits frames texts seen → grammar.InRange seen
  linesFault : ∀ (stack : StateStack) (frames : Frames), stack.resolve grammar = .ok frames →
    ∀ number texts fault,
      (grammar.foldLines stack number texts).fault? = some fault → fault.IsTooDeep
  /-- Any session, with any history of calls. -/
  session : ∀ session : Session, session.grammar = grammar →
    ∀ calls seen, session.Visits calls seen → grammar.InRange seen
  sessionFault : ∀ session : Session, session.grammar = grammar →
    (∃ frames, session.stack.resolve grammar = .ok frames) →
      ∀ calls call fault, ((session.after calls).call call).1 = .error fault → fault.IsTooDeep
  /-- The stacks that a buffer keeps behind its lines, after any edits. -/
  buffer : ∀ buffer, Buffer.Reachable grammar buffer →
    ∀ line ∈ buffer.lines, grammar.InRange line.frames
  bufferFault : ∀ collect texts fault,
    Buffer.ofLines grammar collect texts = .error fault → fault.IsTooDeep
  /-- The lines that an edit causes to be scanned again. -/
  edit : ∀ buffer, Buffer.Reachable grammar buffer →
    ∀ change draft, buffer.draft change = .ok draft →
      ∀ seen, grammar.Visits draft.startFrames ((draft.lines.drop draft.start).map (·.text)) seen →
        grammar.InRange seen
  editFault : ∀ buffer, Buffer.Reachable grammar buffer →
    ∀ change, change.Admissible buffer.lineCount →
      ∀ fault, (buffer.edit change).1 = .error fault → fault.IsTooDeep

theorem Session.call_isTooDeep {session : Session} {frames : Frames}
    (hframes : session.stack.resolve session.grammar = .ok frames) {call : Call}
    {fault : TokenizeError} (h : (session.call call).1 = .error fault) : fault.IsTooDeep := by
  cases call with
  | feed line =>
    rw [call_feed] at h
    cases hline : session.grammar.tokenizeLineAt session.stack line session.nextLine with
    | ok result =>
      rw [hline] at h
      cases h
    | error fault' =>
      rw [hline] at h
      cases h
      exact Grammar.tokenizeLineAt_isTooDeep hframes hline
  | reset => cases h

namespace Grammar

variable {grammar : Grammar}

theorem WellFormed.runsSafely (h : grammar.WellFormed) : grammar.RunsSafely where
  lines stack frames hframes texts seen hvisits :=
    h.inRange (h.keeps_validFrames.visits hvisits (StateStack.resolve_eq_ok h hframes).2.1)
  linesFault stack frames hframes number texts fault := h.foldLines_isTooDeep hframes
  session session hgrammar calls seen hvisits := by
    subst hgrammar
    have hstands : session.Stands session.grammar.ValidFrames :=
      fun _ hframes => (StateStack.resolve_eq_ok h hframes).2.1
    exact h.inRange (hvisits.keeps h h.keeps_validFrames (validFrames_nil _) hstands)
  sessionFault session hgrammar hstack calls call fault hfault := by
    subst hgrammar
    obtain ⟨frames, hframes⟩ := hstack
    obtain ⟨hafter, frames', hframes'⟩ := Session.exists_resolve_after h hframes calls
    rw [← hafter] at hframes'
    exact Session.call_isTooDeep hframes' hfault
  buffer buffer hreach line hline :=
    h.inRange (hreach.keeps h.keeps_validFrames (validFrames_nil _) line hline)
  bufferFault collect texts fault := ofLines_isTooDeep
  edit buffer hreach change draft hdraft seen hvisits :=
    h.inRange (h.keeps_validFrames.visits hvisits
      (hreach.keeps_startFrames h.keeps_validFrames (validFrames_nil _) hdraft))
  editFault buffer hreach change hadmissible fault := hreach.isTooDeep hadmissible

/-- A grammar that is made of a document represents it, and its runs are safe. -/
theorem compile_runsSafely {document : GrammarDocument} {fallbackName : String}
    (hcompile : compile document fallbackName = .ok grammar) :
    document.RepresentedBy grammar ∧ grammar.RunsSafely :=
  ⟨representedBy_of_compile hcompile, (wellFormed_of_compile hcompile).runsSafely⟩

/-- A session that was resumed inside of a word. -/
def wordSession : Session := ⟨sampleGrammar, ⟨["word"]⟩, 1⟩

/-- Two words are begun inside of it, and the next line ends the inner one. -/
theorem visits_wordSession : wordSession.Visits [.feed "<<", .feed ">"] [1, 1] := by
  have hframes : (wordSession.call (.feed "<<")).2.stack.resolve sampleGrammar = .ok [1, 1, 1] := by
    decide +kernel
  have hscan : (sampleGrammar.scan (some Limits.stackDepth) [1, 1, 1] ">" 2).frames = [1, 1] := by
    decide +kernel
  have hline : sampleGrammar.Visits [1, 1, 1] [">"] [1, 1] :=
    hscan ▸ .behind [1, 1, 1] ">" 2 []
  exact .later (.feed [] hframes hline)

theorem wordSession_inRange :
    compile sampleDocument "grammar" = .ok sampleGrammar ∧
      sampleDocument.RepresentedBy sampleGrammar ∧ sampleGrammar.RunsSafely ∧
        wordSession.Visits [.feed "<<", .feed ">"] [1, 1] ∧ sampleGrammar.InRange [1, 1] := by
  obtain ⟨hdocument, hsafe⟩ := compile_runsSafely compile_sampleDocument
  exact ⟨compile_sampleDocument, hdocument, hsafe, visits_wordSession,
    hsafe.session wordSession rfl _ _ visits_wordSession⟩

end Grammar
end LineLexer
