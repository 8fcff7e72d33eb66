import LineLexer.Proofs.Diagnostics.Steps
import LineLexer.Tokenize.Tell

/-!
# Telling changes no answer

A run tells of lines and buffers on the way. Whatever the journal holds, the answers are those of
the functions that tell nothing.
-/

namespace LineLexer

open Diagnostics

theorem Grammar.tokenizeLineAtLogged_answer (grammar : Grammar) (stack : StateStack)
    (line : String) (number : Nat) (journal : Journal) :
    ((grammar.tokenizeLineAtLogged stack line number).run journal).1
      = grammar.tokenizeLineAt stack line number := by
  rw [tokenizeLineAtLogged, tokenizeLineAt]
  cases stack.resolve grammar <;> rfl

theorem Session.feedLogged_answer (session : Session) (line : String) (journal : Journal) :
    ((session.feedLogged line).run journal).1 = session.feed line := by
  rw [feed, ← Grammar.tokenizeLineAtLogged_answer _ _ _ _ journal, feedLogged, answer_bind]
  rfl

namespace Buffer

/-- Counts are collected if the preferences ask for them. -/
theorem ofLinesLogged_answer (grammar : Grammar) (texts : List String)
    (choice : TokenizerPreferences) :
    (ofLinesLogged grammar texts).answer choice = ofLines grammar choice.collectMetrics texts := by
  rw [ofLinesLogged, Steps.answer_bind, Steps.answer_bind, Steps.answer_preferences, ofLines]
  cases ofScans grammar choice.collectMetrics (grammar.scanLines texts) with
  | error fault => rfl
  | ok buffer => exact Steps.answer_bind _ _

theorem editLogged_answer (buffer : Buffer) (change : Edit) (journal : Journal) :
    ((buffer.editLogged change).run journal).1 = buffer.edit change := by
  rw [editLogged, edit]
  cases buffer.draft change with
  | error fault => rfl
  | ok draft =>
    dsimp only
    rw [answer_bind]
    obtain ⟨result, after⟩ := buffer.commit draft (draft.rescan buffer.grammar)
    cases result <;> rfl

end Buffer
end LineLexer
