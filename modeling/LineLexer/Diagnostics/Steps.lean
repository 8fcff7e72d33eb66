import LineLexer.Diagnostics.Journal

/-!
# Work in steps

Work that tells events to the journal, or asks it for preferences, does so in steps. Without a break it
is a computation that tells events. But it may also be done by one of several workers, and then the
others take steps of their own in between.
-/

namespace LineLexer.Diagnostics

/-- Work that tells events and asks for the preferences for lines. -/
inductive Steps (α : Type) where
  | done (answer : α)
  | tell (event : Event) (rest : Steps α)
  | ask (rest : TokenizerPreferences → Steps α)

namespace Steps

variable {α β : Type}

/-- Goes on with the answer. -/
def bind (work : Steps α) (next : α → Steps β) : Steps β :=
  match work with
  | done answer => next answer
  | tell event rest => .tell event (rest.bind next)
  | ask rest => .ask fun choice => (rest choice).bind next

instance : Monad Steps where
  pure := done
  bind := bind

def note (event : Event) : Steps Unit := .tell event (.done ())

def noteAll (events : List Event) : Steps Unit := events.forM note

/-- The preferences for lines. -/
def preferences : Steps TokenizerPreferences := .ask .done

/-- Takes the next step. Work that is done stays as it is. -/
def step : Steps α → Logged (Steps α)
  | done answer => return done answer
  | tell event rest => do
    Diagnostics.note event
    return rest
  | ask rest => return rest (← tokenizerPreferences)

/-- Takes all steps without a break. -/
def run : Steps α → Logged α
  | done answer => return answer
  | tell event rest => do
    Diagnostics.note event
    rest.run
  | ask rest => do
    let choice ← tokenizerPreferences
    (rest choice).run

end Steps

end LineLexer.Diagnostics
