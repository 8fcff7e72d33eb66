/-!
# Durations

A length of time in whole seconds and nanoseconds.
-/

namespace LineLexer

/-- A length of time; there are less than a thousand million nanoseconds beside the seconds. -/
structure Duration where
  seconds : Nat
  nanoseconds : Nat
deriving DecidableEq, Repr

namespace Duration

def zero : Duration := ⟨0, 0⟩

def ofMillis (count : Nat) : Duration := ⟨count / 1000, count % 1000 * 1000000⟩

def ofMicros (count : Nat) : Duration := ⟨count / 1000000, count % 1000000 * 1000⟩

/-- The seconds as a floating-point number. -/
def inSeconds (duration : Duration) : Float :=
  Float.ofNat duration.seconds + Float.ofNat duration.nanoseconds / 1000000000.0

end Duration

end LineLexer
