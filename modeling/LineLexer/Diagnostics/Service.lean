import LineLexer.Diagnostics.Event

/-!
# Services

A service lets the events through that are grave enough and hands them to its sink. A sink writes
lines or keeps the events of the recent past.
-/

namespace LineLexer.Diagnostics

/-- The most recent events, in the order in which they came. -/
structure MemoryLog where
  kept : Array Event
deriving DecidableEq, Repr

namespace MemoryLog

def empty : MemoryLog := ⟨#[]⟩

/-- Keeps one more event. Where there is no room for it, as many of the oldest ones go as there are
too many with it. -/
def push (log : MemoryLog) (event : Event) : MemoryLog :=
  if Limits.eventsKept ≤ log.kept.size then
    let excess := log.kept.size + 1 - Limits.eventsKept
    ⟨(log.kept.drop excess).push event⟩
  else ⟨log.kept.push event⟩

def events (log : MemoryLog) : List Event := log.kept.toList

end MemoryLog

/-- Where events go. -/
inductive Sink where
  | silent
  | memory (log : MemoryLog)
  /-- Lines of text. -/
  | console
  /-- Records, one on a line. -/
  | structured
deriving DecidableEq, Repr

/-- A sink behind a level. -/
structure Service where
  least : Level
  sink : Sink
deriving DecidableEq, Repr

namespace Service

/-- Hands an event on, if it is grave enough: the service after it, and the line it writes. -/
def handle (service : Service) (event : Event) : Service × Option String :=
  if !service.least.admits event.level then (service, none)
  else
    match service.sink with
    | .silent => (service, none)
    | .memory log => ({ service with sink := .memory (log.push event) }, none)
    | .console => (service, some event.display)
    | .structured => (service, some (Json.compact event.toDatum))

/-- The events that the service has kept. -/
def events (service : Service) : List Event :=
  match service.sink with
  | .memory log => log.events
  | _ => []

end Service

end LineLexer.Diagnostics
