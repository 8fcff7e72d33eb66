import LineLexer.Diagnostics.Service
import LineLexer.Proofs.Except
import Mathlib.Data.List.Induction

/-!
# The recent past

A service that keeps events in memory has the last ones of those that are grave enough, in the order in
which they came, as many as there is room for (`Service.events_handleAll`). What carries this is that
the log is always the end of all such events (`MemoryLog.Holds`): an event that is pushed goes to the
end, and what is taken off at the front is the oldest one. The steps of a push are also written out with
all that can go wrong in them (`MemoryLog.pushInSteps`): a number is taken from another one, and the
events to be removed have to be there. Neither fails while a service runs (`Service.handleAllInSteps_eq`).
-/

namespace LineLexer.Diagnostics

/-! ## Levels -/

/-- The levels that are at least as grave as one. -/
def Level.orGraver : Level → List Level
  | .error => [.error]
  | .warning => [.error, .warning]
  | .info => [.error, .warning, .info]
  | .debug => [.error, .warning, .info, .debug]

theorem Level.admits_iff (least level : Level) :
    least.admits level = true ↔ level ∈ least.orGraver := by
  cases least <;> cases level <;> decide

/-! ## The log -/

/-- A step of a push that has no answer. -/
inductive PushFault where
  /-- The number to be taken away is the greater one. -/
  | difference
  /-- There are fewer events than are to be removed. -/
  | removal
deriving DecidableEq, Repr

theorem eventsKept_pos : 0 < Limits.eventsKept := by decide

theorem toList_drop {α : Type} (xs : Array α) (count : Nat) :
    (xs.drop count).toList = xs.toList.drop count := by
  rw [Array.drop, Array.toList_extract, List.extract_eq_take_drop, ← Array.length_toList]
  exact List.take_of_length_le (Nat.le_of_eq List.length_drop)

namespace MemoryLog

variable {log : MemoryLog} {told : List Event}

/-- The log has the last ones of the events that it was told. -/
def Holds (log : MemoryLog) (told : List Event) : Prop :=
  log.kept.toList = told.drop (told.length - Limits.eventsKept)

theorem holds_empty : empty.Holds [] := rfl

theorem Holds.size (h : log.Holds told) : log.kept.size = min told.length Limits.eventsKept := by
  rw [← Array.length_toList, h, List.length_drop]
  omega

/-- One more event is kept, and it drives out the oldest one if there was no room. -/
theorem Holds.push (h : log.Holds told) (event : Event) : (log.push event).Holds (told ++ [event]) := by
  have hsize := h.size
  have hroom := eventsKept_pos
  have hdrop : (told ++ [event]).drop (told.length + 1 - Limits.eventsKept)
      = told.drop (told.length + 1 - Limits.eventsKept) ++ [event] :=
    List.drop_append_of_le_length (by omega)
  unfold Holds MemoryLog.push
  rw [List.length_append, List.length_singleton, hdrop]
  by_cases hfull : Limits.eventsKept ≤ log.kept.size
  · have hone : log.kept.size + 1 - Limits.eventsKept = 1 := by omega
    have hcut : told.length - Limits.eventsKept + 1 = told.length + 1 - Limits.eventsKept := by omega
    rw [if_pos hfull, hone, Array.toList_push, toList_drop, h, List.drop_drop, hcut]
  · have hall : told.length - Limits.eventsKept = told.length + 1 - Limits.eventsKept := by omega
    rw [if_neg hfull, Array.toList_push, h, hall]

/-- The events of a log are the last ones, in the order in which they came. -/
theorem Holds.events_suffix (h : log.Holds told) : log.events <:+ told := by
  rw [events, h]
  exact List.drop_suffix _ _

theorem Holds.length_events (h : log.Holds told) :
    log.events.length = min told.length Limits.eventsKept := by
  rw [events, Array.length_toList, h.size]

/-! ## A push in steps -/

def difference (number less : Nat) : Except PushFault Nat :=
  if less ≤ number then .ok (number - less) else .error .difference

/-- Removes events at the front. -/
def removeFirst (count : Nat) (events : Array Event) : Except PushFault (Array Event) :=
  if count ≤ events.size then .ok (events.drop count) else .error .removal

theorem difference_of_le {number less : Nat} (h : less ≤ number) :
    difference number less = .ok (number - less) := if_pos h

theorem removeFirst_of_le {count : Nat} {events : Array Event} (h : count ≤ events.size) :
    removeFirst count events = .ok (events.drop count) := if_pos h

/-- Keeps one more event step by step. -/
def pushInSteps (log : MemoryLog) (event : Event) : Except PushFault MemoryLog := do
  if Limits.eventsKept ≤ log.kept.size then
    let excess ← difference (log.kept.size + 1) Limits.eventsKept
    let rest ← removeFirst excess log.kept
    return ⟨rest.push event⟩
  else return ⟨log.kept.push event⟩

/-- The steps come to the push, whatever the log holds. -/
theorem pushInSteps_eq (log : MemoryLog) (event : Event) :
    log.pushInSteps event = .ok (log.push event) := by
  have hroom := eventsKept_pos
  unfold pushInSteps MemoryLog.push
  by_cases hfull : Limits.eventsKept ≤ log.kept.size
  · have hless : Limits.eventsKept ≤ log.kept.size + 1 := by omega
    have hcount : log.kept.size + 1 - Limits.eventsKept ≤ log.kept.size := by omega
    rw [if_pos hfull, if_pos hfull, difference_of_le hless, ok_bind, removeFirst_of_le hcount,
      ok_bind]
    rfl
  · rw [if_neg hfull, if_neg hfull]
    rfl

end MemoryLog

/-! ## The service -/

namespace Service

/-- The service after events. -/
def handleAll (service : Service) (events : List Event) : Service :=
  events.foldl (fun service event => (service.handle event).1) service

/-- The events that are at least as grave as the level asks for. -/
def admitted (least : Level) (events : List Event) : List Event :=
  events.filter fun event => event.level ∈ least.orGraver

theorem handleAll_concat (service : Service) (events : List Event) (event : Event) :
    service.handleAll (events ++ [event]) = ((service.handleAll events).handle event).1 := by
  unfold handleAll
  rw [List.foldl_append]
  rfl

theorem admitted_concat (least : Level) (events : List Event) (event : Event) :
    admitted least (events ++ [event])
      = admitted least events ++ if least.admits event.level then [event] else [] := by
  unfold admitted
  rw [List.filter_append]
  by_cases h : least.admits event.level = true
  · simp [h, (Level.admits_iff least event.level).mp h]
  · simp [h, mt (Level.admits_iff least event.level).mpr h]

/-- A service over memory stays one, and its log has the last ones of the events let through. -/
theorem exists_log_handleAll (least : Level) (events : List Event) : ∃ log : MemoryLog,
    handleAll ⟨least, .memory .empty⟩ events = ⟨least, .memory log⟩ ∧
      log.Holds (admitted least events) := by
  induction events using List.reverseRecOn with
  | nil => exact ⟨.empty, rfl, MemoryLog.holds_empty⟩
  | append_singleton events event ih =>
    obtain ⟨log, hrun, hlog⟩ := ih
    rw [handleAll_concat, hrun, admitted_concat]
    by_cases h : least.admits event.level = true
    · refine ⟨log.push event, ?_, ?_⟩
      · simp [handle, h]
      · rw [if_pos h]
        exact hlog.push event
    · refine ⟨log, ?_, ?_⟩
      · simp [handle, h]
      · rw [if_neg h, List.append_nil]
        exact hlog

theorem handleAll_silent (least : Level) (events : List Event) :
    handleAll ⟨least, .silent⟩ events = ⟨least, .silent⟩ := by
  induction events using List.reverseRecOn with
  | nil => rfl
  | append_singleton events event ih =>
    rw [handleAll_concat, ih]
    unfold handle
    split <;> rfl

/-! ## The service in steps -/

/-- Hands an event on, with the steps of a push written out. -/
def handleInSteps (service : Service) (event : Event) : Except PushFault Service :=
  if !service.least.admits event.level then .ok service
  else
    match service.sink with
    | .memory log => do return { service with sink := .memory (← log.pushInSteps event) }
    | _ => .ok service

/-- The service after events, none of which may meet a fault. -/
def handleAllInSteps (service : Service) : List Event → Except PushFault Service
  | [] => .ok service
  | event :: events => do (← service.handleInSteps event).handleAllInSteps events

theorem handleInSteps_eq (service : Service) (event : Event) :
    service.handleInSteps event = .ok (service.handle event).1 := by
  obtain ⟨least, sink⟩ := service
  unfold handleInSteps handle
  split
  · rfl
  · cases sink with
    | memory log =>
      simp only [MemoryLog.pushInSteps_eq, bind, Except.bind]
      rfl
    | silent => rfl
    | console => rfl
    | structured => rfl

/-- No step of a run fails, and the run comes to the service after the events. -/
theorem handleAllInSteps_eq (service : Service) (events : List Event) :
    service.handleAllInSteps events = .ok (service.handleAll events) := by
  induction events generalizing service with
  | nil => rfl
  | cons event events ih =>
    rw [handleAllInSteps, handleInSteps_eq]
    exact ih _

/-- Of the events so far that are grave enough, a service over memory has the last ones, as many as
there is room for, in the order in which they came; no step on the way fails. A silent service stays as
it is and has none. -/
theorem events_handleAll (least : Level) (events : List Event) :
    (handleAll ⟨least, .memory .empty⟩ events).events <:+ admitted least events ∧
      (handleAll ⟨least, .memory .empty⟩ events).events.length
        = min (admitted least events).length Limits.eventsKept ∧
      handleAllInSteps ⟨least, .memory .empty⟩ events
        = .ok (handleAll ⟨least, .memory .empty⟩ events) ∧
      handleAll ⟨least, .silent⟩ events = ⟨least, .silent⟩ ∧
      (handleAll ⟨least, .silent⟩ events).events = [] := by
  obtain ⟨log, hrun, hlog⟩ := exists_log_handleAll least events
  rw [handleAllInSteps_eq, hrun, handleAll_silent]
  exact ⟨hlog.events_suffix, hlog.length_events, rfl, rfl, rfl⟩

end Service
end LineLexer.Diagnostics
