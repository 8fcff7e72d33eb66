import Mathlib.Data.List.Lex

/-!
# The first of several faults

A computation that makes many checks fails at the first one that is not passed. To say which one
that is, each fault has a place: a word of numbers, the outermost first, such as the number of a
state, of a rule in it and of a check of that rule. Places come in the order of words. A computation
`Reports` faults if it fails with the first of them and succeeds if there is none; this is put
together from the steps of the computation (`Reports.bind`, `Reports.mapM`), each step having its
own number in front of the places of its faults.
-/

namespace LineLexer

variable {ε α β : Type}

/-- Faults at places. -/
abbrev Faults (ε : Type) := List Nat → ε → Prop

namespace Faults

/-- The fault at a place before which there is none. -/
def First (faults : Faults ε) (fault : ε) : Prop :=
  ∃ place, faults place fault ∧
    ∀ earlier, List.Lex (· < ·) earlier place → ∀ other, ¬faults earlier other

/-- The faults of the step with a number, at their places within the step. -/
def ofStep (faults : Faults ε) (step : Nat) : Faults ε := fun place => faults (step :: place)

/-- The faults of the items of a list, each behind the number of its item. -/
def ofItems (items : List α) (faults : Nat → α → Faults ε) : Faults ε
  | [], _ => False
  | index :: place, fault => ∃ item, items[index]? = some item ∧ faults index item place fault

/-- The faults of all steps from a number on. -/
def fromStep (faults : Faults ε) (step : Nat) : Faults ε
  | [], _ => False
  | later :: place, fault => step ≤ later ∧ faults (later :: place) fault

variable {faults : Faults ε} {step : Nat} {fault : ε}

/-- If all faults are those of earlier steps, there is none from a step on. -/
theorem not_fromStep (h : ∀ earlier place fault, faults (earlier :: place) fault → earlier < step)
    (place : List Nat) (fault : ε) : ¬faults.fromStep step place fault := by
  intro hfault
  cases place with
  | nil => exact hfault
  | cons later place => exact absurd hfault.1 (Nat.not_le.mpr (h later place fault hfault.2))

/-- The first fault of a step is the first one from there on. -/
theorem First.of_ofStep (h : (faults.ofStep step).First fault) :
    (faults.fromStep step).First fault := by
  obtain ⟨place, hfault, hfirst⟩ := h
  refine ⟨step :: place, ⟨Nat.le_refl step, hfault⟩, fun earlier hearlier other hother => ?_⟩
  cases earlier with
  | nil => exact hother
  | cons later rest =>
    obtain ⟨hlater, hother⟩ := hother
    cases hearlier with
    | rel hlt => exact absurd hlater (Nat.not_le.mpr hlt)
    | cons hrest => exact hfirst rest hrest other hother

/-- If a step has no fault, the first one behind it is the first one from it on. -/
theorem First.of_fromStep (hstep : ∀ place fault, ¬faults.ofStep step place fault)
    (h : (faults.fromStep (step + 1)).First fault) : (faults.fromStep step).First fault := by
  obtain ⟨place, hfault, hfirst⟩ := h
  cases place with
  | nil => exact absurd hfault id
  | cons number place =>
    obtain ⟨hnumber, hfault⟩ := hfault
    refine ⟨number :: place, ⟨by omega, hfault⟩, fun earlier hearlier other hother => ?_⟩
    cases earlier with
    | nil => exact hother
    | cons later rest =>
      obtain ⟨hlater, hother⟩ := hother
      rcases Nat.lt_or_eq_of_le hlater with hlater | rfl
      · exact hfirst (later :: rest) hearlier other ⟨hlater, hother⟩
      · exact hstep rest other hother

/-- Of faults that differ in their places, there is one first. -/
theorem First.unique {other : ε} (hunique : ∀ place a b, faults place a → faults place b → a = b)
    (h : faults.First fault) (h' : faults.First other) : fault = other := by
  obtain ⟨place, hfault, hfirst⟩ := h
  obtain ⟨place', hother, hfirst'⟩ := h'
  have hplace : place = place' := by
    refine Std.Trichotomous.trichotomous (r := List.Lex (· < ·)) place place' (fun hlt => ?_)
      fun hlt => ?_
    · exact hfirst' place hlt fault hfault
    · exact hfirst place' hlt other hother
  exact hunique place fault other hfault (hplace ▸ hother)

end Faults

/-- A computation fails with the first of the faults, and if there is none it succeeds. -/
structure Reports (result : Except ε α) (faults : Faults ε) : Prop where
  error : ∀ fault, result = .error fault → faults.First fault
  ok : ∀ value, result = .ok value → ∀ place fault, ¬faults place fault

namespace Reports

variable {result : Except ε α} {faults : Faults ε} {step : Nat}

/-- Just the first fault is reported. -/
theorem eq_error_iff (h : Reports result faults)
    (hunique : ∀ place a b, faults place a → faults place b → a = b) (fault : ε) :
    result = .error fault ↔ faults.First fault := by
  refine ⟨h.error fault, fun hfirst => ?_⟩
  cases result with
  | ok value =>
    obtain ⟨place, hfault, -⟩ := hfirst
    exact absurd hfault (h.ok value rfl place fault)
  | error other => rw [hfirst.unique hunique (h.error other rfl)]

theorem exists_ok_iff (h : Reports result faults) :
    (∃ value, result = .ok value) ↔ ∀ place fault, ¬faults place fault := by
  constructor
  · rintro ⟨value, hvalue⟩
    exact h.ok value hvalue
  · intro hnone
    cases result with
    | ok value => exact ⟨value, rfl⟩
    | error fault =>
      obtain ⟨place, hfault, -⟩ := h.error fault rfl
      exact absurd hfault (hnone place fault)

/-- A single check: its fault, if it has one, is at the place of the check itself. -/
theorem check (h : ∀ place fault, faults place fault ↔ place = [] ∧ result = .error fault) :
    Reports result faults where
  error fault hfault := by
    refine ⟨[], (h [] fault).mpr ⟨rfl, hfault⟩, fun earlier hearlier => ?_⟩
    cases hearlier
  ok value hvalue place fault hfault := by
    rw [((h place fault).mp hfault).2] at hvalue
    cases hvalue

/-- A computation without a fault. -/
theorem pure (value : α) (h : ∀ place fault, ¬faults place fault) :
    Reports (.ok value : Except ε α) faults where
  error _ hfault := nomatch hfault
  ok _ _ := h

/-- One step, and the steps behind it. -/
theorem bind {next : α → Except ε β} (hstep : Reports result (faults.ofStep step))
    (hnext : ∀ value, result = .ok value → Reports (next value) (faults.fromStep (step + 1))) :
    Reports (result >>= next) (faults.fromStep step) := by
  cases result with
  | error fault =>
    refine ⟨fun other hother => ?_, fun value hvalue => nomatch hvalue⟩
    cases hother
    exact (hstep.error fault rfl).of_ofStep
  | ok value =>
    have hnone := hstep.ok value rfl
    refine ⟨fun fault hfault => ((hnext value rfl).error fault hfault).of_fromStep hnone,
      fun value' hvalue' place fault hfault => ?_⟩
    cases place with
    | nil => exact hfault
    | cons later place =>
      obtain ⟨hlater, hfault⟩ := hfault
      rcases Nat.lt_or_eq_of_le hlater with hlater | rfl
      · exact (hnext value rfl).ok value' hvalue' (later :: place) fault ⟨hlater, hfault⟩
      · exact hnone place fault hfault

/-- A step that cannot fail. -/
theorem bind_ok (h : Reports result faults) {next : α → Except ε β}
    (hnext : ∀ value, ∃ value', next value = .ok value') : Reports (result >>= next) faults := by
  cases result with
  | error fault =>
    refine ⟨fun other hother => ?_, fun value hvalue => nomatch hvalue⟩
    cases hother
    exact h.error fault rfl
  | ok value =>
    obtain ⟨value', hvalue'⟩ := hnext value
    have hbind : (Except.ok value >>= next) = .ok value' := hvalue'
    rw [hbind]
    exact pure value' (h.ok value rfl)

/-- A step that has failed. -/
theorem fail {fault : ε} (hstep : ∀ place other, faults.ofStep step place other ↔
    place = [] ∧ other = fault) : Reports (.error fault : Except ε α) (faults.fromStep step) where
  error other hother := by
    cases hother
    have hcheck : Reports (.error fault : Except ε α) (faults.ofStep step) :=
      check fun place other => by rw [hstep, Except.error.injEq, eq_comm (a := fault)]
    exact (hcheck.error fault rfl).of_ofStep
  ok _ hvalue := nomatch hvalue

/-- A step without a fault. -/
theorem skip (hstep : ∀ place fault, ¬faults.ofStep step place fault)
    (h : Reports result (faults.fromStep (step + 1))) : Reports result (faults.fromStep step) := by
  have hskip : Reports (.ok () : Except ε Unit) (faults.ofStep step) := pure () hstep
  show Reports (Except.ok () >>= fun _ : Unit => result) (faults.fromStep step)
  exact hskip.bind fun _ _ => h

/-- A step that only makes a check. -/
theorem ite {condition : Prop} [Decidable condition] {fault : ε} {next : Except ε α}
    (hstep : ∀ place other, faults.ofStep step place other ↔
      place = [] ∧ condition ∧ other = fault)
    (hnext : ¬condition → Reports next (faults.fromStep (step + 1))) :
    Reports (if condition then .error fault else next) (faults.fromStep step) := by
  by_cases h : condition
  · rw [if_pos h]
    exact fail fun place other => by rw [hstep, and_iff_right h]
  · rw [if_neg h]
    exact skip (fun place other hother => h ((hstep place other).mp hother).2.1) (hnext h)

theorem congr {others : Faults ε} (h : Reports result faults)
    (hiff : ∀ place fault, others place fault ↔ faults place fault) : Reports result others := by
  have heq : others = faults := by
    funext place fault
    exact propext (hiff place fault)
  rwa [heq]

/-- If every fault has a step, those from the first step on are all. -/
theorem of_fromStep (h : Reports result (faults.fromStep 0)) (hnil : ∀ fault, ¬faults [] fault) :
    Reports result faults := by
  have hfaults : faults.fromStep 0 = faults := by
    funext place fault
    cases place with
    | nil => exact propext ⟨False.elim, hnil fault⟩
    | cons step place => exact propext ⟨And.right, fun hfault => ⟨Nat.zero_le step, hfault⟩⟩
  rwa [← hfaults]

/-- A step behind which there is no other. -/
theorem last (h : Reports result (faults.ofStep step))
    (hend : ∀ place fault, ¬faults.fromStep (step + 1) place fault) :
    Reports result (faults.fromStep step) := by
  rw [← bind_pure result]
  exact h.bind fun value _ => pure value hend

/-- A walk over a list, each item being a step. -/
theorem mapM_fromStep {f : α → Except ε β} {items : List α}
    (hitem : ∀ index item, items[index]? = some item →
      Reports (f item) (faults.ofStep (step + index)))
    (hend : ∀ place fault, ¬faults.fromStep (step + items.length) place fault) :
    Reports (items.mapM f) (faults.fromStep step) := by
  induction items generalizing step with
  | nil =>
    rw [List.mapM_nil]
    exact pure [] hend
  | cons item items ih =>
    rw [List.mapM_cons]
    refine (hitem 0 item rfl).bind fun value _ => ?_
    refine (ih (fun index item hitem' => ?_) ?_).bind_ok fun values => ⟨_, rfl⟩
    · rw [Nat.add_assoc, Nat.add_comm 1]
      exact hitem (index + 1) item hitem'
    · rw [Nat.add_assoc, Nat.add_comm 1]
      exact hend

/-- A walk over a list reports the faults of its items. -/
theorem mapM {f : α → Except ε β} {items : List α} {faults : Nat → α → Faults ε}
    (hitem : ∀ index item, items[index]? = some item → Reports (f item) (faults index item)) :
    Reports (items.mapM f) (Faults.ofItems items faults) := by
  have hend (index : Nat) (place : List Nat) (fault : ε)
      (hfault : Faults.ofItems items faults (index :: place) fault) : index < 0 + items.length := by
    obtain ⟨item, hget, -⟩ := hfault
    have hlt := (List.getElem?_eq_some_iff.mp hget).1
    omega
  refine .of_fromStep (mapM_fromStep (fun index item hget => ?_) (Faults.not_fromStep hend))
    fun fault hfault => hfault
  refine (hitem index item hget).congr fun place fault => ?_
  show (∃ other, items[0 + index]? = some other ∧ _) ↔ _
  simp [hget]

/-- A walk over a list whose items bear their numbers. -/
theorem mapM_zipIdx {f : α × Nat → Except ε β} {items : List α} {faults : Nat → α → Faults ε}
    (hitem : ∀ index item, items[index]? = some item →
      Reports (f (item, index)) (faults index item)) :
    Reports (items.zipIdx.mapM f) (Faults.ofItems items faults) := by
  have hzip (index : Nat) (item : α × Nat) : items.zipIdx[index]? = some item ↔
      items[index]? = some item.1 ∧ item.2 = index := by
    obtain ⟨item, number⟩ := item
    rw [List.getElem?_zipIdx, Option.map_eq_some_iff]
    simp [eq_comm]
  have hwalk : Reports (items.zipIdx.mapM f)
      (Faults.ofItems items.zipIdx fun index item => faults index item.1) := by
    refine mapM fun index item hget => ?_
    obtain ⟨hget, rfl⟩ := (hzip index item).mp hget
    exact hitem item.2 item.1 hget
  refine hwalk.congr fun place fault => ?_
  cases place with
  | nil => exact Iff.rfl
  | cons index place =>
    constructor
    · rintro ⟨item, hget, hfault⟩
      exact ⟨(item, index), (hzip index _).mpr ⟨hget, rfl⟩, hfault⟩
    · rintro ⟨item, hget, hfault⟩
      exact ⟨item.1, ((hzip index item).mp hget).1, hfault⟩

end Reports
end LineLexer
