import LineLexer.Batch.Run
import Mathlib.Data.List.Nodup
import Mathlib.Data.List.TakeWhile

/-!
# Every file goes to one worker

The files of a batch are cut into chunks and each chunk into slices, both with a quotient that is
rounded up. Put together again, the slices of all chunks are the list of the files, each under its
index in that list (`flatten_shares`).

What the workers do on a chunk is finished in some order. The orders that schedules lead to are those
in which each worker goes through its own slice from front to end (`exists_schedule_iff`), and
whatever the order is, every item is in it once (`Interleaves.perm`).
-/

namespace LineLexer.Batch

open Files

variable {α : Type}

/-! ## Chunks and slices -/

theorem jobsFrom_append (first : Nat) (front rest : List Path) :
    jobsFrom first (front ++ rest) = jobsFrom first front ++ jobsFrom (first + front.length) rest := by
  rw [jobsFrom, List.zipIdx_append, List.map_append]
  rfl

theorem map_path_jobsFrom (first : Nat) (paths : List Path) :
    (jobsFrom first paths).map Job.path = paths := by
  rw [jobsFrom, List.map_map]
  exact List.zipIdx_map_fst first paths

theorem le_mul_divUp {workers : Nat} (hworkers : 0 < workers) (count : Nat) :
    count ≤ workers * divUp count workers := by
  have hdiv := Nat.div_add_mod (count + workers - 1) workers
  have hmod := Nat.mod_lt (count + workers - 1) hworkers
  rw [divUp]
  omega

theorem takeWhile_concat {p : α → Bool} {last : α} (hlast : p last = false) (items : List α) :
    (items ++ [last]).takeWhile p = items.takeWhile p := by
  induction items with
  | nil => rw [List.nil_append, List.takeWhile_cons, hlast]; rfl
  | cons x rest ih => rw [List.cons_append, List.takeWhile_cons, List.takeWhile_cons, ih]

/-- The slices of the first workers are a front of the chunk. There is nothing left for a worker
whose slice would start behind the end, nor for those behind it. -/
theorem flatten_slices (first share count : Nat) (chunk : List Path) :
    (((List.range count).takeWhile (· * share < chunk.length)).map fun worker =>
        jobsFrom (first + worker * share) ((chunk.drop (worker * share)).take share)).flatten
      = jobsFrom first (chunk.take (count * share)) := by
  induction count with
  | zero =>
    rw [Nat.zero_mul, List.take_zero]
    rfl
  | succ count ih =>
    rw [List.range_succ, Nat.succ_mul]
    by_cases hleft : count * share < chunk.length
    · have hall : ∀ worker ∈ List.range (count + 1),
          decide (worker * share < chunk.length) = true := by
        intro worker hmem
        have hle : worker * share ≤ count * share :=
          Nat.mul_le_mul_right share (Nat.le_of_lt_succ (List.mem_range.mp hmem))
        exact decide_eq_true (Nat.lt_of_le_of_lt hle hleft)
      rw [List.range_succ] at hall
      rw [List.takeWhile_eq_self_iff.mpr fun worker hmem =>
        hall worker (List.mem_append_left _ hmem)] at ih
      rw [List.takeWhile_eq_self_iff.mpr hall, List.map_append, List.flatten_append, ih,
        List.take_add, jobsFrom_append, List.length_take_of_le (Nat.le_of_lt hleft)]
      exact congrArg _ (List.append_nil _)
    · have hstop := takeWhile_concat (p := fun worker => decide (worker * share < chunk.length))
        (decide_eq_false hleft) (List.range count)
      rw [hstop, ih, List.take_of_length_le (by omega), List.take_of_length_le (by omega)]

theorem flatten_workerJobs {workers : Nat} (hworkers : 0 < workers) (first : Nat)
    (chunk : List Path) : (workerJobs workers first chunk).flatten = jobsFrom first chunk := by
  rw [workerJobs, slices, List.map_map]
  refine (flatten_slices first (divUp chunk.length workers) workers chunk).trans ?_
  rw [List.take_of_length_le (le_mul_divUp hworkers chunk.length)]

/-- The last worker gets nothing: the others have taken more than an even part each. -/
example : slices 4 ["a", "b", "c", "d", "e", "f"]
    = [(0, ["a", "b"]), (2, ["c", "d"]), (4, ["e", "f"])] := by decide

/-- What each worker has to do on each chunk; the first chunk has the index `index`. -/
def sharesFrom (workers size : Nat) : (index : Nat) → List (List Path) → List (List (List Job))
  | _, [] => []
  | index, chunk :: rest =>
    workerJobs workers (index * size) chunk :: sharesFrom workers size (index + 1) rest

/-- What each worker has to do on each chunk of a batch. -/
def shares (workers : Nat) (found : List Path) : List (List (List Job)) :=
  let size := chunkSize found.length workers
  sharesFrom workers size 0 (chunksOf size found)

/-- What holds of the empty list, and of a list if it does so behind its first chunk, holds of all
lists. -/
theorem chunks_induction {size : Nat} (hsize : 0 < size) {motive : List α → Prop}
    (nil : motive [])
    (chunk : ∀ items, chunksOf size items = items.take size :: chunksOf size (items.drop size) →
      motive (items.drop size) → motive items)
    (items : List α) : motive items := by
  obtain ⟨size, rfl⟩ := Nat.exists_eq_add_of_lt hsize
  induction items using chunksOf.induct (0 + size + 1) with
  | case1 => exact nil
  | case2 item rest ih =>
    refine chunk (item :: rest) ?_ ?_
    · rw [chunksOf]
      simp
    · simpa using ih

/-- The jobs of a chunk and those behind it. A chunk that is not full is the last one. -/
theorem jobsFrom_take_append {size index : Nat} {found behind : List Path}
    (hlast : found.length < size → behind = []) :
    jobsFrom (index * size) (found.take size ++ behind)
      = jobsFrom (index * size) (found.take size) ++ jobsFrom ((index + 1) * size) behind := by
  rw [jobsFrom_append]
  by_cases hfull : size ≤ found.length
  · rw [List.length_take_of_le hfull, Nat.succ_mul]
  · rw [hlast (Nat.not_le.mp hfull)]
    rfl

theorem flatten_sharesFrom {workers size : Nat} (hworkers : 0 < workers) (hsize : 0 < size)
    (found : List Path) (index : Nat) :
    (sharesFrom workers size index (chunksOf size found)).flatten.flatten
      = jobsFrom (index * size) found := by
  induction found using chunks_induction hsize generalizing index with
  | nil =>
    rw [chunksOf]
    rfl
  | chunk found hchunks ih =>
    rw [hchunks, sharesFrom, List.flatten_cons, List.flatten_append, ih, flatten_workerJobs hworkers,
      ← jobsFrom_take_append fun hlast => List.drop_eq_nil_of_le (Nat.le_of_lt hlast),
      List.take_append_drop]

theorem chunkSize_pos (fileCount workers : Nat) : 0 < chunkSize fileCount workers :=
  Nat.lt_of_lt_of_le Nat.one_pos (Nat.le_max_left ..)

/-- Every file goes to one worker, under its index. -/
theorem flatten_shares {workers : Nat} (hworkers : 0 < workers) (found : List Path) :
    (shares workers found).flatten.flatten = jobsOf found := by
  have h := flatten_sharesFrom hworkers (chunkSize_pos found.length workers) found 0
  rwa [Nat.zero_mul] at h

/-! ## Orders of work -/

/-- Takes the next item of one slice. -/
def takeFrom {α : Type} : (worker : Nat) → List (List α) → Option (α × List (List α))
  | 0, (x :: slice) :: rest => some (x, slice :: rest)
  | worker + 1, slice :: rest => (takeFrom worker rest).map fun (x, rest) => (x, slice :: rest)
  | _, _ => none

/-- The order in which items are finished. The schedule names the worker that goes next; a worker
without anything left is passed over, and at the end of the schedule the workers finish one after
the other. -/
def interleave {α : Type} : (schedule : List Nat) → List (List α) → List α
  | [], slices => slices.flatten
  | worker :: schedule, slices =>
    match takeFrom worker slices with
    | some (x, slices) => x :: interleave schedule slices
    | none => interleave schedule slices

/-- An order in which the items of slices may be finished: whoever is next, items of one slice are
finished from front to end. -/
inductive Interleaves : List (List α) → List α → Prop
  | done {slices : List (List α)} (hnone : ∀ slice ∈ slices, slice = []) : Interleaves slices []
  | next {before after : List (List α)} {slice order : List α} {x : α}
      (hrest : Interleaves (before ++ slice :: after) order) :
      Interleaves (before ++ (x :: slice) :: after) (x :: order)

theorem takeFrom_eq_some {worker : Nat} {slices : List (List α)} {slice : List α} {x : α}
    (h : slices[worker]? = some (x :: slice)) :
    takeFrom worker slices = some (x, slices.set worker slice) := by
  induction slices generalizing worker with
  | nil => cases h
  | cons first others ih =>
    cases worker with
    | zero =>
      cases h
      rfl
    | succ worker =>
      rw [takeFrom, ih h]
      rfl

theorem takeFrom_eq_none {worker : Nat} {slices : List (List α)}
    (h : ∀ slice, slices[worker]? = some slice → slice = []) : takeFrom worker slices = none := by
  induction slices generalizing worker with
  | nil => cases worker <;> rfl
  | cons first others ih =>
    cases worker with
    | zero =>
      cases h first rfl
      rfl
    | succ worker =>
      rw [takeFrom, ih h]
      rfl

theorem takeFrom_append (before after : List (List α)) (slice : List α) (x : α) :
    takeFrom before.length (before ++ (x :: slice) :: after)
      = some (x, before ++ slice :: after) := by
  induction before with
  | nil => rfl
  | cons first before ih =>
    rw [List.length_cons, List.cons_append, takeFrom, ih]
    rfl

theorem eq_append_of_takeFrom {worker : Nat} {slices rest : List (List α)} {x : α}
    (htake : takeFrom worker slices = some (x, rest)) :
    ∃ before slice after,
      slices = before ++ (x :: slice) :: after ∧ rest = before ++ slice :: after := by
  induction slices generalizing worker rest with
  | nil => cases worker <;> cases htake
  | cons first others ih =>
    cases worker with
    | zero =>
      cases first with
      | nil => cases htake
      | cons y slice =>
        cases htake
        exact ⟨[], slice, others, rfl, rfl⟩
    | succ worker =>
      rw [takeFrom, Option.map_eq_some_iff] at htake
      obtain ⟨⟨y, rest'⟩, htake', heq⟩ := htake
      cases heq
      obtain ⟨before, slice, after, rfl, rfl⟩ := ih htake'
      exact ⟨first :: before, slice, after, rfl, rfl⟩

namespace Interleaves

variable {slices : List (List α)} {order : List α}

/-- Every item is finished once. -/
theorem perm (h : Interleaves slices order) : order.Perm slices.flatten := by
  induction h with
  | done hnone => rw [List.flatten_eq_nil_iff.mpr hnone]
  | @next before after slice order x hrest ih =>
    rw [List.flatten_append, List.flatten_cons] at ih ⊢
    exact (ih.cons x).trans List.perm_middle.symm

/-- One slice is changed, and those before and behind it stay as they are. -/
theorem map_update_append {ι : Type} [DecidableEq ι] {front back : List ι} {taken : ι}
    (hdistinct : (front ++ taken :: back).Nodup) (slice : ι → List α) (left : List α) :
    (front ++ taken :: back).map (Function.update slice taken left)
      = front.map slice ++ left :: back.map slice := by
  simp only [List.nodup_append, List.nodup_cons, List.mem_cons] at hdistinct
  obtain ⟨-, ⟨hback, -⟩, hfront⟩ := hdistinct
  rw [List.map_append, List.map_cons, Function.update_self]
  congr 1
  · refine List.map_congr_left fun other hother => Function.update_of_ne ?_ _ _
    exact hfront other hother taken (.inl rfl)
  · refine congrArg _ (List.map_congr_left fun other hother => Function.update_of_ne ?_ _ _)
    exact fun heq => hback (heq ▸ hother)

/-- If the items of each slice bear its name, the items with a name are the slice with that name, from
front to end. -/
theorem filter_eq {ι κ : Type} [DecidableEq ι] [DecidableEq κ] {items : List ι} {name : ι → κ}
    {slice : ι → List α} {key : α → κ} (hdistinct : (items.map name).Nodup)
    (hkey : ∀ item ∈ items, ∀ x ∈ slice item, key x = name item)
    (h : Interleaves (items.map slice) order) {item : ι} (hitem : item ∈ items) :
    order.filter (fun x => key x = name item) = slice item := by
  generalize hslices : items.map slice = slices at h
  induction h generalizing slice with
  | done hnone =>
    rw [hnone (slice item) (hslices ▸ List.mem_map_of_mem hitem)]
    rfl
  | @next before after left order x hrest ih =>
    -- the slice that `x` is taken from loses it, and the others stay as they are
    obtain ⟨front, back', rfl, hfront, hback⟩ := List.map_eq_append_iff.mp hslices
    obtain ⟨taken, back, rfl, htaken, hback⟩ := List.map_eq_cons_iff.mp hback
    have hmem : taken ∈ front ++ taken :: back := by simp
    have hleft : (front ++ taken :: back).map (Function.update slice taken left)
        = before ++ left :: after := by
      rw [map_update_append (hdistinct.of_map _), hfront, hback]
    have hkeys : ∀ other ∈ front ++ taken :: back,
        ∀ y ∈ Function.update slice taken left other, key y = name other := by
      intro other hother y hy
      by_cases heq : other = taken
      · subst heq
        rw [Function.update_self] at hy
        exact hkey other hother y (htaken ▸ List.mem_cons_of_mem x hy)
      · rw [Function.update_of_ne heq] at hy
        exact hkey other hother y hy
    have hname : key x = name taken := hkey taken hmem x (htaken ▸ List.mem_cons_self)
    rw [List.filter_cons, ih hkeys hleft, hname]
    by_cases heq : item = taken
    · subst heq
      simp [htaken]
    · have hne : name taken ≠ name item := fun hsame =>
        heq (List.inj_on_of_nodup_map hdistinct hitem hmem hsame.symm)
      simp [hne, Function.update_of_ne heq]

theorem cons_nil (h : Interleaves slices order) : Interleaves ([] :: slices) order := by
  induction h with
  | done hnone => exact .done (List.forall_mem_cons.mpr ⟨rfl, hnone⟩)
  | @next before after slice order x hrest ih =>
    rw [← List.cons_append] at ih ⊢
    exact .next ih

/-- The workers may finish one after the other. -/
theorem flatten (slices : List (List α)) : Interleaves slices slices.flatten := by
  induction slices with
  | nil => exact .done (List.forall_mem_nil _)
  | cons slice rest ih =>
    rw [List.flatten_cons]
    induction slice with
    | nil => exact ih.cons_nil
    | cons x slice ihSlice => exact @next α [] rest slice _ x ihSlice

/-- More items at the front of a slice are finished before all others. -/
theorem append_front {before after : List (List α)} {slice : List α} (items : List α)
    (h : Interleaves (before ++ slice :: after) order) :
    Interleaves (before ++ (items ++ slice) :: after) (items ++ order) := by
  induction items with
  | nil => exact h
  | cons x rest ih => exact .next ih

/-- Each item is replaced by some others. -/
theorem flatMap {β : Type} (h : Interleaves slices order) (f : α → List β) :
    Interleaves (slices.map (·.flatMap f)) (order.flatMap f) := by
  induction h with
  | done hnone =>
    refine .done fun slice hslice => ?_
    obtain ⟨slice, hmem, rfl⟩ := List.mem_map.mp hslice
    rw [hnone slice hmem, List.flatMap_nil]
  | @next before after slice order x hrest ih =>
    rw [List.map_append, List.map_cons] at ih ⊢
    exact ih.append_front (f x)

/-- Slices that are cut into pieces, the items of one piece behind those of the one before it. -/
theorem of_flatten {pieces : List (List (List α))}
    (h : Interleaves (pieces.map List.flatten) order) : Interleaves pieces.flatten order := by
  generalize hslices : pieces.map List.flatten = slices at h
  induction h generalizing pieces with
  | done hnone =>
    refine .done fun piece hpiece => ?_
    obtain ⟨cut, hcut, hmem⟩ := List.mem_flatten.mp hpiece
    have hnil := hnone cut.flatten (hslices ▸ List.mem_map_of_mem hcut)
    exact List.flatten_eq_nil_iff.mp hnil piece hmem
  | @next before after slice order x hrest ih =>
    obtain ⟨front, behind, rfl, rfl, hbehind⟩ := List.map_eq_append_iff.mp hslices
    obtain ⟨cut, back, rfl, hcut, rfl⟩ := List.map_eq_cons_iff.mp hbehind
    obtain ⟨empties, piece, others, rfl, hempties, rfl⟩ := List.flatten_eq_cons_iff.mp hcut
    have hcuts : (front ++ (empties ++ piece :: others) :: back).map List.flatten
        = front.map List.flatten ++ (piece ++ others.flatten) :: back.map List.flatten := by
      simp [List.flatten_eq_nil_iff.mpr hempties]
    have hrest' := ih hcuts
    simp only [List.flatten_append, List.flatten_cons, List.append_assoc, List.cons_append]
      at hrest' ⊢
    rw [← List.append_assoc] at hrest' ⊢
    exact .next hrest'

/-- One list of slices after the other. -/
theorem append {slices' : List (List α)} {order' : List α} (h : Interleaves slices order)
    (h' : Interleaves slices' order') : Interleaves (slices ++ slices') (order ++ order') := by
  induction h with
  | @done slices hnone =>
    induction slices with
    | nil => exact h'
    | cons slice rest ih =>
      obtain ⟨rfl, hrest⟩ := List.forall_mem_cons.mp hnone
      exact (ih hrest).cons_nil
  | @next before after slice order x hrest ih =>
    rw [List.append_assoc, List.cons_append] at ih ⊢
    exact .next ih

end Interleaves

theorem interleaves_interleave (schedule : List Nat) (slices : List (List α)) :
    Interleaves slices (interleave schedule slices) := by
  induction schedule generalizing slices with
  | nil => exact .flatten slices
  | cons worker schedule ih =>
    rw [interleave]
    cases htake : takeFrom worker slices with
    | none => exact ih slices
    | some taken =>
      obtain ⟨x, rest⟩ := taken
      obtain ⟨before, slice, after, rfl, rfl⟩ := eq_append_of_takeFrom htake
      exact .next (ih _)

/-- Schedules lead to all orders in which slices may be finished, and to no others. -/
theorem exists_schedule_iff {slices : List (List α)} {order : List α} :
    (∃ schedule, interleave schedule slices = order) ↔ Interleaves slices order := by
  constructor
  · rintro ⟨schedule, rfl⟩
    exact interleaves_interleave schedule slices
  · intro h
    induction h with
    | done hnone => exact ⟨[], List.flatten_eq_nil_iff.mpr hnone⟩
    | @next before after slice order x hrest ih =>
      obtain ⟨schedule, rfl⟩ := ih
      exact ⟨before.length :: schedule, by rw [interleave, takeFrom_append]⟩

end LineLexer.Batch
