import LineLexer.Limits

/-!
# Sharing out the files of a batch

The files are taken in chunks, and each chunk is cut into slices, one for each worker.
-/

namespace LineLexer.Batch

/-- Cuts a list into pieces of one size; the last one may be shorter. -/
def chunksOf {α : Type} (size : Nat) : List α → List (List α)
  | [] => []
  | x :: rest => (x :: rest.take (size - 1)) :: chunksOf size (rest.drop (size - 1))
termination_by items => items.length
decreasing_by simp only [List.length_drop, List.length_cons]; omega

/-- The quotient, rounded up. -/
def divUp (num den : Nat) : Nat := (num + den - 1) / den

/-- The greatest number of files in a chunk. -/
def chunkLimit : Nat := 50

/-- The number of files in a chunk: enough for every worker to get one slice of the whole, within
bounds. -/
def chunkSize (fileCount workers : Nat) : Nat := max 1 (min (divUp fileCount workers) chunkLimit)

/-- The slices of a chunk with the places at which they start, one for each worker for which something
is left. -/
def slices {α : Type} (workers : Nat) (chunk : List α) : List (Nat × List α) :=
  let share := divUp chunk.length workers
  ((List.range workers).takeWhile (· * share < chunk.length)).map fun worker =>
    (worker * share, (chunk.drop (worker * share)).take share)

end LineLexer.Batch
