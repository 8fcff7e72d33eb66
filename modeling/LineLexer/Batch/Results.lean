import LineLexer.Batch.Error
import LineLexer.Decimal.Fixed
import LineLexer.Duration
import LineLexer.Files.Path

/-!
# Results of a batch

What became of each file of a batch, and the counts over them.
-/

namespace LineLexer.Batch

open Files

/-- Counts over one file that was tokenized. -/
structure FileStats where
  lines : Nat
  tokens : Nat
  /-- Tokens of the grammar's default kind. -/
  unmatched : Nat
  sizeBytes : Nat
  /-- The last line has left an empty stack. -/
  endsInitial : Bool
deriving DecidableEq, Repr

/-- What became of the files of a batch. -/
structure Results where
  successful : List (Path × FileStats)
  failed : List (Path × Failure)
  duration : Duration
  processed : Nat
  discovered : Nat
deriving DecidableEq, Repr

namespace Results

def empty : Results := ⟨[], [], .zero, 0, 0⟩

def addSuccess (results : Results) (path : Path) (stats : FileStats) : Results :=
  { results with
    successful := results.successful ++ [(path, stats)]
    processed := results.processed + 1 }

def addFailure (results : Results) (path : Path) (failure : Failure) : Results :=
  { results with
    failed := results.failed ++ [(path, failure)]
    processed := results.processed + 1 }

/-- Adds the outcome of one file. -/
def add (results : Results) (path : Path) : Except Failure FileStats → Results
  | .ok stats => results.addSuccess path stats
  | .error failure => results.addFailure path failure

/-- Adds the files of another batch behind those of this one. -/
def merge (results other : Results) : Results :=
  { results with
    successful := results.successful ++ other.successful
    failed := results.failed ++ other.failed
    processed := results.processed + other.processed }

/-- Puts the files in the order of their paths. -/
def sort (results : Results) : Results :=
  { results with
    successful := results.successful.mergeSort fun a b => Path.le a.1 b.1
    failed := results.failed.mergeSort fun a b => Path.le a.1 b.1 }

def successCount (results : Results) : Nat := results.successful.length

def failureCount (results : Results) : Nat := results.failed.length

def totalTokens (results : Results) : Nat :=
  (results.successful.map (·.2.tokens)).foldr (· + ·) 0

def totalUnmatched (results : Results) : Nat :=
  (results.successful.map (·.2.unmatched)).foldr (· + ·) 0

def totalBytes (results : Results) : Nat :=
  (results.successful.map (·.2.sizeBytes)).foldr (· + ·) 0

/-- The part of the processed files that went well. -/
def successRate (results : Results) : Float :=
  if results.processed = 0 then 0.0
  else Float.ofNat results.successCount / Float.ofNat results.processed

/-- The same in percent, with one decimal place. -/
def successPercent (results : Results) : String := Decimal.fixed 1 (results.successRate * 100.0)

/-- The duration in seconds, with two decimal places. -/
def durationText (results : Results) : String := Decimal.fixed 2 results.duration.inSeconds

/-- The totals are counted in words. -/
def totalsFit (results : Results) : Bool :=
  results.totalTokens < Limits.wordSize && results.totalUnmatched < Limits.wordSize

/-- The whole batch in one line; there is none if a total does not fit. -/
def summary? (results : Results) : Option String :=
  if results.totalsFit then
    some (s!"Batch tokenization completed: {results.processed} files processed, "
      ++ s!"{results.successCount} successful ({results.successPercent}%), "
      ++ s!"{results.failureCount} failed, {results.totalTokens} tokens "
      ++ s!"({results.totalUnmatched} unmatched), {results.durationText}s total")
  else none

end Results

end LineLexer.Batch
