/-!
# Limits

The bounds that every part of the library keeps to.
-/

namespace LineLexer.Limits

/-! ## Grammars -/

def statesPerGrammar : Nat := 256

def rulesPerState : Nat := 512

/-- The length of a pattern, in bytes. -/
def patternLength : Nat := 4096

/-! ## Tokens -/

/-- The greatest number of frames on a stack of states. -/
def stackDepth : Nat := 100

/-- The length of a line, in bytes, up to which it is taken apart. -/
def lineLength : Nat := 20000

/-! ## Files -/

/-- The size of a file, in bytes. -/
def fileSize : Nat := 10485760

/-- A file of more bytes than this is a large one. -/
def largeFile : Nat := 1048576

def linesPerFile : Nat := 200000

/-! ## Batches -/

def workers : Nat := 16

def filesPerBatch : Nat := 10000

/-! ## Events -/

/-- The number of events that are kept in memory. -/
def eventsKept : Nat := 10000

/-- The number of events that are collected for one file. -/
def eventsPerFile : Nat := 1000

/-- The length of a message, in bytes. -/
def messageLength : Nat := 10000

/-! ## Words of the machine -/

/-- Offsets and sizes are below this bound. -/
def wordSize : Nat := 18446744073709551616

/-- Line and column numbers are below this bound. -/
def numberSize : Nat := 4294967296

end LineLexer.Limits
