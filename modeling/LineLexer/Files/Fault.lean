import LineLexer.Diagnostics.Code

/-!
# Faults of the file system

What the file system answers when it cannot do what it is asked for.
-/

namespace LineLexer.Files

open Diagnostics

/-- The kinds of faults that are told apart. -/
inductive FaultKind where
  | notFound
  | permissionDenied
  | invalidData
  | other
deriving DecidableEq, Repr

/-- The code under which a fault of a kind is reported. -/
def FaultKind.code : FaultKind → Code
  | .notFound => .fileNotFound
  | .permissionDenied => .permissionDenied
  | .invalidData => .invalidEncoding
  | .other => .readFailed

/-- A fault with its message. -/
structure Fault where
  kind : FaultKind
  message : String
deriving DecidableEq, Repr

namespace Fault

def noSuchFile : Fault := ⟨.notFound, "No such file or directory (os error 2)"⟩

/-- A name in the middle of a path belongs to a file. -/
def notADirectory : Fault := ⟨.other, "Not a directory (os error 20)"⟩

def isADirectory : Fault := ⟨.other, "Is a directory (os error 21)"⟩

def nameTooLong : Fault := ⟨.other, "File name too long (os error 36)"⟩

def permissionDenied : Fault := ⟨.permissionDenied, "Permission denied (os error 13)"⟩

/-- A path that holds a zero byte names nothing. -/
def zeroByte : Fault := ⟨.other, "file name contained an unexpected NUL byte"⟩

/-- The bytes of a file are no text. -/
def notText : Fault := ⟨.invalidData, "stream did not contain valid UTF-8"⟩

/-- Goes on unless there is a fault. -/
def raise? : Option Fault → Except Fault Unit
  | some fault => .error fault
  | none => .ok ()

end Fault

end LineLexer.Files
