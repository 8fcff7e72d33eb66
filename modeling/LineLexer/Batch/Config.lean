import LineLexer.Files.Path
import LineLexer.Limits
import LineLexer.Text.Lowercase

/-!
# Configuring a batch

Which files a batch takes, how many workers share them, and what a failure does.
-/

namespace LineLexer.Batch

open Files

/-- How a batch is run. -/
structure Config where
  maxThreads : Nat
  recursive : Bool
  /-- The extensions of the files to take, in small letters; none means every file. -/
  extensions : List String
  maxFiles : Option Nat
  /-- Each file is announced before it is read. -/
  progress : Bool
  /-- The first failure ends the batch. -/
  failFast : Bool
deriving DecidableEq, Repr

namespace Config

/-- Takes files with one more extension. Dots at its front do not count. -/
def withExtension (config : Config) (extension : String) : Config :=
  let bare := String.ofList (extension.toList.dropWhile (· = '.'))
  { config with extensions := config.extensions ++ [Text.lowercase bare] }

/-- The number of workers, within bounds. -/
def workers (config : Config) : Nat := max 1 (min config.maxThreads Limits.workers)

/-- The same but for the case of ASCII letters. -/
def sameExtension (a b : String) : Bool := Text.lowercaseAscii a = Text.lowercaseAscii b

/-- Whether the batch takes a file. -/
def accepts (config : Config) (path : Path) : Bool :=
  config.extensions.isEmpty ||
    path.extension?.any fun extension => config.extensions.any (sameExtension extension)

end Config

end LineLexer.Batch
