/-!
# Paths

A path is a text that names a place in a tree of files. Slashes part its components; two paths with
the same components are the same, and paths stand in the order of their components.
-/

namespace LineLexer.Files

/-- A step of a path. -/
inductive Component where
  /-- The slash at the front of an absolute path. -/
  | root
  /-- A dot at the front of a path. -/
  | current
  /-- Two dots. -/
  | parent
  | name (text : String)
deriving DecidableEq, Repr

/-- A place in a tree of files, as it was written. -/
structure Path where
  text : String
deriving DecidableEq, Repr, Inhabited

namespace Component

/-- Texts in the order of the components: the root, the dot, the two dots, then the names. -/
def orderKey : Component → String
  | root => "0"
  | current => "1"
  | parent => "2"
  | name text => "3" ++ text

def name? : Component → Option String
  | name text => some text
  | _ => none

end Component

namespace Path

/-- The texts between the slashes. -/
def segments (path : Path) : List (List Char) := path.text.toList.splitOn '/'

def isAbsolute (path : Path) : Bool := path.text.toList.head? = some '/'

/-- Empty segments and dots are no steps, but a dot at the front of a path is one. -/
def components (path : Path) : List Component :=
  let steps := path.segments.filterMap fun segment =>
    if segment = [] || segment = ['.'] then none
    else if segment = ['.', '.'] then some Component.parent
    else some (.name (String.ofList segment))
  if path.isAbsolute then .root :: steps
  else if path.segments.head? = some ['.'] then .current :: steps
  else steps

/-- Lists that stand in the order of the paths. -/
def orderKey (path : Path) : List String := path.components.map Component.orderKey

def le (a b : Path) : Bool := keysLe a.orderKey b.orderKey
where
  keysLe : List String → List String → Bool
    | [], _ => true
    | _ :: _, [] => false
    | key :: keys, key' :: keys' => key < key' || (key == key' && keysLe keys keys')

/-- The name of the file or folder; a path that ends in dots has none. -/
def fileName? (path : Path) : Option String := path.components.getLast?.bind Component.name?

/-- A file's name cut at its last dot; a dot at the front of a name parts nothing. -/
def splitExtension (name : String) : String × Option String :=
  let (behind, rest) := name.toList.reverse.span (· != '.')
  match rest with
  | '.' :: c :: front =>
    (String.ofList (c :: front).reverse, some (String.ofList behind.reverse))
  | _ => (name, none)

def stem? (path : Path) : Option String := path.fileName?.map fun name => (splitExtension name).1

def extension? (path : Path) : Option String := path.fileName?.bind fun name =>
  (splitExtension name).2

/-- The place with a name under a path. -/
def child (path : Path) (name : String) : Path :=
  if path.text = "" || path.text.toList.getLast? = some '/' then ⟨path.text ++ name⟩
  else ⟨path.text ++ "/" ++ name⟩

end Path

end LineLexer.Files
