import LineLexer.Unicode.CharSet

/-!
# Named sets

Sets of characters go by names. Names are compared loosely, by their letters, digits and points
alone.
-/

namespace LineLexer.Unicode

/-- The letters, digits and signs of a name in small letters, without a leading `is`; the one name that
this would shorten to a single letter of another meaning, `isc`, stays whole. -/
def looseName (name : List Char) : List Char :=
  let (led, rest) : Bool × List Char := match name with
    | 'i' :: 's' :: rest | 'I' :: 's' :: rest | 'i' :: 'S' :: rest | 'I' :: 'S' :: rest => (true, rest)
    | _ => (false, name)
  let kept := (rest.filter fun c => c.toNat < 128 && c != ' ' && c != '_' && c != '-').map Char.toLower
  if led && kept == ['c'] then ['i', 's', 'c'] else kept

/-- A set of characters with its loose names. -/
structure NamedSet where
  names : List String
  chars : CharSet

/-- The set that bears the given loose name in a list. -/
def NamedSet.find? (sets : List NamedSet) (name : List Char) : Option CharSet :=
  (sets.find? (·.names.contains (String.ofList name))).map (·.chars)

end LineLexer.Unicode
