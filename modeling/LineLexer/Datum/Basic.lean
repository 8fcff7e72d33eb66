/-!
# Data

The tree that a document in TOML or JSON writes down, and how the parts of a record are taken out
of it. A reader produces the tree, a decoder checks that it has the shape of a domain type; the two
formats differ in what a decoder lets pass, which `Shape` records.
-/

namespace LineLexer

/-- A tree of data. A record keeps its fields in the order of the document, repeated ones too; a
number keeps its text. What a document may hold but no field takes, such as a date or a string that
is no Unicode text, is `foreign`. -/
inductive Datum where
  | null
  | foreign
  | boolean (value : Bool)
  | number (literal : String)
  | text (value : String)
  | list (items : List Datum)
  | record (fields : List (String × Datum))
deriving Repr, Inhabited

/-- Why a tree of data does not have the shape of a value. -/
inductive DecodeError where
  | unexpected (expected : String)
  | fieldMissing (name : String)
  | fieldUnknown (name : String)
  | fieldTwice (name : String)
  | itemsLeft
  | variantUnknown (name : String)
deriving DecidableEq, Repr

def DecodeError.message : DecodeError → String
  | .unexpected expected => "invalid type: expected " ++ expected
  | .fieldMissing name => "missing field " ++ name
  | .fieldUnknown name => "unknown field " ++ name
  | .fieldTwice name => "duplicate field " ++ name
  | .itemsLeft => "trailing items"
  | .variantUnknown name => "unknown variant " ++ name

namespace Datum

def ofNat (n : Nat) : Datum := .number (toString n)

/-- A record without the fields that have no value. -/
def recordOf (fields : List (String × Option Datum)) : Datum :=
  .record (fields.filterMap fun (name, value) => value.map (name, ·))

def textOrNull : Option String → Datum
  | some value => .text value
  | none => .null

/-! ## Decoding -/

/-- What a format lets pass beside the plain shape of a value. -/
structure Shape where
  /-- A record written as a list may have more items than the record has fields. -/
  itemsMayBeLeft : Bool
  /-- What may be written as the content of a variant that has none. -/
  isNothing : Datum → Bool

/-- In JSON a variant without content may be written with a null as its content. -/
def Shape.json : Shape where
  itemsMayBeLeft := false
  isNothing
    | .null => true
    | _ => false

/-- In TOML a variant without content may be written with an empty table or array as its content,
and a table written as an array may go on. -/
def Shape.toml : Shape where
  itemsMayBeLeft := true
  isNothing
    | .list [] | .record [] => true
    | _ => false

def asText : Datum → Except DecodeError String
  | .text value => .ok value
  | _ => .error (.unexpected "a string")

def asBoolean : Datum → Except DecodeError Bool
  | .boolean value => .ok value
  | _ => .error (.unexpected "a boolean")

def asList : Datum → Except DecodeError (List Datum)
  | .list items => .ok items
  | _ => .error (.unexpected "a sequence")

def asRecord : Datum → Except DecodeError (List (String × Datum))
  | .record fields => .ok fields
  | _ => .error (.unexpected "a map")

/-- Reads a null as no value. -/
def asOption {α : Type} (read : Datum → Except DecodeError α) : Datum → Except DecodeError (Option α)
  | .null => .ok none
  | datum => (read datum).map some

/-- Reads a whole number without sign, fraction or exponent that is below a bound. -/
def asNat (bound : Nat) : Datum → Except DecodeError Nat
  | .number literal =>
    match literal.toList with
    | [] => .error (.unexpected "an integer")
    | digits =>
      if !digits.all Char.isDigit then .error (.unexpected "an integer")
      else
        let value := digits.foldl (fun value c => 10 * value + (c.toNat - '0'.toNat)) 0
        if value < bound then .ok value else .error (.unexpected "an integer in range")
  | _ => .error (.unexpected "an integer")

/-- The values of a record's fields, in the order of `names`. The record may also be written as the
list of its values. A field may not be given twice; one that `names` does not hold is passed over
unless `strict`. -/
def fields (shape : Shape) (strict : Bool) (names : List String) :
    Datum → Except DecodeError (List (Option Datum))
  | .record fields => do
    for (name, _) in fields do
      if names.contains name then
        if 1 < (fields.filter (·.1 == name)).length then throw (.fieldTwice name)
      else if strict then throw (.fieldUnknown name)
    return names.map fun name => (fields.find? (·.1 == name)).map (·.2)
  | .list items =>
    if names.length < items.length && !shape.itemsMayBeLeft then .error .itemsLeft
    else .ok ((List.range names.length).map (items[·]?))
  | _ => .error (.unexpected "a struct")

/-- The value of a field that has to be given. -/
def required {α : Type} (name : String) (read : Datum → Except DecodeError α) :
    Option Datum → Except DecodeError α
  | some datum => read datum
  | none => .error (.fieldMissing name)

/-- The value of a field that may be left out. -/
def withDefault {α : Type} (value : α) (read : Datum → Except DecodeError α) :
    Option Datum → Except DecodeError α
  | some datum => read datum
  | none => .ok value

/-- The name and the content of a variant; a variant may stand by its name alone. -/
def asVariant : Datum → Except DecodeError (String × Option Datum)
  | .text name => .ok (name, none)
  | .record [(name, content)] => .ok (name, some content)
  | _ => .error (.unexpected "a variant")

/-- Checks that a variant without content has none. -/
def noContent (shape : Shape) : Option Datum → Except DecodeError Unit
  | none => .ok ()
  | some content =>
    if shape.isNothing content then .ok () else .error (.unexpected "a variant without content")

end Datum

end LineLexer
