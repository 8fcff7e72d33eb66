import LineLexer.Builtin.Languages
import LineLexer.SortedMap

/-!
# Registries

Grammars by name. A grammar is found under its own name and under the aliases that point at it; the
case of ASCII letters does not count.
-/

namespace LineLexer

/-- Grammars with their names, and aliases with the names they stand for, all in small letters. -/
structure Registry where
  grammars : SortedMap String Grammar
  aliases : SortedMap String String

namespace Registry

def empty : Registry := ⟨.empty, .empty⟩

/-- The form in which names are compared. -/
def key (name : String) : String := Text.lowercaseAscii name

/-- Puts a grammar under its own name, over an older one; an alias of that name gives way. -/
def register (registry : Registry) (grammar : Grammar) : Registry :=
  let name := key grammar.name
  ⟨registry.grammars.insert name grammar, registry.aliases.erase name⟩

/-- Lets one name stand for another one. -/
def addAlias (registry : Registry) (shorthand name : String) : Registry :=
  { registry with aliases := registry.aliases.insert (key shorthand) (key name) }

/-- The grammar under a name. Aliases go first, and an alias is followed once. -/
def find? (registry : Registry) (name : String) : Option Grammar :=
  let name := key name
  registry.grammars.find? ((registry.aliases.find? name).getD name)

def require (registry : Registry) (name : String) : Except GrammarError Grammar :=
  match registry.find? name with
  | some grammar => .ok grammar
  | none => .error (.languageUnknown name)

def names (registry : Registry) : List String := registry.grammars.keys

/-- The aliases that point at a name. -/
def aliasesOf (registry : Registry) (name : String) : List String :=
  registry.aliases.entries.filterMap fun (shorthand, target) =>
    if target = key name then some shorthand else none

def size (registry : Registry) : Nat := registry.grammars.size

def isEmpty (registry : Registry) : Bool := registry.grammars.isEmpty

/-- Adds a language with its aliases. -/
def addLanguage (registry : Registry) (language : Language) (grammar : Grammar) : Registry :=
  language.aliases.foldl (·.addAlias · language.name) (registry.register grammar)

end Registry

end LineLexer
