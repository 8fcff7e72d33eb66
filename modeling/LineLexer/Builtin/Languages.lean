import LineLexer.Builtin.Hlasm
import LineLexer.Builtin.Jcl
import LineLexer.Grammar.Compile
import LineLexer.Text.Lowercase

/-!
# Built-in languages

The grammars that are shipped with the library, found by name or alias in any case of letters.
-/

namespace LineLexer

/-- A language with a grammar of its own. -/
structure Language where
  name : String
  aliases : List String
  /-- The grammar's document, in TOML. -/
  source : String
  /-- What the document makes. -/
  grammar : Except GrammarError Grammar

namespace Language

/-- The language whose grammar a document writes down. -/
def ofSource (name : String) (aliases : List String) (source : String) : Language :=
  ⟨name, aliases, source, Grammar.ofToml source⟩

def hlasm : Language := ofSource "hlasm" ["assembly", "hlsm"] Builtin.hlasmSource

def jcl : Language := ofSource "jcl" [] Builtin.jclSource

def builtins : List Language := [hlasm, jcl]

/-- The name or an alias, ignoring the case of ASCII letters. -/
def named? (name : String) : Option Language :=
  let name := Text.lowercaseAscii name
  builtins.find? fun language => language.name = name || language.aliases.contains name

end Language

end LineLexer
