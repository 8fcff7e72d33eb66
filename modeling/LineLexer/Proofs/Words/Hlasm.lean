import LineLexer.Builtin.Languages
import LineLexer.Proofs.Except
import LineLexer.Proofs.Pattern.Anchored

/-!
# The built-in grammar of the High Level Assembler

The grammar that the document of the language makes, with the program of each rule written as the
items that it looks for (`language_grammar`). The document is a long text, so it is read from its
characters, line by line.
-/

namespace LineLexer

open Pattern Unicode

/-! ## Lines and their characters -/

/-- The characters are those of the lines, each one with a line feed at its end. -/
def Spells (lines : List String) (chars : List Char) : Prop :=
  (String.join (lines.map (· ++ "\n"))).toList = chars

theorem Spells.nil : Spells [] [] := rfl

theorem Spells.cons {lines : List String} {rest : List Char} (line : List Char)
    (h : Spells lines rest) : Spells (String.ofList line :: lines) (line ++ '\n' :: rest) := by
  rw [Spells, String.toList_join] at h
  rw [Spells, String.toList_join, List.map_cons, List.flatMap_cons, h, String.toList_append,
    String.toList_ofList, List.append_assoc]
  rfl

namespace Hlasm

/-! ## Items of patterns -/

/-- The program of items one behind the other, bound to the place where it is tried. -/
def bound (items : List Expr) : Program := .ofExpr (Expr.seqs items).anchored

def char (c : Char) : Expr := .chars (.singleton c)

def oneOrMore (set : CharSet) : Expr := .loop (.chars set) 1 none true

def zeroOrMore (set : CharSet) : Expr := .loop (.chars set) 0 none true

def lineEnd : Expr := .look .textEnd

def blank : CharSet := Property.whiteSpace

/-- All characters but the given ones. -/
def allBut (chars : List Char) : CharSet := (CharSet.ofList chars).complement

def quoted : List Expr := [char '\'', oneOrMore (allBut ['\'']), char '\'']

/-- Letters, digits and the underscore of ASCII, with further characters. -/
def wordAnd (others : List Char) : CharSet := asciiWord.union (.ofList others)

def symbol : CharSet := wordAnd ['&', '#', '$', '@']

def operand : CharSet := wordAnd ['(', ')', '&', '#', '$', '@']

def continued : CharSet := wordAnd ['.', '/', '(', ')', '&', '#', '$', '@']

def value : CharSet := wordAnd ['-', '.', '/', '(', ')', '&', '#', '$', '@']

/-- The letters before a quoted number, in either case. The sign for Kelvin is a variant of `k`. -/
def numberLetter : CharSet :=
  .ofList ['k', 'K', '\u212A', 'l', 'L', 'd', 'D', 't', 'T', 'n', 'N']

/-- A number, given the characters behind its quote. -/
def number (digits : CharSet) : List Expr := [.chars numberLetter, char '\'', oneOrMore digits]

/-! ## The grammar -/

/-- A rule as the document has it, with the items that its pattern looks for. -/
structure Row where
  pattern : String
  items : List Expr
  kind : String
  next : Next
  lineStart : Bool := false

/-- The names of the states, in order. -/
def stateNames : List String := ["comment", "cont", "operands", "operator", "root", "value"]

namespace Row

/-- The same rule, for the start of a line only. -/
def atLineStart (row : Row) : Row := { row with lineStart := true }

def entry (row : Row) : RuleEntry := ⟨row.pattern, some row.kind, false, row.next, none⟩

def transition (row : Row) : Transition :=
  match row.next with
  | .stay => .stay
  | .push name => .push (stateNames.idxOf name) name
  | .pop => .pop
  | .popAll => .popAll

def rule (row : Row) : Rule :=
  ⟨row.pattern, bound row.items, row.lineStart, .token row.kind, row.transition⟩

end Row

/-- The rules of the states. -/
def table : List (String × List Row) := [
  ("comment", [⟨".*$", [zeroOrMore (allBut ['\n']), lineEnd], "comment", .popAll, false⟩]),
  ("cont", [
    ⟨"\\s*[X]$", [zeroOrMore blank, .chars (.ofList ['x', 'X']), lineEnd], "keyword", .pop, false⟩,
    ⟨"\\s+(?-u:[\\s\\./\\(\\)\\w&#$@])+$",
      [oneOrMore blank, oneOrMore (asciiSpace.union continued), lineEnd], "comment", .popAll, false⟩,
    ⟨"\\)\\s*$", [char ')', zeroOrMore blank, lineEnd], "default", .popAll, false⟩,
    ⟨"\\(", [char '('], "default", .push "operands", false⟩,
    ⟨"\\)", [char ')'], "default", .push "operands", false⟩,
    ⟨"'[^']+'\\s*", quoted ++ [zeroOrMore blank], "string", .push "cont", false⟩,
    ⟨"[kldtn]'(?-u:[\\(\\)\\w&#$@])+", number operand, "number", .push "cont", false⟩,
    ⟨"(?-u:[\\w&#$@])+=", [oneOrMore symbol, char '='], "variable.name", .push "value", false⟩,
    ⟨"(?-u:[\\./\\(\\)\\w&#$@])+$", [oneOrMore continued, lineEnd], "default", .popAll, false⟩,
    ⟨"(?-u:[\\./\\(\\)\\w&#$@])+", [oneOrMore continued], "default", .push "operands", false⟩]),
  ("operands", [
    ⟨"'[^']+'\\s*$", quoted ++ [zeroOrMore blank, lineEnd], "string", .popAll, false⟩,
    ⟨"\\s*$", [zeroOrMore blank, lineEnd], "default", .popAll, false⟩,
    ⟨",\\s*$", [char ',', zeroOrMore blank, lineEnd], "default", .popAll, false⟩,
    ⟨"(?-u:[\\(\\)\\w&#$@])+\\s*$", [oneOrMore operand, zeroOrMore blank, lineEnd], "default",
      .popAll, false⟩,
    ⟨",(?-u:[\\(\\)\\w&#$@])+\\s*$", [char ',', oneOrMore operand, zeroOrMore blank, lineEnd],
      "default", .popAll, false⟩,
    ⟨",\\s+[^X]*$", [char ',', oneOrMore blank, zeroOrMore (allBut ['x', 'X']), lineEnd],
      "comment", .popAll, false⟩,
    ⟨"\\s+(?-u:[\\(\\)\\s\\w&#$@])+\\s*$",
      [oneOrMore blank, oneOrMore (asciiSpace.union operand), zeroOrMore blank, lineEnd],
      "comment", .popAll, false⟩,
    ⟨",", [char ','], "default", .push "cont", false⟩,
    ⟨"[kldtn]'(?-u:[\\(\\)\\w&#$])+", number (wordAnd ['(', ')', '&', '#', '$']), "number",
      .push "cont", false⟩,
    ⟨"'[^']+'", quoted, "string", .push "cont", false⟩,
    ⟨"(?-u:[\\w&#$@])+=", [oneOrMore symbol, char '='], "variable.name", .push "value", false⟩]),
  ("operator", [
    ⟨"(?-u:[\\w&#$@])+\\s*$", [oneOrMore symbol, zeroOrMore blank, lineEnd], "keyword", .popAll,
      false⟩,
    ⟨"(?-u:[\\w&#$@])+\\s+", [oneOrMore symbol, oneOrMore blank], "keyword", .push "operands",
      false⟩]),
  ("root", [
    ⟨"^\\*.*$", [char '*', zeroOrMore (allBut ['\n']), lineEnd], "comment", .popAll, true⟩,
    ⟨"^(?-u:[\\w&#$@])+\\s+", [oneOrMore symbol, oneOrMore blank], "type", .push "operator", true⟩,
    ⟨"^[\\s]\x7b9\x7d", [.loop (.chars blank) 9 (some 9) true], "default", .push "operator", true⟩,
    ⟨"^[\\s]\x7b15\x7d", [.loop (.chars blank) 15 (some 15) true], "default", .push "operands",
      true⟩]),
  ("value", [
    ⟨"(?-u:[\\-\\./\\(\\)\\w&#$@])+$", [oneOrMore value, lineEnd], "default", .popAll, false⟩,
    ⟨"'[^']+'\\s*", quoted ++ [zeroOrMore blank], "string", .push "operands", false⟩,
    ⟨"[kldtn]'(?-u:[\\(\\)\\w&#$@])+", number operand, "number", .push "operands", false⟩,
    ⟨"(?-u:[\\-\\./\\(\\)\\w&#$@])+", [oneOrMore value], "default", .push "operands", false⟩])]

/-- The document of the language. -/
def document : GrammarDocument where
  name := some "hlasm"
  initial := "root"
  defaultToken := some "source"
  ignoreCase := true
  brackets := []
  states := .ofList (table.map fun state => (state.1, state.2.map Row.entry))

/-- The grammar that the document makes. -/
def grammar : Grammar where
  name := "hlasm"
  initial := 4
  states := table.map fun state => ⟨state.1, state.2.map Row.rule⟩
  index := Grammar.indexNames (table.map fun state => state.1)
  defaultKind := "source"
  ignoreCase := true
  brackets := []
  unreachable := ["comment"]

/-! ## From the text to the grammar -/

set_option maxRecDepth 10000 in
theorem ofToml_hlasmSource : GrammarDocument.ofToml Builtin.hlasmSource = .ok document := by
  have hread : ∃ chars, Spells Builtin.hlasmLines chars ∧ ∀ source : String,
      source.toList = chars → GrammarDocument.ofToml source = .ok document := by
    constructor
    constructor
    · repeat apply Spells.cons
      exact Spells.nil
    · intro source hsource
      rw [GrammarDocument.ofToml, Toml.parse, hsource]
      decide +kernel
  obtain ⟨chars, hspells, hread⟩ := hread
  exact hread _ hspells

/-- Each state is compiled on its own. -/
theorem compileState_table : ∀ state ∈ table,
    compileState document grammar.index state.1 (state.2.map Row.entry)
      = .ok ⟨state.1, state.2.map Row.rule⟩ := by
  unfold table
  iterate 6
    refine List.forall_mem_cons.mpr ⟨?_, ?_⟩
    · decide +kernel
  exact List.forall_mem_nil _

theorem compile_document : Grammar.compile document Grammar.unnamed = .ok grammar := by
  have hentries : document.states.entries
      = table.map fun state => (state.1, state.2.map Row.entry) := by
    decide +kernel
  have hindex : Grammar.indexNames document.states.keys = grammar.index := by
    rw [SortedMap.keys, hentries, List.map_map]
    rfl
  have hstates : document.states.entries.mapM
      (fun state => compileState document grammar.index state.1 state.2) = .ok grammar.states := by
    rw [hentries]
    show _ = Except.ok (table.map fun state => State.mk state.1 (state.2.map Row.rule))
    refine mapM_map_eq_ok ?_
    exact compileState_table
  unfold Grammar.compile
  dsimp only
  rw [hindex, hstates]
  decide +kernel

theorem language_grammar : Language.hlasm.grammar = .ok grammar := by
  show Grammar.ofToml Builtin.hlasmSource = .ok grammar
  rw [Grammar.ofToml]
  exact bind_eq_ok.mpr ⟨document, ofToml_hlasmSource, compile_document⟩

end Hlasm
end LineLexer
