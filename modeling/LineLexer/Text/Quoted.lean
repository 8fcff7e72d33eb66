import LineLexer.Unicode.NextEdition

/-!
# Quoted text

Text is shown between double quotes so that every character of it can be told: control characters,
marks that would combine with what stands before them and other characters without a shape of their
own are written by their numbers.
-/

namespace LineLexer.Text

open Unicode

/-- The number of a character in hexadecimal digits, within braces. -/
def escapeNumber (c : Char) : List Char :=
  "\\u\x7b".toList ++ Nat.toDigits 16 c.toNat ++ ['\x7d']

/-- A character as it stands between the quotes `quotes`. -/
def escapeChar (quotes : List Char) (c : Char) : List Char :=
  match c with
  | '\x00' => ['\\', '0']
  | '\t' => ['\\', 't']
  | '\r' => ['\\', 'r']
  | '\n' => ['\\', 'n']
  | '\\' => ['\\', '\\']
  | c =>
    if quotes.contains c then ['\\', c]
    else if NextEdition.graphemeExtend.contains c || !NextEdition.printable.contains c then
      escapeNumber c
    else [c]

/-- A text between double quotes. -/
def quoted (text : String) : String :=
  "\"" ++ String.ofList (text.toList.flatMap (escapeChar ['"'])) ++ "\""

/-- A character without quotes around it, safe between quotes of both kinds. -/
def escaped (c : Char) : String := String.ofList (escapeChar ['\'', '"'] c)

end LineLexer.Text
