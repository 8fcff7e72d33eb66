/-!
# Faults of a pattern

Why a text is not the notation of a pattern, or why the pattern it notes down is not admitted.
-/

namespace LineLexer.Pattern

/-- The cause for which a pattern is refused. -/
inductive PatternError where
  | groupUnclosed
  | groupUnopened
  | groupNameInvalid
  | groupNameTwice (name : String)
  | lookaround
  | flagUnknown (flag : Char)
  | flagTwice (flag : Char)
  | flagsUnclosed
  | flagsDangling
  | nothingToRepeat
  | countUnclosed
  | countEmpty
  | countTooLarge
  | countReversed (min max : Nat)
  | classUnclosed
  | classRangeReversed (first last : Char)
  | classRangeEnd
  | classEscape
  | escapeUnfinished
  | escapeUnknown (escaped : Char)
  | backreference
  | hexDigit
  | hexEmpty
  | hexNoCharacter
  | wordEdgeUnclosed
  | wordEdgeUnknown (name : String)
  | propertyUnknown (name : String)
  /-- A Unicode class, or a character outside ASCII in a class, where Unicode is switched off. -/
  | unicodeOff
  /-- The expression could match part of a character. -/
  | partOfCharacter
  | nestedTooDeep
  | tooLarge
deriving DecidableEq, Repr

/-- What is wrong, in words. -/
def PatternError.message : PatternError → String
  | .groupUnclosed => "unclosed group"
  | .groupUnopened => "unopened group"
  | .groupNameInvalid => "invalid group name"
  | .groupNameTwice name => "duplicate group name " ++ name
  | .lookaround => "look-around is not supported"
  | .flagUnknown flag => "unrecognized flag " ++ flag.toString
  | .flagTwice flag => "duplicate flag " ++ flag.toString
  | .flagsUnclosed => "unfinished flags"
  | .flagsDangling => "dangling flag negation"
  | .nothingToRepeat => "repetition operator missing expression"
  | .countUnclosed => "unclosed counted repetition"
  | .countEmpty => "repetition quantifier expects a number"
  | .countTooLarge => "repetition count is too large"
  | .countReversed min max => s!"invalid repetition count range {min} to {max}"
  | .classUnclosed => "unclosed character class"
  | .classRangeReversed first last =>
    "invalid character class range " ++ first.toString ++ " to " ++ last.toString
  | .classRangeEnd => "invalid end of a character class range"
  | .classEscape => "invalid escape in a character class"
  | .escapeUnfinished => "unfinished escape"
  | .escapeUnknown escaped => "unrecognized escape " ++ escaped.toString
  | .backreference => "backreferences are not supported"
  | .hexDigit => "invalid hexadecimal digit"
  | .hexEmpty => "hexadecimal literal empty"
  | .hexNoCharacter => "hexadecimal literal is not a character"
  | .wordEdgeUnclosed => "unclosed word boundary"
  | .wordEdgeUnknown name => "unrecognized word boundary " ++ name
  | .propertyUnknown name => "unknown property " ++ name
  | .unicodeOff => "Unicode not allowed here"
  | .partOfCharacter => "pattern can match part of a character"
  | .nestedTooDeep => "exceeded the nesting limit"
  | .tooLarge => "compiled pattern exceeds size limit"

end LineLexer.Pattern
