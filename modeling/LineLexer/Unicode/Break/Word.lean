import LineLexer.Unicode.NamedSet
import LineLexer.Unicode.Property
import LineLexer.Unicode.Script

/-!
# Breaks between words

The classes by which a text is parted into words.
-/

namespace LineLexer.Unicode.Break.Word

open Category Property

/-! ## Tables -/

/-- Characters that stand in words like letters. -/
def otherLetterLike : CharSet := ⟨
  [(0x2C2, 0x2C5), (0x2D2, 0x2D7), (0x2DE, 0x2DF), (0x2E5, 0x2EB), (0x2ED, 0x2ED),
   (0x2EF, 0x2FF), (0x55A, 0x55C), (0x55E, 0x55E), (0x58A, 0x58A), (0x5F3, 0x5F3),
   (0x70F, 0x70F), (0xA708, 0xA716), (0xA720, 0xA721), (0xA789, 0xA78A), (0xAB5B, 0xAB5B)]⟩

/-- Letters of languages that are written without blanks. -/
def unspaced : CharSet := ⟨
  [(0xE01, 0xE30), (0xE32, 0xE33), (0xE40, 0xE46), (0xE81, 0xE82), (0xE84, 0xE84),
   (0xE86, 0xE8A), (0xE8C, 0xEA3), (0xEA5, 0xEA5), (0xEA7, 0xEB0), (0xEB2, 0xEB3),
   (0xEBD, 0xEBD), (0xEC0, 0xEC4), (0xEC6, 0xEC6), (0xEDC, 0xEDF), (0x1000, 0x102A),
   (0x103F, 0x103F), (0x1050, 0x1055), (0x105A, 0x105D), (0x1061, 0x1061), (0x1065, 0x1066),
   (0x106E, 0x1070), (0x1075, 0x1081), (0x108E, 0x108E), (0x1780, 0x17B3), (0x17D7, 0x17D7),
   (0x17DC, 0x17DC), (0x1950, 0x196D), (0x1970, 0x1974), (0x1980, 0x19AB), (0x19B0, 0x19C9),
   (0x1A20, 0x1A54), (0x1AA7, 0x1AA7), (0xA9E0, 0xA9E4), (0xA9E6, 0xA9EF), (0xA9FA, 0xA9FE),
   (0xAA60, 0xAA76), (0xAA7A, 0xAA7A), (0xAA7E, 0xAAAF), (0xAAB1, 0xAAB1), (0xAAB5, 0xAAB6),
   (0xAAB9, 0xAABD), (0xAAC0, 0xAAC0), (0xAAC2, 0xAAC2), (0xAADB, 0xAADD), (0x11700, 0x1171A),
   (0x11740, 0x11746)]⟩

/-- Characters that stand in numbers like digits. -/
def otherNumeric : CharSet := ⟨
  [(0x600, 0x605), (0x66B, 0x66B), (0x6DD, 0x6DD), (0x890, 0x891), (0x8E2, 0x8E2),
   (0x19DA, 0x19DA), (0x110BD, 0x110BD), (0x110CD, 0x110CD)]⟩

/-- Characters that stand in words like those of the script. -/
def otherKatakana : CharSet := ⟨
  [(0x3031, 0x3035), (0x309B, 0x309C), (0x30A0, 0x30A0), (0x30FC, 0x30FC), (0xFF70, 0xFF70)]⟩

/-- Punctuation inside a word. -/
def midLetter : CharSet := ⟨
  [(0x3A, 0x3A), (0xB7, 0xB7), (0x387, 0x387), (0x55F, 0x55F), (0x5F4, 0x5F4), (0x2027, 0x2027),
   (0xFE13, 0xFE13), (0xFE55, 0xFE55), (0xFF1A, 0xFF1A)]⟩

/-- Punctuation inside a number. -/
def midNumber : CharSet := ⟨
  [(0x2C, 0x2C), (0x3B, 0x3B), (0x37E, 0x37E), (0x589, 0x589), (0x60C, 0x60D), (0x66C, 0x66C),
   (0x7F8, 0x7F8), (0x2044, 0x2044), (0xFE50, 0xFE50), (0xFE54, 0xFE54), (0xFF0C, 0xFF0C),
   (0xFF1B, 0xFF1B)]⟩

/-- Punctuation inside a word or a number. -/
def midBoth : CharSet := ⟨
  [(0x2E, 0x2E), (0x2018, 0x2019), (0x2024, 0x2024), (0xFE52, 0xFE52), (0xFF07, 0xFF07),
   (0xFF0E, 0xFF0E)]⟩

/-! ## Classes -/

def newline : CharSet := .ofList ['\x0b', '\x0c', '\u0085', '\u2028', '\u2029']

def joiner : CharSet := .singleton '\u200D'

/-- Characters that belong to what stands before them. -/
def extend : CharSet := (CharSet.unions [graphemeExtend, spacingMark, emojiModifier]).diff joiner

def numeric : CharSet := decimalNumber.union otherNumeric

/-- Format characters, but for the blank without width and the marks that stand in words. -/
def formatting : CharSet :=
  format.diff (.unions [.ofList ['\u200B', '\u200C', '\u200D'], extend, prependedConcatenationMark])

def katakana : CharSet := Script.katakana.chars.union otherKatakana

def hebrew : CharSet := Script.hebrew.chars.inter otherLetter

/-- Letters of languages that put blanks between their words. -/
def alphabeticLetter : CharSet :=
  (alphabetic.union otherLetterLike).diff
    (.unions [ideographic, katakana, Script.hiragana.chars, extend, hebrew, unspaced])

def connecting : CharSet := connectorPunctuation.union (.singleton '\u202F')

/-- Spaces at which a line may end. -/
def space : CharSet := spaceSeparator.diff (.ofList ['\u00A0', '\u2007', '\u202F'])

/-- The classes under their names. -/
def sets : List NamedSet := [
  ⟨["cr"], .singleton '\r'⟩,
  ⟨["dq", "doublequote"], .singleton '"'⟩,
  ⟨["ex", "extendnumlet"], connecting⟩,
  ⟨["extend"], extend⟩,
  ⟨["fo", "format"], formatting⟩,
  ⟨["hl", "hebrewletter"], hebrew⟩,
  ⟨["ka", "katakana"], katakana⟩,
  ⟨["le", "aletter"], alphabeticLetter⟩,
  ⟨["lf"], .singleton '\n'⟩,
  ⟨["mb", "midnumlet"], midBoth⟩,
  ⟨["ml", "midletter"], midLetter⟩,
  ⟨["mn", "midnum"], midNumber⟩,
  ⟨["nl", "newline"], newline⟩,
  ⟨["nu", "numeric"], numeric⟩,
  ⟨["ri", "regionalindicator"], regionalIndicator⟩,
  ⟨["sq", "singlequote"], .singleton '\''⟩,
  ⟨["wsegspace"], space⟩,
  ⟨["zwj"], joiner⟩]

end LineLexer.Unicode.Break.Word
