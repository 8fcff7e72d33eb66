import LineLexer.Unicode.Break.Word

/-!
# Breaks between sentences

The classes by which a text is parted into sentences.
-/

namespace LineLexer.Unicode.Break.Sentence

open Category Property

/-! ## Tables -/

/-- Capitals of a script that begins no sentence with them. -/
def uncasedCapital : CharSet := ⟨
  [(0x1C90, 0x1CBA), (0x1CBD, 0x1CBF)]⟩

/-- Their small letters. -/
def uncasedSmall : CharSet := ⟨
  [(0x10D0, 0x10FA), (0x10FD, 0x10FF)]⟩

/-- The full stop, which may also end an abbreviation. -/
def stop : CharSet := ⟨
  [(0x2E, 0x2E), (0x2024, 0x2024), (0xFE52, 0xFE52), (0xFF0E, 0xFF0E)]⟩

/-- Punctuation after which the sentence goes on. -/
def comma : CharSet := ⟨
  [(0x2C, 0x2D), (0x3A, 0x3B), (0x37E, 0x37E), (0x55D, 0x55D), (0x60C, 0x60D), (0x7F8, 0x7F8),
   (0x1802, 0x1802), (0x1808, 0x1808), (0x2013, 0x2014), (0x3001, 0x3001), (0xFE10, 0xFE11),
   (0xFE13, 0xFE14), (0xFE31, 0xFE32), (0xFE50, 0xFE51), (0xFE54, 0xFE55), (0xFE58, 0xFE58),
   (0xFE63, 0xFE63), (0xFF0C, 0xFF0D), (0xFF1A, 0xFF1B), (0xFF64, 0xFF64)]⟩

/-- Quotation marks that open and close alike. -/
def otherClose : CharSet := ⟨
  [(0x22, 0x22), (0x27, 0x27), (0x275B, 0x2760), (0x2E00, 0x2E01), (0x2E06, 0x2E08),
   (0x2E0B, 0x2E0B), (0x1F676, 0x1F678)]⟩

/-! ## Classes -/

def separator : CharSet := .ofList ['\u0085', '\u2028', '\u2029']

def extend : CharSet := .unions [graphemeExtend, spacingMark, Word.joiner]

/-- What stands in numbers between words, and the mark that groups their digits. -/
def numeric : CharSet := Word.numeric.union (.singleton '\u066C')

/-- Format characters, but for the joiners and the marks that stand in numbers. -/
def formatting : CharSet :=
  format.diff (.unions [.ofList ['\u200C', '\u200D'], extend, numeric])

def space : CharSet := whiteSpace.diff (separator.union (.ofList ['\r', '\n']))

def small : CharSet := lowercase.diff (graphemeExtend.union uncasedSmall)

def capital : CharSet := (titlecaseLetter.union uppercase).diff uncasedCapital

def neutralLetter : CharSet :=
  (alphabetic.union (.singleton '\u05F3')).diff (.unions [small, capital, extend])

def terminal : CharSet := sentenceTerminal.diff stop

def closing : CharSet :=
  (CharSet.unions [openPunctuation, closePunctuation, initialPunctuation, finalPunctuation,
    otherClose]).diff (stop.union terminal)

/-- The classes under their names. -/
def sets : List NamedSet := [
  ⟨["at", "aterm"], stop⟩,
  ⟨["cl", "close"], closing⟩,
  ⟨["cr"], .singleton '\r'⟩,
  ⟨["ex", "extend"], extend⟩,
  ⟨["fo", "format"], formatting⟩,
  ⟨["le", "oletter"], neutralLetter⟩,
  ⟨["lf"], .singleton '\n'⟩,
  ⟨["lo", "lower"], small⟩,
  ⟨["nu", "numeric"], numeric⟩,
  ⟨["sc", "scontinue"], comma⟩,
  ⟨["se", "sep"], separator⟩,
  ⟨["sp"], space⟩,
  ⟨["st", "sterm"], terminal⟩,
  ⟨["up", "upper"], capital⟩]

end LineLexer.Unicode.Break.Sentence
