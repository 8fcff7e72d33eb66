import LineLexer.Unicode.NamedSet
import LineLexer.Unicode.Property

/-!
# Breaks between clusters

The classes by which a text is parted into clusters, the characters that a reader sees.
-/

namespace LineLexer.Unicode.Break.Cluster

open Category Property

/-! ## Tables -/

/-- Letters that are drawn with the one after them. -/
def otherPrepend : CharSet := ⟨
  [(0xD4E, 0xD4E), (0x111C2, 0x111C3), (0x113D1, 0x113D1), (0x1193F, 0x1193F),
   (0x11941, 0x11941), (0x11A3A, 0x11A3A), (0x11A84, 0x11A89), (0x11D46, 0x11D46),
   (0x11F02, 0x11F02)]⟩

/-- Spacing marks that stand for themselves. -/
def freeSpacingMark : CharSet := ⟨
  [(0x102B, 0x102C), (0x1038, 0x1038), (0x1062, 0x1064), (0x1067, 0x106D), (0x1083, 0x1083),
   (0x1087, 0x108C), (0x108F, 0x108F), (0x109A, 0x109C), (0x1A61, 0x1A61), (0x1A63, 0x1A64),
   (0xAA7B, 0xAA7B), (0xAA7D, 0xAA7D), (0x11720, 0x11721)]⟩

/-- Letters that count as spacing marks. -/
def vowelSign : CharSet := ⟨
  [(0xE33, 0xE33), (0xEB3, 0xEB3)]⟩

/-- Consonants at the front of a Korean syllable. -/
def leading : CharSet := ⟨
  [(0x1100, 0x115F), (0xA960, 0xA97C)]⟩

/-- Vowels of Korean syllables and those that combine like them. -/
def vowel : CharSet := ⟨
  [(0x1160, 0x11A7), (0xD7B0, 0xD7C6), (0x16D63, 0x16D63), (0x16D67, 0x16D6A)]⟩

/-- Consonants at the end of a Korean syllable. -/
def trailing : CharSet := ⟨
  [(0x11A8, 0x11FF), (0xD7CB, 0xD7FB)]⟩

/-! ## Classes -/

def joiner : CharSet := .singleton '\u200D'

def prepend : CharSet := prependedConcatenationMark.union otherPrepend

/-- Characters that extend the cluster before them. -/
def extend : CharSet := graphemeExtend.union emojiModifier

/-- Controls and codes to be left out, which stand for themselves. -/
def breaking : CharSet :=
  (CharSet.unions [lineSeparator, paragraphSeparator, control, format,
    unassigned.inter defaultIgnorable]).diff
      (.unions [.ofList ['\r', '\n'], joiner, prepend, extend])

def spacing : CharSet := (spacingMark.diff (extend.union freeSpacingMark)).union vowelSign

/-- Syllables of a consonant and a vowel: each one begins a row of all its endings. -/
def openSyllable : CharSet := .ofCodes ((List.range 399).map fun i => 0xAC00 + 28 * i)

/-- Syllables that end in a consonant. -/
def closedSyllable : CharSet := (CharSet.codes 0xAC00 0xD7A3).diff openSyllable

/-- The classes under their names. -/
def sets : List NamedSet := [
  ⟨["cn", "control"], breaking⟩,
  ⟨["cr"], .singleton '\r'⟩,
  ⟨["ex", "extend"], extend⟩,
  ⟨["l"], leading⟩,
  ⟨["lf"], .singleton '\n'⟩,
  ⟨["lv"], openSyllable⟩,
  ⟨["lvt"], closedSyllable⟩,
  ⟨["pp", "prepend"], prepend⟩,
  ⟨["ri", "regionalindicator"], regionalIndicator⟩,
  ⟨["sm", "spacingmark"], spacing⟩,
  ⟨["t"], trailing⟩,
  ⟨["v"], vowel⟩,
  ⟨["zwj"], joiner⟩]

end LineLexer.Unicode.Break.Cluster
