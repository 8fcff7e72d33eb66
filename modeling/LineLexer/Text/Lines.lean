/-!
# Lines of a text

A text is taken apart at its line feeds. A carriage return in front of a line feed belongs to the
break, not to the line.
-/

namespace LineLexer.Text

/-- Puts a character in front of lines; a line feed starts a line of its own. -/
def addChar (c : Char) : List (List Char) → List (List Char)
  | [] => if c = '\n' then [[], []] else [[c]]
  | line :: rest => if c = '\n' then [] :: line :: rest else (c :: line) :: rest

/-- What stands between the line feeds. A text has one line more than line feeds. -/
def splitLines (text : List Char) : List (List Char) := text.foldr addChar [[]]

/-- The line without one carriage return at its end. -/
def dropReturn (line : List Char) : List Char :=
  if line.getLast? = some '\r' then line.dropLast else line

/-- The number of lines if a line feed at the very end starts no line. -/
def lineCount (text : List Char) : Nat :=
  let feeds := text.count '\n'
  if text.isEmpty || text.getLast? = some '\n' then feeds else feeds + 1

@[simp] theorem splitLines_nil : splitLines [] = [[]] := rfl

theorem splitLines_cons (c : Char) (rest : List Char) :
    splitLines (c :: rest) = addChar c (splitLines rest) := rfl

theorem length_addChar {c : Char} {lines : List (List Char)} (h : lines ≠ []) :
    (addChar c lines).length = lines.length + if c = '\n' then 1 else 0 := by
  cases lines with
  | nil => exact absurd rfl h
  | cons line rest =>
    rw [addChar]
    split <;> simp

theorem splitLines_ne_nil (text : List Char) : splitLines text ≠ [] := by
  cases text with
  | nil => simp
  | cons c rest =>
    rw [splitLines_cons]
    cases splitLines rest with
    | nil => rw [addChar]; split <;> simp
    | cons line lines => rw [addChar]; split <;> simp

theorem length_splitLines (text : List Char) :
    (splitLines text).length = text.count '\n' + 1 := by
  induction text with
  | nil => rfl
  | cons c rest ih =>
    rw [splitLines_cons, length_addChar (splitLines_ne_nil rest), ih, List.count_cons]
    simp only [beq_iff_eq]
    omega

end LineLexer.Text
