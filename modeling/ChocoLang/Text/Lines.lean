/-!
# Lines of a text

Two notions of line are in use.  A program is cut at line feeds once carriage returns have been
turned into line feeds; a text shown to a reader is cut at every character that ends a line on
some device.  Here stand both, with the laws that say nothing is lost by the first.
-/

namespace ChocoLang
namespace Text

/-- Turns the line endings CR LF and CR into LF. -/
def normalizeBreaks : List Char → List Char
  | [] => []
  | '\r' :: '\n' :: rest => '\n' :: normalizeBreaks rest
  | '\r' :: rest => '\n' :: normalizeBreaks rest
  | c :: rest => c :: normalizeBreaks rest

/-- Puts a character at the front of the first line. -/
def consToFirst (c : Char) : List (List Char) → List (List Char)
  | [] => [[c]]
  | line :: lines => (c :: line) :: lines

/--
The lines of a text, cut at line feeds.  There is always a last line, which no line feed ends and
which may be empty.
-/
def lines : List Char → List (List Char)
  | [] => [[]]
  | c :: rest => if c = '\n' then [] :: lines rest else consToFirst c (lines rest)

theorem consToFirst_ne_nil (c : Char) (rest : List (List Char)) : consToFirst c rest ≠ [] := by
  cases rest <;> simp [consToFirst]

theorem lines_ne_nil (text : List Char) : lines text ≠ [] := by
  cases text with
  | nil => simp [lines]
  | cons c rest =>
      simp only [lines]
      split
      · simp
      · exact consToFirst_ne_nil c _

/-- Joining the lines with line feeds gives the text back. -/
theorem intercalate_lines (text : List Char) : ['\n'].intercalate (lines text) = text := by
  induction text with
  | nil => rfl
  | cons c rest ih =>
      simp only [lines]
      split
      · next h =>
          subst h
          obtain ⟨line, tail, shape⟩ := List.exists_cons_of_ne_nil (lines_ne_nil rest)
          rw [shape] at ih ⊢
          rw [← ih]
          simp [List.intercalate]
      · obtain ⟨line, tail, shape⟩ := List.exists_cons_of_ne_nil (lines_ne_nil rest)
        rw [shape] at ih ⊢
        rw [← ih]
        cases tail <;> simp [consToFirst, List.intercalate]

/-- The characters at which a displayed text is cut into lines. -/
def isDisplayBreak (c : Char) : Bool :=
  [0x0a, 0x0b, 0x0c, 0x0d, 0x1c, 0x1d, 0x1e, 0x85, 0x2028, 0x2029].contains c.toNat

/--
The lines of a displayed text, the first of them begun with the characters of `line` in reverse.
A carriage return and the line feed after it are one break, and a break at the very end begins no
further line.
-/
def displayLinesFrom (line : List Char) : List Char → List (List Char)
  | [] => if line.isEmpty then [] else [line.reverse]
  | '\r' :: '\n' :: rest => line.reverse :: displayLinesFrom [] rest
  | c :: rest =>
    if isDisplayBreak c then line.reverse :: displayLinesFrom [] rest
    else displayLinesFrom (c :: line) rest

/-- The lines of a text as it is displayed. -/
def displayLines (text : List Char) : List (List Char) := displayLinesFrom [] text

end Text
end ChocoLang
