import ChocoLang.Token

/-!
# Segments of a line

A line of a program is cut into segments without gaps: blanks, a comment, literals, words, symbols,
and runs of characters that cannot begin anything.  Each segment is as long as its class allows.
`segments_flatten` says that the texts of the segments, put together, are the line.
-/

namespace ChocoLang

/-- A blank between tokens. -/
def isBlank (c : Char) : Bool := c = ' ' || c = '\t'

/-- A character that can begin a name. -/
def isNameStart (c : Char) : Bool := c = '_' || c.isAlpha

/-- A character that can stand in a name after its first one. -/
def isNameChar (c : Char) : Bool := c = '_' || c.isAlphanum

/-- A text is a name when it begins like one and goes on like one. -/
def isName : List Char → Bool
  | [] => false
  | c :: rest => isNameStart c && rest.all isNameChar

/-- The symbol at the head of a text, two characters before one, with the text after it. -/
def symbolAt? : List Char → Option (Symbol × List Char)
  | [] => none
  | c :: rest =>
    match rest.head?.bind (Symbol.ofPair? c) with
    | some symbol => some (symbol, rest.tail)
    | none => (Symbol.ofChar? c).map fun symbol => (symbol, rest)

/-- Something other than a run of invalid characters begins at the head of the text. -/
def beginsSegment : List Char → Bool
  | [] => true
  | c :: rest =>
    isBlank c || c = '#' || c = '"' || c.isDigit || isNameStart c || (symbolAt? (c :: rest)).isSome

/--
The body of a string literal up to and including the mark that closes it, or up to the end of the
line, with the text after it.  A character behind a backslash does not close the literal.
-/
def splitBody : List Char → List Char × List Char
  | [] => ([], [])
  | '\\' :: c :: rest => ('\\' :: c :: (splitBody rest).1, (splitBody rest).2)
  | c :: rest => if c = '"' then ([c], rest) else (c :: (splitBody rest).1, (splitBody rest).2)

/-- The characters up to the next one at which a segment can begin, with the text from there on. -/
def splitInvalid : List Char → List Char × List Char
  | [] => ([], [])
  | c :: rest =>
    if beginsSegment (c :: rest) then ([], c :: rest)
    else (c :: (splitInvalid rest).1, (splitInvalid rest).2)

/-- A stretch of a line that is read as one. -/
inductive Segment where
  /-- Blanks between tokens. -/
  | blank (chars : List Char)
  /-- A comment, from its mark to the end of the line. -/
  | comment (chars : List Char)
  /-- A string literal: what stands after the mark that opens it. -/
  | literal (body : List Char)
  /-- Decimal digits. -/
  | digits (chars : List Char)
  /-- A name or a keyword. -/
  | word (chars : List Char)
  /-- An operator or delimiter. -/
  | symbol (symbol : Symbol)
  /-- Characters that cannot begin anything. -/
  | invalid (chars : List Char)
deriving DecidableEq, Repr

namespace Segment

/-- The characters of a segment. -/
def chars : Segment → List Char
  | blank chars | comment chars | digits chars | word chars | invalid chars => chars
  | literal body => '"' :: body
  | symbol sign => sign.chars

/-- The first segment of the text `c :: rest`, with the text after it. -/
def next (c : Char) (rest : List Char) : Segment × List Char :=
  if isBlank c then (blank (c :: rest.takeWhile isBlank), rest.dropWhile isBlank)
  else if c = '#' then (comment (c :: rest), [])
  else if c = '"' then (literal (splitBody rest).1, (splitBody rest).2)
  else if c.isDigit then (digits (c :: rest.takeWhile Char.isDigit), rest.dropWhile Char.isDigit)
  else if isNameStart c then (word (c :: rest.takeWhile isNameChar), rest.dropWhile isNameChar)
  else
    match symbolAt? (c :: rest) with
    | some (found, rest) => (symbol found, rest)
    | none => (invalid (c :: (splitInvalid rest).1), (splitInvalid rest).2)

end Segment

@[simp]
theorem splitBody_append (text : List Char) :
    (splitBody text).1 ++ (splitBody text).2 = text := by
  fun_induction splitBody text <;> simp_all

@[simp]
theorem splitInvalid_append (text : List Char) :
    (splitInvalid text).1 ++ (splitInvalid text).2 = text := by
  induction text with
  | nil => rfl
  | cons c rest ih =>
      simp only [splitInvalid]
      split
      · rfl
      · simp [ih]

/-- A symbol found at the head of a text is spelled out there. -/
theorem chars_of_symbolAt? {text rest : List Char} {symbol : Symbol}
    (found : symbolAt? text = some (symbol, rest)) : symbol.chars ++ rest = text := by
  cases text with
  | nil => simp [symbolAt?] at found
  | cons c tail =>
      simp only [symbolAt?] at found
      split at found
      · next pair matched =>
          cases tail with
          | nil => simp at matched
          | cons d tail =>
              simp only [List.head?_cons, Option.bind_some, Symbol.ofPair?] at matched
              have spelled := List.find?_some matched
              simp only [Option.some.injEq, Prod.mk.injEq] at found
              obtain ⟨rfl, rfl⟩ := found
              simp_all
      · simp only [Option.map_eq_some_iff] at found
        obtain ⟨single, matched, same⟩ := found
        have spelled := List.find?_some matched
        simp only [Prod.mk.injEq] at same
        obtain ⟨rfl, rfl⟩ := same
        simp_all

/-- The first segment and the text after it make up the text. -/
@[simp]
theorem Segment.next_append (c : Char) (rest : List Char) :
    (Segment.next c rest).1.chars ++ (Segment.next c rest).2 = c :: rest := by
  simp only [Segment.next]
  split
  · simp [Segment.chars]
  split
  · simp [Segment.chars]
  split
  · next mark => simp [Segment.chars, mark]
  split
  · simp [Segment.chars]
  split
  · simp [Segment.chars]
  split
  · next found => exact chars_of_symbolAt? found
  · simp [Segment.chars]

theorem Symbol.chars_ne_nil (symbol : Symbol) : symbol.chars ≠ [] := by
  cases symbol <;> simp [Symbol.chars]

theorem Segment.next_chars_ne_nil (c : Char) (rest : List Char) :
    (Segment.next c rest).1.chars ≠ [] := by
  simp only [Segment.next]
  repeat' split
  all_goals simp [Segment.chars, Symbol.chars_ne_nil]

/-- The text after the first segment is no longer than the text after the first character. -/
theorem Segment.length_next_le (c : Char) (rest : List Char) :
    (Segment.next c rest).2.length ≤ rest.length := by
  have total := congrArg List.length (Segment.next_append c rest)
  have begun := List.length_pos_iff.mpr (Segment.next_chars_ne_nil c rest)
  simp only [List.length_append, List.length_cons] at total
  omega

/-- The segments of a line. -/
def segments : List Char → List Segment
  | [] => []
  | c :: rest => (Segment.next c rest).1 :: segments (Segment.next c rest).2
termination_by line => line.length
decreasing_by
  have := Segment.length_next_le c rest
  simp only [List.length_cons]
  omega

/-- The segments of a line leave nothing out. -/
theorem segments_flatten (line : List Char) : (segments line).flatMap Segment.chars = line := by
  fun_induction segments line with
  | case1 => rfl
  | case2 c rest ih => rw [List.flatMap_cons, ih, Segment.next_append]

/-- No segment is empty. -/
theorem chars_ne_nil_of_mem_segments {line : List Char} {segment : Segment}
    (member : segment ∈ segments line) : segment.chars ≠ [] := by
  fun_induction segments line with
  | case1 => simp at member
  | case2 c rest ih =>
      rcases List.mem_cons.mp member with rfl | later
      · exact Segment.next_chars_ne_nil c rest
      · exact ih later

end ChocoLang
