import ChocoLang.Text.Lines
import ChocoLang.Token.Layout

/-!
# The tokens of a program

A program is read line by line.  A line without tokens, blank or holding only a comment, yields
nothing and leaves the open levels alone.  Any other line yields what its indentation says, the
readings of its segments and, if these hold a token, the end of the line.  After the last line the
open blocks are closed and the end of the file follows.
-/

namespace ChocoLang

/-- A line holds nothing to read when a comment begins at its first character, or none does. -/
def isVacant : List Char → Bool
  | [] => true
  | c :: _ => c = '#'

/-- The end of a line that holds `length` characters; `terminated` tells whether a break ends it. -/
def lineEnd (line : Line) (length : Nat) (terminated : Bool) : Token :=
  let width := if terminated then 1 else 0
  ⟨.newline, .text "\n", line.span (length + 1) (length + 1 + width)⟩

/-- What a line yields, and the levels open after it. -/
def readLine (line : Line) (terminated : Bool) (levels : List Level) (chars : List Char) :
    List Reading × List Level :=
  let blanks := chars.takeWhile isBlank
  let content := chars.dropWhile isBlank
  if isVacant content then ([], levels)
  else
    let column := blanks.length + 1
    let (layout, levels) := indentLine line (blankWidth blanks) column levels
    let readings := readSegments line column (segments content)
    let ending :=
      if readings.any (·.token?.isSome) then [.token (lineEnd line chars.length terminated)]
      else []
    (layout ++ readings ++ ending, levels)

/-- What follows the last line: the ends of the open blocks and of the file. -/
def readEnd (line : Line) (length : Nat) (levels : List Level) : List Reading :=
  let place := line.point (length + 1)
  dedents (blockCount levels) place ++ [.token ⟨.endOfFile, .absent, place⟩]

/-- What successive lines yield, the first of them with a number. -/
def readLines (file : String) (number : Nat) (levels : List Level) :
    List (List Char) → List Reading
  | [] => []
  | [last] =>
    let line : Line := ⟨file, number⟩
    let (readings, levels) := readLine line false levels last
    readings ++ readEnd line last.length levels
  | chars :: rest =>
    let (readings, levels) := readLine ⟨file, number⟩ true levels chars
    readings ++ readLines file (number + 1) levels rest

/-- The readings of a program end with the end of the file. -/
theorem readLines_eq_append (file : String) (number : Nat) (levels : List Level)
    (lines : List (List Char)) (nonempty : lines ≠ []) :
    ∃ front place, readLines file number levels lines =
      front ++ [.token ⟨.endOfFile, .absent, place⟩] := by
  fun_induction readLines file number levels lines with
  | case1 => contradiction
  | case2 number levels last line readings remaining _ =>
      exact ⟨_, _, (List.append_assoc _ _ _).symm⟩
  | case3 number levels chars rest long readings remaining _ ih =>
      obtain ⟨front, place, shape⟩ := ih (by simpa using long)
      exact ⟨readings ++ front, place, by rw [shape, List.append_assoc]⟩

/-- The greatest number of digits that an integer literal may have for a program to be read. -/
def digitLimit : Nat := 4300

/-- The line holds an integer literal beyond the digit limit. -/
def holdsOverlongDigits (chars : List Char) : Bool :=
  let content := chars.dropWhile isBlank
  !isVacant content && (segments content).any fun segment =>
    match segment with
    | .digits digits => digits.length > digitLimit
    | _ => false

/-- Why a text is refused outright instead of being read as a program with problems. -/
inductive Refusal where
  /-- An integer literal has more digits than the limit. -/
  | overlongInteger
deriving DecidableEq, Repr

/-- The lines of a program, cut at line breaks of any kind. -/
def programLines (source : String) : List (List Char) :=
  Text.lines (Text.normalizeBreaks source.toList)

/-- What a program yields, in the order of its text. -/
def readProgram (file source : String) : List Reading :=
  readLines file 1 [] (programLines source)

/-- Something is read where what is read has a property. -/
theorem exists_ok_of_any {ε α : Type} {read : Except ε α} {holds : α → Bool}
    (some : read.toOption.any holds = true) : ∃ value, read = .ok value ∧ holds value = true := by
  cases read with
  | error => exact absurd some Bool.false_ne_true
  | ok value => exact ⟨value, rfl, some⟩

/-- What is made of what is read is made of something that is read. -/
theorem exists_ok_of_map {ε α β : Type} {make : α → β} {read : Except ε α} {made : β}
    (mapped : read.map make = .ok made) : ∃ value, read = .ok value ∧ made = make value := by
  cases read with
  | error => cases mapped
  | ok value => exact ⟨value, rfl, (Except.ok.inj mapped).symm⟩

/-- The tokens of a program with the problems met in finding them. -/
structure Lexing where
  /-- The tokens, the end of the file last. -/
  tokens : List Token
  /-- The problems, in the order of the text. -/
  problems : List (Located LexicalError)
  /-- There is always a token: the end of the file. -/
  tokens_ne_nil : tokens ≠ []

namespace Lexing

theorem tokens_readProgram_ne_nil (file source : String) :
    (readProgram file source).filterMap Reading.token? ≠ [] := by
  obtain ⟨front, place, shape⟩ :=
    readLines_eq_append file 1 [] (programLines source) (Text.lines_ne_nil _)
  simp [readProgram, shape, Reading.token?]

/-- The tokens of a program and the problems in it, unless the text is refused. -/
def ofSource (file source : String) : Except Refusal Lexing :=
  if (programLines source).any holdsOverlongDigits then .error .overlongInteger
  else
    .ok
      { tokens := (readProgram file source).filterMap Reading.token?
        problems := (readProgram file source).filterMap Reading.problem?
        tokens_ne_nil := tokens_readProgram_ne_nil file source }

/-- The problems as diagnostics. -/
def diagnostics (lexing : Lexing) : List Diagnostic := lexing.problems.map Located.toDiagnostic

end Lexing
end ChocoLang
