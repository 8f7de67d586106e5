import ChocoLang.Token.Error
import ChocoLang.Token.Segment

/-!
# Reading segments as tokens

Each segment of a line is read for itself: blanks and comments yield nothing, invalid characters a
problem, and every other segment one token, after the problems found within it.
-/

namespace ChocoLang

/-- What reading a program yields, in the order of the text. -/
inductive Reading where
  /-- A token. -/
  | token (token : Token)
  /-- A problem. -/
  | problem (problem : Located LexicalError)
deriving DecidableEq, Repr

namespace Reading

/-- The token of a reading, if it is one. -/
def token? : Reading → Option Token
  | token found => some found
  | problem _ => none

/-- The problem of a reading, if it is one. -/
def problem? : Reading → Option (Located LexicalError)
  | token _ => none
  | problem found => some found

end Reading

/-- A line of a file, to which readings are attached. -/
structure Line where
  /-- The name of the file. -/
  file : String
  /-- The number of the line. -/
  number : Nat
deriving DecidableEq, Repr

namespace Line

/-- The span of some columns of the line, the last excluded. -/
def span (line : Line) (first last : Nat) : Span := .onLine line.file line.number first last

/-- The empty span at a column of the line. -/
def point (line : Line) (column : Nat) : Span := line.span column column

end Line

/-! ## Integer literals -/

/-- The largest integer a literal may denote, `2 ^ 31 - 1`. -/
def maxInteger : Nat := 2147483647

/-- The number that a sequence of decimal digits denotes. -/
def decimalValue (digits : List Char) : Nat :=
  digits.foldl (fun value digit => 10 * value + (digit.toNat - '0'.toNat)) 0

/-- What is wrong with the digits of an integer literal, if anything. -/
def digitsError? (digits : List Char) : Option LexicalError :=
  if digits.length > 1 && digits.head? == some '0' then some (.leadingZero digits)
  else if decimalValue digits > maxInteger then some (.integerTooLarge digits)
  else none

/-! ## String literals -/

/-- The character that stands behind a backslash for another one. -/
def unescape? : Char → Option Char
  | '\\' => some '\\'
  | '"' => some '"'
  | 'n' => some '\n'
  | 't' => some '\t'
  | _ => none

/-- A character that may stand for itself in a string literal. -/
def isStringChar (c : Char) : Bool := 32 ≤ c.toNat && c.toNat ≤ 126

/-- What the body of a string literal says. -/
structure StringReading where
  /-- The text, with escapes replaced and invalid characters left out. -/
  value : List Char
  /-- The problems found in it, in the order of the text. -/
  problems : List (Located LexicalError)
  /-- The literal is closed by a mark. -/
  closed : Bool

/-- Reads the body of a string literal that begins at a column. -/
def readBody (line : Line) (column : Nat) : List Char → StringReading
  | [] => { value := [], problems := [], closed := false }
  | '\\' :: c :: rest =>
    let reading := readBody line (column + 2) rest
    match unescape? c with
    | some meant => { reading with value := meant :: reading.value }
    | none =>
      let problem := ⟨.invalidEscape c, line.span column (column + 2)⟩
      { reading with problems := problem :: reading.problems }
  | c :: rest =>
    if c = '"' then { value := [], problems := [], closed := true }
    else
      let reading := readBody line (column + 1) rest
      if c = '\\' then reading
      else if isStringChar c then { reading with value := c :: reading.value }
      else
        let problem := ⟨.invalidStringCharacter c, line.span column (column + 1)⟩
        { reading with problems := problem :: reading.problems }

/-- The readings of a string literal whose opening mark stands at a column. -/
def readLiteral (line : Line) (column : Nat) (body : List Char) : List Reading :=
  let span := line.span column (column + 1 + body.length)
  let reading := readBody line (column + 1) body
  let value := TokenValue.text (String.ofList reading.value)
  let problems := reading.problems.map Reading.problem
  if reading.closed then
    let clean := reading.problems.isEmpty && isName reading.value
    problems ++ [.token ⟨if clean then .nameString else .string, value, span⟩]
  else
    problems ++ [.problem ⟨.unterminatedString, span⟩, .token ⟨.string, value, span⟩]

/-! ## Segments -/

/-- The readings of a segment that begins at a column. -/
def Segment.read (line : Line) (column : Nat) (segment : Segment) : List Reading :=
  let span := line.span column (column + segment.chars.length)
  match segment with
  | blank _ | comment _ => []
  | literal body => readLiteral line column body
  | digits chars =>
    let problem := (digitsError? chars).map fun error => Reading.problem ⟨error, span⟩
    problem.toList ++ [.token ⟨.integer, .integer (decimalValue chars), span⟩]
  | word chars =>
    let text := String.ofList chars
    let kind := ((Keyword.ofSpelling? text).map TokenKind.keyword).getD .identifier
    [.token ⟨kind, .text text, span⟩]
  | symbol sign => [.token ⟨.symbol sign, .text sign.spelling, span⟩]
  | invalid chars => [.problem ⟨.invalidCharacters chars, span⟩]

/-- The readings of successive segments, the first of which begins at a column. -/
def readSegments (line : Line) (column : Nat) : List Segment → List Reading
  | [] => []
  | segment :: rest =>
    segment.read line column ++ readSegments line (column + segment.chars.length) rest

end ChocoLang
