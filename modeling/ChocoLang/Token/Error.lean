import ChocoLang.Diagnostic
import ChocoLang.Text.Quoted

/-!
# Lexical errors

What can be wrong with the characters of a program, before its tokens are put together.
-/

namespace ChocoLang

/-- A problem found while cutting a program into tokens. -/
inductive LexicalError where
  /-- Characters that cannot begin a token. -/
  | invalidCharacters (chars : List Char)
  /-- A string literal that the end of its line cuts off. -/
  | unterminatedString
  /-- A backslash in a string literal before a character that has no meaning there. -/
  | invalidEscape (c : Char)
  /-- A character that may not stand in a string literal. -/
  | invalidStringCharacter (c : Char)
  /-- An integer literal of several digits that begins with a zero. -/
  | leadingZero (digits : List Char)
  /-- An integer literal beyond the largest integer. -/
  | integerTooLarge (digits : List Char)
  /-- An indentation that is none of the enclosing ones. -/
  | inconsistentDedent
deriving DecidableEq, Repr

namespace LexicalError

/-- The code of a lexical error. -/
def code : LexicalError → ErrorCode
  | invalidCharacters _ => .invalidCharacter
  | unterminatedString => .unterminatedString
  | invalidEscape _ | invalidStringCharacter _ => .invalidStringContent
  | leadingZero _ => .invalidInteger
  | integerTooLarge _ => .integerOutOfRange
  | inconsistentDedent => .inconsistentDedent

/-- The report of a lexical error. -/
def message : LexicalError → String
  | invalidCharacters chars =>
    "Invalid character" ++ (if chars.length > 1 then "s" else "") ++ ": "
      ++ Text.quoted (String.ofList chars)
  | unterminatedString => "Unterminated string literal"
  | invalidEscape c => "Invalid escape sequence: \\" ++ String.ofList [c]
  | invalidStringCharacter c =>
    "Invalid character in string literal: " ++ Text.quoted (String.ofList [c])
  | leadingZero digits =>
    "Invalid integer literal: " ++ String.ofList digits ++ " (leading zeros are not allowed)"
  | integerTooLarge digits => "Integer literal is too large: " ++ String.ofList digits
  | inconsistentDedent => "Unindent does not match any outer indentation level"

instance : Problem LexicalError where
  code := code
  message := message
  helps _ := []

end LexicalError
end ChocoLang
