import ChocoLang.Text.Printable

/-!
# Quoted text

Diagnostics and token listings show a text between quotation marks so that every character of it
can be told apart.  Single marks are used, unless the text holds a single mark and no double one.
The mark in use and the backslash stand behind a backslash, the common control characters have
letters of their own, and every other unprintable character is written by its code point in
lower-case hexadecimal.
-/

namespace ChocoLang
namespace Text

/-- The hexadecimal digit of a number below sixteen. -/
def hexDigit (n : Nat) : Char :=
  ['0', '1', '2', '3', '4', '5', '6', '7', '8', '9', 'a', 'b', 'c', 'd', 'e', 'f'].getD n '?'

/-- The last `width` hexadecimal digits of a number, leading zeros included. -/
def hexDigits : (width : Nat) → Nat → List Char
  | 0, _ => []
  | width + 1, n => hexDigits width (n / 16) ++ [hexDigit (n % 16)]

@[simp]
theorem length_hexDigits (width n : Nat) : (hexDigits width n).length = width := by
  induction width generalizing n with
  | zero => rfl
  | succ width ih => simp [hexDigits, ih]

/-- The mark that encloses a text: the double one when only the single one occurs in it. -/
def quotationMark (text : List Char) : Char :=
  if text.contains '\'' && !text.contains '"' then '"' else '\''

/-- An unprintable character by its code point, in two, four or eight digits. -/
def codePointEscape (c : Char) : List Char :=
  let code := c.toNat
  if code < 0x100 then '\\' :: 'x' :: hexDigits 2 code
  else if code < 0x10000 then '\\' :: 'u' :: hexDigits 4 code
  else '\\' :: 'U' :: hexDigits 8 code

/-- One character as it stands between the marks `mark`. -/
def quoteChar (mark c : Char) : List Char :=
  if c = mark || c = '\\' then ['\\', c]
  else if c = '\n' then ['\\', 'n']
  else if c = '\r' then ['\\', 'r']
  else if c = '\t' then ['\\', 't']
  else if isPrintable c then [c]
  else codePointEscape c

/-- A text between quotation marks. -/
def quote (text : List Char) : List Char :=
  let mark := quotationMark text
  mark :: text.flatMap (quoteChar mark) ++ [mark]

/-- A string between quotation marks. -/
def quoted (text : String) : String := String.ofList (quote text.toList)

end Text
end ChocoLang
