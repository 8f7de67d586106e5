/-!
# Decimal numerals

An integer is written with the digits of any script that has a set of ten.  It may have a sign and
blanks around it, and single underscores between its digits.  Numerals beyond a number of digits
are refused.
-/

namespace ChocoLang
namespace Text

/-- The zeros of all scripts; each stands at the head of its ten digits. -/
def zeros : List Nat :=
  [0x30, 0x660, 0x6f0, 0x7c0, 0x966, 0x9e6, 0xa66, 0xae6, 0xb66, 0xbe6, 0xc66, 0xce6, 0xd66, 0xde6,
    0xe50, 0xed0, 0xf20, 0x1040, 0x1090, 0x17e0, 0x1810, 0x1946, 0x19d0, 0x1a80, 0x1a90, 0x1b50,
    0x1bb0, 0x1c40, 0x1c50, 0xa620, 0xa8d0, 0xa900, 0xa9d0, 0xa9f0, 0xaa50, 0xabf0, 0xff10,
    0x104a0, 0x10d30, 0x11066, 0x110f0, 0x11136, 0x111d0, 0x112f0, 0x11450, 0x114d0, 0x11650,
    0x116c0, 0x11730, 0x118e0, 0x11950, 0x11c50, 0x11d50, 0x11da0, 0x16a60, 0x16ac0, 0x16b50,
    0x1d7ce, 0x1d7d8, 0x1d7e2, 0x1d7ec, 0x1d7f6, 0x1e140, 0x1e2f0, 0x1e950, 0x1fbf0]

/-- The value of a digit. -/
def digitValue? (c : Char) : Option Nat :=
  (zeros.find? fun least => least ≤ c.toNat && c.toNat < least + 10).map fun least =>
    c.toNat - least

/-- The characters that may stand around a numeral. -/
def isMargin (c : Char) : Bool :=
  let code := c.toNat
  (0x09 ≤ code && code ≤ 0x0d) || (0x2000 ≤ code && code ≤ 0x200a)
    || [0x20, 0x85, 0xa0, 0x1680, 0x2028, 0x2029, 0x202f, 0x205f, 0x3000].contains code

/-- The digits of a numeral after its first one; an underscore has a digit on both sides. -/
def laterDigits? : List Char → Option (List Nat)
  | [] => some []
  | '_' :: c :: rest => do return (← digitValue? c) :: (← laterDigits? rest)
  | c :: rest => do return (← digitValue? c) :: (← laterDigits? rest)

/-- The digits of a numeral without a sign. -/
def digits? : List Char → Option (List Nat)
  | [] => none
  | c :: rest => do return (← digitValue? c) :: (← laterDigits? rest)

/-- The number that digits denote, the most significant one first. -/
def ofDigits (digits : List Nat) : Nat := digits.foldl (fun value digit => 10 * value + digit) 0

/-- The greatest number of digits of a numeral that is read. -/
def numeralLimit : Nat := 4300

/-- The number that a numeral without a sign denotes. -/
def natural? (text : List Char) : Option Nat := do
  let digits ← digits? text
  guard (digits.length ≤ numeralLimit)
  return ofDigits digits

/-- A text without the characters around its numeral. -/
def trimmed (text : List Char) : List Char :=
  ((text.dropWhile isMargin).reverse.dropWhile isMargin).reverse

/-- The integer that a numeral denotes. -/
def integer? (text : List Char) : Option Int :=
  match trimmed text with
  | '-' :: rest => (natural? rest).map fun value => -(value : Int)
  | '+' :: rest => (natural? rest).map Int.ofNat
  | rest => (natural? rest).map Int.ofNat

end Text
end ChocoLang
