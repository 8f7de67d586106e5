import ChocoLang.Text.Quoted

/-!
# JSON values and their text

A value is written on one line, with a blank after each comma and colon, or spread over lines with
a chosen indentation per level.  The text is seven-bit: any other character, and any control
character, stands as an escape, characters beyond the basic plane as a surrogate pair.
-/

namespace ChocoLang

/-- A JSON value; the fields of an object keep the order in which they are written. -/
inductive Json where
  | null
  | bool (value : Bool)
  | integer (value : Int)
  | string (value : String)
  | array (items : List Json)
  | object (fields : List (String × Json))

namespace Json

/-- One escape of four hexadecimal digits. -/
def unitEscape (unit : Nat) : List Char := '\\' :: 'u' :: Text.hexDigits 4 unit

/-- One character of a string. -/
def escapeChar (c : Char) : List Char :=
  if c = '"' then ['\\', '"']
  else if c = '\\' then ['\\', '\\']
  else if c = '\n' then ['\\', 'n']
  else if c = '\r' then ['\\', 'r']
  else if c = '\t' then ['\\', 't']
  else if c.toNat = 0x08 then ['\\', 'b']
  else if c.toNat = 0x0c then ['\\', 'f']
  else if 0x20 ≤ c.toNat && c.toNat < 0x7f then [c]
  else if c.toNat < 0x10000 then unitEscape c.toNat
  else
    let beyond := c.toNat - 0x10000
    unitEscape (0xd800 + beyond / 0x400) ++ unitEscape (0xdc00 + beyond % 0x400)

/-- A string with its marks. -/
def escape (text : String) : List Char :=
  '"' :: text.toList.flatMap escapeChar ++ ['"']

/-- How the parts of a value are set out. -/
inductive Style where
  /-- Everything on one line. -/
  | compact
  /-- Each part on a line of its own, indented by so many blanks per level. -/
  | spread (indent : Nat)

/-- What stands before each part of a composite value at a depth. -/
def Style.lineBreak : Style → (depth : Nat) → List Char
  | compact, _ => []
  | spread indent, depth => '\n' :: List.replicate (indent * depth) ' '

/-- What stands between two parts at a depth. -/
def Style.separator : Style → (depth : Nat) → List Char
  | compact, _ => [',', ' ']
  | spread indent, depth => ',' :: (spread indent).lineBreak depth

mutual

/-- The characters of a value at a depth of nesting. -/
def chars (style : Style) (depth : Nat) : Json → List Char
  | null => ['n', 'u', 'l', 'l']
  | bool true => ['t', 'r', 'u', 'e']
  | bool false => ['f', 'a', 'l', 's', 'e']
  | integer value => (toString value).toList
  | string value => escape value
  | array [] => ['[', ']']
  | array (first :: rest) =>
    '[' :: style.lineBreak (depth + 1) ++ chars style (depth + 1) first
      ++ itemChars style (depth + 1) rest ++ style.lineBreak depth ++ [']']
  | object [] => ['\x7b', '\x7d']
  | object ((name, first) :: rest) =>
    '\x7b' :: style.lineBreak (depth + 1) ++ escape name ++ [':', ' ']
      ++ chars style (depth + 1) first ++ fieldChars style (depth + 1) rest
      ++ style.lineBreak depth ++ ['\x7d']

/-- The remaining items of an array, each after a separator. -/
def itemChars (style : Style) (depth : Nat) : List Json → List Char
  | [] => []
  | item :: rest => style.separator depth ++ chars style depth item ++ itemChars style depth rest

/-- The remaining fields of an object, each after a separator. -/
def fieldChars (style : Style) (depth : Nat) : List (String × Json) → List Char
  | [] => []
  | (name, value) :: rest =>
    style.separator depth ++ escape name ++ [':', ' '] ++ chars style depth value
      ++ fieldChars style depth rest

end

/-- The text of a value: on one line, or indented by a number of blanks, a negative one as none. -/
def render (indent : Option Int) (value : Json) : String :=
  match indent with
  | none => String.ofList (value.chars .compact 0)
  | some width => String.ofList (value.chars (.spread width.toNat) 0)

end Json
end ChocoLang
