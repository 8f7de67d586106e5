import ChocoLang.Source.Span
import ChocoLang.Text.Quoted

/-!
# Tokens

A program is a sequence of tokens.  Keywords, operators and delimiters are known by their
spelling; names, integers and strings carry a value; and the layout tokens mark the ends of lines,
the beginnings and ends of blocks, and the end of the file.
-/

namespace ChocoLang

/-- The reserved words, whether or not the language gives them a use. -/
inductive Keyword where
  | kwFalse
  | kwNone
  | kwTrue
  | kwAnd
  | kwAs
  | kwAssert
  | kwAsync
  | kwAwait
  | kwBreak
  | kwClass
  | kwContinue
  | kwDef
  | kwDel
  | kwElif
  | kwElse
  | kwExcept
  | kwFinally
  | kwFor
  | kwFrom
  | kwGlobal
  | kwIf
  | kwImport
  | kwIn
  | kwIs
  | kwLambda
  | kwNonlocal
  | kwNot
  | kwOr
  | kwPass
  | kwRaise
  | kwReturn
  | kwTry
  | kwWhile
  | kwWith
  | kwYield
deriving DecidableEq, Repr

namespace Keyword

/-- All keywords, those that name values first and the others in alphabetical order. -/
def all : List Keyword :=
  [kwFalse, kwNone, kwTrue, kwAnd, kwAs, kwAssert, kwAsync, kwAwait, kwBreak, kwClass, kwContinue,
    kwDef, kwDel, kwElif, kwElse, kwExcept, kwFinally, kwFor, kwFrom, kwGlobal, kwIf, kwImport,
    kwIn, kwIs, kwLambda, kwNonlocal, kwNot, kwOr, kwPass, kwRaise, kwReturn, kwTry, kwWhile,
    kwWith, kwYield]

/-- The word as it stands in a program. -/
def spelling : Keyword → String
  | kwFalse => "False"
  | kwNone => "None"
  | kwTrue => "True"
  | kwAnd => "and"
  | kwAs => "as"
  | kwAssert => "assert"
  | kwAsync => "async"
  | kwAwait => "await"
  | kwBreak => "break"
  | kwClass => "class"
  | kwContinue => "continue"
  | kwDef => "def"
  | kwDel => "del"
  | kwElif => "elif"
  | kwElse => "else"
  | kwExcept => "except"
  | kwFinally => "finally"
  | kwFor => "for"
  | kwFrom => "from"
  | kwGlobal => "global"
  | kwIf => "if"
  | kwImport => "import"
  | kwIn => "in"
  | kwIs => "is"
  | kwLambda => "lambda"
  | kwNonlocal => "nonlocal"
  | kwNot => "not"
  | kwOr => "or"
  | kwPass => "pass"
  | kwRaise => "raise"
  | kwReturn => "return"
  | kwTry => "try"
  | kwWhile => "while"
  | kwWith => "with"
  | kwYield => "yield"

/-- The keyword of a spelling. -/
def ofSpelling? (word : String) : Option Keyword :=
  all.find? fun keyword => keyword.spelling == word

theorem mem_all (keyword : Keyword) : keyword ∈ all := by
  cases keyword <;> decide

/-- A keyword is found by its spelling, so no two keywords share one. -/
theorem ofSpelling?_spelling (keyword : Keyword) : ofSpelling? keyword.spelling = some keyword := by
  cases keyword <;> decide +kernel

end Keyword

/-- The operators and delimiters. -/
inductive Symbol where
  | plus
  | minus
  | star
  | doubleSlash
  | percent
  | less
  | greater
  | lessEqual
  | greaterEqual
  | equal
  | notEqual
  | assign
  | leftParen
  | rightParen
  | leftBracket
  | rightBracket
  | comma
  | colon
  | dot
  | arrow
deriving DecidableEq, Repr

namespace Symbol

/-- All symbols: arithmetic, comparisons, delimiters. -/
def all : List Symbol :=
  [plus, minus, star, doubleSlash, percent, less, greater, lessEqual, greaterEqual, equal,
    notEqual, assign, leftParen, rightParen, leftBracket, rightBracket, comma, colon, dot, arrow]

/-- The characters of a symbol. -/
def chars : Symbol → List Char
  | plus => ['+']
  | minus => ['-']
  | star => ['*']
  | doubleSlash => ['/', '/']
  | percent => ['%']
  | less => ['<']
  | greater => ['>']
  | lessEqual => ['<', '=']
  | greaterEqual => ['>', '=']
  | equal => ['=', '=']
  | notEqual => ['!', '=']
  | assign => ['=']
  | leftParen => ['(']
  | rightParen => [')']
  | leftBracket => ['[']
  | rightBracket => [']']
  | comma => [',']
  | colon => [':']
  | dot => ['.']
  | arrow => ['-', '>']

/-- The symbol as it stands in a program. -/
def spelling (symbol : Symbol) : String := String.ofList symbol.chars

/-- The name of a symbol in token listings. -/
def name : Symbol → String
  | plus => "PLUS"
  | minus => "MINUS"
  | star => "STAR"
  | doubleSlash => "DOUBLE_SLASH"
  | percent => "PERCENT"
  | less => "LT"
  | greater => "GT"
  | lessEqual => "LE"
  | greaterEqual => "GE"
  | equal => "EQ"
  | notEqual => "NE"
  | assign => "ASSIGN"
  | leftParen => "LPAREN"
  | rightParen => "RPAREN"
  | leftBracket => "LBRACKET"
  | rightBracket => "RBRACKET"
  | comma => "COMMA"
  | colon => "COLON"
  | dot => "DOT"
  | arrow => "ARROW"

/-- The symbol that consists of one character. -/
def ofChar? (c : Char) : Option Symbol := all.find? fun symbol => symbol.chars == [c]

/-- The symbol that consists of two characters. -/
def ofPair? (c d : Char) : Option Symbol := all.find? fun symbol => symbol.chars == [c, d]

theorem mem_all (symbol : Symbol) : symbol ∈ all := by
  cases symbol <;> decide

end Symbol

/-- What sort of token a token is. -/
inductive TokenKind where
  /-- The end of the program. -/
  | endOfFile
  /-- The end of a line that holds tokens. -/
  | newline
  /-- The beginning of an indented block. -/
  | indent
  /-- The end of an indented block. -/
  | dedent
  /-- An integer literal. -/
  | integer
  /-- A string literal. -/
  | string
  /-- A string literal whose text is a name, which may stand for a class in an annotation. -/
  | nameString
  /-- A name that is no keyword. -/
  | identifier
  /-- A reserved word. -/
  | keyword (keyword : Keyword)
  /-- An operator or a delimiter. -/
  | symbol (symbol : Symbol)
deriving DecidableEq, Repr

namespace TokenKind

/-- All kinds of token: layout, literals, names, keywords, symbols. -/
def all : List TokenKind :=
  [endOfFile, newline, indent, dedent, integer, string, nameString, identifier]
    ++ Keyword.all.map keyword ++ Symbol.all.map symbol

/-- The name of a kind in token listings. -/
def name : TokenKind → String
  | endOfFile => "EOF"
  | newline => "NEWLINE"
  | indent => "INDENT"
  | dedent => "DEDENT"
  | integer => "INTEGER"
  | string => "STRING"
  | nameString => "IDSTRING"
  | identifier => "IDENTIFIER"
  | keyword word => word.spelling.toUpper
  | symbol sign => sign.name

/-- The kind that a name in a token listing stands for. -/
def ofName? (name : String) : Option TokenKind := all.find? fun kind => kind.name == name

/-- The token carries block structure and no text of its own. -/
def isLayout : TokenKind → Bool
  | endOfFile | newline | indent | dedent => true
  | _ => false

/-- The token is the literal of a value. -/
def isLiteral : TokenKind → Bool
  | integer | string | nameString => true
  | keyword .kwTrue | keyword .kwFalse | keyword .kwNone => true
  | _ => false

/-- The token is a reserved word. -/
def isKeyword : TokenKind → Bool
  | keyword _ => true
  | _ => false

end TokenKind

/-- What a token stands for. -/
inductive TokenValue where
  /-- Nothing. -/
  | absent
  /-- The text of a string, of a name, or of the token itself. -/
  | text (text : String)
  /-- A number. -/
  | integer (value : Int)
  /-- A truth value. -/
  | boolean (value : Bool)
deriving DecidableEq, Repr

namespace TokenValue

/-- The number that a truth value or a number is. -/
def number? : TokenValue → Option Int
  | integer value => some value
  | boolean value => some (if value then 1 else 0)
  | _ => none

/-- Two values are the same; a truth value is the same as the number it counts for. -/
def same (a b : TokenValue) : Bool :=
  match a.number?, b.number? with
  | some m, some n => m == n
  | _, _ => a == b

/-- The value in words. -/
def display : TokenValue → String
  | absent => "None"
  | text content => content
  | integer value => toString value
  | boolean true => "True"
  | boolean false => "False"

/-- The value as a token listing shows it, texts between quotation marks. -/
def listing : TokenValue → String
  | text content => Text.quoted content
  | value => value.display

end TokenValue

/-- One token of a program. -/
structure Token where
  /-- What sort of token it is. -/
  kind : TokenKind
  /-- The number of an integer, the text of a string, and otherwise the token's own text. -/
  value : TokenValue
  /-- Where the token stands. -/
  span : Span
deriving DecidableEq, Repr

namespace Token

/-- Tokens are the same when kind and value are; where they stand does not matter. -/
def same (a b : Token) : Bool := a.kind == b.kind && a.value.same b.value

/-- The token as diagnostics name it. -/
def lexeme (token : Token) : String :=
  match token.kind with
  | .newline => "newline"
  | .indent => "indent"
  | .dedent => "dedent"
  | .endOfFile => "end of file"
  | .string | .nameString => "\"" ++ token.value.display ++ "\""
  | _ => token.value.display

/-- The token as a token listing shows it: kind, value if any, and place. -/
def listing (token : Token) : String :=
  let value :=
    match token.value with
    | .absent => ""
    | value => value.listing ++ ", "
  "Token(" ++ token.kind.name ++ ", " ++ value ++ toString token.span.start.line ++ ":"
    ++ toString token.span.start.column ++ ")"

end Token
end ChocoLang
