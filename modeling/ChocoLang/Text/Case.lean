import ChocoLang.Text.CaseTable
import ChocoLang.Text.Printable

/-!
# Letter case

The lower-case form of a text, and the form with every word capitalised.  Names are compared
without regard to case when a similar one is looked for, and field names are capitalised word by
word when a record is written out.  The form of a letter can consist of several, and one letter has
two lower-case forms: the capital sigma has one of its own at the end of a word.
-/

namespace ChocoLang
namespace Text

/-- The code point that a run of a case map assigns to one of its own. -/
def imageIn? (code : Nat) (run : Nat × Nat × Nat × Nat) : Option Nat :=
  let (first, last, step, image) := run
  if first ≤ code && code ≤ last && (code - first) % step = 0 then some (image + (code - first))
  else none

/-- The character that a case map assigns to a character; the character itself if there is none. -/
def imageUnder (runs : List (Nat × Nat × Nat × Nat)) (c : Char) : Char :=
  match runs.findSome? (imageIn? c.toNat) with
  | some code => Char.ofNat code
  | none => c

/-- The character belongs to a case or could. -/
def isCased (c : Char) : Bool := inStretches c.toNat casedStretches

/-- The character is passed over where the case of its neighbours counts. -/
def isCaseless (c : Char) : Bool := inStretches c.toNat caselessStretches

/-- The first character that is not passed over belongs to a case. -/
def leadsToCased (text : List Char) : Bool :=
  (text.dropWhile isCaseless).head?.any isCased

/-- The lower-case form of a character that does not depend on the characters around it. -/
def lowerChar (c : Char) : List Char :=
  if c.toNat = 0x130 then ['i', Char.ofNat 0x307] else [imageUnder lowerRuns c]

/--
The lower-case form of a character with what stands before it, nearest first, and after it.  A
capital sigma that ends a word has a form of its own.
-/
def lowerBetween (before : List Char) (c : Char) (after : List Char) : List Char :=
  if c = 'Σ' then
    if leadsToCased before && !leadsToCased after then ['ς'] else ['σ']
  else lowerChar c

/-- The lower-case form of the rest of a text; `before` stands before it, nearest first. -/
def lowerFrom (before : List Char) : List Char → List Char
  | [] => []
  | c :: rest => lowerBetween before c rest ++ lowerFrom (c :: before) rest

/-- The lower-case form of a text. -/
def lower (text : List Char) : List Char := lowerFrom [] text

/-- The form of a character at the beginning of a word. -/
def titleChar (c : Char) : List Char :=
  match titleSequences.lookup c.toNat with
  | some codes => codes.map Char.ofNat
  | none => [imageUnder titleRuns c]

/--
The rest of a text with every word capitalised; `before` stands before it, nearest first.  A word
begins where a character belongs to a case and the one before it does not.
-/
def titleFrom (before : List Char) : List Char → List Char
  | [] => []
  | c :: rest =>
    (if before.head?.any isCased then lowerBetween before c rest else titleChar c)
      ++ titleFrom (c :: before) rest

/-- A text with every word capitalised and the rest of the word in lower case. -/
def title (text : List Char) : List Char := titleFrom [] text

/-- The parts of a text between the occurrences of a mark. -/
def splitAt (mark : Char) : List Char → List (List Char)
  | [] => [[]]
  | c :: rest =>
    if c = mark then [] :: splitAt mark rest
    else
      match splitAt mark rest with
      | [] => [[c]]
      | part :: parts => (c :: part) :: parts

/--
The name of a field in a record: the words of its name without the underscores between them, each
word but the first capitalised.
-/
def fieldName (name : String) : String :=
  match splitAt '_' name.toList with
  | [] => ""
  | first :: words => String.ofList (first ++ words.flatMap title)

end Text
end ChocoLang
