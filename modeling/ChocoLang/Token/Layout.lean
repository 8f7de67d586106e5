import ChocoLang.Token.Reading

/-!
# Indentation

Blocks are told by indentation.  The levels that are open at a line form a stack, innermost first;
the outermost level, of width zero, is always open and is not listed.  A line that is indented more
than the innermost level opens one; a line that is indented less closes levels until one is no
wider.  If the line is then still wider than the level reached, its width is reported and becomes
another name for that level: it opens no block, and nothing is closed when it goes.
-/

namespace ChocoLang

/-- The number of columns between two tab stops. -/
def tabWidth : Nat := 8

/-- The width reached after a blank: a tab leads to the next tab stop. -/
def advanceWidth (width : Nat) (c : Char) : Nat :=
  if c = '\t' then (width / tabWidth + 1) * tabWidth else width + 1

/-- The width of the blanks at the beginning of a line. -/
def blankWidth (blanks : List Char) : Nat := blanks.foldl advanceWidth 0

/-- A level of indentation. -/
structure Level where
  /-- The width of the lines on this level. -/
  width : Nat
  /-- The level is a block of its own, and not another width for the block around it. -/
  isBlock : Bool
deriving DecidableEq, Repr

/-- The width of the innermost open level. -/
def innermostWidth : List Level → Nat
  | [] => 0
  | level :: _ => level.width

/-- How many of the levels are blocks. -/
def blockCount (levels : List Level) : Nat := levels.countP (·.isBlock)

/-- The levels that are no wider than a line. -/
def closeLevels (width : Nat) (levels : List Level) : List Level :=
  levels.dropWhile fun level => width < level.width

/-- The end of a block, before the token at a place. -/
def dedentToken (span : Span) : Token := ⟨.dedent, .absent, span⟩

/-- The ends of so many blocks at a place. -/
def dedents (count : Nat) (span : Span) : List Reading :=
  List.replicate count (.token (dedentToken span))

/--
What the indentation of a line says about blocks, and the levels open on the line.  The first token
of the line stands at `column`, behind blanks of the given width.
-/
def indentLine (line : Line) (width column : Nat) (levels : List Level) :
    List Reading × List Level :=
  if innermostWidth levels < width then
    ([.token ⟨.indent, .absent, line.span 1 column⟩], ⟨width, true⟩ :: levels)
  else
    let remaining := closeLevels width levels
    let closed := dedents (blockCount levels - blockCount remaining) (line.point column)
    if innermostWidth remaining < width then
      (closed ++ [.problem ⟨.inconsistentDedent, line.span 1 column⟩], ⟨width, false⟩ :: remaining)
    else (closed, remaining)

/-- Closing levels closes no more blocks than are open. -/
theorem blockCount_closeLevels_le (width : Nat) (levels : List Level) :
    blockCount (closeLevels width levels) ≤ blockCount levels :=
  (List.dropWhile_sublist _).countP_le

end ChocoLang
