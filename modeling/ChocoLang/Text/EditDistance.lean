/-!
# Edit distance

The edit distance of two texts is the least number of insertions, deletions and substitutions of
single characters that turn one into the other.  It is computed row by row: the row of a prefix of
the source lists its distances to all prefixes of the target, and one character of the source
takes a row to the next.
-/

namespace ChocoLang
namespace Text

/--
The cells of the next row after its first, for the source character `c`.  `diagonal` is the cell
above the one to the left, `left` the cell to the left, and the list after the target holds the
cells above.
-/
def extendRow (c : Char) : Nat → Nat → List Char → List Nat → List Nat
  | diagonal, left, d :: target, above :: row =>
    let cell := min (min (above + 1) (left + 1)) (diagonal + if c = d then 0 else 1)
    cell :: extendRow c above cell target row
  | _, _, _, _ => []

/-- The row that follows `row` when the source grows by the character `c`. -/
def nextRow (target : List Char) (row : List Nat) (c : Char) : List Nat :=
  match row with
  | [] => []
  | first :: above => (first + 1) :: extendRow c first (first + 1) target above

/-- The last cell of the last row, with a row for each prefix of the source. -/
def lastCell (source target : List Char) : Nat :=
  (source.foldl (nextRow target) (List.range (target.length + 1))).getLastD 0

/--
The least number of single-character edits that turn `source` into `target`.  The rows are those of
the shorter text, for which the texts change places if need be.
-/
def editDistance (source target : List Char) : Nat :=
  if source.length < target.length then lastCell target source else lastCell source target

theorem length_extendRow (c : Char) (diagonal left : Nat) (target : List Char) (row : List Nat)
    (same : row.length = target.length) :
    (extendRow c diagonal left target row).length = target.length := by
  induction target generalizing diagonal left row with
  | nil => simp [extendRow]
  | cons d target ih =>
      cases row with
      | nil => simp at same
      | cons above row =>
          simp only [extendRow, List.length_cons, Nat.add_right_cancel_iff]
          exact ih _ _ _ (by simpa using same)

theorem length_nextRow (target : List Char) (row : List Nat) (c : Char)
    (same : row.length = target.length + 1) :
    (nextRow target row c).length = target.length + 1 := by
  cases row with
  | nil => simp at same
  | cons first above =>
      simp only [nextRow, List.length_cons, Nat.add_right_cancel_iff]
      exact length_extendRow c _ _ _ _ (by simpa using same)

end Text
end ChocoLang
