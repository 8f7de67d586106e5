import ChocoLang.Source.Span
import ChocoLang.Text.Lines
import Mathlib.Data.List.Basic

/-!
# Places in a text

A position lies in a text if it is that of a character or follows the last character of a line.  The
break that ends a line goes one place further.
-/

namespace ChocoLang

namespace Text

/-- There is one line more than there are breaks. -/
theorem length_lines (text : List Char) : (lines text).length = text.count '\n' + 1 := by
  induction text with
  | nil => rfl
  | cons c rest ih =>
      rw [lines]
      split
      · next isBreak => rw [isBreak, List.length_cons, ih, List.count_cons_self]
      · next inLine =>
          obtain ⟨line, tail, shape⟩ := List.exists_cons_of_ne_nil (lines_ne_nil rest)
          rw [shape] at ih ⊢
          rw [consToFirst, List.count_cons_of_ne (by simpa using inLine)]
          exact ih

/-- How many characters the line with a number holds, the break at its end not counted. -/
def lineLength (text : List Char) (number : Int) : Nat :=
  ((lines text).getD (number - 1).toNat []).length

theorem lineLength_of_getElem? {text line : List Char} {index : Nat}
    (found : (lines text)[index]? = some line) : lineLength text ((index + 1 : Nat) : Int) =
      line.length := by
  have shifted : (((index + 1 : Nat) : Int) - 1).toNat = index := by omega
  rw [lineLength, shifted, List.getD_eq_getElem?_getD, found]
  rfl

end Text

variable {text : List Char}

/-- The position is that of a character of the text or follows the last character of a line. -/
structure Position.Within (text : List Char) (position : Position) : Prop where
  /-- The line is one of those of the text. -/
  line : 1 ≤ position.line ∧ position.line ≤ (text.count '\n' + 1 : Nat)
  /-- The column is at most one further than the line is long. -/
  column : 1 ≤ position.column ∧ position.column ≤ (Text.lineLength text position.line + 1 : Nat)

namespace Span

/-- The span lies in the text and does not stop before it starts. -/
structure Within (text : List Char) (span : Span) : Prop where
  /-- The span does not stop before it starts. -/
  forward : span.start ≤ span.stop
  /-- The start lies in the text. -/
  start : span.start.Within text
  /-- The stop lies in the text. -/
  stop : span.stop.Within text

/-- The span starts behind the last character of a line and goes one place further. -/
structure PassesEnd (text : List Char) (span : Span) : Prop where
  /-- The span starts in the text. -/
  start : span.start.Within text
  /-- It starts behind the last character of the line. -/
  behind : span.start.column = (Text.lineLength text span.start.line + 1 : Nat)
  /-- It stops one place further. -/
  stop : span.stop = ⟨span.start.line, span.start.column + 1⟩

theorem PassesEnd.forward {span : Span} (passes : span.PassesEnd text) :
    span.start ≤ span.stop := by
  rw [passes.stop]
  exact .inr ⟨rfl, by simp only; omega⟩

/-- What leads from a place in the text to the end of another span of it lies in the text. -/
theorem Within.through {start last : Span} (starts : start.start.Within text)
    (ends : last.Within text) (ordered : start.start ≤ last.stop) :
    (start.through last).Within text :=
  ⟨ordered, starts, ends.stop⟩

end Span
end ChocoLang

/-!
## Offsets of positions

A position is counted by lines and columns, and the characters of a text are counted from its
beginning.  The one count is turned into the other by the lengths of the lines, each of which but
the last is one longer by the break that ends it.
-/

namespace ChocoLang
namespace Text

theorem not_mem_of_mem_lines {text line : List Char} (among : line ∈ lines text) :
    '\n' ∉ line := by
  induction text generalizing line with
  | nil =>
      rw [lines, List.mem_singleton] at among
      simp [among]
  | cons c rest ih =>
      rw [lines] at among
      split at among
      · rcases List.mem_cons.mp among with rfl | later
        · exact List.not_mem_nil
        · exact ih later
      · next noBreak =>
          obtain ⟨first, tail, shape⟩ := List.exists_cons_of_ne_nil (lines_ne_nil rest)
          rw [shape] at ih among
          rcases List.mem_cons.mp among with rfl | later
          · simp [Ne.symm noBreak, ih List.mem_cons_self]
          · exact ih (List.mem_cons_of_mem first later)

/-- How many characters some lines take up, each with the break behind it. -/
def extent : List (List Char) → Nat
  | [] => 0
  | line :: rest => line.length + 1 + extent rest

@[simp]
theorem extent_nil : extent [] = 0 := rfl

@[simp]
theorem extent_concat (lines : List (List Char)) (line : List Char) :
    extent (lines ++ [line]) = extent lines + (line.length + 1) := by
  induction lines with
  | nil => simp [extent]
  | cons first rest ih => simp only [List.cons_append, extent, ih]; omega

end Text

/-- How many characters of the text stand before a position in it. -/
def Position.offset (text : List Char) (position : Position) : Nat :=
  Text.extent ((Text.lines text).take (position.line - 1).toNat) + (position.column - 1).toNat

namespace Span

/-- The characters of the text that the span covers. -/
def slice (text : List Char) (span : Span) : List Char :=
  text.extract (span.start.offset text) (span.stop.offset text)

/-- The span covers the character of the text at an index. -/
def Holds (text : List Char) (index : Nat) (span : Span) : Prop :=
  span.start.offset text ≤ index ∧ index < span.stop.offset text

instance (text : List Char) (index : Nat) (span : Span) : Decidable (span.Holds text index) :=
  inferInstanceAs (Decidable (_ ∧ _))

end Span

/-- A position on a line stands behind the lines before it and some characters of its own line. -/
theorem Position.offset_of_lines {text : List Char} {before behind : List (List Char)}
    (shape : Text.lines text = before ++ behind) (count : Nat) :
    Position.offset text ⟨(before.length + 1 : Nat), (count + 1 : Nat)⟩ =
      Text.extent before + count := by
  have line : ((before.length + 1 : Nat) - 1 : Int).toNat = before.length := by omega
  have column : ((count + 1 : Nat) - 1 : Int).toNat = count := by omega
  rw [Position.offset, shape, line, column, List.take_left]

/-!
## Successive spans

Stretches of a text that stand one behind the other, from one position up to another.  Between them
and around them there may be gaps, and a stretch may be empty, but none begins before the one in
front of it has stopped.
-/

namespace Position

variable {p q r : Position}

theorem lt_of_lt_of_le (first : p < q) (second : q ≤ r) : p < r := by
  simp only [lt_iff, le_iff] at *
  omega

theorem lt_of_le_of_lt (first : p ≤ q) (second : q < r) : p < r := by
  simp only [lt_iff, le_iff] at *
  omega

end Position

/-- One of the spans stops before the other starts. -/
def Span.Apart (first second : Span) : Prop :=
  first.stop ≤ second.start ∨ second.stop ≤ first.start

instance (first second : Span) : Decidable (first.Apart second) :=
  inferInstanceAs (Decidable (_ ∨ _))

namespace Span

variable {first second : Span} {position : Position}

theorem apart_comm : first.Apart second ↔ second.Apart first := or_comm

/-- No position is covered by two spans of which one stops before the other starts. -/
theorem Apart.not_covers (apart : first.Apart second) (covers : first.Covers position) :
    ¬second.Covers position := by
  simp only [Covers, Apart, Position.le_iff, Position.lt_iff] at *
  omega

/-- A span covers what the spans within it cover. -/
theorem Contains.covers (contains : first.Contains second) (covers : second.Covers position) :
    first.Covers position := by
  simp only [Covers, Contains, Position.le_iff, Position.lt_iff] at *
  omega

end Span

/-- The spans stand one behind the other between two positions. -/
inductive Successive : Position → List Span → Position → Prop where
  /-- Between the positions nothing need stand. -/
  | nil {first last : Position} (ordered : first ≤ last) : Successive first [] last
  /-- A span stands in front of the others. -/
  | cons {first last : Position} {span : Span} {rest : List Span} (begins : first ≤ span.start)
      (forward : span.start ≤ span.stop) (later : Successive span.stop rest last) :
      Successive first (span :: rest) last

namespace Successive

variable {first middle last : Position} {span : Span} {spans others : List Span}

theorem le (row : Successive first spans last) : first ≤ last := by
  induction row with
  | nil ordered => exact ordered
  | cons begins forward _ ih => exact Position.le_trans begins (Position.le_trans forward ih)

theorem of_le (row : Successive middle spans last) (earlier : first ≤ middle) :
    Successive first spans last := by
  cases row with
  | nil ordered => exact .nil (Position.le_trans earlier ordered)
  | cons begins forward later => exact .cons (Position.le_trans earlier begins) forward later

theorem append (row : Successive first spans middle) (behind : Successive middle others last) :
    Successive first (spans ++ others) last := by
  induction row with
  | nil ordered => exact behind.of_le ordered
  | cons begins forward _ ih => exact .cons begins forward (ih behind)

theorem le_of (row : Successive first spans middle) (later : middle ≤ last) :
    Successive first spans last := by
  simpa using row.append (.nil later)

theorem singleton (begins : first ≤ span.start) (forward : span.start ≤ span.stop)
    (ends : span.stop ≤ last) : Successive first [span] last :=
  .cons begins forward (.nil ends)

/-- Without the last of them, spans still stand in the same place. -/
theorem of_append (row : Successive first (spans ++ others) last) :
    Successive first spans last := by
  induction spans generalizing first with
  | nil => exact .nil row.le
  | cons span spans ih =>
      cases row with
      | cons begins forward later => exact .cons begins forward (ih later)

theorem tail (row : Successive first (span :: spans) last) : Successive span.stop spans last := by
  cases row with
  | cons _ _ later => exact later

theorem forward (row : Successive first (span :: spans) last) : span.start ≤ span.stop := by
  cases row with
  | cons _ forward _ => exact forward

/-- Each of the spans lies between the two positions. -/
theorem within (row : Successive first spans last) :
    ∀ span ∈ spans, first ≤ span.start ∧ span.start ≤ span.stop ∧ span.stop ≤ last := by
  induction row with
  | nil => simp
  | @cons first last span rest begins forward later ih =>
      intro one among
      rcases List.mem_cons.mp among with rfl | among
      · exact ⟨begins, forward, later.le⟩
      · obtain ⟨starts, others⟩ := ih one among
        exact ⟨Position.le_trans begins (Position.le_trans forward starts), others⟩

/-- No two of the spans overlap. -/
theorem pairwise (row : Successive first spans last) :
    spans.Pairwise fun one other => one.stop ≤ other.start := by
  induction row with
  | nil => exact .nil
  | cons _ _ later ih => exact .cons (fun one among => (later.within one among).1) ih

end Successive
end ChocoLang
