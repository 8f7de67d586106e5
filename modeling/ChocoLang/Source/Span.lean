/-!
# Positions and spans of source text

A position is a line and a column, both counted from one.  A span runs from its start to its stop,
the stop excluded, and remembers the file it lies in.  Positions are ordered by line and then by
column, and containment of spans is containment of the intervals they denote in that order.
-/

namespace ChocoLang

/-- A place in a text, in reading order. -/
structure Position where
  /-- Line number; the first line of a text is line one. -/
  line : Int
  /-- Column number; the first character of a line stands in column one. -/
  column : Int
deriving DecidableEq, Repr

namespace Position

instance : LT Position where
  lt p q := p.line < q.line ∨ p.line = q.line ∧ p.column < q.column

instance : LE Position where
  le p q := p.line < q.line ∨ p.line = q.line ∧ p.column ≤ q.column

theorem lt_iff {p q : Position} :
    p < q ↔ p.line < q.line ∨ p.line = q.line ∧ p.column < q.column :=
  Iff.rfl

theorem le_iff {p q : Position} :
    p ≤ q ↔ p.line < q.line ∨ p.line = q.line ∧ p.column ≤ q.column :=
  Iff.rfl

instance (p q : Position) : Decidable (p < q) :=
  inferInstanceAs (Decidable (p.line < q.line ∨ p.line = q.line ∧ p.column < q.column))

instance (p q : Position) : Decidable (p ≤ q) :=
  inferInstanceAs (Decidable (p.line < q.line ∨ p.line = q.line ∧ p.column ≤ q.column))

@[simp]
theorem le_refl (p : Position) : p ≤ p :=
  Or.inr ⟨rfl, Int.le_refl _⟩

theorem le_trans {p q r : Position} (first : p ≤ q) (second : q ≤ r) : p ≤ r := by
  simp only [le_iff] at *
  omega

theorem not_lt {p q : Position} : ¬p < q ↔ q ≤ p := by
  simp only [lt_iff, le_iff]
  omega

end Position

/-- The file name of a program that was not read from a named file. -/
def defaultFile : String := "<input>"

/-- A stretch of source text. -/
structure Span where
  /-- Where the stretch begins. -/
  start : Position
  /-- The first position after the stretch. -/
  stop : Position
  /-- The file the text comes from. -/
  file : String := defaultFile
deriving DecidableEq, Repr

namespace Span

/-- The span of columns `first` to `last` of one line, `last` excluded. -/
def onLine (file : String) (line first last : Int) : Span :=
  { start := ⟨line, first⟩, stop := ⟨line, last⟩, file }

/-- The empty span at a place. -/
def point (file : String) (line column : Int) : Span :=
  onLine file line column column

/-- The span that covers `length` characters from a place on. -/
def ofLocation (file : String) (line column length : Int) : Span :=
  onLine file line column (column + length)

/-- A span is multiline when it stops on another line than it starts on. -/
def isMultiline (span : Span) : Bool := span.start.line != span.stop.line

/-- How many columns to underline: one for a multiline span, and never none. -/
def length (span : Span) : Int :=
  if span.isMultiline then 1 else max 1 (span.stop.column - span.start.column)

/-- The span from the start of the first to the stop of the second, in the first one's file. -/
def through (first last : Span) : Span := { first with stop := last.stop }

/-- The other span lies within this one. -/
def Contains (span other : Span) : Prop := span.start ≤ other.start ∧ other.stop ≤ span.stop

instance (span other : Span) : Decidable (span.Contains other) :=
  inferInstanceAs (Decidable (_ ∧ _))

/-- The position is one of those the span covers. -/
def Covers (span : Span) (position : Position) : Prop :=
  span.start ≤ position ∧ position < span.stop

instance (span : Span) (position : Position) : Decidable (span.Covers position) :=
  inferInstanceAs (Decidable (_ ∧ _))

/-- The place where a span starts, as a reader is told it. -/
def display (span : Span) : String :=
  span.file ++ ":" ++ toString span.start.line ++ ":" ++ toString span.start.column

/-- A message behind the place it is about, if it is about one. -/
def prefaced (place : Option Span) (message : String) : String :=
  match place with
  | none => message
  | some span => "[" ++ span.display ++ "] " ++ message

/-- The four numbers of a span: start line and column, stop line and column. -/
def coordinates (span : Span) : List Int :=
  [span.start.line, span.start.column, span.stop.line, span.stop.column]

theorem contains_refl (span : Span) : span.Contains span :=
  ⟨Position.le_refl _, Position.le_refl _⟩

theorem contains_trans {outer middle inner : Span} (first : outer.Contains middle)
    (second : middle.Contains inner) : outer.Contains inner :=
  ⟨Position.le_trans first.1 second.1, Position.le_trans second.2 first.2⟩

end Span

/-- What a stage has to say about a stretch of the source. -/
structure Located (α : Type) where
  /-- What is said. -/
  content : α
  /-- The stretch it is said about. -/
  span : Span
deriving DecidableEq, Repr

end ChocoLang
