import ChocoLang.Proofs.Token.Lines

/-!
# Readings elsewhere

Where a line stands in its file, and where the text begins on it, shows in what is read off it only
as the places of the readings.  So two lines with the same text yield the same readings once the
places on either are moved in such a way that corresponding columns come to lie at one place.
-/

namespace ChocoLang

/-- The token at another place. -/
def Token.relocate (move : Span → Span) (token : Token) : Token :=
  { token with span := move token.span }

/-- What is said, about another place. -/
def Located.relocate {α : Type} (move : Span → Span) (located : Located α) : Located α :=
  { located with span := move located.span }

/-- The diagnostic at another place, if it is at a place. -/
def Diagnostic.relocate (move : Span → Span) (diagnostic : Diagnostic) : Diagnostic :=
  { diagnostic with span := diagnostic.span.map move }

@[simp]
theorem Located.toDiagnostic_relocate {α : Type} [Problem α] (move : Span → Span)
    (located : Located α) :
    (located.relocate move).toDiagnostic = located.toDiagnostic.relocate move := rfl

namespace Reading

/-- The reading at another place. -/
def relocate (move : Span → Span) : Reading → Reading
  | token found => token (found.relocate move)
  | problem found => problem (found.relocate move)

@[simp]
theorem relocate_token (move : Span → Span) (found : Token) :
    (token found).relocate move = token (found.relocate move) := rfl

@[simp]
theorem relocate_problem (move : Span → Span) (found : Located LexicalError) :
    (problem found).relocate move = problem (found.relocate move) := rfl

@[simp]
theorem relocate_id : relocate id = id := by
  funext reading
  cases reading <;> rfl

theorem token?_relocate (move : Span → Span) (reading : Reading) :
    (reading.relocate move).token? = reading.token?.map (Token.relocate move) := by
  cases reading <;> rfl

theorem problem?_relocate (move : Span → Span) (reading : Reading) :
    (reading.relocate move).problem? = reading.problem?.map (Located.relocate move) := by
  cases reading <;> rfl

theorem filterMap_token?_relocate (move : Span → Span) (readings : List Reading) :
    (readings.map (relocate move)).filterMap token? =
      (readings.filterMap token?).map (Token.relocate move) := by
  rw [List.filterMap_map, List.map_filterMap]
  exact congrArg (List.filterMap · readings) (funext (token?_relocate move))

theorem filterMap_problem?_relocate (move : Span → Span) (readings : List Reading) :
    (readings.map (relocate move)).filterMap problem? =
      (readings.filterMap problem?).map (Located.relocate move) := by
  rw [List.filterMap_map, List.map_filterMap]
  exact congrArg (List.filterMap · readings) (funext (problem?_relocate move))

end Reading

open Reading

/--
Columns from `column` on of one line and from `column'` on of another come to lie at one place when
the first are moved by `move` and the others by `move'`.
-/
def Aligned (move move' : Span → Span) (line line' : Line) (column column' : Nat) : Prop :=
  ∀ first last, move (line.span (column + first) (column + last)) =
    move' (line'.span (column' + first) (column' + last))

namespace Aligned

variable {move move' : Span → Span} {line line' : Line} {column column' : Nat}

theorem advance (aligned : Aligned move move' line line' column column') (count : Nat) :
    Aligned move move' line line' (column + count) (column' + count) := by
  intro first last
  simpa only [Nat.add_assoc] using aligned (count + first) (count + last)

/-- Whole lines are aligned when every span of columns is. -/
theorem of_span (moved : ∀ first last, move (line.span first last) = line'.span first last)
    (column : Nat) : Aligned move id line line' column column :=
  fun first last => moved (column + first) (column + last)

/-- Nothing is out of line when all places are the same. -/
theorem const (place : Span) :
    Aligned (fun _ => place) (fun _ => place) line line' column column' :=
  fun _ _ => rfl

theorem readBody (aligned : Aligned move move' line line' column column') (body : List Char) :
    let reading := ChocoLang.readBody line column body
    let reading' := ChocoLang.readBody line' column' body
    reading.value = reading'.value ∧ reading.closed = reading'.closed ∧
      reading.problems.map (Located.relocate move) =
        reading'.problems.map (Located.relocate move') := by
  induction column, body using readBody.induct line generalizing column' with
  | case1 column => exact ⟨rfl, rfl, rfl⟩
  | case2 column c rest meant found ih =>
      obtain ⟨value, closed, problems⟩ := ih (aligned.advance 2)
      simp only [readBody.eq_2, found]
      exact ⟨congrArg (meant :: ·) value, closed, problems⟩
  | case3 column c rest none ih =>
      obtain ⟨value, closed, problems⟩ := ih (aligned.advance 2)
      simp only [readBody.eq_2, none, List.map_cons]
      exact ⟨value, closed, List.cons_eq_cons.mpr ⟨congrArg (Located.mk _) (aligned 0 2), problems⟩⟩
  | case4 column rest single => simp [readBody.eq_3 _ _ _ _ single]
  | case5 column rest single noMark ih =>
      simp only [readBody.eq_3 _ _ _ _ single, if_neg noMark, if_true]
      exact ih (aligned.advance 1)
  | case6 column c rest single noMark noSlash plain ih =>
      obtain ⟨value, closed, problems⟩ := ih (aligned.advance 1)
      simp only [readBody.eq_3 _ _ _ _ single, if_neg noMark, if_neg noSlash, if_pos plain]
      exact ⟨congrArg (c :: ·) value, closed, problems⟩
  | case7 column c rest single noMark noSlash plain ih =>
      obtain ⟨value, closed, problems⟩ := ih (aligned.advance 1)
      simp only [readBody.eq_3 _ _ _ _ single, if_neg noMark, if_neg noSlash, if_neg plain,
        List.map_cons]
      exact ⟨value, closed, List.cons_eq_cons.mpr ⟨congrArg (Located.mk _) (aligned 0 1), problems⟩⟩

theorem readLiteral (aligned : Aligned move move' line line' column column') (body : List Char) :
    (ChocoLang.readLiteral line column body).map (relocate move) =
      (ChocoLang.readLiteral line' column' body).map (relocate move') := by
  obtain ⟨value, closed, problems⟩ := (aligned.advance 1).readBody body
  have told : ((ChocoLang.readBody line (column + 1) body).problems.map Reading.problem).map
        (relocate move) =
      ((ChocoLang.readBody line' (column' + 1) body).problems.map Reading.problem).map
        (relocate move') := by
    simpa [Function.comp_def] using congrArg (List.map Reading.problem) problems
  have clean : (ChocoLang.readBody line (column + 1) body).problems.isEmpty =
      (ChocoLang.readBody line' (column' + 1) body).problems.isEmpty := by
    simpa using congrArg List.isEmpty problems
  have place : move (line.span column (column + 1 + body.length)) =
      move' (line'.span column' (column' + 1 + body.length)) := by
    simpa only [Nat.add_assoc, Nat.add_zero] using aligned 0 (1 + body.length)
  simp only [ChocoLang.readLiteral, closed, value, clean]
  split <;>
    simp only [List.map_append, told, List.map_cons, List.map_nil, relocate_token,
      relocate_problem, Token.relocate, Located.relocate, place]

theorem readSegment (aligned : Aligned move move' line line' column column') (segment : Segment) :
    (segment.read line column).map (relocate move) =
      (segment.read line' column').map (relocate move') := by
  have place : move (line.span column (column + segment.chars.length)) =
      move' (line'.span column' (column' + segment.chars.length)) := aligned 0 _
  cases segment with
  | literal body => exact aligned.readLiteral body
  | digits chars =>
      simp only [Segment.read]
      cases digitsError? chars <;> simp [Token.relocate, Located.relocate, place]
  | _ => simp [Segment.read, Token.relocate, Located.relocate, place]

/-- The readings of successive segments only move with the columns. -/
theorem readSegments (aligned : Aligned move move' line line' column column')
    (found : List Segment) :
    (ChocoLang.readSegments line column found).map (relocate move) =
      (ChocoLang.readSegments line' column' found).map (relocate move') := by
  induction found generalizing column column' with
  | nil => rfl
  | cons segment rest ih =>
      rw [ChocoLang.readSegments, ChocoLang.readSegments, List.map_append, List.map_append,
        aligned.readSegment, ih (aligned.advance _)]

end Aligned

/-! ## Lines -/

section Line

variable {move : Span → Span} {line line' : Line}

theorem dedents_relocate (move : Span → Span) (count : Nat) (place : Span) :
    (dedents count place).map (relocate move) = dedents count (move place) := by
  simp [dedents, dedentToken, Token.relocate]

/-- What the indentation of a line says moves with the line, and the levels stay as they are. -/
theorem indentLine_relocate
    (moved : ∀ first last, move (line.span first last) = line'.span first last)
    (width column : Nat) (levels : List Level) :
    (indentLine line width column levels).1.map (relocate move) =
        (indentLine line' width column levels).1 ∧
      (indentLine line width column levels).2 = (indentLine line' width column levels).2 := by
  have point : move (line.point column) = line'.point column := moved column column
  simp only [indentLine]
  split
  · exact ⟨by simp [Token.relocate, moved], rfl⟩
  · split
    · exact ⟨by simp [dedents_relocate, point, Located.relocate, moved], rfl⟩
    · exact ⟨by rw [dedents_relocate, point], rfl⟩

theorem any_token?_relocate (move : Span → Span) (readings : List Reading) :
    (readings.map (relocate move)).any (·.token?.isSome) = readings.any (·.token?.isSome) := by
  simp [Function.comp_def, token?_relocate]

/-- What a line yields moves with the line, and the levels stay as they are. -/
theorem readLine_relocate
    (moved : ∀ first last, move (line.span first last) = line'.span first last)
    (terminated : Bool) (levels : List Level) (chars : List Char) :
    (readLine line terminated levels chars).1.map (relocate move) =
        (readLine line' terminated levels chars).1 ∧
      (readLine line terminated levels chars).2 = (readLine line' terminated levels chars).2 := by
  have layout := indentLine_relocate moved (blankWidth (chars.takeWhile isBlank))
    ((chars.takeWhile isBlank).length + 1) levels
  have readings := (Aligned.of_span moved ((chars.takeWhile isBlank).length + 1)).readSegments
    (segments (chars.dropWhile isBlank))
  rw [relocate_id, List.map_id] at readings
  have ending : (lineEnd line chars.length terminated).relocate move =
      lineEnd line' chars.length terminated := congrArg (Token.mk _ _) (moved _ _)
  simp only [readLine]
  split
  · exact ⟨rfl, rfl⟩
  · refine ⟨?_, layout.2⟩
    rw [List.map_append, List.map_append, layout.1, readings, ← readings, any_token?_relocate]
    split
    · rw [List.map_singleton, relocate_token, ending]
    · rfl

/-- A line without tokens yields nothing and leaves the levels as they are. -/
theorem readLine_vacant {chars : List Char} (vacant : isVacant (chars.dropWhile isBlank) = true)
    (line : Line) (terminated : Bool) (levels : List Level) :
    readLine line terminated levels chars = ([], levels) := by
  simp [readLine, vacant]

/-- A line with text yields what its indentation says, what its segments say and its end. -/
theorem readLine_of_text {chars : List Char} (text : isVacant (chars.dropWhile isBlank) = false)
    (line : Line) (terminated : Bool) (levels : List Level) :
    let column := (chars.takeWhile isBlank).length + 1
    let layout := indentLine line (blankWidth (chars.takeWhile isBlank)) column levels
    let readings := readSegments line column (segments (chars.dropWhile isBlank))
    readLine line terminated levels chars =
      (layout.1 ++ readings ++ if readings.any (·.token?.isSome) then
          [.token (lineEnd line chars.length terminated)] else [], layout.2) := by
  simp [readLine, text]

/-- Behind a line that is not the last one the others are read on the levels that it leaves open. -/
theorem readLines_cons (file : String) (number : Nat) (levels : List Level) (chars : List Char)
    {rest : List (List Char)} (more : rest ≠ []) :
    readLines file number levels (chars :: rest) =
      (readLine ⟨file, number⟩ true levels chars).1 ++
        readLines file (number + 1) (readLine ⟨file, number⟩ true levels chars).2 rest :=
  readLines.eq_3 file number levels chars rest more

theorem readEnd_relocate
    (moved : ∀ first last, move (line.span first last) = line'.span first last) (length : Nat)
    (levels : List Level) :
    (readEnd line length levels).map (relocate move) = readEnd line' length levels := by
  have place : move (line.point (length + 1)) = line'.point (length + 1) := moved _ _
  simp [readEnd, dedents_relocate, Token.relocate, place]

end Line
end ChocoLang
