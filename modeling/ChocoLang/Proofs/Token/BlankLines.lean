import ChocoLang.Proofs.Source.Breaks
import ChocoLang.Proofs.Token.Relocation

/-!
# Lines without tokens

A line that holds blanks only, or a comment behind them, may stand anywhere between two lines of a
program.  It leaves the levels that are open there as they are, whatever its own indentation, so
that the program is read as it is without the line; only what stands behind the line stands one line
further down.
-/

namespace ChocoLang

open Reading

/-! ## One line further down -/

/-- The position once a line is put in behind the first `count` lines. -/
def Position.lowered (count : Nat) (position : Position) : Position :=
  if count < position.line then { position with line := position.line + 1 } else position

/-- The span once a line is put in behind the first `count` lines. -/
def Span.lowered (count : Nat) (span : Span) : Span :=
  { span with start := span.start.lowered count, stop := span.stop.lowered count }

/-- The first `count` lines stay where they are. -/
theorem Line.lowered_span_of_le {count : Nat} {line : Line} (among : line.number ≤ count)
    (first last : Nat) : (line.span first last).lowered count = line.span first last := by
  have here : ¬ (count : Int) < line.number := by omega
  simp [Line.span, Span.onLine, Span.lowered, Position.lowered, here]

/-- Each line behind the first `count` lines comes to be the next one. -/
theorem Line.lowered_span_of_lt {count : Nat} {line : Line} (behind : count < line.number)
    (first last : Nat) :
    (line.span first last).lowered count = Line.span ⟨line.file, line.number + 1⟩ first last := by
  have there : (count : Int) < line.number := by omega
  simp [Line.span, Span.onLine, Span.lowered, Position.lowered, there]

/-! ## Lines further down -/

variable (file : String)

/-- Lines that all stand behind the first `count` lines are read one line further down. -/
theorem readLines_lowered {count number : Nat} (behind : count < number) (levels : List Level)
    (lines : List (List Char)) :
    (readLines file number levels lines).map (relocate (Span.lowered count)) =
      readLines file (number + 1) levels lines := by
  induction lines generalizing number levels with
  | nil => rfl
  | cons chars rest ih =>
      have moved := @Line.lowered_span_of_lt count ⟨file, number⟩ behind
      cases rest with
      | nil =>
          obtain ⟨readings, remaining⟩ := readLine_relocate moved false levels chars
          rw [readLines, readLines, List.map_append, readings, readEnd_relocate moved, remaining]
      | cons next rest =>
          obtain ⟨readings, remaining⟩ := readLine_relocate moved true levels chars
          have more : next :: rest ≠ [] := List.cons_ne_nil next rest
          rw [readLines_cons _ _ _ _ more, readLines_cons _ _ _ _ more, List.map_append, readings,
            ih (Nat.lt_succ_of_lt behind), remaining]

/-- A line without tokens, put in behind some lines, only moves what stands behind it. -/
theorem readLines_insert {vacant : List Char} (empty : isVacant (vacant.dropWhile isBlank) = true)
    (number : Nat) (levels : List Level) (rows : List (List Char)) {lines : List (List Char)}
    (nonempty : lines ≠ []) :
    readLines file (number + 1) levels (rows ++ vacant :: lines) =
      (readLines file (number + 1) levels (rows ++ lines)).map
        (relocate (Span.lowered (number + rows.length))) := by
  induction rows generalizing number levels with
  | nil =>
      rw [List.nil_append, List.nil_append, readLines_cons _ _ _ _ nonempty,
        readLine_vacant empty, List.nil_append]
      exact (readLines_lowered file (Nat.lt_succ_self number) levels lines).symm
  | cons row rows ih =>
      have among : number + 1 ≤ number + (row :: rows).length := by
        rw [List.length_cons]
        omega
      have moved := @Line.lowered_span_of_le _ ⟨file, number + 1⟩ among
      obtain ⟨readings, remaining⟩ := readLine_relocate moved true levels row
      have counted : number + (row :: rows).length = number + 1 + rows.length := by
        rw [List.length_cons]
        omega
      have more : rows ++ lines ≠ [] := List.append_ne_nil_of_right_ne_nil rows nonempty
      have more' : rows ++ vacant :: lines ≠ [] := by simp
      rw [List.cons_append, List.cons_append, readLines_cons _ _ _ _ more,
        readLines_cons _ _ _ _ more', ih, List.map_append, readings, counted]

/-! ## Texts -/

/-- How many breaks a text has, of whatever kind. -/
def breakCount (source : String) : Nat := (Text.normalizeBreaks source.toList).count '\n'

/-- The text is a line of blanks only, or of blanks and a comment, and the break at its end. -/
def Invisible (line : String) : Prop :=
  ∃ blanks comment, line.toList = blanks ++ comment ++ ['\n'] ∧
    (∀ c ∈ blanks, c = ' ' ∨ c = '\t') ∧ (comment = [] ∨ comment.head? = some '#') ∧
    ∀ c ∈ comment, c ≠ '\n' ∧ c ≠ '\r'

/-- An invisible text is one line, and nothing is read off it. -/
theorem Invisible.exists_vacant {line : String} (invisible : Invisible line) :
    ∃ vacant, line.toList = vacant ++ ['\n'] ∧ (∀ c ∈ vacant, c ≠ '\n' ∧ c ≠ '\r') ∧
      isVacant (vacant.dropWhile isBlank) = true := by
  obtain ⟨blanks, comment, shape, blank, mark, inLine⟩ := invisible
  have blank' : ∀ c ∈ blanks, isBlank c = true := by simpa [isBlank] using blank
  refine ⟨blanks ++ comment, shape, List.forall_mem_append.mpr ⟨fun c among => ?_, inLine⟩, ?_⟩
  · rcases blank c among with rfl | rfl <;> decide
  · rw [List.dropWhile_append_of_pos blank']
    rcases mark with rfl | mark
    · rfl
    · obtain ⟨rest, rfl⟩ := List.head?_eq_some_iff.mp mark
      rfl

/-- The line that is put into a text is one of its lines, and the others are those of the text. -/
theorem programLines_insert {front line : String} (boundary : Text.EndsLine front.toList)
    (invisible : Invisible line) (back : String) :
    ∃ rows vacant lines, rows.length = breakCount front ∧
      isVacant (vacant.dropWhile isBlank) = true ∧ lines ≠ [] ∧
      programLines (front ++ back) = rows ++ lines ∧
      programLines (front ++ line ++ back) = rows ++ vacant :: lines := by
  obtain ⟨vacant, shape, inLine, empty⟩ := invisible.exists_vacant
  obtain ⟨rows, inRow, length, lined⟩ := boundary.normalizeBreaks.exists_rows
  have noReturn : '\r' ∉ vacant ++ ['\n'] := by
    intro among
    rcases List.mem_append.mp among with among | among
    · exact (inLine _ among).2 rfl
    · cases List.mem_singleton.mp among
  have ended : Text.EndsLine (vacant ++ ['\n']) := by simp [Text.EndsLine]
  refine ⟨rows, vacant, programLines back, length, empty, Text.lines_ne_nil _, ?_, ?_⟩
  · rw [programLines, String.toList_append, Text.normalizeBreaks_append boundary, lined,
      Text.lines_flatMap_break_append inRow]
    rfl
  · rw [programLines, String.append_assoc, String.toList_append, String.toList_append, shape,
      Text.normalizeBreaks_append boundary, Text.normalizeBreaks_append ended, lined,
      Text.normalizeBreaks_eq_self noReturn, Text.lines_flatMap_break_append inRow,
      List.append_assoc, List.singleton_append, Text.lines_append_break fun among =>
        (inLine _ among).1 rfl]
    rfl

/-- A line without tokens holds no digits. -/
theorem holdsOverlongDigits_vacant {chars : List Char}
    (vacant : isVacant (chars.dropWhile isBlank) = true) : holdsOverlongDigits chars = false := by
  simp [holdsOverlongDigits, vacant]

/--
An invisible line may be put into a program in front of any of its lines: the same tokens are read
and the same problems are found, and those behind the line stand one line further down.
-/
theorem Lexing.ofSource_insert (file : String) {front line back : String} {lexing : Lexing}
    (boundary : Text.EndsLine front.toList) (invisible : Invisible line)
    (read : Lexing.ofSource file (front ++ back) = .ok lexing) :
    ∃ lexing', Lexing.ofSource file (front ++ line ++ back) = .ok lexing' ∧
      lexing'.tokens = lexing.tokens.map (Token.relocate (Span.lowered (breakCount front))) ∧
      lexing'.diagnostics =
        lexing.diagnostics.map (Diagnostic.relocate (Span.lowered (breakCount front))) := by
  obtain ⟨rows, vacant, lines, length, empty, nonempty, before, after⟩ :=
    programLines_insert boundary invisible back
  have moved : readProgram file (front ++ line ++ back) =
      (readProgram file (front ++ back)).map (relocate (Span.lowered (breakCount front))) := by
    have inserted := readLines_insert file empty 0 [] rows nonempty
    rw [length, ← before, ← after, Nat.zero_add (breakCount front)] at inserted
    exact inserted
  unfold Lexing.ofSource at read ⊢
  split at read
  · cases read
  · next accepted =>
      cases read
      have accepted' : ¬ (programLines (front ++ line ++ back)).any holdsOverlongDigits = true := by
        rw [after, List.any_append, List.any_cons, holdsOverlongDigits_vacant empty, Bool.false_or,
          ← List.any_append, ← before]
        exact accepted
      refine ⟨_, if_neg accepted', ?_, ?_⟩
      · rw [← filterMap_token?_relocate, ← moved]
      · simp only [Lexing.diagnostics, moved, filterMap_problem?_relocate, List.map_map,
          Function.comp_def, Located.toDiagnostic_relocate]

/-- The beginning of a program: a block with an open string literal. -/
def brokenFront : String := "if x:\r\n    y = \"a\n"

/-- The rest of the program: a line between two levels, an invalid character and a blank line. -/
def brokenBack : String := "  z §\n \n w"

/-- A comment behind more blanks than any line of the program has. -/
def deepComment : String := "\t \t# \"\n"

/-- The comment in the block of the program only moves the problems behind it. -/
theorem Lexing.ofSource_insert_deepComment :
    Text.EndsLine brokenFront.toList ∧ Invisible deepComment ∧ breakCount brokenFront = 2 ∧
      ∃ lexing lexing', Lexing.ofSource "broken.choc" (brokenFront ++ brokenBack) = .ok lexing ∧
        Lexing.ofSource "broken.choc" (brokenFront ++ deepComment ++ brokenBack) = .ok lexing' ∧
        lexing.diagnostics.map (fun diagnostic =>
            (diagnostic.code, diagnostic.span.map Span.coordinates)) =
          [("E0102", some [2, 9, 2, 11]), ("E0106", some [3, 1, 3, 3]),
            ("E0101", some [3, 5, 3, 6]), ("E0106", some [5, 1, 5, 2])] ∧
        lexing'.tokens = lexing.tokens.map (Token.relocate (Span.lowered 2)) ∧
        lexing'.diagnostics = lexing.diagnostics.map (Diagnostic.relocate (Span.lowered 2)) := by
  have boundary : Text.EndsLine brokenFront.toList := by
    have last : brokenFront.toList.getLast? = some '\n' := by decide +kernel
    rw [Text.EndsLine, last]
    rintro c ⟨⟩
    rfl
  have invisible : Invisible deepComment :=
    ⟨['\t', ' ', '\t'], ['#', ' ', '"'], by decide +kernel, by simp, .inr rfl, by simp⟩
  have count : breakCount brokenFront = 2 := by decide +kernel
  obtain ⟨lexing, read, places⟩ : ∃ lexing,
      Lexing.ofSource "broken.choc" (brokenFront ++ brokenBack) = .ok lexing ∧
        decide (lexing.diagnostics.map (fun diagnostic =>
            (diagnostic.code, diagnostic.span.map Span.coordinates)) =
          [("E0102", some [2, 9, 2, 11]), ("E0106", some [3, 1, 3, 3]),
            ("E0101", some [3, 5, 3, 6]), ("E0106", some [5, 1, 5, 2])]) = true :=
    exists_ok_of_any (by decide +kernel)
  have moved := Lexing.ofSource_insert "broken.choc" boundary invisible read
  rw [count] at moved
  obtain ⟨lexing', read', tokens, diagnostics⟩ := moved
  exact ⟨boundary, invisible, count, lexing, lexing', read, read', of_decide_eq_true places, tokens,
    diagnostics⟩

end ChocoLang
