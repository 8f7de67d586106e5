import ChocoLang.Diagnostic.Render
import ChocoLang.Proofs.Diagnostic.Placement
import ChocoLang.Proofs.Source.Within
import Mathlib.Data.List.Basic

/-!
# The excerpt of a rendered diagnostic

A rendered diagnostic quotes a line of the text and underlines in it what it is about.  The line is
taken by its number from the displayed lines, so that it is the line of the program with that number
as long as no line up to it has a break in it that ends no line of a program.  The carets stand
under a gutter that is narrower than the line number with its bar, so that they are always some
columns in front of the text.
-/

namespace ChocoLang

/-!
## Displayed lines and lines of a program

A program is cut into lines at line feeds, carriage returns and pairs of both.  A displayed text is
cut at further characters, which may stand within a line of a program.  So the displayed lines are
the pieces of the lines of the program, one line after the other, and the two ways to count lines
agree exactly as far as no further break has been met.
-/

namespace Text

/-- The pieces that a line is displayed in. -/
def pieces (line : List Char) : List (List Char) := line.splitOnP isDisplayBreak

/-- The line has no character at which a displayed text is cut. -/
def Unbroken (line : List Char) : Prop := ∀ c ∈ line, isDisplayBreak c = false

/-! ## Pieces of a line -/

theorem pieces_cons (c : Char) (line : List Char) :
    pieces (c :: line) =
      if isDisplayBreak c then [] :: pieces line else (pieces line).modifyHead (c :: ·) :=
  List.splitOnP_cons_eq_if_modifyHead c line

theorem pieces_of_unbroken {line : List Char} (unbroken : Unbroken line) : pieces line = [line] :=
  List.splitOnP_eq_singleton unbroken

theorem exists_pieces (line : List Char) : ∃ piece later, pieces line = piece :: later :=
  List.exists_cons_of_ne_nil (List.splitOnP_ne_nil isDisplayBreak line)

/-- No piece has a break in it. -/
theorem unbroken_of_mem_pieces {line : List Char} : ∀ piece ∈ pieces line, Unbroken piece := by
  induction line with
  | nil => simp [pieces, List.splitOnP_nil, Unbroken]
  | cons c line ih =>
      obtain ⟨first, later, shape⟩ := exists_pieces line
      rw [shape, List.forall_mem_cons] at ih
      rw [pieces_cons, shape]
      split
      · exact List.forall_mem_cons.mpr ⟨by simp [Unbroken], List.forall_mem_cons.mpr ih⟩
      · next noBreak =>
          refine List.forall_mem_cons.mpr ⟨List.forall_mem_cons.mpr ⟨?_, ih.1⟩, ih.2⟩
          exact Bool.not_eq_true _ ▸ noBreak

/-! ## Pieces of the lines of a program -/

/-- The pieces that the lines of a program are displayed in, one line after the other. -/
def displayPieces (text : List Char) : List (List Char) :=
  (lines (normalizeBreaks text)).flatMap pieces

theorem displayPieces_cons {c : Char} (noReturn : c ≠ '\r') (text : List Char) :
    displayPieces (c :: text) =
      if isDisplayBreak c then [] :: displayPieces text
      else (displayPieces text).modifyHead (c :: ·) := by
  have step : normalizeBreaks (c :: text) = c :: normalizeBreaks text := by
    rw [normalizeBreaks] <;> simp [noReturn]
  rw [displayPieces, step, lines]
  split
  · next isFeed =>
      subst isFeed
      rfl
  · obtain ⟨line, rest, shape⟩ :=
      List.exists_cons_of_ne_nil (lines_ne_nil (normalizeBreaks text))
    obtain ⟨piece, later, cut⟩ := exists_pieces line
    rw [displayPieces, shape, consToFirst, List.flatMap_cons, List.flatMap_cons,
      pieces_cons, cut]
    split <;> rfl

/-- A break begins a new piece, a carriage return only if no line feed stands behind it. -/
theorem displayPieces_break {c : Char} (isBreak : isDisplayBreak c) {text : List Char}
    (noPair : ∀ rest, c = '\r' → text = '\n' :: rest → False) :
    displayPieces (c :: text) = [] :: displayPieces text := by
  by_cases isReturn : c = '\r'
  · subst isReturn
    have step : normalizeBreaks ('\r' :: text) = '\n' :: normalizeBreaks text := by
      rw [normalizeBreaks]
      exact fun rest pair => noPair rest rfl pair
    rw [displayPieces, step]
    rfl
  · rw [displayPieces_cons isReturn, if_pos isBreak]

/--
The displayed lines are the pieces of the lines of a program, less an empty piece at the very end.
-/
theorem exists_displayLinesFrom_append (begun text : List Char) :
    ∃ last, (last = [] ∨ last = [[]]) ∧
      (displayPieces text).modifyHead (begun.reverse ++ ·) =
        displayLinesFrom begun text ++ last := by
  have unchanged (rows : List (List Char)) :
      rows.modifyHead (([] : List Char).reverse ++ ·) = rows := by
    cases rows <;> rfl
  fun_induction displayLinesFrom begun text with
  | case1 begun nothing =>
      obtain rfl := List.isEmpty_iff.mp nothing
      exact ⟨[[]], .inr rfl, rfl⟩
  | case2 begun something =>
      exact ⟨[], .inl rfl, congrArg (· :: []) (List.append_nil begun.reverse)⟩
  | case3 begun text ih =>
      obtain ⟨last, empty, cut⟩ := ih
      rw [unchanged] at cut
      exact ⟨last, empty, congrArg₂ (· :: ·) (List.append_nil begun.reverse) cut⟩
  | case4 begun c text noPair isBreak ih =>
      obtain ⟨last, empty, cut⟩ := ih
      rw [unchanged] at cut
      rw [displayPieces_break isBreak noPair]
      exact ⟨last, empty, congrArg₂ (· :: ·) (List.append_nil begun.reverse) cut⟩
  | case5 begun c text noPair noBreak ih =>
      obtain ⟨last, empty, cut⟩ := ih
      have noReturn : c ≠ '\r' := fun isReturn => noBreak (isReturn ▸ rfl)
      refine ⟨last, empty, ?_⟩
      rw [← cut, displayPieces_cons noReturn, if_neg noBreak]
      cases displayPieces text <;> simp

theorem displayLines_isPrefix (text : List Char) : displayLines text <+: displayPieces text := by
  obtain ⟨last, -, cut⟩ := exists_displayLinesFrom_append [] text
  refine ⟨last, cut.symm.trans ?_⟩
  cases displayPieces text <;> rfl

theorem take_flatMap_pieces {lines : List (List Char)} {count : Nat}
    (unbroken : ∀ line ∈ lines.take count, Unbroken line) :
    (lines.flatMap pieces).take count = lines.take count := by
  induction lines generalizing count with
  | nil => rfl
  | cons line rest ih =>
      cases count with
      | zero => rfl
      | succ count =>
          rw [List.take_succ_cons, List.forall_mem_cons] at unbroken
          rw [List.flatMap_cons, pieces_of_unbroken unbroken.1, List.singleton_append,
            List.take_succ_cons, List.take_succ_cons, ih unbroken.2]

/--
The first displayed lines are the first lines of a program exactly if none of these has a break in
it.
-/
theorem take_displayLines_eq_iff {text : List Char} {count : Nat}
    (enough : count ≤ (displayLines text).length) :
    (displayLines text).take count = (lines (normalizeBreaks text)).take count ↔
      ∀ line ∈ (lines (normalizeBreaks text)).take count, Unbroken line := by
  have shown : (displayLines text).take count = (displayPieces text).take count := by
    obtain ⟨more, cut⟩ := displayLines_isPrefix text
    rw [← cut, List.take_append_of_le_length enough]
  rw [shown]
  constructor
  · intro same line among
    rw [← same] at among
    obtain ⟨origin, -, piece⟩ := List.mem_flatMap.mp (List.mem_of_mem_take among)
    exact unbroken_of_mem_pieces line piece
  · exact take_flatMap_pieces

end Text

namespace Diagnostic

variable {source : String} {diagnostic : Diagnostic} {span : Span} {line : List Char}

/-! ## The quoted line -/

theorem lineAt?_eq_some_iff {number : Int} :
    lineAt? source number = some line ↔
      1 ≤ number ∧ (Text.displayLines source.toList)[(number - 1).toNat]? = some line := by
  rw [lineAt?]
  split <;> simp_all

/-- The excerpt stands behind the place in the lines of a rendered diagnostic. -/
theorem renderLines_of_lineAt? (palette : Palette) (told : diagnostic.span = some span)
    (found : lineAt? source span.start.line = some line) :
    ∃ remarks, diagnostic.renderLines palette source =
      headline palette diagnostic :: placeLine palette span :: gutterLine palette ::
        sourceLine palette span.start.line line :: underline palette diagnostic.severity span ::
        gutterLine palette :: remarks := by
  refine ⟨diagnostic.notes.map (remark palette palette.bold "note") ++
    diagnostic.helps.map (remark palette palette.help "help"), ?_⟩
  simp only [renderLines, told, excerpt, found, List.cons_append, List.nil_append]

/-- The quoted line and the carets stand in the rendered diagnostic, the one under the other. -/
theorem exists_render_of_lineAt? (palette : Palette) (told : diagnostic.span = some span)
    (found : lineAt? source span.start.line = some line) :
    ∃ before behind, diagnostic.render palette source =
      before ++ "\n" ++ sourceLine palette span.start.line line ++ "\n"
        ++ underline palette diagnostic.severity span ++ "\n" ++ behind := by
  obtain ⟨remarks, lines⟩ := renderLines_of_lineAt? palette told found
  refine ⟨"\n".intercalate [headline palette diagnostic, placeLine palette span,
    gutterLine palette], "\n".intercalate (gutterLine palette :: remarks), ?_⟩
  simp only [render, lines, String.intercalate_cons_cons, String.intercalate_singleton,
    String.append_assoc]

/-! ## Columns of the excerpt -/

/-- How far the text of a quoted line is set in: its number and a bar stand in front of it. -/
def margin (number : Int) : Nat := (lineLabel number).length + 3

/-- How many columns the carets under a line stand in front of the text they are about. -/
def displacement (number : Int) : Int := max 3 (toString number).length - 2

theorem length_lineLabel (number : Int) :
    (lineLabel number).length = max 3 (toString number).length := by
  simp only [lineLabel, repeated, String.length_append, String.length_ofList,
    List.length_replicate]
  omega

theorem margin_eq (number : Int) : (margin number : Int) = displacement number + 5 := by
  rw [margin, displacement, length_lineLabel]
  omega

theorem toList_sourceLine (number : Int) (line : List Char) :
    (sourceLine .plain number line).toList =
      ((lineLabel number).toList ++ [' ', '|', ' ']) ++ (quotedLine line).toList := by
  simp [sourceLine, Palette.plain]

theorem toList_underline (severity : Severity) (span : Span) :
    (underline .plain severity span).toList =
      ([' ', ' ', ' ', '|', ' '] ++ List.replicate (span.start.column - 1).toNat ' ') ++
        List.replicate span.length.toNat '^' := by
  cases severity <;> simp [underline, gutterLine, repeated, Palette.plain, Palette.severity]

/-- The text of a quoted line stands behind the margin. -/
theorem getElem?_sourceLine (number : Int) (line : List Char) (index : Nat) :
    (sourceLine .plain number line).toList[margin number + index]? =
      (quotedLine line).toList[index]? := by
  have gutter : ((lineLabel number).toList ++ [' ', '|', ' ']).length = margin number := by
    simp [margin, String.length_toList]
  rw [toList_sourceLine, List.getElem?_append_right (by omega), gutter, Nat.add_sub_cancel_left]

/-- The carets stand behind the gutter, from the column on that the span starts in. -/
theorem getElem?_underline_eq_caret_iff (severity : Severity) (begins : 1 ≤ span.start.column)
    (place : Nat) :
    (underline .plain severity span).toList[place]? = some '^' ↔
      span.start.column + 4 ≤ place ∧ place < span.start.column + 4 + span.length := by
  have noCaret : '^' ∉ [' ', ' ', ' ', '|', ' '] ++
      List.replicate (span.start.column - 1).toNat ' ' := by
    simp [List.mem_replicate]
  rw [toList_underline, List.getElem?_append]
  split
  · next before =>
      have out : ¬(span.start.column + 4 ≤ place) := by
        simp only [List.length_append, List.length_cons, List.length_nil,
          List.length_replicate] at before
        omega
      exact iff_of_false (fun caret => noCaret (List.mem_of_getElem? caret)) fun at_ => out at_.1
  · next behind =>
      simp only [List.length_append, List.length_cons, List.length_nil,
        List.length_replicate] at behind ⊢
      rw [List.getElem?_replicate]
      split <;> simp <;> omega

/-! ## Both lines stay on one line -/

theorem unbroken_of_lineAt? {number : Int} (found : lineAt? source number = some line) :
    Text.Unbroken line := by
  obtain ⟨-, listed⟩ := lineAt?_eq_some_iff.mp found
  have piece := (Text.displayLines_isPrefix source.toList).mem (List.mem_of_getElem? listed)
  obtain ⟨origin, -, among⟩ := List.mem_flatMap.mp piece
  exact Text.unbroken_of_mem_pieces line among

theorem not_mem_lineLabel {number : Int} (positive : 1 ≤ number) :
    '\n' ∉ (lineLabel number).toList := by
  obtain ⟨count, rfl⟩ := Int.eq_ofNat_of_zero_le (by omega : 0 ≤ number)
  have digits : toString (count : Int) = String.ofList (Nat.toDigits 10 count) :=
    Nat.toString_eq_ofList_toDigits
  rw [lineLabel, digits, String.toList_append, String.toList_ofList, List.mem_append, not_or]
  constructor
  · simp [repeated, List.mem_replicate]
  · exact fun among =>
      absurd (Nat.isDigit_of_mem_toDigits (by decide) (by decide) among) (by decide)

theorem not_mem_quotedLine (unbroken : Text.Unbroken line) : '\n' ∉ (quotedLine line).toList := by
  rw [quotedLine, String.toList_ofList, List.mem_map]
  rintro ⟨c, here, shown⟩
  split at shown
  · exact absurd shown (by decide)
  · exact absurd (unbroken c here) (by simp [shown, Text.isDisplayBreak])

theorem not_mem_sourceLine {number : Int} (found : lineAt? source number = some line) :
    '\n' ∉ (sourceLine .plain number line).toList := by
  have label := not_mem_lineLabel (lineAt?_eq_some_iff.mp found).1
  have text := not_mem_quotedLine (unbroken_of_lineAt? found)
  simp [toList_sourceLine, label, text]

theorem not_mem_underline (severity : Severity) (span : Span) :
    '\n' ∉ (underline .plain severity span).toList := by
  simp [toList_underline, List.mem_replicate]

/-! ## Carets and the text they are about -/

/-- The place in a quoted line, counted from zero, at which a column of the source is shown. -/
def placeOf (number column : Int) : Int := margin number + (column - 1)

/--
In the rendered diagnostic a line of carets stands directly under the quoted line, and the carets
stand so many places in front of the text of the span.
-/
structure Underlines (diagnostic : Diagnostic) (source : String) (span : Span) (line : List Char)
    (shift : Int) : Prop where
  /-- The one line stands under the other. -/
  below : ∃ before behind, diagnostic.render .plain source =
    before ++ "\n" ++ sourceLine .plain span.start.line line ++ "\n"
      ++ underline .plain diagnostic.severity span ++ "\n" ++ behind
  /-- Both are lines. -/
  apart : '\n' ∉ (sourceLine .plain span.start.line line).toList ∧
    '\n' ∉ (underline .plain diagnostic.severity span).toList
  /-- Every character of the source is shown in its column, a tab as a blank. -/
  shown : ∀ column : Int, 1 ≤ column →
    (sourceLine .plain span.start.line line).toList[(placeOf span.start.line column).toNat]? =
      (quotedLine line).toList[(column - 1).toNat]?
  /-- The carets stand in front of the columns of the span and nowhere else. -/
  carets : ∀ place : Nat,
    (underline .plain diagnostic.severity span).toList[place]? = some '^' ↔
      ∃ column, span.start.column ≤ column ∧ column < span.stop.column ∧
        (place : Int) + shift = placeOf span.start.line column

/--
The carets of a span on one line stand in front of the text by what the line number and its bar are
wider than the gutter, which is one column for a number of up to three digits and one more for every
further digit, and so never under the text.
-/
theorem underlines_iff (told : diagnostic.span = some span)
    (found : lineAt? source span.start.line = some line)
    (single : span.stop.line = span.start.line) (begins : 1 ≤ span.start.column)
    (proceeds : span.start.column < span.stop.column) :
    0 < displacement span.start.line ∧
      ∀ shift, diagnostic.Underlines source span line shift ↔
        shift = displacement span.start.line := by
  have width := margin_eq span.start.line
  have length : span.length = span.stop.column - span.start.column := by
    have oneLine : span.isMultiline = false := by simp [Span.isMultiline, single]
    rw [Span.length, oneLine, if_neg Bool.false_ne_true]
    omega
  have carets := getElem?_underline_eq_caret_iff diagnostic.severity begins
  rw [length] at carets
  refine ⟨by rw [displacement]; omega, fun shift => ⟨fun underlines => ?_, ?_⟩⟩
  · -- The outermost carets stand in front of the outermost columns.
    obtain ⟨first, firstPlace⟩ : ∃ place : Nat, (place : Int) = span.start.column + 4 :=
      ⟨(span.start.column + 4).toNat, by omega⟩
    obtain ⟨last, lastPlace⟩ : ∃ place : Nat, (place : Int) = span.stop.column + 3 :=
      ⟨(span.stop.column + 3).toNat, by omega⟩
    obtain ⟨left, begun, -, leftPlace⟩ :=
      (underlines.carets first).mp ((carets first).mpr (by omega))
    obtain ⟨right, -, ended, rightPlace⟩ :=
      (underlines.carets last).mp ((carets last).mpr (by omega))
    rw [placeOf] at leftPlace rightPlace
    omega
  · rintro rfl
    refine ⟨exists_render_of_lineAt? .plain told found,
      ⟨not_mem_sourceLine found, not_mem_underline _ span⟩, fun column positive => ?_,
      fun place => (carets place).trans ⟨fun within => ?_, ?_⟩⟩
    · have place : (placeOf span.start.line column).toNat =
          margin span.start.line + (column - 1).toNat := by
        rw [placeOf]
        omega
      rw [place, getElem?_sourceLine]
    · exact ⟨place - 4, by omega, by omega, by rw [placeOf]; omega⟩
    · rintro ⟨column, begun, ended, shown⟩
      rw [placeOf] at shown
      omega

end Diagnostic

/-- A text with a name in its fifth line that is spelt in another way than where it is declared. -/
def counterSource : String := "counter: int = 1\n\n\n\nprint(countr)\n"

namespace Program

/-- What is found in the errors of a checked text is an error of a program. -/
theorem exists_error_of_any {file source : String} {span : Span}
    (found : (checkedOfSource file source).toOption.any (fun program =>
      program.errors.any fun diagnostic => diagnostic.span = some span) = true) :
    ∃ program diagnostic, checkedOfSource file source = .ok program ∧
      diagnostic ∈ program.errors ∧ diagnostic.span = some span := by
  obtain ⟨program, checked, listed⟩ := exists_ok_of_any found
  obtain ⟨diagnostic, among, told⟩ := List.any_eq_true.mp listed
  exact ⟨program, diagnostic, checked, among, of_decide_eq_true told⟩

/-- The place of the misspelt name. -/
def counterSpan : Span := .onLine "example.py" 5 7 13

theorem exists_error_counterSource :
    ∃ program diagnostic, checkedOfSource "example.py" counterSource = .ok program ∧
      diagnostic ∈ program.errors ∧ diagnostic.span = some counterSpan :=
  exists_error_of_any (by decide +kernel)

/-- The carets under the misspelt name begin one column in front of it. -/
theorem underlines_counterSource :
    ∃ program diagnostic, checkedOfSource "example.py" counterSource = .ok program ∧
      diagnostic ∈ program.errors ∧ diagnostic.span = some counterSpan ∧
      Diagnostic.lineAt? counterSource 5 = some "print(countr)".toList ∧
      0 < Diagnostic.displacement 5 ∧
      ∀ shift, diagnostic.Underlines counterSource counterSpan "print(countr)".toList shift ↔
        shift = Diagnostic.displacement 5 := by
  obtain ⟨program, diagnostic, checked, among, told⟩ := exists_error_counterSource
  have found : Diagnostic.lineAt? counterSource 5 = some "print(countr)".toList := by
    decide +kernel
  obtain ⟨aside, only⟩ := Diagnostic.underlines_iff told found rfl (by decide) (by decide)
  exact ⟨program, diagnostic, checked, among, told, found, aside, only⟩

/-- So the carets do not stand under the name. -/
theorem exists_caret_aside :
    ∃ program diagnostic, checkedOfSource "example.py" counterSource = .ok program ∧
      diagnostic ∈ program.errors ∧ diagnostic.span = some counterSpan ∧
      Diagnostic.lineAt? counterSource 5 = some "print(countr)".toList ∧
      ¬diagnostic.Underlines counterSource counterSpan "print(countr)".toList 0 := by
  obtain ⟨program, diagnostic, checked, among, told⟩ := exists_error_counterSource
  refine ⟨program, diagnostic, checked, among, told, by decide +kernel, fun underlines => ?_⟩
  -- The first caret stands at place 11, under the bracket.
  have begins : 1 ≤ counterSpan.start.column := by decide
  have caret := (Diagnostic.getElem?_underline_eq_caret_iff diagnostic.severity begins 11).mpr
    (by decide)
  obtain ⟨column, begun, -, place⟩ := (underlines.carets 11).mp caret
  have margin : Diagnostic.margin 5 = 6 := by decide +kernel
  change 7 ≤ column at begun
  change (11 : Int) + 0 = Diagnostic.margin 5 + (column - 1) at place
  omega

end Program

/-! ## Lines as the program counts them -/

/--
A line that is quoted is the piece with that index of the lines of the program, when these are cut
at all breaks of displayed texts.  It is the line of the program with that index unless such a
break stands in a line up to it.
-/
structure Diagnostic.Quotes (diagnostic : Diagnostic) (source : String) (span : Span) (index : Nat)
    (quoted counted : List Char) : Prop where
  /-- The line is quoted behind its number in the rendered diagnostic. -/
  rendered : ∀ palette, (diagnostic.renderLines palette source)[3]? =
    some (sourceLine palette span.start.line quoted)
  /-- The line is one of the pieces of the lines of the program. -/
  piece : (Text.displayPieces source.toList)[index]? = some quoted
  /-- Both ways to count lines agree up to the line exactly if no further break has been met. -/
  agrees : (Text.displayLines source.toList).take (index + 1) =
      (programLines source).take (index + 1) ↔
    ∀ line ∈ (programLines source).take (index + 1), Text.Unbroken line
  /-- Then the line is that of the program. -/
  faithful : (∀ line ∈ (programLines source).take (index + 1), Text.Unbroken line) →
    quoted = counted

namespace Program

/--
Every diagnostic of a checked text starts on a line of the program, and wherever a line is quoted
under its number, it is this line unless it or a line before has a break that only cuts displayed
texts.
-/
theorem quotes_of_checkedOfSource {file source : String} {program : Program}
    (checked : checkedOfSource file source = .ok program) :
    ∀ diagnostic ∈ program.errors, ∃ span index counted, diagnostic.span = some span ∧
      span.start.line = (index + 1 : Nat) ∧ (programLines source)[index]? = some counted ∧
      ∀ quoted, Diagnostic.lineAt? source span.start.line = some quoted →
        diagnostic.Quotes source span index quoted counted := by
  obtain ⟨raw, read, rfl⟩ := exists_of_checkedOfSource checked
  obtain ⟨lexing, lexed, rfl⟩ := exists_of_ofSource read
  intro diagnostic among
  obtain ⟨span, told, placed⟩ := placed_errors_check lexed read diagnostic among
  have start : span.start.Within (Text.normalizeBreaks source.toList) :=
    placed.elim (·.start) (·.1.start)
  obtain ⟨index, number⟩ : ∃ index : Nat, span.start.line = (index + 1 : Nat) :=
    ⟨(span.start.line - 1).toNat, by have := start.line.1; omega⟩
  have inside : index < (programLines source).length := by
    have := start.line.2
    rw [programLines, Text.length_lines]
    omega
  refine ⟨span, index, _, told, number, List.getElem?_eq_getElem inside, fun quoted found => ?_⟩
  obtain ⟨-, shown⟩ := Diagnostic.lineAt?_eq_some_iff.mp found
  have same : (span.start.line - 1).toNat = index := by omega
  rw [same] at shown
  obtain ⟨within, shownLine⟩ := List.getElem?_eq_some_iff.mp shown
  have agrees := Text.take_displayLines_eq_iff (Nat.succ_le_of_lt within)
  refine ⟨fun palette => ?_, ?_, agrees, fun unbroken => ?_⟩
  · obtain ⟨remarks, lines⟩ := Diagnostic.renderLines_of_lineAt? palette told found
    rw [lines]
    rfl
  · obtain ⟨more, cut⟩ := Text.displayLines_isPrefix source.toList
    rw [← cut, List.getElem?_append_left within, shown]
  · have line := congrArg (·[index]?) (agrees.mpr unbroken)
    simp only [List.getElem?_take_of_succ] at line
    rw [shown] at line
    exact Option.some.inj (line.trans (List.getElem?_eq_getElem inside))

/-- A text with a form feed in a comment and unknown names in front of it and behind. -/
def pagedSource : String := "x\n# a\x0cb\ny\n"

/-- The place of the name behind the form feed. -/
def pagedSpan : Span := .onLine defaultFile 3 1 2

theorem exists_error_pagedSource :
    ∃ program diagnostic, checkedOfSource defaultFile pagedSource = .ok program ∧
      diagnostic ∈ program.errors ∧ diagnostic.span = some pagedSpan :=
  exists_error_of_any (by decide +kernel)

/-- What is quoted for the second name is the piece of the comment behind the form feed. -/
theorem quotes_pagedSource :
    ∃ program diagnostic, checkedOfSource defaultFile pagedSource = .ok program ∧
      diagnostic ∈ program.errors ∧ diagnostic.span = some pagedSpan ∧
      Diagnostic.lineAt? pagedSource 3 = some ['b'] ∧
      (programLines pagedSource)[2]? = some ['y'] ∧
      diagnostic.Quotes pagedSource pagedSpan 2 ['b'] ['y'] := by
  obtain ⟨program, diagnostic, checked, among, told⟩ := exists_error_pagedSource
  have found : Diagnostic.lineAt? pagedSource 3 = some ['b'] := by decide +kernel
  have line : (programLines pagedSource)[2]? = some ['y'] := by decide +kernel
  obtain ⟨span, index, counted, tells, number, listed, quotes⟩ :=
    quotes_of_checkedOfSource checked diagnostic among
  obtain rfl : span = pagedSpan := Option.some.inj (tells.symm.trans told)
  obtain rfl : index = 2 := by
    change (3 : Int) = (index + 1 : Nat) at number
    omega
  obtain rfl : counted = ['y'] := Option.some.inj (listed.symm.trans line)
  exact ⟨program, diagnostic, checked, among, told, found, line, quotes _ found⟩

/-- So a line is quoted that is not the one the diagnostic is about. -/
theorem exists_quoted_otherwise :
    ∃ program diagnostic span quoted counted,
      checkedOfSource defaultFile pagedSource = .ok program ∧ diagnostic ∈ program.errors ∧
      diagnostic.span = some span ∧
      Diagnostic.lineAt? pagedSource span.start.line = some quoted ∧
      (programLines pagedSource)[(span.start.line - 1).toNat]? = some counted ∧
      Diagnostic.quotedLine quoted ≠ Diagnostic.quotedLine counted := by
  obtain ⟨program, diagnostic, checked, among, told⟩ := exists_error_pagedSource
  exact ⟨program, diagnostic, pagedSpan, ['b'], ['y'], checked, among, told, by decide +kernel,
    by decide +kernel, by decide +kernel⟩

end Program
end ChocoLang
