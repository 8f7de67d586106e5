import ChocoLang.Proofs.Source.Breaks
import ChocoLang.Proofs.Token.Relocation
import ChocoLang.Proofs.Token.Script

/-!
# Lines brought back into their blocks

A line that is indented less than the innermost level, but more than the level that it closes down
to, is reported, and its width becomes another name for that level.  Such a line is read as if it
had the indentation of the block it is in.  So once every line that stands on such a width is
brought back to its block, the same tokens are read and the same problems found, except that no line
is reported for its indentation.  The levels that are open then are, on every line, just the blocks
among those that were open before.
-/

namespace ChocoLang

open Reading

/-! ## Levels -/

/-- The levels that are blocks of their own. -/
def blocks (levels : List Level) : List Level := levels.filter (·.isBlock)

/-- Each level is wider than those around it. -/
def Widening (levels : List Level) : Prop :=
  levels.Pairwise fun inner outer => outer.width < inner.width

namespace Widening

variable {levels : List Level}

theorem width_le (widening : Widening levels) {level : Level} (among : level ∈ levels) :
    level.width ≤ innermostWidth levels := by
  cases levels with
  | nil => cases among
  | cons first rest =>
      rcases List.mem_cons.mp among with rfl | further
      · exact Nat.le_refl _
      · exact Nat.le_of_lt (List.rel_of_pairwise_cons widening further)

theorem cons (widening : Widening levels) {level : Level}
    (wider : innermostWidth levels < level.width) : Widening (level :: levels) :=
  List.pairwise_cons.mpr
    ⟨fun _ among => Nat.lt_of_le_of_lt (widening.width_le among) wider, widening⟩

theorem closeLevels (widening : Widening levels) (width : Nat) :
    Widening (ChocoLang.closeLevels width levels) :=
  widening.sublist (List.dropWhile_sublist _)

theorem blocks (widening : Widening levels) : Widening (ChocoLang.blocks levels) :=
  widening.sublist List.filter_sublist

/-- No level is wider than the innermost one. -/
theorem innermostWidth_le (widening : Widening levels) {some : List Level}
    (among : some.Sublist levels) : innermostWidth some ≤ innermostWidth levels := by
  cases some with
  | nil => exact Nat.zero_le _
  | cons level rest => exact widening.width_le (among.subset List.mem_cons_self)

end Widening

@[simp]
theorem blocks_nil : blocks [] = [] := rfl

theorem blockCount_blocks (levels : List Level) :
    blockCount (blocks levels) = blockCount levels := by
  simp [blockCount, blocks, List.countP_filter]

theorem innermostWidth_closeLevels_le (width : Nat) (levels : List Level) :
    innermostWidth (closeLevels width levels) ≤ width := by
  have stays := List.head?_dropWhile_not (fun level : Level => decide (width < level.width)) levels
  rw [← closeLevels] at stays
  cases shape : closeLevels width levels with
  | nil => exact Nat.zero_le _
  | cons level rest =>
      rw [shape] at stays
      exact Nat.not_lt.mp (of_decide_eq_false stays)

/-- A line as wide as the innermost level closes nothing. -/
theorem closeLevels_innermostWidth (levels : List Level) :
    closeLevels (innermostWidth levels) levels = levels := by
  cases levels with
  | nil => rfl
  | cons level rest => exact List.dropWhile_cons_of_neg (by simp [innermostWidth])

/-- The block that is left once levels are closed is no wider than the line that closes them. -/
theorem innermostWidth_left_le {levels : List Level} (widening : Widening levels) (width : Nat) :
    innermostWidth (blocks (closeLevels width levels)) ≤ width :=
  ((widening.closeLevels width).innermostWidth_le List.filter_sublist).trans
    (innermostWidth_closeLevels_le width levels)

/-- A line as wide as the block that is left closes just the blocks among the levels closed. -/
theorem closeLevels_blocks {levels : List Level} (widening : Widening levels) (width : Nat) :
    closeLevels (innermostWidth (blocks (closeLevels width levels))) (blocks levels) =
      blocks (closeLevels width levels) := by
  have closed : ∀ level ∈ blocks (levels.takeWhile fun level => width < level.width),
      decide (innermostWidth (blocks (closeLevels width levels)) < level.width) = true := by
    intro level among
    have wider := List.mem_takeWhile_imp (p := fun level : Level => decide (width < level.width))
      (List.mem_of_mem_filter among)
    exact decide_eq_true
      (Nat.lt_of_le_of_lt (innermostWidth_left_le widening width) (of_decide_eq_true wider))
  have divided : blocks levels = blocks (levels.takeWhile fun level => width < level.width) ++
      blocks (closeLevels width levels) := by
    simp only [blocks, closeLevels, ← List.filter_append, List.takeWhile_append_dropWhile]
  rw [divided]
  exact (List.dropWhile_append_of_pos closed).trans (closeLevels_innermostWidth _)

/-! ## Texts -/

/-- The levels that are open behind a line. -/
def levelsBehind (levels : List Level) (chars : List Char) : List Level :=
  (readLine ⟨defaultFile, 1⟩ true levels chars).2

/-- The innermost level is another width for the block around it. -/
def onName (levels : List Level) : Bool := levels.head?.any fun level => !level.isBlock

/--
The line as it stands in its block: if it is not blank and its width is only another name for the
level of the block, then with the indentation of the block, in spaces.
-/
def realignLine (levels : List Level) (chars : List Char) : List Char :=
  let content := chars.dropWhile isBlank
  let behind := levelsBehind levels chars
  if !isVacant content && onName behind then
    List.replicate (innermostWidth (blocks behind)) ' ' ++ content
  else chars

/-- The rows with each line as it stands in its block. -/
def realignRows (levels : List Level) : List Text.Row → List Text.Row
  | [] => []
  | row :: rest =>
    ⟨realignLine levels row.chars, row.ending⟩ ::
      realignRows (levelsBehind levels row.chars) rest

/-- The program with each line as it stands in its block. -/
def realigned (source : String) : String :=
  String.ofList ((realignRows [] (Text.rows source.toList)).flatMap Text.Row.text)

/-! ## A line -/

/-- The problems among the readings, wherever they stand. -/
def Reading.faults (readings : List Reading) : List LexicalError :=
  (readings.filterMap problem?).map Located.content

/-- The problems that are not about indentation. -/
def Reading.otherFaults (readings : List Reading) : List LexicalError :=
  (faults readings).filter (· ≠ .inconsistentDedent)

namespace Reading

@[simp]
theorem faults_append (first second : List Reading) :
    faults (first ++ second) = faults first ++ faults second := by
  simp [faults]

@[simp]
theorem faults_dedents (count : Nat) (place : Span) : faults (dedents count place) = [] := by
  simp [faults, dedents, List.filterMap_replicate, problem?]

@[simp]
theorem faults_problems (problems : List (Located LexicalError)) :
    faults (problems.map .problem) = problems.map Located.content := by
  simp [faults, List.filterMap_map, Function.comp_def, problem?]

@[simp]
theorem faults_cons_token (token : Token) (rest : List Reading) :
    faults (.token token :: rest) = faults rest := rfl

@[simp]
theorem faults_cons_problem (problem : Located LexicalError) (rest : List Reading) :
    faults (.problem problem :: rest) = problem.content :: faults rest := rfl

@[simp]
theorem faults_nil : faults [] = [] := rfl

@[simp]
theorem otherFaults_append (first second : List Reading) :
    otherFaults (first ++ second) = otherFaults first ++ otherFaults second := by
  simp [otherFaults]

theorem contents_relocate (move : Span → Span) (readings : List Reading) :
    contents (readings.map (relocate move)) = contents readings := by
  rw [contents, filterMap_token?_relocate, List.map_map]
  rfl

theorem faults_relocate (move : Span → Span) (readings : List Reading) :
    faults (readings.map (relocate move)) = faults readings := by
  rw [faults, filterMap_problem?_relocate, List.map_map]
  rfl

end Reading

/-- What segments say does not depend on where they stand. -/
theorem readSegments_anywhere (line line' : Line) (column column' : Nat) (found : List Segment) :
    contents (readSegments line' column' found) = contents (readSegments line column found) ∧
      faults (readSegments line' column' found) = faults (readSegments line column found) := by
  have aligned : Aligned (fun _ => line.point 1) (fun _ => line.point 1) line' line column'
      column := .const _
  have same := aligned.readSegments found
  have contents_eq := congrArg contents same
  have faults_eq := congrArg faults same
  rw [contents_relocate, contents_relocate] at contents_eq
  rw [faults_relocate, faults_relocate] at faults_eq
  exact ⟨contents_eq, faults_eq⟩

/-- No problem of a segment is about indentation. -/
theorem inconsistentDedent_notMem_read (line : Line) (column : Nat) (segment : Segment) :
    .inconsistentDedent ∉ faults (segment.read line column) := by
  cases segment with
  | literal body =>
      have inBody : LexicalError.inconsistentDedent ∉
          (readBody line (column + 1) body).problems.map Located.content := by
        intro among
        obtain ⟨problem, found, same⟩ := List.mem_map.mp among
        have code := code_of_mem_readBody line (column + 1) body problem found
        rw [same] at code
        cases code
      simp only [Segment.read, readLiteral]
      split <;> simpa using inBody
  | digits chars =>
      simp only [Segment.read, digitsError?]
      split
      · simp
      · split <;> simp
  | _ => simp [Segment.read]

theorem otherFaults_readSegments (line : Line) (column : Nat) (found : List Segment) :
    otherFaults (readSegments line column found) = faults (readSegments line column found) := by
  have none : .inconsistentDedent ∉ faults (readSegments line column found) := by
    induction found generalizing column with
    | nil => exact List.not_mem_nil
    | cons segment rest ih =>
        rw [readSegments, faults_append, List.mem_append, not_or]
        exact ⟨inconsistentDedent_notMem_read line column segment, ih _⟩
  exact List.filter_eq_self.mpr fun fault among =>
    decide_eq_true fun same => none (same ▸ among)

section

variable {levels : List Level} (widening : Widening levels)

include widening

/-- On the levels that are blocks, a line as wide as the block it is in only ends blocks. -/
theorem indentLine_blocks (line : Line) (width column : Nat) :
    let remaining := closeLevels width levels
    indentLine line (innermostWidth (blocks remaining)) column (blocks levels) =
      (dedents (blockCount levels - blockCount remaining) (line.point column),
        blocks remaining) := by
  have inside : ¬ innermostWidth (blocks levels) <
      innermostWidth (blocks (closeLevels width levels)) :=
    Nat.not_lt.mpr (widening.blocks.innermostWidth_le ((List.dropWhile_sublist _).filter _))
  simp only [indentLine, if_neg inside, closeLevels_blocks widening, Nat.lt_irrefl, if_false,
    blockCount_blocks]

/--
A line that steps in nowhere is in the block that is left once levels are closed, and it is as wide
as the block unless its width is another name for the level of the block.
-/
theorem indentLine_out (line : Line) {width : Nat} (inside : ¬ innermostWidth levels < width)
    (column : Nat) :
    let remaining := closeLevels width levels
    let read := indentLine line width column levels
    contents read.1 = List.replicate (blockCount levels - blockCount remaining) .dedent ∧
      otherFaults read.1 = [] ∧ blocks read.2 = blocks remaining ∧ Widening read.2 ∧
      (onName read.2 = false → width = innermostWidth (blocks remaining)) := by
  have left := widening.closeLevels width
  have narrow := innermostWidth_closeLevels_le width levels
  simp only [indentLine, if_neg inside]
  split
  · next wider =>
      exact ⟨by simp, by simp [otherFaults], rfl, left.cons wider, fun noName => by cases noName⟩
  · next wide =>
      refine ⟨by simp, by simp [otherFaults], rfl, left, fun noName => ?_⟩
      cases shape : closeLevels width levels with
      | nil =>
          rw [shape] at wide
          exact Nat.eq_zero_of_not_pos wide
      | cons level rest =>
          rw [shape] at wide narrow noName
          obtain ⟨_, isBlock⟩ := level
          cases isBlock with
          | false => cases noName
          | true => exact Nat.le_antisymm (Nat.not_lt.mp wide) narrow

/--
What the indentation of a line says, it says on the blocks alone once the line is in its block.
-/
theorem indentLine_realign (line line' : Line) (width column column' : Nat) :
    let read := indentLine line width column levels
    let width' := if onName read.2 then innermostWidth (blocks read.2) else width
    let read' := indentLine line' width' column' (blocks levels)
    contents read'.1 = contents read.1 ∧ faults read'.1 = otherFaults read.1 ∧
      read'.2 = blocks read.2 ∧ Widening read.2 := by
  intro read width'
  by_cases inner : innermostWidth levels < width
  · have inner' : innermostWidth (blocks levels) < width :=
      Nat.lt_of_le_of_lt (widening.innermostWidth_le List.filter_sublist) inner
    have stepIn : read =
        ([.token ⟨.indent, .absent, line.span 1 column⟩], ⟨width, true⟩ :: levels) := if_pos inner
    have same : width' = width := by
      simp only [width', stepIn]
      rfl
    have stepIn' : indentLine line' width column' (blocks levels) =
        ([.token ⟨.indent, .absent, line'.span 1 column'⟩], ⟨width, true⟩ :: blocks levels) :=
      if_pos inner'
    simp only [same, stepIn', stepIn]
    exact ⟨rfl, rfl, rfl, widening.cons inner⟩
  · obtain ⟨said, quiet, left, widening', own⟩ := indentLine_out widening line inner column
    have same : width' = innermostWidth (blocks (closeLevels width levels)) := by
      cases named : onName read.2 with
      | true => simp only [width', named, if_true, read, left]
      | false => simpa only [width', named, Bool.false_eq_true, if_false] using own named
    simp only [same, indentLine_blocks widening]
    exact ⟨by rw [contents_dedents, said], by rw [faults_dedents, quiet], left.symm, widening'⟩

omit widening

/-- Which levels the indentation of a line leaves open does not depend on where the line stands. -/
theorem levels_indentLine (line line' : Line) (width column column' : Nat) :
    (indentLine line width column levels).2 = (indentLine line' width column' levels).2 := by
  simp only [indentLine]
  split
  · rfl
  · split <;> rfl

/-- Which levels are open behind a line does not depend on where the line stands. -/
theorem levels_readLine (line : Line) (terminated : Bool) (chars : List Char) :
    (readLine line terminated levels chars).2 = levelsBehind levels chars := by
  simp only [levelsBehind, readLine]
  split
  · rfl
  · exact levels_indentLine _ _ _ _ _

theorem levelsBehind_of_text {chars : List Char}
    (text : isVacant (chars.dropWhile isBlank) = false) (line : Line) (column : Nat) :
    levelsBehind levels chars =
      (indentLine line (blankWidth (chars.takeWhile isBlank)) column levels).2 := by
  rw [levelsBehind, readLine, if_neg (by simp [text])]
  exact levels_indentLine _ _ _ _ _

/-- A line in its block holds the same text, behind the indentation of the block. -/
theorem realignLine_of_text {chars : List Char}
    (text : isVacant (chars.dropWhile isBlank) = false) :
    (realignLine levels chars).dropWhile isBlank = chars.dropWhile isBlank ∧
      blankWidth ((realignLine levels chars).takeWhile isBlank) =
        if onName (levelsBehind levels chars) then
          innermostWidth (blocks (levelsBehind levels chars))
        else blankWidth (chars.takeWhile isBlank) := by
  simp only [realignLine, text, Bool.not_false, Bool.true_and]
  split
  · next named =>
      have spaces : ∀ c ∈ List.replicate (innermostWidth (blocks (levelsBehind levels chars))) ' ',
          isBlank c = true := fun c among => List.eq_of_mem_replicate among ▸ rfl
      have begins := List.head?_dropWhile_not isBlank chars
      cases content : chars.dropWhile isBlank with
      | nil => simp [content, isVacant] at text
      | cons c rest =>
          rw [content] at begins
          have stops : ¬ isBlank c = true := by simpa using begins
          rw [List.dropWhile_append_of_pos spaces, List.takeWhile_append_of_pos spaces,
            List.dropWhile_cons_of_neg stops, List.takeWhile_cons_of_neg stops, List.append_nil,
            blankWidth_replicate]
          exact ⟨rfl, rfl⟩
  · exact ⟨rfl, rfl⟩

include widening

/-- What a line says, it says on the blocks alone once it is in its block. -/
theorem readLine_realign (line : Line) (terminated : Bool) (chars : List Char) :
    let read := readLine line terminated levels chars
    let read' := readLine line terminated (blocks levels) (realignLine levels chars)
    contents read'.1 = contents read.1 ∧ faults read'.1 = otherFaults read.1 ∧
      read'.2 = blocks read.2 ∧ Widening read.2 := by
  cases text : isVacant (chars.dropWhile isBlank) with
  | true =>
      have same : realignLine levels chars = chars := by simp [realignLine, text]
      rw [same, readLine_vacant text, readLine_vacant text]
      exact ⟨rfl, rfl, rfl, widening⟩
  | false =>
      obtain ⟨content, width⟩ := @realignLine_of_text levels chars text
      have text' : isVacant ((realignLine levels chars).dropWhile isBlank) = false := by
        rw [content, text]
      have layout := indentLine_realign widening line line (blankWidth (chars.takeWhile isBlank))
        ((chars.takeWhile isBlank).length + 1)
        (((realignLine levels chars).takeWhile isBlank).length + 1)
      simp only [← levelsBehind_of_text text, ← width] at layout
      obtain ⟨said, found, left, widening'⟩ := layout
      obtain ⟨texts, problems⟩ := readSegments_anywhere line line
        ((chars.takeWhile isBlank).length + 1)
        (((realignLine levels chars).takeWhile isBlank).length + 1)
        (segments (chars.dropWhile isBlank))
      rw [readLine_of_text text, readLine_of_text text', content]
      simp only [contents_append, said, texts, faults_append, otherFaults_append, found, problems,
        otherFaults_readSegments, left, ← levelsBehind_of_text text]
      have filled : (readSegments line (((realignLine levels chars).takeWhile isBlank).length + 1)
            (segments (chars.dropWhile isBlank))).any (·.token?.isSome) =
          (readSegments line ((chars.takeWhile isBlank).length + 1)
            (segments (chars.dropWhile isBlank))).any (·.token?.isSome) := by
        rw [Bool.eq_iff_iff, ← not_iff_not, Bool.not_eq_true, Bool.not_eq_true,
          any_token?_eq_false_iff, any_token?_eq_false_iff, texts]
      rw [filled]
      split <;> exact ⟨rfl, rfl, trivial, widening'⟩

end

/-! ## Programs -/

theorem readEnd_blocks (line line' : Line) (length length' : Nat) (levels : List Level) :
    contents (readEnd line' length' (blocks levels)) = contents (readEnd line length levels) ∧
      faults (readEnd line' length' (blocks levels)) = [] ∧
      otherFaults (readEnd line length levels) = [] := by
  have quiet (line : Line) (length : Nat) (levels : List Level) :
      faults (readEnd line length levels) = [] := by
    simp [readEnd]
  refine ⟨?_, quiet _ _ _, ?_⟩
  · simp [readEnd, blockCount_blocks, Token.content]
  · rw [otherFaults, quiet]
    rfl

theorem realignRows_ne_nil {levels : List Level} {rows : List Text.Row} (nonempty : rows ≠ []) :
    realignRows levels rows ≠ [] := by
  cases rows with
  | nil => exact absurd rfl nonempty
  | cons row rest => exact List.cons_ne_nil _ _

/-- Rows in their blocks say the same, and nothing is said about their indentation. -/
theorem readLines_realign (file : String) (number : Nat) {levels : List Level}
    (widening : Widening levels) (rows : List Text.Row) :
    let read := readLines file number levels (rows.map Text.Row.chars)
    let read' := readLines file number (blocks levels)
      ((realignRows levels rows).map Text.Row.chars)
    contents read' = contents read ∧ faults read' = otherFaults read := by
  induction rows generalizing number levels with
  | nil => exact ⟨rfl, rfl⟩
  | cons row rest ih =>
      by_cases last : rest = []
      · subst last
        obtain ⟨said, found, left, -⟩ := readLine_realign widening ⟨file, number⟩ false row.chars
        obtain ⟨ends, quiet, quiet'⟩ := readEnd_blocks ⟨file, number⟩ ⟨file, number⟩
          row.chars.length (realignLine levels row.chars).length
          (readLine ⟨file, number⟩ false levels row.chars).2
        simp only [realignRows, List.map_cons, List.map_nil, readLines, contents_append,
          faults_append, otherFaults_append, said, found, left, ends, quiet, quiet', and_self]
      · obtain ⟨said, found, left, widening'⟩ :=
          readLine_realign widening ⟨file, number⟩ true row.chars
        rw [levels_readLine] at left widening'
        rw [levels_readLine _ _ row.chars] at left
        obtain ⟨later, problems⟩ := ih (number + 1) widening'
        have more : rest.map Text.Row.chars ≠ [] := by simpa using last
        have more' :
            (realignRows (levelsBehind levels row.chars) rest).map Text.Row.chars ≠ [] := by
          simpa using realignRows_ne_nil last
        simp only [realignRows, List.map_cons, readLines_cons _ _ _ _ more,
          readLines_cons _ _ _ _ more', levels_readLine, left, contents_append, faults_append,
          otherFaults_append, said, found, later, problems, and_self]

theorem realignLine_inLine (levels : List Level) {chars : List Char} (inLine : Text.InLine chars) :
    Text.InLine (realignLine levels chars) := by
  simp only [realignLine]
  split
  · refine List.forall_mem_append.mpr ⟨fun c among => ?_, fun c among => ?_⟩
    · exact List.eq_of_mem_replicate among ▸ by decide
    · exact inLine c ((List.dropWhile_sublist _).subset among)
  · exact inLine

theorem eq_nil_of_realignLine {levels : List Level} {chars : List Char}
    (none : realignLine levels chars = []) : chars = [] := by
  simp only [realignLine] at none
  split at none
  · next named =>
      rw [(List.append_eq_nil_iff.mp none).2] at named
      cases named
  · exact none

/-- Rows stay well cut when their lines are brought into their blocks. -/
theorem wellCut_realignRows {rows : List Text.Row} (cut : Text.WellCut rows) (levels : List Level) :
    Text.WellCut (realignRows levels rows) := by
  induction cut generalizing levels with
  | last inLine => exact .last (realignLine_inLine levels inLine)
  | feed inLine tail ih => exact .feed (realignLine_inLine levels inLine) (ih _)
  | pair inLine tail ih => exact .pair (realignLine_inLine levels inLine) (ih _)
  | @carriage chars rest inLine apart tail ih =>
      refine .carriage (realignLine_inLine levels inLine) ?_ (ih _)
      cases rest with
      | nil => nofun
      | cons row rest =>
          rintro other ⟨⟩ none
          exact apart row rfl (eq_nil_of_realignLine none)

/-- The lines of a program in their blocks are its lines, each brought into its block. -/
theorem programLines_realigned (source : String) :
    programLines (realigned source) =
      (realignRows [] (Text.rows source.toList)).map Text.Row.chars := by
  rw [programLines, realigned, String.toList_ofList]
  exact (wellCut_realignRows (Text.wellCut_rows _) []).lines_normalizeBreaks

theorem programLines_eq_rows (source : String) :
    programLines source = (Text.rows source.toList).map Text.Row.chars := by
  have lined := (Text.wellCut_rows source.toList).lines_normalizeBreaks
  rwa [Text.text_rows] at lined

theorem holdsOverlongDigits_realignLine (levels : List Level) (chars : List Char) :
    holdsOverlongDigits (realignLine levels chars) = holdsOverlongDigits chars := by
  cases text : isVacant (chars.dropWhile isBlank) with
  | true => simp [realignLine, text]
  | false => simp only [holdsOverlongDigits, (realignLine_of_text text).1]

theorem any_holdsOverlongDigits_realignRows (levels : List Level) (rows : List Text.Row) :
    ((realignRows levels rows).map Text.Row.chars).any holdsOverlongDigits =
      (rows.map Text.Row.chars).any holdsOverlongDigits := by
  induction rows generalizing levels with
  | nil => rfl
  | cons row rest ih =>
      simp only [realignRows, List.map_cons, List.any_cons, holdsOverlongDigits_realignLine, ih]

/-! ## Reports -/

/-- The diagnostic without its place. -/
def Diagnostic.unplaced (diagnostic : Diagnostic) : Diagnostic := { diagnostic with span := none }

/-- The report of a problem, wherever it stands. -/
def LexicalError.report (error : LexicalError) : Diagnostic :=
  (Located.mk error (Span.onLine defaultFile 1 1 1)).toDiagnostic.unplaced

/-- Only an inconsistent indentation has its code. -/
theorem code_ne_inconsistentDedent_iff (problem : Located LexicalError) :
    problem.toDiagnostic.code ≠ "E0106" ↔ problem.content ≠ .inconsistentDedent := by
  obtain ⟨error, span⟩ := problem
  have code : (Located.mk error span).toDiagnostic.code = error.code.id := rfl
  rw [code]
  cases error <;> simp [LexicalError.code, ErrorCode.id]

theorem map_unplaced (problems : List (Located LexicalError)) :
    (problems.map Located.toDiagnostic).map Diagnostic.unplaced =
      (problems.map Located.content).map LexicalError.report := by
  rw [List.map_map, List.map_map]
  rfl

/-- The reports that are not about indentation report the other problems. -/
theorem map_unplaced_filter (problems : List (Located LexicalError)) :
    ((problems.map Located.toDiagnostic).filter (·.code ≠ "E0106")).map Diagnostic.unplaced =
      ((problems.map Located.content).filter (· ≠ .inconsistentDedent)).map
        LexicalError.report := by
  rw [List.filter_map, map_unplaced, List.filter_map]
  congr 3
  funext problem
  exact decide_eq_decide.mpr (code_ne_inconsistentDedent_iff problem)

/--
Once every line that stands on another width for its block is brought to the level of the block,
the program is read as the same tokens and with the same problems, but for the reports of such
widths, of which there is none any more.
-/
theorem Lexing.ofSource_realigned (file : String) {source : String} {lexing : Lexing}
    (read : Lexing.ofSource file source = .ok lexing) :
    ∃ lexing', Lexing.ofSource file (realigned source) = .ok lexing' ∧
      lexing'.tokens.map Token.content = lexing.tokens.map Token.content ∧
      lexing'.diagnostics.map Diagnostic.unplaced =
        (lexing.diagnostics.filter (·.code ≠ "E0106")).map Diagnostic.unplaced ∧
      ∀ diagnostic ∈ lexing'.diagnostics, diagnostic.code ≠ "E0106" := by
  obtain ⟨said, found⟩ : contents (readProgram file (realigned source)) =
        contents (readProgram file source) ∧
      faults (readProgram file (realigned source)) = otherFaults (readProgram file source) := by
    have rows := readLines_realign file 1 .nil (Text.rows source.toList)
    rwa [blocks_nil, ← programLines_realigned, ← programLines_eq_rows] at rows
  have same : (programLines (realigned source)).any holdsOverlongDigits =
      (programLines source).any holdsOverlongDigits := by
    rw [programLines_realigned, programLines_eq_rows, any_holdsOverlongDigits_realignRows]
  unfold Lexing.ofSource at read ⊢
  rw [same]
  split at read
  · cases read
  · next accepted =>
      cases read
      refine ⟨_, if_neg accepted, ?_, ?_, ?_⟩
      · simpa only [contents] using said
      · rw [Lexing.diagnostics, Lexing.diagnostics, map_unplaced, map_unplaced_filter]
        simpa only [otherFaults, faults] using congrArg (List.map LexicalError.report) found
      · refine List.forall_mem_map.mpr fun problem among => ?_
        rw [code_ne_inconsistentDedent_iff]
        have told : problem.content ∈ faults (readProgram file (realigned source)) := by
          simpa only [faults] using List.mem_map_of_mem among
        rw [found] at told
        exact of_decide_eq_true (List.mem_filter.mp told).2

/-- A program with widths between two levels, a block above one of them, and breaks of all kinds. -/
def raggedSource : String :=
  "if a:\r\n    if b:\n\tc\n      d §\r       e\n      # f\n      g\n     h\n  i \"j\n  \n  k\nl\n"

/-- The program with the same blocks and no such width. -/
def evenSource : String :=
  "if a:\r\n    if b:\n\tc\n    d §\r       e\n      # f\n    g\n    h\ni \"j\n  \nk\nl\n"

/-- The reports of the program but for those of widths are found in the other one. -/
theorem Lexing.ofSource_realigned_raggedSource :
    realigned raggedSource = evenSource ∧
      ∃ lexing lexing', Lexing.ofSource "ragged.choc" raggedSource = .ok lexing ∧
        Lexing.ofSource "ragged.choc" evenSource = .ok lexing' ∧
        lexing.diagnostics.map (·.code) = ["E0106", "E0101", "E0106", "E0106", "E0102"] ∧
        lexing'.tokens.map Token.content = lexing.tokens.map Token.content ∧
        lexing'.diagnostics.map Diagnostic.unplaced =
          (lexing.diagnostics.filter (·.code ≠ "E0106")).map Diagnostic.unplaced ∧
        ∀ diagnostic ∈ lexing'.diagnostics, diagnostic.code ≠ "E0106" := by
  have even : realigned raggedSource = evenSource := by decide +kernel
  obtain ⟨lexing, read, codes⟩ : ∃ lexing,
      Lexing.ofSource "ragged.choc" raggedSource = .ok lexing ∧
        decide (lexing.diagnostics.map (·.code) =
          ["E0106", "E0101", "E0106", "E0106", "E0102"]) = true :=
    exists_ok_of_any (by decide +kernel)
  obtain ⟨lexing', read', same⟩ := Lexing.ofSource_realigned "ragged.choc" read
  rw [even] at read'
  exact ⟨even, lexing, lexing', read, read', of_decide_eq_true codes, same⟩

end ChocoLang
