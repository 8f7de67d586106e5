import ChocoLang.Proofs.Token.Levels
import ChocoLang.Proofs.Token.Written

/-!
# Scripts are read back

A script is a list of lines, each of which has a level of indentation and says some lexemes.  It is
written with the same number of blanks for every level, a blank between any two lexemes and a break
behind each line.  If no line is more than one level deeper than the line before it, then just the
lexemes are read, with the ends of the lines and the beginnings and ends of blocks.
-/

namespace ChocoLang

open Reading

/-- A line of a script. -/
structure ScriptLine where
  /-- How many levels the line is indented. -/
  level : Nat
  /-- The first lexeme. -/
  first : Lexeme
  /-- The lexemes behind it. -/
  others : List Lexeme

namespace ScriptLine

/-- What the line says. -/
def contents (line : ScriptLine) : List TokenContent :=
  (line.first :: line.others).map Lexeme.content ++ [.newline]

/-- The lexemes of the line as they are written. -/
def text (line : ScriptLine) : List Char :=
  line.first.chars ++ line.others.flatMap fun lexeme => ' ' :: lexeme.chars

/-- The line as it is written, with `width` blanks for a level. -/
def chars (width : Nat) (line : ScriptLine) : List Char :=
  List.replicate (line.level * width) ' ' ++ line.text

end ScriptLine

/--
The first line is no deeper than the limit, and each other line at most one level deeper than the
line before it.
-/
def Stepwise : (limit : Nat) → List ScriptLine → Prop
  | _, [] => True
  | limit, line :: rest => line.level ≤ limit ∧ Stepwise (line.level + 1) rest

/-- What is no deeper than a limit is no deeper than a greater one. -/
theorem Stepwise.mono {limit limit' : Nat} (within : limit ≤ limit') {lines : List ScriptLine}
    (stepwise : Stepwise limit lines) : Stepwise limit' lines := by
  cases lines with
  | nil => exact stepwise
  | cons line rest => exact ⟨stepwise.1.trans within, stepwise.2⟩

/-- A script as it is written, with `width` blanks for a level. -/
def scriptText (width : Nat) (lines : List ScriptLine) : String :=
  String.ofList ((lines.map (ScriptLine.chars width)).flatMap (· ++ ['\n']))

/--
What a script says behind lines that are `depth` levels deep: on each line a beginning of a block
for a step in or an end for every level out, and behind the last line the ends of the open blocks.
-/
def scriptContents : (depth : Nat) → List ScriptLine → List TokenContent
  | depth, [] => List.replicate depth .dedent
  | depth, line :: rest =>
    List.replicate (line.level - depth) .indent ++ List.replicate (depth - line.level) .dedent ++
      line.contents ++ scriptContents line.level rest

/-! ## Lexemes on a line -/

/-- The segments of further lexemes, each behind a blank. -/
def spacedSegments (others : List Lexeme) : List Segment :=
  others.flatMap fun lexeme => [.blank [' '], lexeme.segment]

theorem atBlank_spaced (others : List Lexeme) :
    AtBlank (others.flatMap fun lexeme => ' ' :: lexeme.chars) := by
  cases others with
  | nil => nofun
  | cons lexeme others =>
      rintro c ⟨⟩
      rfl

theorem segments_spaced (others : List Lexeme) :
    segments (others.flatMap fun lexeme => ' ' :: lexeme.chars) = spacedSegments others := by
  induction others with
  | nil =>
      rw [List.flatMap_nil, segments]
      rfl
  | cons lexeme others ih =>
      obtain ⟨c, rest, shape, noBlank, -⟩ := exists_cons_chars lexeme
      have stops : ¬ isBlank c = true := by simp [noBlank]
      have first (text : List Char) :
          Segment.next ' ' (lexeme.chars ++ text) = (.blank [' '], lexeme.chars ++ text) := by
        rw [shape, List.cons_append, Segment.next, if_pos (by decide),
          List.takeWhile_cons_of_neg stops, List.dropWhile_cons_of_neg stops]
      rw [List.flatMap_cons, List.cons_append, segments_of_next (first _),
        segments_lexeme lexeme (atBlank_spaced others), ih]
      rfl

theorem segments_text (line : ScriptLine) :
    segments line.text = line.first.segment :: spacedSegments line.others := by
  rw [ScriptLine.text, segments_lexeme line.first (atBlank_spaced line.others), segments_spaced]

/-- Off the segment of a lexeme its token is read, and then what is read behind it. -/
theorem readSegments_lexeme (line : Line) (column : Nat) (lexeme : Lexeme) (rest : List Segment) :
    let later := readSegments line (column + lexeme.segment.chars.length) rest
    contents (readSegments line column (lexeme.segment :: rest)) =
        lexeme.content :: contents later ∧
      (Clean later → Clean (readSegments line column (lexeme.segment :: rest))) := by
  obtain ⟨token, read, same⟩ := read_lexeme line column lexeme
  intro later
  rw [readSegments, read, List.singleton_append, contents_cons_token, same, clean_cons_token]
  exact ⟨rfl, id⟩

theorem readSegments_spaced (line : Line) (column : Nat) (others : List Lexeme) :
    contents (readSegments line column (spacedSegments others)) = others.map Lexeme.content ∧
      Clean (readSegments line column (spacedSegments others)) := by
  induction others generalizing column with
  | nil => exact ⟨rfl, clean_nil⟩
  | cons lexeme others ih =>
      have blank : readSegments line column (spacedSegments (lexeme :: others)) =
          readSegments line (column + 1) (lexeme.segment :: spacedSegments others) := rfl
      have first := readSegments_lexeme line (column + 1) lexeme (spacedSegments others)
      have later := ih (column + 1 + lexeme.segment.chars.length)
      rw [blank, first.1, later.1]
      exact ⟨rfl, first.2 later.2⟩

/-- Off the segments of a line just its lexemes are read. -/
theorem readSegments_text (line : Line) (column : Nat) (script : ScriptLine) :
    contents (readSegments line column (segments script.text)) =
        (script.first :: script.others).map Lexeme.content ∧
      Clean (readSegments line column (segments script.text)) := by
  have first := readSegments_lexeme line column script.first (spacedSegments script.others)
  have later := readSegments_spaced line (column + script.first.segment.chars.length) script.others
  rw [segments_text, first.1, later.1]
  exact ⟨rfl, first.2 later.2⟩

/-- No lexeme is an integer with too many digits. -/
theorem length_digits_le {script : ScriptLine} {digits : List Char}
    (among : .digits digits ∈ segments script.text) : digits.length ≤ digitLimit := by
  have ofLexeme {lexeme : Lexeme} (shape : .digits digits = lexeme.segment) :
      digits.length ≤ digitLimit := by
    cases lexeme with
    | integer value small =>
        cases shape
        exact length_toDigits_le small
    | word | sign | name | string => cases shape
  rw [segments_text, List.mem_cons] at among
  rcases among with first | later
  · exact ofLexeme first
  · obtain ⟨lexeme, -, inside⟩ := List.mem_flatMap.mp later
    rw [List.mem_cons, List.mem_singleton] at inside
    rcases inside with blank | shape
    · cases blank
    · exact ofLexeme shape

/-! ## Levels -/

/-- The open levels of a script behind lines that are so many levels deep. -/
def scriptLevels (width : Nat) : (depth : Nat) → List Level
  | 0 => []
  | depth + 1 => ⟨(depth + 1) * width, true⟩ :: scriptLevels width depth

theorem innermostWidth_scriptLevels (width depth : Nat) :
    innermostWidth (scriptLevels width depth) = depth * width := by
  cases depth with
  | zero => exact (Nat.zero_mul width).symm
  | succ depth => rfl

theorem blockCount_scriptLevels (width depth : Nat) :
    blockCount (scriptLevels width depth) = depth := by
  induction depth with
  | zero => rfl
  | succ depth ih =>
      rw [scriptLevels, blockCount_cons, ih]
      rfl

/-- A line that is no deeper than the line before it closes the levels that are deeper. -/
theorem closeLevels_scriptLevels {width level depth : Nat} (wide : 0 < width)
    (out : level ≤ depth) :
    closeLevels (level * width) (scriptLevels width depth) = scriptLevels width level := by
  induction depth with
  | zero =>
      obtain rfl := Nat.le_zero.mp out
      rfl
  | succ depth ih =>
      rcases Nat.le_succ_iff.mp out with further | rfl
      · have deeper : level * width < (depth + 1) * width :=
          Nat.mul_lt_mul_of_pos_right (Nat.lt_succ_of_le further) wide
        rw [scriptLevels, closeLevels, List.dropWhile_cons_of_pos (by simpa using deeper)]
        exact ih further
      · rw [scriptLevels, closeLevels, List.dropWhile_cons_of_neg (by simp)]

/-- A step in begins a block; otherwise a block ends for every level out. -/
theorem indentLine_script {width level depth : Nat} (wide : 0 < width) (step : level ≤ depth + 1)
    (line : Line) (column : Nat) :
    let read := indentLine line (level * width) column (scriptLevels width depth)
    contents read.1 = List.replicate (level - depth) .indent ++
        List.replicate (depth - level) .dedent ∧
      Clean read.1 ∧ read.2 = scriptLevels width level := by
  rcases Nat.le_succ_iff.mp step with out | rfl
  · have inside : ¬ depth * width < level * width :=
      Nat.not_lt.mpr (Nat.mul_le_mul_right width out)
    have none : level - depth = 0 := by omega
    simp only [indentLine, innermostWidth_scriptLevels, if_neg inside,
      closeLevels_scriptLevels wide out, blockCount_scriptLevels, Nat.lt_irrefl, if_false,
      contents_dedents, none]
    refine ⟨rfl, ?_, trivial⟩
    exact fun reading among => List.eq_of_mem_replicate among ▸ rfl
  · have deeper : depth * width < (depth + 1) * width :=
      Nat.mul_lt_mul_of_pos_right (Nat.lt_succ_self depth) wide
    have one : depth + 1 - depth = 1 := by omega
    have none : depth - (depth + 1) = 0 := by omega
    simp only [indentLine, innermostWidth_scriptLevels, if_pos deeper, one, none]
    exact ⟨rfl, by simp, rfl⟩

/-! ## Lines -/

theorem blankWidth_replicate (count : Nat) : blankWidth (List.replicate count ' ') = count := by
  have wider (width : Nat) :
      (List.replicate count ' ').foldl advanceWidth width = width + count := by
    induction count generalizing width with
    | zero => rfl
    | succ count ih =>
        rw [List.replicate_succ, List.foldl_cons, ih]
        have next : advanceWidth width ' ' = width + 1 := rfl
        omega
  exact (wider 0).trans (Nat.zero_add count)

/-- The indentation of a line ends where its first lexeme begins. -/
theorem blanks_chars (width : Nat) (line : ScriptLine) :
    (line.chars width).takeWhile isBlank = List.replicate (line.level * width) ' ' ∧
      (line.chars width).dropWhile isBlank = line.text ∧ isVacant line.text = false := by
  obtain ⟨c, rest, shape, noBlank, noComment⟩ := exists_cons_chars line.first
  have blanks : ∀ d ∈ List.replicate (line.level * width) ' ', isBlank d = true :=
    fun d among => List.eq_of_mem_replicate among ▸ rfl
  have stops : ¬ isBlank c = true := by simp [noBlank]
  rw [ScriptLine.chars, List.takeWhile_append_of_pos blanks, List.dropWhile_append_of_pos blanks,
    ScriptLine.text, shape, List.cons_append, List.takeWhile_cons_of_neg stops,
    List.dropWhile_cons_of_neg stops, List.append_nil]
  exact ⟨rfl, rfl, by simpa [isVacant] using noComment⟩

/-- On a line its step, its lexemes and its end are read. -/
theorem readLine_script {width depth : Nat} (wide : 0 < width) {script : ScriptLine}
    (step : script.level ≤ depth + 1) (line : Line) :
    let read := readLine line true (scriptLevels width depth) (script.chars width)
    contents read.1 = List.replicate (script.level - depth) .indent ++
        List.replicate (depth - script.level) .dedent ++ script.contents ∧
      Clean read.1 ∧ read.2 = scriptLevels width script.level := by
  obtain ⟨blanks, behind, text⟩ := blanks_chars width script
  obtain ⟨steps, quiet, levels⟩ := indentLine_script wide step line (script.level * width + 1)
  obtain ⟨said, quiet'⟩ := readSegments_text line (script.level * width + 1) script
  have some : (readSegments line (script.level * width + 1) (segments script.text)).any
      (·.token?.isSome) = true := by
    rw [← Bool.not_eq_false, any_token?_eq_false_iff, said]
    exact List.cons_ne_nil _ _
  simp only [readLine, blanks, behind, text, List.length_replicate, blankWidth_replicate, some,
    Bool.false_eq_true, if_false, if_true, contents_append, clean_append, steps, said]
  refine ⟨?_, ⟨⟨quiet, quiet'⟩, by simp⟩, levels⟩
  rw [ScriptLine.contents, ← List.append_assoc]
  rfl

/-- Behind the lines of a script the open blocks end, and the file. -/
theorem readLines_script {width : Nat} (wide : 0 < width) (file : String) (number : Nat)
    {depth : Nat} {lines : List ScriptLine} (stepwise : Stepwise (depth + 1) lines) :
    let read := readLines file number (scriptLevels width depth)
      (lines.map (ScriptLine.chars width) ++ [[]])
    contents read = scriptContents depth lines ++ [⟨.endOfFile, .absent⟩] ∧ Clean read := by
  induction lines generalizing number depth with
  | nil =>
      have last : readLines file number (scriptLevels width depth) [[]] =
          readEnd ⟨file, number⟩ 0 (scriptLevels width depth) := rfl
      simp only [List.map_nil, List.nil_append, last, readEnd, blockCount_scriptLevels,
        contents_append, contents_dedents, clean_append]
      refine ⟨rfl, ?_, by simp⟩
      exact fun reading among => List.eq_of_mem_replicate among ▸ rfl
  | cons script lines ih =>
      obtain ⟨said, quiet, levels⟩ := readLine_script wide stepwise.1 ⟨file, number⟩
      obtain ⟨later, quiet'⟩ := ih (number + 1) stepwise.2
      have more : lines.map (ScriptLine.chars width) ++ [[]] ≠ [] := by simp
      have shape := readLines.eq_3 file number (scriptLevels width depth)
        (script.chars width) (lines.map (ScriptLine.chars width) ++ [[]]) more
      simp only [List.map_cons, List.cons_append, shape, contents_append, clean_append, said,
        levels, later]
      exact ⟨(List.append_assoc _ _ _).symm, quiet, quiet'⟩

/-! ## Scripts -/

theorem programLines_scriptText (width : Nat) (lines : List ScriptLine) :
    programLines (scriptText width lines) = lines.map (ScriptLine.chars width) ++ [[]] := by
  have noBreak (script : ScriptLine) : ∀ c ∈ script.chars width, c ≠ '\n' ∧ c ≠ '\r' := by
    have blank : ∀ c ∈ List.replicate (script.level * width) ' ', c ≠ '\n' ∧ c ≠ '\r' :=
      fun c among => List.eq_of_mem_replicate among ▸ by decide
    have others : ∀ c ∈ script.others.flatMap fun lexeme => ' ' :: lexeme.chars,
        c ≠ '\n' ∧ c ≠ '\r' := by
      intro c among
      obtain ⟨lexeme, -, inside⟩ := List.mem_flatMap.mp among
      rcases List.mem_cons.mp inside with rfl | inside
      · decide
      · exact not_break_of_mem_chars lexeme c inside
    exact List.forall_mem_append.mpr
      ⟨blank, List.forall_mem_append.mpr ⟨not_break_of_mem_chars script.first, others⟩⟩
  have noReturn : '\r' ∉ (lines.map (ScriptLine.chars width)).flatMap (· ++ ['\n']) := by
    intro among
    obtain ⟨row, inside, among⟩ := List.mem_flatMap.mp among
    obtain ⟨script, -, rfl⟩ := List.mem_map.mp inside
    rcases List.mem_append.mp among with inside | last
    · exact (noBreak script _ inside).2 rfl
    · exact absurd last (by decide)
  have inLine : ∀ row ∈ lines.map (ScriptLine.chars width), '\n' ∉ row := by
    refine List.forall_mem_map.mpr fun script _ among => ?_
    exact (noBreak script _ among).1 rfl
  rw [programLines, scriptText, String.toList_ofList, Text.normalizeBreaks_eq_self noReturn,
    Text.lines_flatMap_break inLine]

/-- No line of a script makes it be refused. -/
theorem not_refused_script (width : Nat) (lines : List ScriptLine) :
    (programLines (scriptText width lines)).any holdsOverlongDigits = false := by
  rw [programLines_scriptText, List.any_eq_false]
  intro row among holds
  obtain ⟨digits, inside, long⟩ := holdsOverlongDigits_iff.mp holds
  rcases List.mem_append.mp among with written | last
  · obtain ⟨script, -, rfl⟩ := List.mem_map.mp written
    rw [← digits_mem_segments_dropWhile, (blanks_chars width script).2.1] at inside
    exact absurd (length_digits_le inside) (Nat.not_le.mpr long)
  · rw [List.mem_singleton.mp last, segments] at inside
    cases inside

/--
A script whose lines step in by one level at most, the first of them not at all, is read without
problems, and just what it says is read.
-/
theorem Lexing.contents_script (file : String) {width : Nat} (wide : 0 < width)
    {lines : List ScriptLine} (stepwise : Stepwise 0 lines) :
    ∃ lexing, Lexing.ofSource file (scriptText width lines) = .ok lexing ∧
      lexing.diagnostics = [] ∧
      lexing.tokens.map Token.content = scriptContents 0 lines ++ [⟨.endOfFile, .absent⟩] := by
  have first : Stepwise (0 + 1) lines := stepwise.mono (Nat.zero_le 1)
  obtain ⟨said, quiet⟩ := readLines_script wide file 1 first
  have program : readProgram file (scriptText width lines) =
      readLines file 1 [] (lines.map (ScriptLine.chars width) ++ [[]]) := by
    rw [readProgram, programLines_scriptText]
  have none : (readProgram file (scriptText width lines)).filterMap problem? = [] := by
    rw [program]
    exact List.filterMap_eq_nil_iff.mpr quiet
  have accepted : ¬ (programLines (scriptText width lines)).any holdsOverlongDigits = true := by
    rw [not_refused_script]
    decide
  refine ⟨_, if_neg accepted, ?_, ?_⟩
  · rw [diagnostics, none, List.map_nil]
  · rw [← said]
    exact congrArg contents program

/-- A script with steps in and out, a keyword in a longer name and a text with all escapes. -/
def motleyScript : List ScriptLine :=
  [⟨0, .word .kwIf, [.name "iffy" (by decide) (fun keyword => by cases keyword <;> decide),
      .sign .equal, .integer 2147483647 (by decide), .sign .colon]⟩,
    ⟨1, .string "a\\b\"c\n\t" (by simp), []⟩,
    ⟨2, .sign .minus, [.sign .greater, .sign .arrow, .integer 0 (by decide)]⟩,
    ⟨0, .string "None" (by simp), [.string "" (by simp)]⟩,
    ⟨1, .word .kwNone, []⟩]

/-- The script is read back if each level is three blanks. -/
theorem Lexing.contents_motleyScript :
    0 < 3 ∧ Stepwise 0 motleyScript ∧
      ∃ lexing, Lexing.ofSource "motley.choc" (scriptText 3 motleyScript) = .ok lexing ∧
        lexing.diagnostics = [] ∧
        lexing.tokens.map Token.content =
          [.word .kwIf, .name "iffy", .sign .equal, .integer 2147483647, .sign .colon, .newline,
            .indent, ⟨.string, .text "a\\b\"c\n\t"⟩, .newline,
            .indent, .sign .minus, .sign .greater, .sign .arrow, .integer 0, .newline,
            .dedent, .dedent, ⟨.nameString, .text "None"⟩, ⟨.string, .text ""⟩, .newline,
            .indent, .word .kwNone, .newline, .dedent, ⟨.endOfFile, .absent⟩] := by
  have stepwise : Stepwise 0 motleyScript := by simp [Stepwise, motleyScript]
  have read := Lexing.contents_script "motley.choc" (show 0 < 3 by decide) stepwise
  exact ⟨by decide, stepwise, read⟩

end ChocoLang
