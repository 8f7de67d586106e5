import ChocoLang.Compilation
import ChocoLang.Proofs.Source.Breaks
import ChocoLang.Proofs.Token.Tiles

/-!
# Texts that are refused

A text is refused for one reason only: an integer literal in it has more digits than the limit.  Any
other text is read, checked and compiled, whatever is wrong with it, and what is found wrong at one
stage is among the diagnostics of the next.
-/

namespace ChocoLang

/-! ## Integer literals among the segments of a line -/

/-- Every segment of a line is the first one of some text. -/
theorem exists_next_of_mem_segments {line : List Char} {segment : Segment}
    (among : segment ∈ segments line) : ∃ c rest, segment = (Segment.next c rest).1 := by
  fun_induction segments line with
  | case1 => cases among
  | case2 c rest ih =>
      rcases List.mem_cons.mp among with rfl | later
      · exact ⟨c, rest, rfl⟩
      · exact ih later

/-- A character of a class is none outside the class. -/
theorem ne_of_class {c d : Char} {p : Char → Bool} (holds : p c = true) (apart : p d = false) :
    c ≠ d := by
  rintro rfl
  rw [holds] at apart
  cases apart

/-- A character of a class without blanks and marks is neither a blank nor a mark. -/
theorem not_blank_of_class {c : Char} {p : Char → Bool} (holds : p c = true)
    (apart : [' ', '\t', '#', '"'].any p = false) :
    isBlank c = false ∧ c ≠ '#' ∧ c ≠ '"' := by
  have other (d : Char) (among : d ∈ [' ', '\t', '#', '"']) : c ≠ d :=
    ne_of_class holds (Bool.eq_false_iff.mpr (List.any_eq_false.mp apart d among))
  refine ⟨?_, other '#' (by decide), other '"' (by decide)⟩
  simp only [isBlank, other ' ' (by decide), other '\t' (by decide), decide_false, Bool.or_self]

theorem Segment.next_of_isDigit {c : Char} (digit : c.isDigit = true) (rest : List Char) :
    Segment.next c rest =
      (.digits (c :: rest.takeWhile Char.isDigit), rest.dropWhile Char.isDigit) := by
  obtain ⟨noBlank, noComment, noMark⟩ := not_blank_of_class digit rfl
  simp only [Segment.next, noBlank, noComment, noMark, digit, if_true, if_false,
    Bool.false_eq_true]

/-- The first segment consists of digits only if the first character is one. -/
theorem Segment.isDigit_of_next {c : Char} {rest digits : List Char}
    (shape : (Segment.next c rest).1 = .digits digits) : c.isDigit = true := by
  by_contra noDigit
  unfold Segment.next at shape
  rw [if_neg noDigit] at shape
  repeat' split at shape
  all_goals cases shape

theorem Spells.decimal_of_integer {chars : List Char} {value : TokenValue}
    (spells : Spells chars .integer value) : chars ≠ [] ∧ ∀ c ∈ chars, c.isDigit = true := by
  generalize same : TokenKind.integer = kind at spells
  cases spells with
  | integer some decimal => exact ⟨some, decimal⟩
  | literal =>
      split at same
      · cases same
      · cases same
  | keyword | name | symbol => cases same

/-- The segments that spell integers are those that consist of digits. -/
theorem spells_integer_iff {line : List Char} {segment : Segment}
    (among : segment ∈ segments line) :
    (∃ value, Spells segment.chars .integer value) ↔ ∃ digits, segment = .digits digits := by
  obtain ⟨c, rest, rfl⟩ := exists_next_of_mem_segments among
  constructor
  · rintro ⟨value, spells⟩
    have whole := Segment.next_append c rest
    obtain ⟨some, decimal⟩ := spells.decimal_of_integer
    obtain ⟨d, others, shape⟩ := List.exists_cons_of_ne_nil some
    rw [shape, List.cons_append] at whole
    obtain ⟨rfl, -⟩ := List.cons.inj whole
    rw [Segment.next_of_isDigit (decimal d (shape ▸ List.mem_cons_self))]
    exact ⟨_, rfl⟩
  · rintro ⟨digits, shape⟩
    have digit := Segment.isDigit_of_next shape
    rw [Segment.next_of_isDigit digit]
    refine ⟨_, .integer (List.cons_ne_nil _ _) (List.forall_mem_cons.mpr ⟨digit, ?_⟩)⟩
    exact fun d member => List.mem_takeWhile_imp member

/-- No digits begin among the blanks in front of a line. -/
theorem digits_mem_segments_dropWhile {chars digits : List Char} :
    .digits digits ∈ segments (chars.dropWhile isBlank) ↔ .digits digits ∈ segments chars := by
  cases chars with
  | nil => rfl
  | cons c rest =>
      by_cases blank : isBlank c = true
      · rw [segments, Segment.next, if_pos blank, List.dropWhile_cons_of_pos blank]
        simp
      · rw [List.dropWhile_cons_of_neg blank]

theorem digits_not_mem_segments_vacant {content digits : List Char}
    (vacant : isVacant content = true) : .digits digits ∉ segments content := by
  cases content with
  | nil => simp [segments]
  | cons c rest =>
      obtain rfl : c = '#' := by simpa [isVacant] using vacant
      rw [segments, Segment.next, if_neg (by decide), if_pos rfl, segments]
      simp

theorem holdsOverlongDigits_iff {chars : List Char} :
    holdsOverlongDigits chars = true ↔
      ∃ digits, .digits digits ∈ segments chars ∧ digitLimit < digits.length := by
  unfold holdsOverlongDigits
  simp only [Bool.and_eq_true, List.any_eq_true, Bool.not_eq_true']
  constructor
  · rintro ⟨-, segment, among, long⟩
    split at long
    · exact ⟨_, digits_mem_segments_dropWhile.mp among, by simpa using long⟩
    · cases long
  · rintro ⟨digits, among, long⟩
    rw [← digits_mem_segments_dropWhile] at among
    refine ⟨?_, .digits digits, among, by simpa using long⟩
    rw [← Bool.not_eq_true]
    exact fun vacant => digits_not_mem_segments_vacant vacant among

/-! ## Integer literals among the tiles of a text -/

theorem lineTiles_segments (line : Line) (column : Nat) (found : List Segment) :
    (lineTiles line column found).filterMap Tile.segment = found := by
  induction found generalizing column with
  | nil => rfl
  | cons segment rest ih =>
      rw [lineTiles, List.filterMap_cons, ih]

theorem linesTiles_segments (file : String) (number : Nat) (lines : List (List Char)) :
    (linesTiles file number lines).filterMap Tile.segment = lines.flatMap segments := by
  fun_induction linesTiles file number lines with
  | case1 => rfl
  | case2 number last => rw [lineTiles_segments, List.flatMap_singleton]
  | case3 number chars rest long ih =>
      rw [List.filterMap_append, lineTiles_segments, List.filterMap_cons, ih, List.flatMap_cons]

/-- The tile spells an integer with more digits than the limit. -/
def Tile.Overlong (tile : Tile) : Prop :=
  digitLimit < tile.chars.length ∧ ∃ value, Spells tile.chars .integer value

/-- A line with too many digits in a row is a line with a tile that is too long. -/
theorem exists_overlong_iff (file source : String) :
    (∃ tile ∈ programTiles file source, tile.Overlong) ↔
      (programLines source).any holdsOverlongDigits = true := by
  have segments_eq := linesTiles_segments file 1 (programLines source)
  simp only [List.any_eq_true, holdsOverlongDigits_iff]
  constructor
  · rintro ⟨tile, among, long, spells⟩
    obtain ⟨line, column, segment⟩ := tile
    cases segment with
    | none =>
        have short : ¬ digitLimit < ['\n'].length := by decide
        exact absurd long short
    | some segment =>
        have member : segment ∈ (programLines source).flatMap segments := by
          rw [← segments_eq]
          exact List.mem_filterMap.mpr ⟨_, among, rfl⟩
        obtain ⟨chars, inside, member⟩ := List.mem_flatMap.mp member
        obtain ⟨digits, rfl⟩ := (spells_integer_iff member).mp spells
        exact ⟨chars, inside, digits, member, long⟩
  · rintro ⟨chars, inside, digits, member, long⟩
    have among : .digits digits ∈ (programTiles file source).filterMap Tile.segment := by
      rw [programTiles, segments_eq]
      exact List.mem_flatMap.mpr ⟨chars, inside, member⟩
    obtain ⟨⟨line, column, segment⟩, tile, rfl⟩ := List.mem_filterMap.mp among
    exact ⟨_, tile, long, (spells_integer_iff member).mpr ⟨digits, rfl⟩⟩

/-- A tile that is too long is a run of too many digits in the text. -/
theorem Tile.Overlong.exists_run {file source : String} {tile : Tile} (overlong : tile.Overlong)
    (among : tile ∈ programTiles file source) :
    ∃ run, run <:+: source.toList ∧ digitLimit < run.length ∧ ∀ c ∈ run, c.isDigit = true := by
  obtain ⟨long, value, spells⟩ := overlong
  have whole := linesTiles_chars file 1 (programLines source)
  rw [programLines, Text.intercalate_lines] at whole
  refine ⟨tile.chars, Text.infix_of_normalizeBreaks spells.inLine ?_, long,
    spells.decimal_of_integer.2⟩
  rw [← whole, List.flatMap]
  exact List.infix_of_mem_flatten (List.mem_map_of_mem among)

/-! ## The stages -/

/-- A text is refused at every stage. -/
structure Refused (file source : String) : Prop where
  lexed : Lexing.ofSource file source = .error .overlongInteger
  parsed : Program.ofSource file source = .error .overlongInteger
  typed : Program.checkedOfSource file source = .error .overlongInteger
  compiled (checking : Bool) :
    Compilation.ofSource checking file source = .error .overlongInteger

/--
What the stages make of a text: its tokens, the program, the checked program and its compilations.
What is wrong with the characters is known with the tokens, and what one stage knows to be wrong is
known at the next.
-/
structure Compiles (file source : String) (lexing : Lexing) (program checked : Program) : Prop where
  lexed : Lexing.ofSource file source = .ok lexing
  parsed : Program.ofSource file source = .ok program
  typed : Program.checkedOfSource file source = .ok checked
  compiled : Compilation.ofSource false file source = .ok { untyped := program }
  compiled_typed : Compilation.ofSource true file source =
    .ok { untyped := program, typed := some checked }
  problems : lexing.problems = (readProgram file source).filterMap Reading.problem?
  known : lexing.diagnostics <+: program.errors
  found : program.errors <+: checked.errors

theorem Refused.of_lexing {file source : String}
    (refused : Lexing.ofSource file source = .error .overlongInteger) : Refused file source := by
  have program : Program.ofSource file source = .error .overlongInteger := by
    rw [Program.ofSource, refused]
    rfl
  refine ⟨refused, program, ?_, fun checking => ?_⟩
  · rw [Program.checkedOfSource, program]
    rfl
  · rw [Compilation.ofSource, program]
    rfl

theorem Compiles.of_lexing {file source : String} {lexing : Lexing}
    (read : Lexing.ofSource file source = .ok lexing) :
    ∃ program checked, Compiles file source lexing program checked := by
  have program : Program.ofSource file source = .ok (.ofLexing file lexing) := by
    rw [Program.ofSource, read]
    rfl
  refine ⟨_, (Program.ofLexing file lexing).check, read, program, ?_, ?_, ?_, ?_, ?_, ?_⟩
  · rw [Program.checkedOfSource, program]
    rfl
  · rw [Compilation.ofSource, program]
    rfl
  · rw [Compilation.ofSource, program]
    rfl
  · unfold Lexing.ofSource at read
    split at read
    · cases read
    · cases read
      rfl
  · exact List.prefix_append _ _
  · exact List.prefix_append _ _

theorem Lexing.ofSource_eq_error_iff (file source : String) :
    Lexing.ofSource file source = .error .overlongInteger ↔
      ∃ tile ∈ programTiles file source, tile.Overlong := by
  rw [exists_overlong_iff, Lexing.ofSource]
  split
  · next long => simp only [long]
  · next short => simp only [short, reduceCtorEq]

/--
Unless an integer literal in it has more digits than the limit, every text is read, checked and
compiled.  A text with such a literal, and hence with such a run of digits, is refused.
-/
theorem compiles_iff (file source : String) :
    ((∃ lexing program checked, Compiles file source lexing program checked) ↔
      ¬ ∃ tile ∈ programTiles file source, tile.Overlong) ∧
    ((∃ tile ∈ programTiles file source, tile.Overlong) →
      Refused file source ∧
        ∃ run, run <:+: source.toList ∧ digitLimit < run.length ∧ ∀ c ∈ run, c.isDigit = true) := by
  refine ⟨⟨?_, fun short => ?_⟩, ?_⟩
  · rintro ⟨lexing, program, checked, compiles⟩ long
    rw [← Lexing.ofSource_eq_error_iff, compiles.lexed] at long
    cases long
  · cases read : Lexing.ofSource file source with
    | ok lexing => exact ⟨lexing, Compiles.of_lexing read⟩
    | error refusal =>
        cases refusal
        exact absurd ((Lexing.ofSource_eq_error_iff file source).mp read) short
  · rintro ⟨tile, among, overlong⟩
    have refused := (Lexing.ofSource_eq_error_iff file source).mpr ⟨tile, among, overlong⟩
    exact ⟨.of_lexing refused, overlong.exists_run among⟩

/-- A line that is one run of digits is one segment. -/
theorem segments_of_decimal {c : Char} {rest : List Char} (digit : c.isDigit = true)
    (decimal : ∀ d ∈ rest, d.isDigit = true) :
    segments (c :: rest) = [.digits (c :: rest)] := by
  rw [segments, Segment.next_of_isDigit digit, List.takeWhile_eq_self_iff.mpr decimal,
    List.dropWhile_eq_nil_iff.mpr decimal, segments]

/-- A text of one digit more than the limit. -/
def overlongSource : String := String.ofList ('1' :: List.replicate digitLimit '1')

theorem Lexing.ofSource_overlongSource (file : String) :
    Lexing.ofSource file overlongSource = .error .overlongInteger := by
  have ones (c : Char) (among : c ∈ '1' :: List.replicate digitLimit '1') : c = '1' := by
    rcases List.mem_cons.mp among with rfl | later
    · rfl
    · exact List.eq_of_mem_replicate later
  have other (c : Char) (noOne : c ≠ '1') : c ∉ '1' :: List.replicate digitLimit '1' :=
    fun among => noOne (ones c among)
  have line : programLines overlongSource = ['1' :: List.replicate digitLimit '1'] := by
    rw [programLines, overlongSource, String.toList_ofList,
      Text.normalizeBreaks_eq_self (other '\r' (by decide)),
      Text.lines_eq_singleton (other '\n' (by decide))]
  have long : holdsOverlongDigits ('1' :: List.replicate digitLimit '1') = true := by
    rw [holdsOverlongDigits_iff, segments_of_decimal rfl fun c among =>
      ones c (List.mem_cons_of_mem _ among) ▸ rfl]
    exact ⟨_, List.mem_cons_self, by simp⟩
  rw [Lexing.ofSource, line, List.any_cons, long]
  rfl

/-- That this integer is too large does not come to be a diagnostic. -/
theorem refused_overlongSource : Refused "<input>" overlongSource :=
  .of_lexing (Lexing.ofSource_overlongSource _)

end ChocoLang
