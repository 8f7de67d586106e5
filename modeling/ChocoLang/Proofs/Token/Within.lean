import ChocoLang.Proofs.Source.Within
import ChocoLang.Proofs.Token.Cutting
import ChocoLang.Proofs.Token.Rows
import ChocoLang.Proofs.Token.Succession

/-!
# Tokens and problems lie in the text

What is read off a line lies on the line.  Only the token that ends a line goes one place beyond its
last character, where a break follows; the point at which a block or the file ends does not.
-/

namespace ChocoLang

open Reading

/-- The span covers columns of a line of a length, or none behind its last character. -/
def Line.Has (line : Line) (length : Nat) (span : Span) : Prop :=
  ∃ first last, 1 ≤ first ∧ first ≤ last ∧ last ≤ length + 1 ∧ span = line.span first last

/-- The span covers the break behind the last character of a line. -/
def Line.Ends (line : Line) (length : Nat) (span : Span) : Prop :=
  span = line.span (length + 1) (length + 2)

/-- The reading lies on a line of a length. -/
def Reading.On (line : Line) (length : Nat) : Reading → Prop
  | token found => line.Has length found.span ∨ found.kind = .newline ∧ line.Ends length found.span
  | problem found => line.Has length found.span

namespace Line

variable {line : Line} {length first last : Nat}

theorem has_span (inside : 1 ≤ first) (ordered : first ≤ last) (fits : last ≤ length + 1) :
    line.Has length (line.span first last) :=
  ⟨first, last, inside, ordered, fits, rfl⟩

end Line

section Segments

variable {line : Line} {length : Nat}

/-- The problems of the body of a literal lie on the line. -/
theorem has_of_mem_readBody (line : Line) {column : Nat} {body : List Char} (inside : 1 ≤ column)
    (fits : column + body.length ≤ length + 1) :
    ∀ problem ∈ (readBody line column body).problems, line.Has length problem.span := by
  fun_induction readBody line column body with
  | case1 => simp
  | case2 column c rest reading meant found ih =>
      simp only [List.length_cons] at fits
      exact ih (by omega) (by omega)
  | case3 column c rest reading none problem ih =>
      simp only [List.length_cons] at fits
      exact List.forall_mem_cons.mpr ⟨line.has_span inside (by omega) (by omega),
        ih (by omega) (by omega)⟩
  | case4 => simp
  | case5 column rest reading ends noMark ih =>
      simp only [List.length_cons] at fits
      exact ih (by omega) (by omega)
  | case6 column c rest noEscape noMark reading noSlash printable ih =>
      simp only [List.length_cons] at fits
      exact ih (by omega) (by omega)
  | case7 column c rest noEscape noMark reading noSlash unprintable problem ih =>
      simp only [List.length_cons] at fits
      exact List.forall_mem_cons.mpr ⟨line.has_span inside (by omega) (by omega),
        ih (by omega) (by omega)⟩

/-- What is read off a segment lies on the line. -/
theorem Segment.on_of_mem_read {column : Nat} (segment : Segment) (inside : 1 ≤ column)
    (fits : column + segment.chars.length ≤ length + 1) :
    ∀ reading ∈ segment.read line column, reading.On line length := by
  have whole : line.Has length (line.span column (column + segment.chars.length)) :=
    line.has_span inside (by omega) fits
  cases segment with
  | blank | comment => simp [read]
  | literal body =>
      have wide : column + 1 + body.length = column + (literal body).chars.length := by
        simp only [chars, List.length_cons]
        omega
      rw [← wide] at whole fits
      have problems := has_of_mem_readBody line (Nat.le_succ_of_le inside) fits
      simp only [read, readLiteral]
      split
      · simpa [On, or_imp, forall_and] using ⟨problems, .inl whole⟩
      · simpa [On, or_imp, forall_and] using ⟨problems, whole⟩
  | digits chars =>
      simp only [read]
      cases digitsError? chars <;> simpa [On] using whole
  | word => simpa [read, On] using .inl whole
  | symbol | invalid => simpa [read, On] using whole

theorem on_of_mem_readSegments {column : Nat} {found : List Segment} (inside : 1 ≤ column)
    (fits : column + (found.flatMap Segment.chars).length ≤ length + 1) :
    ∀ reading ∈ readSegments line column found, reading.On line length := by
  induction found generalizing column with
  | nil => simp [readSegments]
  | cons segment found ih =>
      rw [List.flatMap_cons, List.length_append] at fits
      rw [readSegments, List.forall_mem_append]
      exact ⟨segment.on_of_mem_read inside (by omega), ih (by omega) (by omega)⟩

end Segments

/-! ## Lines -/

section Lines

variable {line : Line} {length : Nat}

theorem on_of_mem_dedents {count column : Nat} (inside : 1 ≤ column) (fits : column ≤ length + 1) :
    ∀ reading ∈ dedents count (line.point column), reading.On line length := by
  intro reading among
  rw [List.eq_of_mem_replicate among]
  exact .inl (line.has_span inside (Nat.le_refl _) fits)

theorem on_of_mem_indentLine {width column : Nat} {levels : List Level} (inside : 1 ≤ column)
    (fits : column ≤ length + 1) :
    ∀ reading ∈ (indentLine line width column levels).1, reading.On line length := by
  have blanks := line.has_span (Nat.le_refl 1) inside fits
  unfold indentLine
  dsimp only
  split
  · simpa [On] using blanks
  · split
    · rw [List.forall_mem_append]
      exact ⟨on_of_mem_dedents inside fits, by simpa [On] using blanks⟩
    · exact on_of_mem_dedents inside fits

theorem on_of_mem_readLine (line : Line) (terminated : Bool) (levels : List Level)
    (chars : List Char) :
    ∀ reading ∈ (readLine line terminated levels chars).1, reading.On line chars.length := by
  unfold readLine
  dsimp only
  split
  · simp
  have whole : (chars.takeWhile isBlank).length + (chars.dropWhile isBlank).length =
      chars.length := by
    rw [← List.length_append, List.takeWhile_append_dropWhile]
  have inside : 1 ≤ (chars.takeWhile isBlank).length + 1 := Nat.le_add_left 1 _
  simp only [List.forall_mem_append]
  refine ⟨⟨on_of_mem_indentLine inside (by omega), on_of_mem_readSegments inside ?_⟩, ?_⟩
  · rw [segments_flatten]
    omega
  · split
    · rw [List.forall_mem_singleton]
      cases terminated with
      | true => exact .inr ⟨rfl, rfl⟩
      | false => exact .inl (line.has_span (by omega) (Nat.le_refl _) (Nat.le_refl _))
    · simp

theorem on_of_mem_readEnd {levels : List Level} :
    ∀ reading ∈ readEnd line length levels, reading.On line length := by
  unfold readEnd
  rw [List.forall_mem_append, List.forall_mem_singleton]
  have inside : 1 ≤ length + 1 := Nat.le_add_left 1 _
  exact ⟨on_of_mem_dedents inside (Nat.le_refl _),
    .inl (line.has_span inside (Nat.le_refl _) (Nat.le_refl _))⟩

/-- Every reading lies on one of the lines, which are counted from a number on. -/
theorem on_of_mem_readLines (file : String) (number : Nat) (levels : List Level)
    (lines : List (List Char)) : ∀ reading ∈ readLines file number levels lines,
      ∃ index chars, lines[index]? = some chars ∧
        reading.On ⟨file, number + index⟩ chars.length := by
  fun_induction readLines file number levels lines with
  | case1 => simp
  | case2 number levels last line readings remaining shape =>
      have first := on_of_mem_readLine ⟨file, number⟩ false levels last
      rw [shape] at first
      rw [List.forall_mem_append]
      exact ⟨fun reading among => ⟨0, last, rfl, first reading among⟩,
        fun reading among => ⟨0, last, rfl, on_of_mem_readEnd reading among⟩⟩
  | case3 number levels chars rest long readings remaining shape ih =>
      have first := on_of_mem_readLine ⟨file, number⟩ true levels chars
      rw [shape] at first
      rw [List.forall_mem_append]
      refine ⟨fun reading among => ⟨0, chars, rfl, first reading among⟩, fun reading among => ?_⟩
      obtain ⟨index, later, found, stands⟩ := ih reading among
      refine ⟨index + 1, later, found, ?_⟩
      rwa [Nat.add_right_comm] at stands

end Lines

/-! ## Texts -/

section Texts

variable {text : List Char} {file : String} {index : Nat} {chars : List Char}

/-- A place on a line of a text lies in the text. -/
theorem Line.within_place (found : (Text.lines text)[index]? = some chars) {column : Nat}
    (inside : 1 ≤ column) (fits : column ≤ chars.length + 1) :
    ((⟨file, 1 + index⟩ : Line).place column).Within text := by
  have counted := Text.length_lines text
  have listed := (List.getElem?_eq_some_iff.mp found).1
  have long := Text.lineLength_of_getElem? found
  rw [Nat.add_comm] at long
  constructor
  · simp only [place]
    omega
  · simp only [place, long]
    omega

theorem Line.Has.within (found : (Text.lines text)[index]? = some chars) {span : Span}
    (has : (⟨file, 1 + index⟩ : Line).Has chars.length span) : span.Within text := by
  obtain ⟨first, last, inside, ordered, fits, rfl⟩ := has
  exact ⟨place_le _ ordered, within_place found inside (by omega),
    within_place found (by omega) fits⟩

theorem Line.Ends.passesEnd (found : (Text.lines text)[index]? = some chars) {span : Span}
    (ends : (⟨file, 1 + index⟩ : Line).Ends chars.length span) : span.PassesEnd text := by
  have long := Text.lineLength_of_getElem? found
  rw [Nat.add_comm] at long
  cases ends
  refine ⟨within_place found (Nat.le_add_left 1 _) (Nat.le_refl _), ?_, rfl⟩
  simp only [Line.span, Span.onLine, long]

end Texts

namespace Lexing

variable {file source : String} {lexing : Lexing}

/-- Every reading of a text lies on a line of the text. -/
theorem on_of_mem_readProgram (file source : String) : ∀ reading ∈ readProgram file source,
    ∃ index chars, (Text.lines (Text.normalizeBreaks source.toList))[index]? = some chars ∧
      reading.On ⟨file, 1 + index⟩ chars.length :=
  on_of_mem_readLines file 1 [] (programLines source)

/-- The problems with the tokens of a text lie in the text. -/
theorem within_of_mem_problems (read : ofSource file source = .ok lexing) :
    ∀ problem ∈ lexing.problems, problem.span.Within (Text.normalizeBreaks source.toList) := by
  unfold ofSource at read
  split at read
  · cases read
  · cases read
    intro problem among
    obtain ⟨reading, listed, same⟩ := List.mem_filterMap.mp among
    obtain ⟨index, chars, found, stands⟩ := on_of_mem_readProgram file source reading listed
    cases reading with
    | token => cases same
    | problem other =>
        cases same
        exact Line.Has.within found stands

/-- The tokens of a text lie in the text, but for the ends of lines, which go a place further. -/
theorem within_of_mem_tokens (read : ofSource file source = .ok lexing) :
    ∀ token ∈ lexing.tokens, token.span.Within (Text.normalizeBreaks source.toList) ∨
      token.kind = .newline ∧ token.span.PassesEnd (Text.normalizeBreaks source.toList) := by
  unfold ofSource at read
  split at read
  · cases read
  · cases read
    intro token among
    obtain ⟨reading, listed, same⟩ := List.mem_filterMap.mp among
    obtain ⟨index, chars, found, stands⟩ := on_of_mem_readProgram file source reading listed
    cases reading with
    | token other =>
        cases same
        exact stands.imp (Line.Has.within found) (And.imp_right (Line.Ends.passesEnd found))
    | problem => cases same

/-- A text does not begin with the end of a line. -/
theorem kind_head_ne_newline (read : ofSource file source = .ok lexing) :
    (lexing.tokens.head lexing.tokens_ne_nil).kind ≠ .newline := by
  unfold ofSource at read
  split at read
  · cases read
  · cases read
    intro kind
    have rows := Rows.readLines file 1 [] (Text.lines_ne_nil (Text.normalizeBreaks source.toList))
    have shape := List.cons_head_tail (tokens_readProgram_ne_nil file source)
    rw [← programLines, ← readProgram, ← shape] at rows
    exact absurd (rows.isSome_of_newline kind) (by simp)

end Lexing
end ChocoLang
