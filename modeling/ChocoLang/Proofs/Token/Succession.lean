import ChocoLang.Proofs.Source.Within
import ChocoLang.Token.Lexing

/-!
# Tokens stand one behind the other

The tokens of a program, with the beginnings and ends of blocks and of lines, are listed in the
order of the text: none of them starts before the one in front of it has stopped.
-/

namespace ChocoLang

open Reading

/-- Where the tokens among some readings stand. -/
def tokenSpans (readings : List Reading) : List Span :=
  (readings.filterMap token?).map Token.span

@[simp]
theorem tokenSpans_append (first second : List Reading) :
    tokenSpans (first ++ second) = tokenSpans first ++ tokenSpans second := by
  simp [tokenSpans]

/-- Problems are no tokens. -/
theorem tokenSpans_problems (problems : List (Located LexicalError)) :
    tokenSpans (problems.map Reading.problem) = [] := by
  simp [tokenSpans, List.filterMap_map, Function.comp_def, token?]

/-- A place on a line. -/
def Line.place (line : Line) (column : Nat) : Position := ⟨line.number, column⟩

namespace Line

variable (line : Line) {first last : Nat}

theorem place_le (ordered : first ≤ last) : line.place first ≤ line.place last :=
  .inr ⟨rfl, by simpa [place] using ordered⟩

/-- Every place on a line is in front of the next line. -/
theorem place_le_next (column : Nat) :
    line.place column ≤ (⟨line.file, line.number + 1⟩ : Line).place 1 :=
  .inl (by simp only [place]; omega)

theorem successive_span (ordered : first ≤ last) :
    Successive (line.place first) [line.span first last] (line.place last) :=
  .singleton (Position.le_refl _) (line.place_le ordered) (Position.le_refl _)

end Line

/-! ## Segments -/

/-- At most one token is read off a segment, and it spans the whole segment. -/
theorem Segment.tokenSpans_read (line : Line) (column : Nat) (segment : Segment) :
    tokenSpans (segment.read line column) = [] ∨
      tokenSpans (segment.read line column) =
        [line.span column (column + segment.chars.length)] := by
  cases segment with
  | blank | comment | invalid => exact .inl rfl
  | word | symbol => exact .inr rfl
  | literal body =>
      have wide : column + 1 + body.length = column + (literal body).chars.length := by
        simp only [chars, List.length_cons]
        omega
      right
      simp only [read, readLiteral, wide]
      split <;> (rw [tokenSpans_append, tokenSpans_problems]; rfl)
  | digits chars =>
      right
      simp only [read]
      cases digitsError? chars <;> rfl

/-- The tokens of successive segments are successive. -/
theorem successive_readSegments (line : Line) (column : Nat) (found : List Segment) :
    Successive (line.place column) (tokenSpans (readSegments line column found))
      (line.place (column + (found.flatMap Segment.chars).length)) := by
  induction found generalizing column with
  | nil => exact .nil (Position.le_refl _)
  | cons segment found ih =>
      have later := ih (column + segment.chars.length)
      have ordered : column ≤ column + segment.chars.length := Nat.le_add_right _ _
      rw [readSegments, tokenSpans_append, List.flatMap_cons, List.length_append, ← Nat.add_assoc]
      refine Successive.append ?_ later
      rcases segment.tokenSpans_read line column with none | one
      · rw [none]
        exact .nil (line.place_le ordered)
      · rw [one]
        exact line.successive_span ordered

/-! ## Lines -/

theorem successive_dedents (line : Line) (count column : Nat) :
    Successive (line.place column) (tokenSpans (dedents count (line.point column)))
      (line.place column) := by
  induction count with
  | zero => exact .nil (Position.le_refl _)
  | succ count ih => exact .cons (Position.le_refl _) (Position.le_refl _) ih

/-- What the indentation of a line says stands in front of the first token of the line. -/
theorem successive_indentLine (line : Line) (width : Nat) {column : Nat} (inside : 1 ≤ column)
    (levels : List Level) :
    Successive (line.place 1) (tokenSpans (indentLine line width column levels).1)
      (line.place column) := by
  have closing (count : Nat) : Successive (line.place 1)
      (tokenSpans (dedents count (line.point column))) (line.place column) :=
    (successive_dedents line count column).of_le (line.place_le inside)
  unfold indentLine
  dsimp only
  split
  · exact line.successive_span inside
  · split
    · rw [tokenSpans_append]
      exact (closing _).append (.nil (Position.le_refl _))
    · exact closing _

/-- The width of the break that ends a line. -/
def breakWidth (terminated : Bool) : Nat := if terminated then 1 else 0

theorem successive_readLine (line : Line) (terminated : Bool) (levels : List Level)
    (chars : List Char) :
    Successive (line.place 1) (tokenSpans (readLine line terminated levels chars).1)
      (line.place (chars.length + 1 + breakWidth terminated)) := by
  unfold readLine
  dsimp only
  split
  · exact .nil (line.place_le (by omega))
  have inside : 1 ≤ (chars.takeWhile isBlank).length + 1 := Nat.le_add_left 1 _
  have layout := successive_indentLine line (blankWidth (chars.takeWhile isBlank)) inside levels
  have content := successive_readSegments line ((chars.takeWhile isBlank).length + 1)
    (segments (chars.dropWhile isBlank))
  have whole : (chars.takeWhile isBlank).length + (chars.dropWhile isBlank).length =
      chars.length := by
    rw [← List.length_append, List.takeWhile_append_dropWhile]
  have reached : (chars.takeWhile isBlank).length + 1 +
      ((segments (chars.dropWhile isBlank)).flatMap Segment.chars).length = chars.length + 1 := by
    rw [segments_flatten]
    omega
  rw [reached] at content
  rw [tokenSpans_append, tokenSpans_append]
  refine (layout.append content).append ?_
  have ordered := Nat.le_add_right (chars.length + 1) (breakWidth terminated)
  split
  · exact line.successive_span ordered
  · exact .nil (line.place_le ordered)

theorem successive_readEnd (line : Line) (length : Nat) (levels : List Level) :
    Successive (line.place (length + 1)) (tokenSpans (readEnd line length levels))
      (line.place (length + 1)) := by
  unfold readEnd
  dsimp only
  rw [tokenSpans_append]
  exact (successive_dedents line _ _).append (line.successive_span (Nat.le_refl _))

theorem successive_readLines (file : String) (number : Nat) (levels : List Level)
    (lines : List (List Char)) :
    ∃ last, Successive ((⟨file, number⟩ : Line).place 1)
      (tokenSpans (readLines file number levels lines)) last := by
  fun_induction readLines file number levels lines with
  | case1 number => exact ⟨_, .nil (Position.le_refl _)⟩
  | case2 number levels last line readings remaining shape =>
      have row := successive_readLine line false levels last
      rw [shape] at row
      rw [tokenSpans_append]
      exact ⟨_, row.append (successive_readEnd line last.length remaining)⟩
  | case3 number levels chars rest long readings remaining shape ih =>
      have row := successive_readLine ⟨file, number⟩ true levels chars
      rw [shape] at row
      obtain ⟨last, later⟩ := ih
      rw [tokenSpans_append]
      exact ⟨last, row.append (later.of_le (Line.place_le_next _ _))⟩

/-- The last token of a program marks the end of the file. -/
theorem Lexing.ends_of_ofSource {file source : String} {lexing : Lexing}
    (read : Lexing.ofSource file source = .ok lexing) :
    (lexing.tokens.getLast lexing.tokens_ne_nil).kind = .endOfFile := by
  unfold Lexing.ofSource at read
  split at read
  · cases read
  · cases read
    obtain ⟨front, place, shape⟩ :=
      readLines_eq_append file 1 [] (programLines source) (Text.lines_ne_nil _)
    have tokens : (readProgram file source).filterMap token? =
        front.filterMap token? ++ [⟨.endOfFile, .absent, place⟩] := by
      simp [readProgram, shape, token?]
    simp [tokens]

/-- The tokens of a program stand one behind the other. -/
theorem Lexing.successive_of_ofSource {file source : String} {lexing : Lexing}
    (read : Lexing.ofSource file source = .ok lexing) :
    ∃ first last, Successive first (lexing.tokens.map Token.span) last := by
  unfold Lexing.ofSource at read
  split at read
  · cases read
  · cases read
    obtain ⟨last, row⟩ := successive_readLines file 1 [] (programLines source)
    exact ⟨_, last, row⟩

end ChocoLang
