import ChocoLang.Proofs.Source.Within
import ChocoLang.Proofs.Token.Cutting
import ChocoLang.Token.Lexing

/-!
# Tiles of a text

The segments of the lines of a program, with the breaks between the lines, are tiles that cover the
text without gaps and without overlaps.  Every token but the layout, and every report of invalid
characters, is read off one tile and spans just that tile.
-/

namespace ChocoLang

open Reading

/-- A stretch of a text: a segment of a line or the break behind a line. -/
structure Tile where
  /-- The line on which the stretch stands. -/
  line : Line
  /-- The column in which it begins. -/
  column : Nat
  /-- The segment, or nothing for a break. -/
  segment : Option Segment

namespace Tile

/-- The characters of a tile. -/
def chars (tile : Tile) : List Char :=
  match tile.segment with
  | some segment => segment.chars
  | none => ['\n']

/-- Where a tile lies. -/
def span (tile : Tile) : Span := tile.line.span tile.column (tile.column + tile.chars.length)

/-- What is read off a tile. -/
def readings (tile : Tile) : List Reading :=
  match tile.segment with
  | some segment => segment.read tile.line tile.column
  | none => []

/-- The tokens that are read off a tile. -/
def tokens (tile : Tile) : List Token := (texts tile.readings).filterMap token?

/-- The reports of invalid characters that are read off a tile. -/
def strays (tile : Tile) : List (Located LexicalError) := (texts tile.readings).filterMap problem?

end Tile

/-- The tiles of successive segments of a line, the first of which begins in a column. -/
def lineTiles (line : Line) (column : Nat) : List Segment → List Tile
  | [] => []
  | segment :: rest =>
    ⟨line, column, some segment⟩ :: lineTiles line (column + segment.chars.length) rest

/-- The tiles of successive lines, the first of them with a number. -/
def linesTiles (file : String) (number : Nat) : List (List Char) → List Tile
  | [] => []
  | [last] => lineTiles ⟨file, number⟩ 1 (segments last)
  | chars :: rest =>
    lineTiles ⟨file, number⟩ 1 (segments chars) ++
      ⟨⟨file, number⟩, chars.length + 1, none⟩ :: linesTiles file (number + 1) rest

/-- The tiles of a program. -/
def programTiles (file source : String) : List Tile := linesTiles file 1 (programLines source)

theorem lineTiles_chars (line : Line) (column : Nat) (found : List Segment) :
    (lineTiles line column found).flatMap Tile.chars = found.flatMap Segment.chars := by
  induction found generalizing column with
  | nil => rfl
  | cons segment rest ih =>
      rw [lineTiles, List.flatMap_cons, List.flatMap_cons, ih]
      rfl

theorem lineTiles_readings (line : Line) (column : Nat) (found : List Segment) :
    (lineTiles line column found).flatMap Tile.readings = readSegments line column found := by
  induction found generalizing column with
  | nil => rfl
  | cons segment rest ih =>
      rw [lineTiles, List.flatMap_cons, readSegments, ih]
      rfl

/-- The tiles of lines are the lines with breaks between them. -/
theorem linesTiles_chars (file : String) (number : Nat) (lines : List (List Char)) :
    (linesTiles file number lines).flatMap Tile.chars = ['\n'].intercalate lines := by
  fun_induction linesTiles file number lines with
  | case1 => rfl
  | case2 number last =>
      rw [lineTiles_chars, segments_flatten]
      simp
  | case3 number chars rest long ih =>
      obtain ⟨next, rest, rfl⟩ := List.exists_cons_of_ne_nil (by simpa using long)
      rw [List.flatMap_append, lineTiles_chars, segments_flatten, List.flatMap_cons, ih]
      simp [Tile.chars, List.intercalate]

/-! ## What is read off the tiles -/

theorem texts_dedents (count : Nat) (place : Span) : texts (dedents count place) = [] :=
  texts_eq_nil fun reading among => by
    rw [List.eq_of_mem_replicate among]
    exact Bool.false_ne_true

theorem texts_indentLine (line : Line) (width column : Nat) (levels : List Level) :
    texts (indentLine line width column levels).1 = [] := by
  unfold indentLine
  dsimp only
  split
  · rfl
  split
  · rw [texts_append, texts_dedents]
    rfl
  · exact texts_dedents _ _

/-- Blanks in front of a line yield nothing. -/
theorem readSegments_dropWhile (line : Line) (chars : List Char) :
    readSegments line 1 (segments chars) =
      readSegments line ((chars.takeWhile isBlank).length + 1)
        (segments (chars.dropWhile isBlank)) := by
  cases chars with
  | nil => rfl
  | cons c rest =>
      by_cases blank : isBlank c = true
      · rw [segments, Segment.next, if_pos blank, List.takeWhile_cons_of_pos blank,
          List.dropWhile_cons_of_pos blank, readSegments, Nat.add_comm]
        rfl
      · rw [List.takeWhile_cons_of_neg blank, List.dropWhile_cons_of_neg blank]
        rfl

theorem readSegments_vacant (line : Line) (column : Nat) {content : List Char}
    (vacant : isVacant content = true) : readSegments line column (segments content) = [] := by
  cases content with
  | nil =>
      rw [segments]
      rfl
  | cons c rest =>
      obtain rfl : c = '#' := by simpa [isVacant] using vacant
      rw [segments, Segment.next, if_neg (by decide), if_pos rfl, segments]
      rfl

/-- A line says the same characters as its segments. -/
theorem texts_readLine (line : Line) (terminated : Bool) (levels : List Level)
    (chars : List Char) :
    texts (readLine line terminated levels chars).1 =
      texts (readSegments line 1 (segments chars)) := by
  rw [readSegments_dropWhile]
  unfold readLine
  dsimp only
  split
  · next vacant => rw [readSegments_vacant line _ vacant]
  · rw [texts_append, texts_append, texts_indentLine, List.nil_append]
    refine List.append_right_eq_self.mpr (texts_eq_nil fun reading among => ?_)
    rw [List.mem_ite_nil_right, List.mem_singleton] at among
    rw [among.2]
    exact Bool.false_ne_true

/-- Lines say the same characters as their tiles. -/
theorem texts_readLines (file : String) (number : Nat) (levels : List Level)
    (lines : List (List Char)) :
    texts (readLines file number levels lines) =
      texts ((linesTiles file number lines).flatMap Tile.readings) := by
  fun_induction readLines file number levels lines with
  | case1 => rfl
  | case2 number levels last line readings remaining shape =>
      have same := texts_readLine line false levels last
      rw [shape] at same
      rw [texts_append, same, linesTiles, lineTiles_readings, readEnd, texts_append, texts_dedents]
      exact List.append_nil _
  | case3 number levels chars rest long readings remaining shape ih =>
      have same := texts_readLine ⟨file, number⟩ true levels chars
      rw [shape] at same
      rw [texts_append, same, ih, linesTiles, List.flatMap_append, texts_append,
        lineTiles_readings, List.flatMap_cons]
      · rfl
      · exact long

/-! ## How tiles lie -/

/-- What is known of a tile in front of the rest of the text. -/
inductive Tile.Cut (rest : List Char) (tile : Tile) : Prop where
  /-- Blanks or a break. -/
  | vacant (blank : ∀ c ∈ tile.chars, c = ' ' ∨ c = '\t' ∨ c = '\n')
      (silent : texts tile.readings = [])
  /-- A comment runs to the end of the line. -/
  | comment (mark : tile.chars.head? = some '#') (inLine : '\n' ∉ tile.chars)
      (ended : AtBreak rest) (silent : texts tile.readings = [])
  /-- Characters that spell the one token read, and with more of the text behind them no token. -/
  | lexeme {kind : TokenKind} {value : TokenValue} (spells : Spells tile.chars kind value)
      (longest : Unextendable tile.chars rest)
      (reads : texts tile.readings = [.token ⟨kind, value, tile.span⟩])
  /-- Characters of a line at which nothing begins, up to the end of the line or to one at which
  something does; just these are reported. -/
  | stray (inLine : '\n' ∉ tile.chars)
      (nothing : ∀ front back, tile.chars = front ++ back → back ≠ [] →
        beginsSegment (back ++ rest) = false)
      (ended : AtBreak rest ∨ beginsSegment rest = true)
      (reads : texts tile.readings = [.problem ⟨.invalidCharacters tile.chars, tile.span⟩])

namespace Tile.Cut

variable {tile : Tile} {rest : List Char}

theorem lexeme_of_mem (cut : tile.Cut rest) {token : Token} (among : token ∈ tile.tokens) :
    token.span = tile.span ∧ Spells tile.chars token.kind token.value ∧
      Unextendable tile.chars rest := by
  rw [Tile.tokens] at among
  cases cut with
  | vacant _ silent | comment _ _ _ silent => simp [silent] at among
  | lexeme spells longest reads =>
      rw [reads] at among
      obtain rfl := List.mem_singleton.mp among
      exact ⟨rfl, spells, longest⟩
  | stray _ _ _ reads => simp [reads, token?] at among

theorem stray_of_mem (cut : tile.Cut rest) {stray : Located LexicalError}
    (among : stray ∈ tile.strays) :
    stray = ⟨.invalidCharacters tile.chars, tile.span⟩ ∧ '\n' ∉ tile.chars ∧
      (∀ front back, tile.chars = front ++ back → back ≠ [] →
        beginsSegment (back ++ rest) = false) ∧
      (AtBreak rest ∨ beginsSegment rest = true) := by
  rw [Tile.strays] at among
  cases cut with
  | vacant _ silent | comment _ _ _ silent => simp [silent] at among
  | lexeme _ _ reads => simp [reads, problem?] at among
  | stray inLine nothing ended reads =>
      rw [reads] at among
      exact ⟨List.mem_singleton.mp among, inLine, nothing, ended⟩

/-- At most one thing is read off a tile. -/
theorem length_texts_le (cut : tile.Cut rest) : (texts tile.readings).length ≤ 1 := by
  cases cut with
  | vacant _ silent | comment _ _ _ silent => simp [silent]
  | lexeme _ _ reads | stray _ _ _ reads => simp [reads]

end Tile.Cut

/-- A segment of a line is cut as it should be in the text, too. -/
theorem Segment.Cut.tile {segment : Segment} {rest behind : List Char} (cut : segment.Cut rest)
    (inLine : '\n' ∉ segment.chars) (ended : AtBreak behind) (line : Line) (column : Nat) :
    (Tile.mk line column (some segment)).Cut (rest ++ behind) := by
  cases cut with
  | blank blanks => exact .vacant (fun c among => (blanks c among).imp_right .inl) rfl
  | comment last =>
      subst last
      exact .comment rfl inLine ended rfl
  | lexeme longest reads =>
      obtain ⟨kind, value, spells, read⟩ := reads line column
      exact .lexeme spells (longest.append ended) read
  | stray nothing last =>
      refine .stray inLine (fun front back shape nonempty => ?_) ?_ rfl
      · rw [← List.append_assoc, beginsSegment_append (by simp [nonempty]) ended]
        exact nothing front back shape nonempty
      · cases rest with
        | nil => exact .inl ended
        | cons c rest => exact .inr (by rwa [beginsSegment_append (by simp) ended])

/-- A tile in a column of a line lies behind the lines before it and as many characters. -/
theorem Tile.offset_span {text : List Char} {before behind : List (List Char)}
    (shape : Text.lines text = before ++ behind) (file : String) (count : Nat)
    (segment : Option Segment) :
    let tile : Tile := ⟨⟨file, before.length + 1⟩, count + 1, segment⟩
    tile.span.start.offset text = Text.extent before + count ∧
      tile.span.stop.offset text = Text.extent before + count + tile.chars.length := by
  intro tile
  have stop := Position.offset_of_lines shape (count + tile.chars.length)
  rw [Nat.add_right_comm, ← Nat.add_assoc] at stop
  exact ⟨Position.offset_of_lines shape count, stop⟩

/-- Tiles lie one behind the other in a text, from an offset on, before the rest of the text. -/
inductive Laid (text : List Char) : (offset : Nat) → List Tile → (rest : List Char) → Prop where
  | nil (offset : Nat) (rest : List Char) : Laid text offset [] rest
  | cons {tile : Tile} {tiles : List Tile} {offset : Nat} {rest : List Char}
      (start : tile.span.start.offset text = offset)
      (stop : tile.span.stop.offset text = offset + tile.chars.length)
      (nonempty : tile.chars ≠ []) (cut : tile.Cut (tiles.flatMap Tile.chars ++ rest))
      (tail : Laid text (offset + tile.chars.length) tiles rest) :
      Laid text offset (tile :: tiles) rest

namespace Laid

variable {text : List Char} {offset : Nat} {rest : List Char}

theorem append {first second : List Tile}
    (laid : Laid text offset first (second.flatMap Tile.chars ++ rest))
    (laid' : Laid text (offset + (first.flatMap Tile.chars).length) second rest) :
    Laid text offset (first ++ second) rest := by
  induction first generalizing offset with
  | nil => exact laid'
  | cons tile tiles ih =>
      cases laid with
      | cons start stop nonempty cut tail =>
          rw [List.cons_append]
          refine .cons start stop nonempty ?_ (ih tail ?_)
          · rwa [List.flatMap_append, List.append_assoc]
          · rwa [List.flatMap_cons, List.length_append, ← Nat.add_assoc] at laid'

/-- The segments of a line lie in the text where the line does. -/
theorem lineTiles {before behind : List (List Char)} (shape : Text.lines text = before ++ behind)
    (file : String) (count : Nat) (found : List Segment) (ended : AtBreak rest)
    (nonempty : ∀ segment ∈ found, segment.chars ≠ [])
    (inLine : '\n' ∉ found.flatMap Segment.chars)
    (cut : ∀ front segment back, found = front ++ segment :: back →
      segment.Cut (back.flatMap Segment.chars)) :
    Laid text (Text.extent before + count)
      (ChocoLang.lineTiles ⟨file, before.length + 1⟩ (count + 1) found) rest := by
  induction found generalizing count with
  | nil => exact .nil _ _
  | cons segment found ih =>
      rw [List.forall_mem_cons] at nonempty
      rw [List.flatMap_cons, List.mem_append, not_or] at inLine
      obtain ⟨start, stop⟩ := Tile.offset_span shape file count (some segment)
      have tail := ih (count + segment.chars.length) nonempty.2 inLine.2
        fun front other back same => cut (segment :: front) other back (by rw [same]; rfl)
      rw [← Nat.add_assoc, Nat.add_right_comm count] at tail
      rw [ChocoLang.lineTiles]
      refine .cons start stop nonempty.1 ?_ tail
      rw [lineTiles_chars]
      exact (cut [] segment found rfl).tile inLine.1 ended _ _

/-- The lines of a text are laid out in it. -/
theorem linesTiles {before lines : List (List Char)} (shape : Text.lines text = before ++ lines)
    (file : String) :
    Laid text (Text.extent before) (ChocoLang.linesTiles file (before.length + 1) lines) [] := by
  induction lines generalizing before with
  | nil => exact .nil _ _
  | cons chars lines ih =>
      have inLine : '\n' ∉ chars := Text.not_mem_of_mem_lines (by rw [shape]; simp)
      have line {rest : List Char} (ended : AtBreak rest) :
          Laid text (Text.extent before)
            (ChocoLang.lineTiles ⟨file, before.length + 1⟩ 1 (segments chars)) rest := by
        refine lineTiles shape file 0 (segments chars) ended
          (fun segment among => chars_ne_nil_of_mem_segments among) ?_
          fun front segment back same => cut_of_segments inLine same
        rwa [segments_flatten]
      cases lines with
      | nil => exact line (by simp [AtBreak])
      | cons next lines =>
          have shape' : Text.lines text = (before ++ [chars]) ++ next :: lines := by
            rw [shape, List.append_assoc]
            rfl
          have tail := ih shape'
          rw [Text.extent_concat, List.length_append] at tail
          obtain ⟨start, stop⟩ := Tile.offset_span shape file chars.length none
          rw [ChocoLang.linesTiles]
          · refine append (line ?_) ?_
            · rintro c ⟨⟩
              rfl
            · rw [lineTiles_chars, segments_flatten]
              refine .cons start stop (List.cons_ne_nil _ _) (.vacant ?_ rfl) tail
              simp [Tile.chars]
          · exact List.cons_ne_nil _ _

/-- The tiles of a program cover its text from the beginning to the end. -/
theorem programTiles (file source : String) :
    Laid (Text.normalizeBreaks source.toList) 0 (ChocoLang.programTiles file source) [] := by
  have shape : Text.lines (Text.normalizeBreaks source.toList) = [] ++ programLines source := rfl
  exact linesTiles shape file

variable {tiles : List Tile}

/-- No tile begins before the first one. -/
theorem offset_le (laid : Laid text offset tiles rest) :
    ∀ tile ∈ tiles, offset ≤ tile.span.start.offset text := by
  induction laid with
  | nil => exact List.forall_mem_nil _
  | cons start _ _ _ _ ih =>
      refine List.forall_mem_cons.mpr ⟨start.ge, fun tile among => ?_⟩
      exact Nat.le_trans (Nat.le_add_right _ _) (ih tile among)

/-- No tile begins before those in front of it end. -/
theorem pairwise (laid : Laid text offset tiles rest) :
    tiles.Pairwise fun first second =>
      first.span.stop.offset text ≤ second.span.start.offset text := by
  induction laid with
  | nil => exact .nil
  | cons _ stop _ _ tail ih =>
      exact .cons (fun tile among => stop.trans_le (tail.offset_le tile among)) ih

/-- Every character of the text is on a tile. -/
theorem exists_holds (laid : Laid text offset tiles rest) {index : Nat} (behind : offset ≤ index)
    (before : index < offset + (tiles.flatMap Tile.chars).length) :
    ∃ tile ∈ tiles, tile.span.Holds text index := by
  induction laid with
  | nil => simp at before; omega
  | @cons tile tiles offset rest start stop _ _ _ ih =>
      rw [List.flatMap_cons, List.length_append] at before
      by_cases here : index < offset + tile.chars.length
      · exact ⟨tile, List.mem_cons_self, start.trans_le behind, here.trans_eq stop.symm⟩
      · obtain ⟨other, among, holds⟩ := ih (by omega) (by omega)
        exact ⟨other, List.mem_cons_of_mem tile among, holds⟩

end Laid

/-- A tile lies in a text as its span says and is cut as it should be. -/
structure Tile.Stands (text : List Char) (tile : Tile) (rest : List Char) : Prop where
  /-- The text from the beginning of the span on. -/
  drop : text.drop (tile.span.start.offset text) = tile.chars ++ rest
  /-- The end of the span. -/
  stop : tile.span.stop.offset text = tile.span.start.offset text + tile.chars.length
  /-- No tile is empty. -/
  nonempty : tile.chars ≠ []
  /-- The tile before the rest of the text. -/
  cut : tile.Cut rest

/-- Every tile that is laid stands in the text. -/
theorem Laid.stands {text : List Char} {offset : Nat} {tiles : List Tile} {rest : List Char}
    (laid : Laid text offset tiles rest)
    (whole : text.drop offset = tiles.flatMap Tile.chars ++ rest) :
    ∀ tile ∈ tiles, ∃ behind, tile.Stands text behind := by
  induction laid with
  | nil => exact List.forall_mem_nil _
  | @cons tile tiles offset rest start stop nonempty cut tail ih =>
      rw [List.flatMap_cons, List.append_assoc] at whole
      refine List.forall_mem_cons.mpr ⟨⟨_, ?_, ?_, nonempty, cut⟩, ih ?_⟩
      · rw [start, whole]
      · rw [start, stop]
      · rw [← List.drop_drop, whole, List.drop_left]

/-- Two tiles with reports of invalid characters do not touch. -/
theorem Laid.apart {text : List Char} {offset : Nat} {tiles : List Tile} {rest : List Char}
    (laid : Laid text offset tiles rest) :
    tiles.Pairwise fun first second =>
      first.strays ≠ [] → second.strays ≠ [] →
        first.span.stop.offset text < second.span.start.offset text := by
  induction laid with
  | nil => exact .nil
  | @cons tile tiles offset rest _ stop _ cut tail ih =>
      refine .cons (fun other among some some' => ?_) ih
      obtain ⟨stray, report⟩ := List.exists_mem_of_ne_nil _ some
      obtain ⟨stray', report'⟩ := List.exists_mem_of_ne_nil _ some'
      cases tail with
      | nil => cases among
      | @cons next tiles _ _ start _ nonempty cut' tail =>
          rcases List.mem_cons.mp among with rfl | further
          · obtain ⟨-, inLine, nothing, -⟩ := cut'.stray_of_mem report'
            obtain ⟨-, -, -, ended⟩ := cut.stray_of_mem report
            rw [List.flatMap_cons, List.append_assoc, nothing [] other.chars rfl nonempty] at ended
            obtain ⟨c, chars, shape⟩ := List.exists_cons_of_ne_nil nonempty
            rcases ended with atBreak | begun
            · obtain rfl : c = '\n' := atBreak c (by rw [shape]; rfl)
              simp [shape] at inLine
            · cases begun
          · have width := List.length_pos_iff.mpr nonempty
            have behind := tail.offset_le other further
            omega

end ChocoLang
