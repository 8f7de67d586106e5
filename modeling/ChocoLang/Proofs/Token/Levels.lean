import ChocoLang.Proofs.Token.Lines

/-!
# Open levels of indentation

While a program is read, levels of indentation are opened and closed one at a time.  The outermost
level, of width zero, is counted as one of them here and always stays open; each other level is
wider than the one around it; and the open blocks are those whose beginning has been told and whose
end has not.
-/

namespace ChocoLang

/-- The level of the lines that stand in no block. -/
def Level.outermost : Level := ⟨0, true⟩

/-- A moment in the reading of a program. -/
structure Moment where
  /-- What the program has yielded so far. -/
  yielded : List Reading
  /-- The open levels, the innermost one first and the outermost one last. -/
  levels : List Level

/-- What happens at once while a program is read. -/
inductive Move where
  /-- Something is yielded that concerns no level. -/
  | yields (reading : Reading)
  /-- A level is opened, of which a reading tells. -/
  | opens (level : Level) (reading : Reading)
  /-- The innermost level is closed; if it is a block, its end is told at a place. -/
  | closes (place : Span)

namespace Moment

/-- The moment after a move. -/
def next (moment : Moment) : Move → Moment
  | .yields reading => { moment with yielded := moment.yielded ++ [reading] }
  | .opens level reading => ⟨moment.yielded ++ [reading], level :: moment.levels⟩
  | .closes place =>
    match moment.levels with
    | [] => moment
    | level :: outer => ⟨moment.yielded ++ dedents (if level.isBlock then 1 else 0) place, outer⟩

/-- The moment after some moves. -/
def run (moment : Moment) (moves : List Move) : Moment := moves.foldl next moment

/-- The moment before anything is read. -/
def start : Moment := ⟨[], [.outermost]⟩

end Moment

/-- How many more blocks begin among some readings than end. -/
def Reading.openings (readings : List Reading) : Int :=
  let kinds := (readings.filterMap token?).map Token.kind
  kinds.count .indent - kinds.count .dedent

/-! ## The moves of a program -/

/-- The moves by which the open levels are fitted to the indentation of a line. -/
def indentMoves (line : Line) (width column : Nat) (levels : List Level) : List Move :=
  if innermostWidth levels < width then
    [.opens ⟨width, true⟩ (.token ⟨.indent, .absent, line.span 1 column⟩)]
  else
    let wider := levels.takeWhile fun level => width < level.width
    List.replicate wider.length (.closes (line.point column)) ++
      if innermostWidth (closeLevels width levels) < width then
        [.opens ⟨width, false⟩ (.problem ⟨.inconsistentDedent, line.span 1 column⟩)]
      else []

/-- The moves of a line. -/
def lineMoves (line : Line) (terminated : Bool) (levels : List Level) (chars : List Char) :
    List Move :=
  let blanks := chars.takeWhile isBlank
  let content := chars.dropWhile isBlank
  if isVacant content then []
  else
    let column := blanks.length + 1
    let readings := readSegments line column (segments content)
    let ending :=
      if readings.any (·.token?.isSome) then [.token (lineEnd line chars.length terminated)]
      else []
    indentMoves line (blankWidth blanks) column levels ++ (readings ++ ending).map .yields

/-- The moves after the last line: all levels but the outermost one are closed. -/
def endMoves (line : Line) (length : Nat) (levels : List Level) : List Move :=
  let place := line.point (length + 1)
  List.replicate (levels.length - 1) (.closes place) ++
    [.yields (.token ⟨.endOfFile, .absent, place⟩)]

/-- The moves of successive lines, the first of them with a number. -/
def linesMoves (file : String) (number : Nat) (levels : List Level) :
    List (List Char) → List Move
  | [] => []
  | [last] =>
    let line : Line := ⟨file, number⟩
    let moves := lineMoves line false levels last
    moves ++ endMoves line last.length (Moment.run ⟨[], levels⟩ moves).levels
  | chars :: rest =>
    let moves := lineMoves ⟨file, number⟩ true levels chars
    moves ++ linesMoves file (number + 1) (Moment.run ⟨[], levels⟩ moves).levels rest

/-- The moves of a program. -/
def programMoves (file source : String) : List Move :=
  linesMoves file 1 [.outermost] (programLines source)

/-! ## What a move preserves -/

theorem blockCount_cons (level : Level) (outer : List Level) :
    blockCount (level :: outer) = blockCount outer + if level.isBlock then 1 else 0 :=
  List.countP_cons

/-- What holds at every moment. -/
structure Moment.Sound (moment : Moment) : Prop where
  /-- The outermost level is open, around all others. -/
  outermost : moment.levels.getLast? = some .outermost
  /-- Each level is wider than those around it. -/
  widening : moment.levels.Pairwise fun inner outer => outer.width < inner.width
  /-- The open blocks but the outermost level are those that have begun and not ended. -/
  blocks : (blockCount moment.levels : Int) - 1 = Reading.openings moment.yielded

/-- A move that can happen at a moment. -/
inductive Moment.Allows (moment : Moment) : Move → Prop where
  | yields {reading : Reading} (level : ∀ token ∈ reading.token?, token.kind.isLevel = true) :
      Allows moment (.yields reading)
  | indents {width : Nat} {token : Token} (wider : innermostWidth moment.levels < width)
      (kind : token.kind = .indent) : Allows moment (.opens ⟨width, true⟩ (.token token))
  | renames {width : Nat} {problem : Located LexicalError}
      (wider : innermostWidth moment.levels < width) :
      Allows moment (.opens ⟨width, false⟩ (.problem problem))
  | closes {level : Level} {outer : List Level} {place : Span}
      (inner : moment.levels = level :: outer) (around : outer ≠ []) :
      Allows moment (.closes place)

/-- Some moves lead from one moment to another, and each of them can happen where it does. -/
inductive Leads : Moment → List Move → Moment → Prop where
  | nil (moment : Moment) : Leads moment [] moment
  | cons {moment last : Moment} {move : Move} {moves : List Move} (allowed : moment.Allows move)
      (tail : Leads (moment.next move) moves last) : Leads moment (move :: moves) last

namespace Leads

variable {first middle last : Moment} {moves further : List Move}

theorem append (leads : Leads first moves middle) (leads' : Leads middle further last) :
    Leads first (moves ++ further) last := by
  induction leads with
  | nil => exact leads'
  | cons allowed _ ih => exact .cons allowed (ih leads')

theorem run_eq (leads : Leads first moves last) : first.run moves = last := by
  induction leads with
  | nil => rfl
  | cons _ _ ih => exact ih

end Leads

namespace Reading

@[simp]
theorem openings_append (first second : List Reading) :
    openings (first ++ second) = openings first + openings second := by
  simp only [openings, List.filterMap_append, List.map_append, List.count_append]
  omega

@[simp]
theorem openings_problem (problem : Located LexicalError) : openings [.problem problem] = 0 := rfl

theorem openings_indent {token : Token} (kind : token.kind = .indent) :
    openings [.token token] = 1 := by
  simp [openings, token?, kind]

theorem openings_of_isLevel {reading : Reading}
    (level : ∀ token ∈ reading.token?, token.kind.isLevel = true) : openings [reading] = 0 := by
  cases reading with
  | problem => rfl
  | token token =>
      have same := level token rfl
      have noIndent : token.kind ≠ .indent := fun kind => by simp [kind, TokenKind.isLevel] at same
      have noDedent : token.kind ≠ .dedent := fun kind => by simp [kind, TokenKind.isLevel] at same
      simp [openings, token?, noIndent, noDedent]

@[simp]
theorem openings_dedents (count : Nat) (place : Span) :
    openings (dedents count place) = -count := by
  simp [openings, dedents, List.filterMap_replicate, token?, dedentToken, List.count_replicate]

end Reading

namespace Moment

variable {moment : Moment}

/-- A level that is wider than the innermost one is wider than all. -/
theorem Sound.widening_cons (sound : moment.Sound) {level : Level}
    (wider : innermostWidth moment.levels < level.width) :
    (level :: moment.levels).Pairwise fun inner outer => outer.width < inner.width := by
  refine .cons (fun other among => ?_) sound.widening
  have widening := sound.widening
  obtain ⟨first, rest, shape⟩ := List.exists_cons_of_ne_nil (List.ne_nil_of_mem among)
  rw [shape] at wider among widening
  rcases List.mem_cons.mp among with rfl | further
  · exact wider
  · exact Nat.lt_trans (List.rel_of_pairwise_cons widening further) wider

theorem Sound.getLast?_cons (sound : moment.Sound) (level : Level) :
    (level :: moment.levels).getLast? = some .outermost := by
  rw [List.getLast?_cons, sound.outermost]
  rfl

/-- Every move keeps what holds of a moment. -/
theorem Sound.next {move : Move} (sound : moment.Sound) (allowed : moment.Allows move) :
    (moment.next move).Sound := by
  have blocks := sound.blocks
  cases allowed with
  | yields level =>
      refine ⟨sound.outermost, sound.widening, ?_⟩
      rw [Moment.next, Reading.openings_append, Reading.openings_of_isLevel level, Int.add_zero]
      exact blocks
  | indents wider kind =>
      refine ⟨sound.getLast?_cons _, sound.widening_cons wider, ?_⟩
      rw [Moment.next, Reading.openings_append, Reading.openings_indent kind, blockCount_cons]
      simp only [if_true]
      omega
  | renames wider =>
      refine ⟨sound.getLast?_cons _, sound.widening_cons wider, ?_⟩
      rw [Moment.next, Reading.openings_append, Reading.openings_problem, blockCount_cons]
      simpa using blocks
  | @closes level outer place inner around =>
      have outermost := sound.outermost
      have widening := sound.widening
      obtain ⟨next, further, rfl⟩ := List.exists_cons_of_ne_nil around
      rw [inner] at outermost widening blocks
      rw [blockCount_cons] at blocks
      simp only [Moment.next, inner]
      refine ⟨by rwa [List.getLast?_cons_cons] at outermost, widening.of_cons, ?_⟩
      rw [Reading.openings_append, Reading.openings_dedents]
      simp only
      omega

/-- Whatever holds before some moves holds at every moment on the way. -/
theorem Sound.run {last : Moment} {moves : List Move} (sound : moment.Sound)
    (leads : Leads moment moves last) {front : List Move} (within : front <+: moves) :
    (moment.run front).Sound := by
  induction leads generalizing front with
  | nil =>
      rw [List.prefix_nil.mp within]
      exact sound
  | @cons moment last move moves allowed _ ih =>
      cases front with
      | nil => exact sound
      | cons move' front =>
          obtain ⟨rfl, inner⟩ := List.cons_prefix_cons.mp within
          exact ih (sound.next allowed) inner

theorem sound_start : start.Sound :=
  ⟨rfl, List.pairwise_singleton _ _, rfl⟩

end Moment

/-! ## What a program yields by its moves -/

theorem innermostWidth_concat (levels : List Level) :
    innermostWidth (levels ++ [.outermost]) = innermostWidth levels := by
  cases levels <;> rfl

/-- No line is so narrow that the outermost level is closed. -/
theorem closeLevels_concat (width : Nat) (levels : List Level) :
    closeLevels width (levels ++ [.outermost]) = closeLevels width levels ++ [.outermost] := by
  rw [closeLevels, List.dropWhile_append]
  split
  · next none =>
      rw [closeLevels, List.isEmpty_iff.mp none]
      rfl
  · rfl

theorem takeWhile_concat (width : Nat) (levels : List Level) :
    ((levels ++ [Level.outermost]).takeWhile fun level => width < level.width) =
      levels.takeWhile fun level => width < level.width := by
  have whole := List.takeWhile_append_dropWhile (p := fun level : Level => width < level.width)
    (l := levels ++ [.outermost])
  rw [← closeLevels, closeLevels_concat] at whole
  refine List.append_cancel_right (whole.trans ?_)
  rw [← List.append_assoc, closeLevels, List.takeWhile_append_dropWhile]

theorem blockCount_append (first second : List Level) :
    blockCount (first ++ second) = blockCount first + blockCount second :=
  List.countP_append

/-- The blocks closed are those among the levels closed. -/
theorem blockCount_takeWhile (width : Nat) (levels : List Level) :
    blockCount (levels.takeWhile fun level => width < level.width) =
      blockCount levels - blockCount (closeLevels width levels) := by
  have both := blockCount_append (levels.takeWhile fun level => width < level.width)
    (closeLevels width levels)
  rw [closeLevels, List.takeWhile_append_dropWhile, ← closeLevels] at both
  omega

theorem isLevel_of_inline {readings : List Reading} (inside : Inline (Reading.contents readings)) :
    ∀ reading ∈ readings, ∀ token ∈ reading.token?, token.kind.isLevel = true := by
  intro reading among token found
  refine TokenKind.isLevel_of_isLayout (inside token.content (List.mem_map_of_mem ?_))
  exact List.mem_filterMap.mpr ⟨reading, among, found⟩

namespace Leads

variable (yielded : List Reading) (levels : List Level)

/-- Levels are closed one at a time. -/
theorem closes (place : Span) (inner : List Level) {outer : List Level} (around : outer ≠ []) :
    Leads ⟨yielded, inner ++ outer⟩ (List.replicate inner.length (.closes place))
      ⟨yielded ++ dedents (blockCount inner) place, outer⟩ := by
  induction inner generalizing yielded with
  | nil => simpa [dedents, blockCount] using nil ⟨yielded, outer⟩
  | cons level inner ih =>
      have told : dedents (blockCount (level :: inner)) place =
          dedents (if level.isBlock then 1 else 0) place ++ dedents (blockCount inner) place := by
        rw [blockCount_cons, Nat.add_comm, dedents, ← List.replicate_append_replicate]
        rfl
      rw [told, ← List.append_assoc]
      exact .cons (.closes rfl (List.append_ne_nil_of_right_ne_nil _ around)) (ih _)

/-- Readings that concern no level are yielded one at a time. -/
theorem yields {readings : List Reading}
    (level : ∀ reading ∈ readings, ∀ token ∈ reading.token?, token.kind.isLevel = true) :
    Leads ⟨yielded, levels⟩ (readings.map .yields) ⟨yielded ++ readings, levels⟩ := by
  induction readings generalizing yielded with
  | nil => simpa using nil ⟨yielded, levels⟩
  | cons reading rest ih =>
      rw [List.forall_mem_cons] at level
      rw [List.append_cons]
      exact .cons (.yields level.1) (ih _ level.2)

theorem indentLine (line : Line) (width column : Nat) :
    Leads ⟨yielded, levels ++ [.outermost]⟩
      (indentMoves line width column (levels ++ [.outermost]))
      ⟨yielded ++ (ChocoLang.indentLine line width column levels).1,
        (ChocoLang.indentLine line width column levels).2 ++ [.outermost]⟩ := by
  simp only [indentMoves, ChocoLang.indentLine, innermostWidth_concat, closeLevels_concat,
    takeWhile_concat]
  split
  · next wider =>
      refine .cons (.indents ?_ rfl) (nil _)
      rwa [innermostWidth_concat]
  · have around : closeLevels width levels ++ [.outermost] ≠ [] := by simp
    have closed := closes yielded (line.point column)
      (levels.takeWhile fun level => width < level.width) around
    rw [← List.append_assoc, closeLevels, List.takeWhile_append_dropWhile, ← closeLevels,
      blockCount_takeWhile] at closed
    split
    · next wider =>
        rw [← List.append_assoc]
        refine closed.append (.cons (.renames ?_) (nil _))
        rwa [innermostWidth_concat]
    · simpa using closed

theorem readLine (line : Line) (terminated : Bool) (chars : List Char) :
    Leads ⟨yielded, levels ++ [.outermost]⟩
      (lineMoves line terminated (levels ++ [.outermost]) chars)
      ⟨yielded ++ (ChocoLang.readLine line terminated levels chars).1,
        (ChocoLang.readLine line terminated levels chars).2 ++ [.outermost]⟩ := by
  simp only [lineMoves, ChocoLang.readLine]
  split
  · simpa using nil ⟨yielded, levels ++ [.outermost]⟩
  · rw [List.append_assoc, ← List.append_assoc yielded]
    refine (indentLine yielded levels line _ _).append (yields _ _ ?_)
    intro reading among
    rcases List.mem_append.mp among with segment | ending
    · exact isLevel_of_inline (readSegments_inline line _ _) reading segment
    · rw [List.mem_ite_nil_right, List.mem_singleton] at ending
      obtain ⟨-, rfl⟩ := ending
      rintro token ⟨⟩
      rfl

theorem readEnd (line : Line) (length : Nat) :
    Leads ⟨yielded, levels ++ [.outermost]⟩ (endMoves line length (levels ++ [.outermost]))
      ⟨yielded ++ ChocoLang.readEnd line length levels, [.outermost]⟩ := by
  rw [ChocoLang.readEnd, ← List.append_assoc, endMoves]
  simp only [List.length_append, List.length_singleton, Nat.add_sub_cancel]
  refine (closes yielded _ levels (List.cons_ne_nil _ _)).append (.cons (.yields ?_) (nil _))
  rintro token ⟨⟩
  rfl

theorem readLines (file : String) (number : Nat) (lines : List (List Char))
    (nonempty : lines ≠ []) :
    Leads ⟨yielded, levels ++ [.outermost]⟩
      (linesMoves file number (levels ++ [.outermost]) lines)
      ⟨yielded ++ ChocoLang.readLines file number levels lines, [.outermost]⟩ := by
  fun_induction ChocoLang.readLines file number levels lines generalizing yielded with
  | case1 => contradiction
  | case2 number levels last line readings remaining =>
      have shape : ChocoLang.readLine line false levels last = (readings, remaining) := ‹_›
      have read (yielded : List Reading) := readLine yielded levels line false last
      simp only [shape] at read
      rw [linesMoves, (read []).run_eq, ← List.append_assoc]
      exact (read yielded).append (readEnd _ remaining line last.length)
  | case3 number levels chars rest long readings remaining shape ih =>
      have read (yielded : List Reading) := readLine yielded levels ⟨file, number⟩ true chars
      simp only [shape] at read
      rw [linesMoves, (read []).run_eq, ← List.append_assoc]
      · exact (read yielded).append (ih _ (by simpa using long))
      · exact long

/-- The moves of a program lead to what it yields, and back to the outermost level alone. -/
theorem readProgram (file source : String) :
    Leads .start (programMoves file source) ⟨ChocoLang.readProgram file source, [.outermost]⟩ :=
  readLines [] [] file 1 (programLines source) (Text.lines_ne_nil _)

end Leads
end ChocoLang
