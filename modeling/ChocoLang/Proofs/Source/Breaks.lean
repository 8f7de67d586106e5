import ChocoLang.Text.Lines

/-!
# Texts cut at breaks

A text that is put together from lines is cut into just these lines again.  Turning the breaks of a
text into line feeds keeps what stands between the breaks, and a text without carriage returns as it
is.
-/

namespace ChocoLang
namespace Text

/-! ## Putting lines together -/

/-- What has no break in it is a single line. -/
theorem lines_eq_singleton {line : List Char} (inLine : '\n' ∉ line) : lines line = [line] := by
  induction line with
  | nil => rfl
  | cons c rest ih =>
      rw [List.mem_cons, not_or] at inLine
      rw [lines, if_neg (Ne.symm inLine.1), ih inLine.2]
      rfl

/-- A line with a break behind it is the first one of a text. -/
theorem lines_append_break {line : List Char} (inLine : '\n' ∉ line) (text : List Char) :
    lines (line ++ '\n' :: text) = line :: lines text := by
  induction line with
  | nil => rfl
  | cons c rest ih =>
      rw [List.mem_cons, not_or] at inLine
      rw [List.cons_append, lines, if_neg (Ne.symm inLine.1), ih inLine.2]
      rfl

/-- Lines with a break behind each are the first ones of a text. -/
theorem lines_flatMap_break_append {rows : List (List Char)} (inLine : ∀ row ∈ rows, '\n' ∉ row)
    (text : List Char) : lines (rows.flatMap (· ++ ['\n']) ++ text) = rows ++ lines text := by
  induction rows with
  | nil => rfl
  | cons row rows ih =>
      rw [List.forall_mem_cons] at inLine
      rw [List.flatMap_cons, List.append_assoc, List.append_assoc, List.singleton_append,
        lines_append_break inLine.1, ih inLine.2]
      rfl

/-- Lines with a break behind each make up a text of these lines and an empty last one. -/
theorem lines_flatMap_break {rows : List (List Char)} (inLine : ∀ row ∈ rows, '\n' ∉ row) :
    lines (rows.flatMap (· ++ ['\n'])) = rows ++ [[]] := by
  simpa [lines] using lines_flatMap_break_append inLine []

/-- A break behind a text begins a line without text. -/
theorem lines_concat_break (text : List Char) : lines (text ++ ['\n']) = lines text ++ [[]] := by
  induction text with
  | nil => rfl
  | cons c rest ih =>
      rw [List.cons_append, lines, lines, ih]
      split
      · rfl
      · obtain ⟨line, more, shape⟩ := List.exists_cons_of_ne_nil (lines_ne_nil rest)
        rw [shape]
        rfl

/-- The text is empty or ends with a line feed, so that what follows begins a line. -/
def EndsLine (text : List Char) : Prop := ∀ c ∈ text.getLast?, c = '\n'

theorem endsLine_cons {c : Char} {rest : List Char} :
    EndsLine (c :: rest) ↔ EndsLine rest ∧ (rest = [] → c = '\n') := by
  cases rest <;> simp [EndsLine]

/-- What is empty or ends with a line feed is made up of lines, a break behind each. -/
theorem EndsLine.exists_rows {text : List Char} (ends : EndsLine text) :
    ∃ rows : List (List Char), (∀ row ∈ rows, '\n' ∉ row) ∧ rows.length = text.count '\n' ∧
      text = rows.flatMap (· ++ ['\n']) := by
  induction text with
  | nil => exact ⟨[], by simp, rfl, rfl⟩
  | cons c rest ih =>
      obtain ⟨later, last⟩ := endsLine_cons.mp ends
      obtain ⟨rows, inLine, length, rfl⟩ := ih later
      by_cases isBreak : c = '\n'
      · subst isBreak
        refine ⟨[] :: rows, List.forall_mem_cons.mpr ⟨List.not_mem_nil, inLine⟩, ?_, rfl⟩
        rw [List.length_cons, length, List.count_cons_self]
      · cases rows with
        | nil => exact absurd (last rfl) isBreak
        | cons row rows =>
            rw [List.forall_mem_cons] at inLine
            refine ⟨(c :: row) :: rows, List.forall_mem_cons.mpr ⟨?_, inLine.2⟩, ?_, rfl⟩
            · exact List.not_mem_cons_of_ne_of_not_mem (Ne.symm isBreak) inLine.1
            · rw [List.count_cons_of_ne isBreak, ← length]
              rfl

/-! ## Breaks of other kinds -/

theorem normalizeBreaks_eq_self {text : List Char} (noReturn : '\r' ∉ text) :
    normalizeBreaks text = text := by
  fun_induction normalizeBreaks text with
  | case1 => rfl
  | case2 rest ih | case3 rest _ ih => exact absurd List.mem_cons_self noReturn
  | case4 c rest _ _ ih => rw [ih fun later => noReturn (List.mem_cons_of_mem c later)]

/-- The text with another break for each line feed. -/
def withBreaks (ending text : List Char) : List Char :=
  text.flatMap fun c => if c = '\n' then ending else [c]

theorem withBreaks_break (ending text : List Char) :
    withBreaks ending ('\n' :: text) = ending ++ withBreaks ending text := rfl

theorem withBreaks_cons {c : Char} (noBreak : c ≠ '\n') (ending text : List Char) :
    withBreaks ending (c :: text) = c :: withBreaks ending text := by
  simp [withBreaks, noBreak]

/-- In a text without carriage returns the pair of both may stand for each line feed. -/
theorem normalizeBreaks_withBreaks_pair {text : List Char} (noReturn : '\r' ∉ text) :
    normalizeBreaks (withBreaks ['\r', '\n'] text) = text := by
  induction text with
  | nil => rfl
  | cons c rest ih =>
      rw [List.mem_cons, not_or] at noReturn
      by_cases isBreak : c = '\n'
      · subst isBreak
        exact congrArg ('\n' :: ·) (ih noReturn.2)
      · rw [withBreaks_cons isBreak, normalizeBreaks.eq_4 c _ (fun _ same _ => noReturn.1 same.symm)
          (fun same => noReturn.1 same.symm), ih noReturn.2]

/-- In a text without carriage returns these may stand for the line feeds. -/
theorem normalizeBreaks_withBreaks_return {text : List Char} (noReturn : '\r' ∉ text) :
    normalizeBreaks (withBreaks ['\r'] text) = text := by
  have noBreak (rest tail : List Char) (same : withBreaks ['\r'] rest = '\n' :: tail) : False := by
    have among : '\n' ∈ withBreaks ['\r'] rest := same ▸ List.mem_cons_self
    obtain ⟨c, -, inside⟩ := List.mem_flatMap.mp among
    split at inside
    · cases List.mem_singleton.mp inside
    · next other => exact other (List.mem_singleton.mp inside).symm
  induction text with
  | nil => rfl
  | cons c rest ih =>
      rw [List.mem_cons, not_or] at noReturn
      by_cases isBreak : c = '\n'
      · subst isBreak
        rw [withBreaks_break, List.singleton_append, normalizeBreaks.eq_3 _ (noBreak rest),
          ih noReturn.2]
      · rw [withBreaks_cons isBreak, normalizeBreaks.eq_4 c _ (fun _ same _ => noReturn.1 same.symm)
          (fun same => noReturn.1 same.symm), ih noReturn.2]

/-- Behind a line feed the breaks of a text are turned into line feeds as in a text of their own. -/
theorem normalizeBreaks_append {front : List Char} (ends : EndsLine front) (back : List Char) :
    normalizeBreaks (front ++ back) = normalizeBreaks front ++ normalizeBreaks back := by
  fun_induction normalizeBreaks front with
  | case1 => rfl
  | case2 rest ih =>
      exact congrArg ('\n' :: ·) (ih (endsLine_cons.mp (endsLine_cons.mp ends).1).1)
  | case3 rest single ih =>
      obtain ⟨later, last⟩ := endsLine_cons.mp ends
      have single' (tail : List Char) (same : rest ++ back = '\n' :: tail) : False := by
        cases rest with
        | nil => exact absurd (last rfl) (by decide)
        | cons d rest => exact single rest (congrArg (· :: rest) (List.cons.inj same).1)
      rw [List.cons_append, normalizeBreaks.eq_3 _ single', ih later]
      rfl
  | case4 c rest noPair noReturn ih =>
      rw [List.cons_append, normalizeBreaks.eq_4 c _ (fun _ same _ => noReturn same) noReturn,
        ih (endsLine_cons.mp ends).1]
      rfl

theorem normalizeBreaks_eq_nil_iff {text : List Char} : normalizeBreaks text = [] ↔ text = [] := by
  fun_cases normalizeBreaks text <;> simp

/-- A text stays empty or ended by a line feed when its breaks are turned into line feeds. -/
theorem EndsLine.normalizeBreaks {text : List Char} (ends : EndsLine text) :
    EndsLine (Text.normalizeBreaks text) := by
  fun_induction Text.normalizeBreaks text with
  | case1 => exact ends
  | case2 rest ih =>
      exact endsLine_cons.mpr ⟨ih (endsLine_cons.mp (endsLine_cons.mp ends).1).1, fun _ => rfl⟩
  | case3 rest _ ih => exact endsLine_cons.mpr ⟨ih (endsLine_cons.mp ends).1, fun _ => rfl⟩
  | case4 c rest _ _ ih =>
      obtain ⟨later, last⟩ := endsLine_cons.mp ends
      exact endsLine_cons.mpr ⟨ih later, fun none => last (normalizeBreaks_eq_nil_iff.mp none)⟩

/-- What begins a text with its breaks turned into line feeds, up to the first break, begins it. -/
theorem prefix_of_normalizeBreaks {text run : List Char} (inLine : '\n' ∉ run)
    (within : run <+: normalizeBreaks text) : run <+: text := by
  fun_induction normalizeBreaks text generalizing run with
  | case1 => exact within
  | case2 rest ih | case3 rest _ ih =>
      rcases List.prefix_cons_iff.mp within with rfl | ⟨later, rfl, -⟩
      · exact List.nil_prefix
      · exact absurd List.mem_cons_self inLine
  | case4 c rest _ _ ih =>
      rcases List.prefix_cons_iff.mp within with rfl | ⟨later, rfl, begins⟩
      · exact List.nil_prefix
      · rw [List.mem_cons, not_or] at inLine
        exact (List.prefix_cons_inj c).mpr (ih inLine.2 begins)

/-- What is left of a text with its breaks turned into line feeds is left of the text so turned. -/
theorem exists_suffix_of_normalizeBreaks {text back : List Char}
    (within : back <:+ normalizeBreaks text) :
    ∃ rest, rest <:+ text ∧ normalizeBreaks rest = back := by
  fun_induction normalizeBreaks text with
  | case1 => exact ⟨[], List.suffix_rfl, (List.suffix_nil.mp within).symm⟩
  | case2 rest ih =>
      rcases List.suffix_cons_iff.mp within with rfl | later
      · exact ⟨_, List.suffix_rfl, normalizeBreaks.eq_2 rest⟩
      · obtain ⟨tail, left, same⟩ := ih later
        exact ⟨tail, (left.trans (List.suffix_cons _ _)).trans (List.suffix_cons _ _), same⟩
  | case3 rest single ih =>
      rcases List.suffix_cons_iff.mp within with rfl | later
      · exact ⟨_, List.suffix_rfl, normalizeBreaks.eq_3 rest single⟩
      · obtain ⟨tail, left, same⟩ := ih later
        exact ⟨tail, left.trans (List.suffix_cons _ _), same⟩
  | case4 c rest noPair noReturn ih =>
      rcases List.suffix_cons_iff.mp within with rfl | later
      · exact ⟨_, List.suffix_rfl, normalizeBreaks.eq_4 c rest noPair noReturn⟩
      · obtain ⟨tail, left, same⟩ := ih later
        exact ⟨tail, left.trans (List.suffix_cons _ _), same⟩

/-- What stands between the breaks of a text stays in it when they are turned into line feeds. -/
theorem infix_of_normalizeBreaks {text run : List Char} (inLine : '\n' ∉ run)
    (within : run <:+: normalizeBreaks text) : run <:+: text := by
  obtain ⟨back, begins, left⟩ := List.infix_iff_prefix_suffix.mp within
  obtain ⟨rest, behind, rfl⟩ := exists_suffix_of_normalizeBreaks left
  exact List.infix_iff_prefix_suffix.mpr ⟨rest, prefix_of_normalizeBreaks inLine begins, behind⟩

end Text
end ChocoLang

/-!
## Lines with their breaks

A text is made up of rows, each of them a line with the break behind it, which is a line feed, a
carriage return or both; the last row has none.  Rows that are well cut, so that no two of their
breaks run together, are found again in the text that they make up, also when the breaks of the text
have been turned into line feeds.
-/

namespace ChocoLang
namespace Text

/-- A line of a text and the break behind it. -/
structure Row where
  /-- The characters of the line. -/
  chars : List Char
  /-- The break, as it is spelled; nothing behind the last line. -/
  ending : List Char

/-- The characters of a row. -/
def Row.text (row : Row) : List Char := row.chars ++ row.ending

/-- Puts a character at the front of the first row. -/
def extendFirst (c : Char) : List Row → List Row
  | [] => [⟨[c], []⟩]
  | row :: rest => ⟨c :: row.chars, row.ending⟩ :: rest

/-- The rows of a text. -/
def rows : List Char → List Row
  | [] => [⟨[], []⟩]
  | '\r' :: '\n' :: rest => ⟨[], ['\r', '\n']⟩ :: rows rest
  | '\r' :: rest => ⟨[], ['\r']⟩ :: rows rest
  | '\n' :: rest => ⟨[], ['\n']⟩ :: rows rest
  | c :: rest => extendFirst c (rows rest)

theorem text_extendFirst (c : Char) (found : List Row) :
    (extendFirst c found).flatMap Row.text = c :: found.flatMap Row.text := by
  cases found <;> rfl

/-- The rows of a text make it up. -/
theorem text_rows (text : List Char) : (rows text).flatMap Row.text = text := by
  fun_induction rows text with
  | case1 => rfl
  | case2 rest ih => exact congrArg ('\r' :: '\n' :: ·) ih
  | case3 rest _ ih => exact congrArg ('\r' :: ·) ih
  | case4 rest ih => exact congrArg ('\n' :: ·) ih
  | case5 c rest _ _ _ ih => rw [text_extendFirst, ih]

/-- There is no break among the characters. -/
def InLine (chars : List Char) : Prop := ∀ c ∈ chars, c ≠ '\n' ∧ c ≠ '\r'

/-- The rows are cut at each break, and a carriage return is not followed by a line feed. -/
inductive WellCut : List Row → Prop where
  | last {chars : List Char} (inLine : InLine chars) : WellCut [⟨chars, []⟩]
  | feed {chars : List Char} {rest : List Row} (inLine : InLine chars) (tail : WellCut rest) :
    WellCut (⟨chars, ['\n']⟩ :: rest)
  | pair {chars : List Char} {rest : List Row} (inLine : InLine chars) (tail : WellCut rest) :
    WellCut (⟨chars, ['\r', '\n']⟩ :: rest)
  | carriage {chars : List Char} {rest : List Row} (inLine : InLine chars)
    (apart : ∀ row ∈ rest.head?, row.chars = [] → row.ending ≠ ['\n']) (tail : WellCut rest) :
    WellCut (⟨chars, ['\r']⟩ :: rest)

theorem WellCut.extendFirst {c : Char} (noFeed : c ≠ '\n') (noReturn : c ≠ '\r')
    {found : List Row} (cut : WellCut found) : WellCut (Text.extendFirst c found) := by
  have longer {chars : List Char} (inLine : InLine chars) : InLine (c :: chars) :=
    List.forall_mem_cons.mpr ⟨⟨noFeed, noReturn⟩, inLine⟩
  cases cut with
  | last inLine => exact .last (longer inLine)
  | feed inLine tail => exact .feed (longer inLine) tail
  | pair inLine tail => exact .pair (longer inLine) tail
  | carriage inLine apart tail => exact .carriage (longer inLine) apart tail

/-- A text that does not begin with a line feed does not begin with a row of that alone. -/
theorem head_rows_apart {text : List Char} (other : ∀ rest, text ≠ '\n' :: rest) :
    ∀ row ∈ (rows text).head?, row.chars = [] → row.ending ≠ ['\n'] := by
  fun_cases rows text with
  | case1 | case2 | case3 => simp
  | case4 rest => exact absurd rfl (other rest)
  | case5 c rest => cases rows rest <;> simp [Text.extendFirst]

/-- The rows of a text are well cut. -/
theorem wellCut_rows (text : List Char) : WellCut (rows text) := by
  fun_induction rows text with
  | case1 => exact .last (by simp [InLine])
  | case2 rest ih => exact .pair (by simp [InLine]) ih
  | case3 rest single ih => exact .carriage (by simp [InLine]) (head_rows_apart single) ih
  | case4 rest ih => exact .feed (by simp [InLine]) ih
  | case5 c rest noPair noReturn noFeed ih =>
      exact ih.extendFirst noFeed noReturn

theorem normalizeBreaks_inLine {chars : List Char} (inLine : InLine chars) (rest : List Char) :
    normalizeBreaks (chars ++ rest) = chars ++ normalizeBreaks rest := by
  induction chars with
  | nil => rfl
  | cons c chars ih =>
      obtain ⟨first, later⟩ := List.forall_mem_cons.mp inLine
      rw [List.cons_append, normalizeBreaks.eq_4 c _ (fun _ same _ => first.2 same) first.2,
        ih later]
      rfl

/-- Well cut rows of which the first is not a line feed alone do not begin with a line feed. -/
theorem WellCut.text_ne_feed {found : List Row} (cut : WellCut found)
    (apart : ∀ row ∈ found.head?, row.chars = [] → row.ending ≠ ['\n']) (after : List Char) :
    found.flatMap Row.text ≠ '\n' :: after := by
  have inside {chars ending : List Char} {rest : List Row} (inLine : InLine chars)
      (other : chars = [] → ∀ later, ending ++ rest.flatMap Row.text ≠ '\n' :: later) :
      (⟨chars, ending⟩ :: rest : List Row).flatMap Row.text ≠ '\n' :: after := by
    rw [List.flatMap_cons, Row.text, List.append_assoc]
    cases chars with
    | nil => exact other rfl after
    | cons c chars =>
        intro same
        exact (inLine c List.mem_cons_self).1 (List.cons.inj same).1
  cases cut with
  | last inLine => exact inside inLine fun _ later => by simp
  | feed inLine tail => exact inside inLine fun none => absurd rfl (apart _ rfl none)
  | pair inLine tail | carriage inLine _ tail => exact inside inLine fun _ later => by simp

/-- A text that is made up of well cut rows has just their lines. -/
theorem WellCut.lines_normalizeBreaks {found : List Row} (cut : WellCut found) :
    lines (normalizeBreaks (found.flatMap Row.text)) = found.map Row.chars := by
  have noFeed {chars : List Char} (inLine : InLine chars) : '\n' ∉ chars :=
    fun among => (inLine _ among).1 rfl
  induction cut with
  | @last chars inLine =>
      rw [List.flatMap_singleton, Row.text, normalizeBreaks_inLine inLine]
      simpa [normalizeBreaks] using lines_eq_singleton (noFeed inLine)
  | @feed chars rest inLine tail ih | @pair chars rest inLine tail ih =>
      rw [List.flatMap_cons, Row.text, List.append_assoc, normalizeBreaks_inLine inLine]
      exact (lines_append_break (noFeed inLine) _).trans (congrArg (chars :: ·) ih)
  | @carriage chars rest inLine apart tail ih =>
      rw [List.flatMap_cons, Row.text, List.append_assoc, normalizeBreaks_inLine inLine,
        List.singleton_append, normalizeBreaks.eq_3 _ (tail.text_ne_feed apart)]
      exact (lines_append_break (noFeed inLine) _).trans (congrArg (chars :: ·) ih)

end Text
end ChocoLang
