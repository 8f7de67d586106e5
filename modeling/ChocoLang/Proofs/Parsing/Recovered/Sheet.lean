import ChocoLang.Proofs.Parsing.Nesting.Program
import ChocoLang.Proofs.Token.Rows

/-!
# Places in the tokens of a program

The tokens of a program are counted from its first one on.  At every place some blocks are open, and
between two places lie whole blocks if no block that is open at the first one ends before the second
one and no other one is open there.  A cursor stands at the place in front of which its tokens are
behind it, and readers pass whole blocks, or on one line text only.
-/

namespace ChocoLang

/-- The tokens of a program, in front of the one that marks the end of the file. -/
structure Sheet where
  /-- The tokens. -/
  tokens : List Token
  /-- The end of the file. -/
  ending : Token
  ended : ending.kind = .endOfFile
  more : ∀ token ∈ tokens, token.kind ≠ .endOfFile
  /-- Text takes up some room. -/
  wide : ∀ token ∈ tokens, token.kind.isLayout = false → token.span.start < token.span.stop
  /-- No token begins before those in front of it stop. -/
  ordered : tokens.Pairwise fun first second => first.span.stop ≤ second.span.start
  balanced : Balanced (tokens.map Token.kind)
  /-- The end of a line stands directly behind text. -/
  filled : ∀ front ending back, tokens = front ++ ending :: back → ending.kind = .newline →
    ∃ text ∈ front.getLast?, text.kind.isLayout = false
  /-- Directly behind text stands more text or the end of the line. -/
  followed : ∀ front text back, tokens = front ++ text :: back → text.kind.isLayout = false →
    ∃ next ∈ back.head?, next.kind = .newline ∨ next.kind.isLayout = false

namespace Sheet

variable (sheet : Sheet) {i j p q r : Nat}

/-- The token at a place; behind the last one stands the end of the file. -/
def token (place : Nat) : Token := sheet.tokens[place]?.getD sheet.ending

/-- Text stands at a place. -/
def Text (place : Nat) : Prop := (sheet.token place).kind.isLayout = false

/-- How many blocks are open in front of a place. -/
def level (place : Nat) : Int :=
  ((sheet.tokens.take place).map Token.kind).count .indent -
    ((sheet.tokens.take place).map Token.kind).count .dedent

/-- Between two places lie whole blocks. -/
structure Whole (first last : Nat) : Prop where
  le : first ≤ last
  level : sheet.level last = sheet.level first
  above : ∀ place, first ≤ place → place ≤ last → sheet.level first ≤ sheet.level place

variable {sheet}

/-! ## Tokens -/

theorem getElem?_of_lt (before : i < sheet.tokens.length) :
    sheet.tokens[i]? = some (sheet.token i) := by
  rw [token, List.getElem?_eq_getElem before, Option.getD_some]

theorem token_mem (before : i < sheet.tokens.length) : sheet.token i ∈ sheet.tokens :=
  List.mem_of_getElem? (getElem?_of_lt before)

theorem lt_of_kind (more : (sheet.token i).kind ≠ .endOfFile) : i < sheet.tokens.length := by
  by_contra beyond
  apply more
  rw [token, List.getElem?_eq_none (Nat.not_lt.mp beyond), Option.getD_none]
  exact sheet.ended

theorem Text.lt (text : sheet.Text i) : i < sheet.tokens.length :=
  lt_of_kind fun ends => by simp [Text, ends, TokenKind.isLayout] at text

theorem Text.start_lt (text : sheet.Text i) :
    (sheet.token i).span.start < (sheet.token i).span.stop :=
  sheet.wide _ (token_mem text.lt) text

theorem stop_le_start (before : i < j) (inside : j < sheet.tokens.length) :
    (sheet.token i).span.stop ≤ (sheet.token j).span.start := by
  have pairs := List.pairwise_iff_getElem.mp sheet.ordered i j (by omega) inside before
  simpa only [token, List.getElem?_eq_getElem (Nat.lt_trans before inside),
    List.getElem?_eq_getElem inside, Option.getD_some] using pairs

theorem stop_le_stop (ordered : i ≤ j) (text : sheet.Text j) :
    (sheet.token i).span.stop ≤ (sheet.token j).span.stop := by
  rcases Nat.eq_or_lt_of_le ordered with rfl | before
  · exact Position.le_refl _
  · have behind := stop_le_start before text.lt
    have wide := text.start_lt
    simp only [Position.le_iff, Position.lt_iff] at *
    omega

/-- Text at a later place starts later. -/
theorem start_lt_start (before : i < j) (text : sheet.Text i) (inside : j < sheet.tokens.length) :
    (sheet.token i).span.start < (sheet.token j).span.start := by
  have behind := stop_le_start before inside
  have wide := text.start_lt
  simp only [Position.le_iff, Position.lt_iff] at *
  omega

/-- No two texts start together. -/
theorem eq_of_start_eq (text : sheet.Text i) (text' : sheet.Text j)
    (same : (sheet.token i).span.start = (sheet.token j).span.start) : i = j := by
  rcases Nat.lt_trichotomy i j with before | equal | behind
  · have early := start_lt_start before text text'.lt
    simp only [same, Position.lt_iff] at early
    omega
  · exact equal
  · have early := start_lt_start behind text' text.lt
    simp only [same, Position.lt_iff] at early
    omega

/-- From a place on stands the token there, and then the others. -/
theorem drop_eq_cons (inside : i < sheet.tokens.length) :
    sheet.tokens.drop i = sheet.token i :: sheet.tokens.drop (i + 1) := by
  have head : sheet.tokens[i] = sheet.token i :=
    Option.some.inj ((List.getElem?_eq_getElem inside).symm.trans (getElem?_of_lt inside))
  rw [List.drop_eq_getElem_cons inside, head]

theorem take_append_drop (before : i < sheet.tokens.length) :
    sheet.tokens = sheet.tokens.take i ++ sheet.token i :: sheet.tokens.drop (i + 1) := by
  rw [← drop_eq_cons before, List.take_append_drop]

/-- The end of a line stands behind text. -/
theorem exists_text_of_newline (ends : (sheet.token i).kind = .newline) :
    ∃ j, i = j + 1 ∧ sheet.Text j := by
  have before : i < sheet.tokens.length := lt_of_kind (by simp [ends])
  obtain ⟨text, last, plain⟩ := sheet.filled _ _ _ (take_append_drop before) ends
  rw [List.getLast?_take] at last
  cases i with
  | zero => simp at last
  | succ j =>
      refine ⟨j, rfl, ?_⟩
      have stands : sheet.token j = text := by
        simpa [getElem?_of_lt (Nat.lt_of_succ_lt before)] using last
      rw [Text, stands]
      exact plain

/-- Behind text the line goes on or ends. -/
theorem Text.next (text : sheet.Text i) :
    (sheet.token (i + 1)).kind = .newline ∨ sheet.Text (i + 1) := by
  obtain ⟨next, first, kinds⟩ := sheet.followed _ _ _ (take_append_drop text.lt) text
  rw [List.head?_drop] at first
  have stands : sheet.token (i + 1) = next := by rw [token, Option.mem_def.mp first]; rfl
  rwa [Text, stands]

/-! ## Levels -/

theorem level_succ (place : Nat) :
    sheet.level (place + 1) = sheet.level place +
      (if (sheet.token place).kind = .indent then 1 else 0) -
      (if (sheet.token place).kind = .dedent then 1 else 0) := by
  by_cases before : place < sheet.tokens.length
  · have longer : sheet.tokens.take (place + 1) =
        sheet.tokens.take place ++ [sheet.token place] := by
      rw [List.take_add_one, getElem?_of_lt before]
      rfl
    simp only [level, longer, List.map_append, List.count_append, List.map_cons, List.map_nil,
      List.count_singleton, beq_iff_eq, Nat.cast_add, Nat.cast_ite, Nat.cast_one, Nat.cast_zero]
    omega
  · have beyond := Nat.not_lt.mp before
    have ends : (sheet.token place).kind = .endOfFile := by
      by_contra more
      exact before (lt_of_kind more)
    rw [level, level, List.take_of_length_le beyond,
      List.take_of_length_le (Nat.le_succ_of_le beyond), ends]
    simp

theorem level_of_isLevel (level : (sheet.token i).kind.isLevel = true) :
    sheet.level (i + 1) = sheet.level i := by
  obtain ⟨noIndent, noDedent⟩ :
      (sheet.token i).kind ≠ .indent ∧ (sheet.token i).kind ≠ .dedent := by
    simpa [TokenKind.isLevel] using level
  rw [level_succ, if_neg noIndent, if_neg noDedent]
  omega

theorem level_nonneg (place : Nat) : 0 ≤ sheet.level place := by
  obtain ⟨opened, -⟩ := balanced_iff.mp sheet.balanced
  have fewer := opened _ ((List.take_prefix place sheet.tokens).map Token.kind)
  rw [level]
  omega

/-- At the end of the file no block is open. -/
theorem level_of_length_le (beyond : sheet.tokens.length ≤ i) : sheet.level i = 0 := by
  obtain ⟨-, closed⟩ := balanced_iff.mp sheet.balanced
  rw [level, List.take_of_length_le beyond, closed]
  omega

namespace Whole

theorem refl (place : Nat) : sheet.Whole place place :=
  ⟨Nat.le_refl _, rfl, fun other after before => by
    obtain rfl := Nat.le_antisymm after before
    exact Int.le_refl _⟩

theorem trans (first : sheet.Whole p q) (second : sheet.Whole q r) : sheet.Whole p r := by
  refine ⟨first.le.trans second.le, second.level.trans first.level, fun place after before => ?_⟩
  rcases Nat.le_total place q with early | late
  · exact first.above place after early
  · rw [← first.level]
    exact second.above place late before

/-- A token that neither begins nor ends a block is whole. -/
theorem step (level : (sheet.token p).kind.isLevel = true) : sheet.Whole p (p + 1) := by
  have same := level_of_isLevel level
  refine ⟨Nat.le_succ p, same, fun place after before => ?_⟩
  obtain rfl | rfl : place = p ∨ place = p + 1 := by omega
  · exact Int.le_refl _
  · exact same.ge

/-- Up to a place on its own level, a part of what is whole is whole. -/
theorem take (whole : sheet.Whole p r) (behind : p ≤ q) (before : q ≤ r)
    (same : sheet.level q = sheet.level p) : sheet.Whole p q :=
  ⟨behind, same, fun place after early => whole.above place after (early.trans before)⟩

/-- A block with the end of the line in front of it is whole. -/
theorem block (line : (sheet.token p).kind = .newline)
    (opens : (sheet.token (p + 1)).kind = .indent) (inner : sheet.Whole (p + 2) q)
    (closes : (sheet.token q).kind = .dedent) : sheet.Whole p (q + 1) := by
  have first : sheet.level (p + 1) = sheet.level p := level_of_isLevel (by rw [line]; rfl)
  have second : sheet.level (p + 2) = sheet.level p + 1 := by
    rw [level_succ, opens, first]
    simp
  have last : sheet.level (q + 1) = sheet.level q - 1 := by
    rw [level_succ, closes]
    simp
  have same := inner.level
  have le := inner.le
  refine ⟨by omega, by omega, fun place after before => ?_⟩
  rcases Nat.lt_or_ge place (p + 2) with early | late
  · obtain rfl | rfl : place = p ∨ place = p + 1 := by omega
    · exact Int.le_refl _
    · exact first.ge
  rcases Nat.eq_or_lt_of_le before with rfl | inside
  · omega
  · have above := inner.above place late (by omega)
    omega

end Whole

/-! ## What is passed -/

/-- Tokens that are passed stand between the two places. -/
theorem passed_spec {passed : List Token} (behind : p ≤ sheet.tokens.length)
    (inside : q ≤ sheet.tokens.length)
    (shape : sheet.tokens.drop p = passed ++ sheet.tokens.drop q) :
    q = p + passed.length ∧ ∀ count, count ≤ passed.length →
      sheet.tokens.take (p + count) = sheet.tokens.take p ++ passed.take count := by
  have lengths := congrArg List.length shape
  simp only [List.length_drop, List.length_append] at lengths
  refine ⟨by omega, fun count fits => ?_⟩
  rw [List.take_add, shape, List.take_append_of_le_length fits]

/-- The level changes with the blocks that begin and end among the tokens passed. -/
theorem level_add {passed : List Token} (behind : p ≤ sheet.tokens.length)
    (inside : q ≤ sheet.tokens.length)
    (shape : sheet.tokens.drop p = passed ++ sheet.tokens.drop q) {count : Nat}
    (fits : count ≤ passed.length) : sheet.level (p + count) = sheet.level p +
      ((passed.take count).map Token.kind).count .indent -
        ((passed.take count).map Token.kind).count .dedent := by
  obtain ⟨-, parts⟩ := passed_spec behind inside shape
  simp only [level, parts count fits, List.map_append, List.count_append, Nat.cast_add]
  omega

theorem text_of_passes (behind : p ≤ sheet.tokens.length) (inside : q ≤ sheet.tokens.length)
    (passes : PassesText (sheet.tokens.drop p) (sheet.tokens.drop q)) :
    p ≤ q ∧ ∀ place, p ≤ place → place < q → sheet.Text place := by
  obtain ⟨passed, shape, text⟩ := passes
  obtain ⟨rfl, -⟩ := passed_spec behind inside shape
  refine ⟨Nat.le_add_right _ _, fun place after before => ?_⟩
  obtain ⟨count, rfl⟩ := Nat.exists_eq_add_of_le after
  have fits : count < passed.length := by omega
  have stands : sheet.tokens[p + count]? = some passed[count] := by
    rw [← List.getElem?_drop, shape, List.getElem?_append_left fits, List.getElem?_eq_getElem fits]
  rw [Text, token, stands, Option.getD_some]
  exact text _ (List.getElem_mem fits)

theorem whole_of_passes (behind : p ≤ sheet.tokens.length) (inside : q ≤ sheet.tokens.length)
    (passes : PassesBlocks (sheet.tokens.drop p) (sheet.tokens.drop q)) : sheet.Whole p q := by
  obtain ⟨passed, depth, shape, nested, ends⟩ := passes
  have level (count : Nat) (fits : count ≤ passed.length) :=
    level_add behind inside shape fits
  obtain ⟨rfl, -⟩ := passed_spec behind inside shape
  obtain ⟨opened, closed⟩ := nesting_eq_some_iff.mp nested
  have whole := level passed.length (Nat.le_refl _)
  rw [List.take_length] at whole
  have same : sheet.level (p + passed.length) = sheet.level p := by
    rcases ends with rfl | none
    · omega
    · -- At the end of the file all blocks are closed, so none had been opened on the way.
      have last := level_of_length_le (List.drop_eq_nil_iff.mp none)
      have first := sheet.level_nonneg p
      omega
  refine ⟨Nat.le_add_right _ _, same, fun place after before => ?_⟩
  obtain ⟨count, rfl⟩ := Nat.exists_eq_add_of_le after
  have fits : count ≤ passed.length := by omega
  have fewer := opened _ ((List.take_prefix count passed).map Token.kind)
  rw [level count fits]
  omega

end Sheet

/-! ## Cursors -/

/-- The cursor stands in the tokens of a program. -/
structure Cursor.On (sheet : Sheet) (cursor : Cursor) : Prop where
  ahead : cursor.ahead = sheet.tokens.drop cursor.position
  ending : cursor.ending = sheet.ending
  inside : cursor.position ≤ sheet.tokens.length
  /-- Text behind the cursor has stopped where the last text does, which is behind it, too. -/
  behind : ∀ place, place < cursor.position → sheet.Text place →
    (sheet.token place).span.stop ≤ cursor.last.stop ∧
      ∃ other, other < cursor.position ∧ sheet.Text other ∧ cursor.last = (sheet.token other).span

namespace Cursor.On

variable {sheet : Sheet} {cursor after : Cursor}

theorem closed (on : cursor.On sheet) : cursor.Closed := by
  rw [Closed, on.ending]
  exact sheet.ended

theorem current (on : cursor.On sheet) : cursor.current = sheet.token cursor.position := by
  rw [Cursor.current, on.ahead, on.ending, List.headD_eq_head?_getD, List.head?_drop]
  rfl

theorem kind (on : cursor.On sheet) : cursor.kind = (sheet.token cursor.position).kind := by
  rw [← on.closed.kind_current, on.current]

theorem ahead_ne_nil (on : cursor.On sheet) (more : cursor.position < sheet.tokens.length) :
    cursor.ahead ≠ [] := by
  rw [on.ahead, ne_eq, List.drop_eq_nil_iff]
  omega

theorem position_advance (on : cursor.On sheet) (more : cursor.position < sheet.tokens.length) :
    cursor.advance.position = cursor.position + 1 := by
  obtain ⟨token, rest, shape⟩ := List.exists_cons_of_ne_nil (on.ahead_ne_nil more)
  rw [advance_of_cons shape]

theorem advance (on : cursor.On sheet) : cursor.advance.On sheet := by
  by_cases more : cursor.position < sheet.tokens.length
  · have position := on.position_advance more
    have last := last_advance (on.ahead_ne_nil more)
    rw [on.current] at last
    have onward := Onward.advance cursor
    refine ⟨?_, onward.ending.trans on.ending, position ▸ more, fun place before plain => ?_⟩
    · rw [ahead_advance, on.ahead, position, List.tail_drop]
    rw [position] at before ⊢
    by_cases text : sheet.Text cursor.position
    · rw [last, if_neg (by rw [text]; decide)]
      exact ⟨Sheet.stop_le_stop (Nat.le_of_lt_succ before) text,
        cursor.position, Nat.lt_succ_self _, text, rfl⟩
    · rw [last, if_pos (Bool.eq_true_of_not_eq_false text)]
      have earlier : place < cursor.position := by
        rcases Nat.eq_or_lt_of_le (Nat.le_of_lt_succ before) with rfl | inside
        · exact absurd plain text
        · exact inside
      obtain ⟨stops, other, inside, known⟩ := on.behind place earlier plain
      exact ⟨stops, other, Nat.lt_succ_of_lt inside, known⟩
  · have none : cursor.ahead = [] := by
      rw [on.ahead]
      exact List.drop_eq_nil_of_le (Nat.not_lt.mp more)
    rwa [advance_of_nil none]

theorem moves (on : cursor.On sheet) (moves : cursor.Moves after) : after.On sheet :=
  moves.keeps (fun _ on => on.advance)
    (fun _ _ on => ⟨on.ahead, on.ending, on.inside, on.behind⟩) on

/-- A node that begins with text behind the cursor spans up to the last text. -/
theorem spanFrom (on : cursor.On sheet) {place : Nat} (before : place < cursor.position)
    (text : sheet.Text place) :
    (cursor.spanFrom (sheet.token place).span).start = (sheet.token place).span.start ∧
      (cursor.spanFrom (sheet.token place).span).stop = cursor.last.stop := by
  obtain ⟨stops, -⟩ := on.behind place before text
  have wide := text.start_lt
  have ordered : ¬cursor.last.stop < (sheet.token place).span.start := by
    simp only [Position.le_iff, Position.lt_iff] at *
    omega
  rw [Cursor.spanFrom, if_neg ordered]
  exact ⟨rfl, rfl⟩

theorem text_of_passes (on : cursor.On sheet) (on' : after.On sheet)
    (passes : PassesText cursor.ahead after.ahead) : cursor.position ≤ after.position ∧
      ∀ place, cursor.position ≤ place → place < after.position → sheet.Text place := by
  rw [on.ahead, on'.ahead] at passes
  exact Sheet.text_of_passes on.inside on'.inside passes

theorem whole_of_passes (on : cursor.On sheet) (on' : after.On sheet)
    (passes : PassesBlocks cursor.ahead after.ahead) :
    sheet.Whole cursor.position after.position := by
  rw [on.ahead, on'.ahead] at passes
  exact Sheet.whole_of_passes on.inside on'.inside passes

end Cursor.On

/-! ## The tokens of a program -/

/-- Laid out tokens are balanced in front of the end of the file. -/
theorem LaidOut.balanced {front : List Token} {ending : Token}
    (laid : LaidOut (front ++ [ending])) (ends : ending.kind = .endOfFile) :
    Balanced (front.map Token.kind) := by
  refine balanced_iff.mpr ⟨fun kinds within => ?_, ?_⟩
  · rw [List.prefix_iff_eq_take.mp within, ← List.map_take]
    exact laid.opened _ ((List.take_prefix _ front).trans (List.prefix_append _ _))
  · simpa [ends] using laid.closed

/-- The tokens of a program, with the end of the file behind them. -/
theorem Sheet.exists_of_ofSource {file source : String} {lexing : Lexing}
    (read : Lexing.ofSource file source = .ok lexing) :
    ∃ sheet : Sheet, lexing.tokens = sheet.tokens ++ [sheet.ending] := by
  obtain ⟨laid, -⟩ := Lexing.laidOut_of_ofSource read
  obtain ⟨front, ending, ends, shape, more⟩ : ∃ front ending, ending.kind = TokenKind.endOfFile ∧
      lexing.tokens = front ++ [ending] ∧ ∀ token ∈ front, token.kind ≠ .endOfFile := by
    obtain ⟨front, place, shape, more⟩ := laid.ended
    exact ⟨front, _, rfl, shape, more⟩
  obtain ⟨first, last, row⟩ := Lexing.successive_of_ofSource read
  have wide := Lexing.wide_of_ofSource read
  have ordered := List.pairwise_map.mp row.pairwise
  rw [shape] at laid wide ordered
  refine ⟨⟨front, ending, ends, more, fun token among => wide token (List.mem_append_left _ among),
    (List.pairwise_append.mp ordered).1, laid.balanced ends, ?_, ?_⟩, shape⟩
  · rintro before newline back rfl line
    exact laid.filled before newline (back ++ [ending]) (by simp) line
  · rintro before text back rfl plain
    obtain ⟨next, stands, kinds⟩ := laid.followed before text (back ++ [ending]) (by simp) plain
    cases back with
    | nil =>
        obtain rfl : ending = next := Option.some.inj stands
        simp [ends, TokenKind.isLayout] at kinds
    | cons token back => exact ⟨next, stands, kinds.imp_right And.left⟩

/-- Before the first of its tokens a program is read in all of them. -/
theorem Sheet.on_ofTokens (sheet : Sheet) {tokens : List Token} (nonempty : tokens ≠ [])
    (shape : tokens = sheet.tokens ++ [sheet.ending]) :
    (Cursor.ofTokens tokens nonempty).On sheet := by
  have plain : ∀ token ∈ sheet.tokens, (token.kind != .endOfFile) = true :=
    fun token among => by simpa using sheet.more token among
  have whole : tokens.takeWhile (·.kind != .endOfFile) = sheet.tokens := by
    rw [shape, List.takeWhile_append_of_pos plain]
    simp [sheet.ended]
  have last : tokens.find? (·.kind == .endOfFile) = some sheet.ending := by
    rw [shape, List.find?_append, List.find?_eq_none.mpr fun token among => by
      simpa using sheet.more token among]
    simp [sheet.ended]
  refine ⟨whole, ?_, Nat.zero_le _, fun place before => absurd before (Nat.not_lt_zero _)⟩
  simp only [Cursor.ofTokens, last, Option.getD_some]

end ChocoLang
