import ChocoLang.Proofs.Token.Lexemes
import Mathlib.Data.List.TakeWhile

/-!
# Cutting a line

A line without a break in it is cut into blanks, a comment, stretches that each spell one token and
no longer one, and runs of characters at which nothing begins.
-/

namespace ChocoLang

/-- No more of what stands behind some characters makes them spell a token. -/
def Unextendable (chars rest : List Char) : Prop :=
  ∀ more, more ≠ [] → more <+: rest → ∀ kind value, ¬ Spells (chars ++ more) kind value

namespace Reading

/-- The reading is of characters: a token that is not layout, or a report of invalid characters. -/
def isText : Reading → Bool
  | token found => !found.kind.isLayout
  | problem found => found.content.code = .invalidCharacter

/-- The readings of characters among some readings. -/
def texts (readings : List Reading) : List Reading := readings.filter isText

@[simp]
theorem texts_nil : texts [] = [] := rfl

@[simp]
theorem texts_append (first second : List Reading) :
    texts (first ++ second) = texts first ++ texts second :=
  List.filter_append ..

theorem texts_cons_text {reading : Reading} (text : reading.isText = true) (rest : List Reading) :
    texts (reading :: rest) = reading :: texts rest :=
  List.filter_cons_of_pos text

theorem texts_eq_nil {readings : List Reading}
    (others : ∀ reading ∈ readings, ¬ reading.isText = true) : texts readings = [] :=
  List.filter_eq_nil_iff.mpr others

end Reading

open Reading

/-! ## String literals -/

theorem mem_escapes_iff (c meant : Char) : (c, meant) ∈ escapes ↔ unescape? c = some meant := by
  simp only [escapes, unescape?, List.mem_cons, Prod.mk.injEq, List.not_mem_nil, or_false]
  split <;> simp_all [eq_comm]

/-- The problems in the body of a literal are about what stands in it. -/
theorem code_of_mem_readBody (line : Line) (column : Nat) (body : List Char) :
    ∀ problem ∈ (readBody line column body).problems,
      problem.content.code = .invalidStringContent := by
  fun_induction readBody line column body with
  | case1 | case4 => simp
  | case2 column c rest reading meant meaning ih => exact ih
  | case3 column c rest reading none problem ih => exact List.forall_mem_cons.mpr ⟨rfl, ih⟩
  | case5 column rest _ _ reading ih => exact ih
  | case6 column c rest _ _ reading _ _ ih => exact ih
  | case7 column c rest _ _ reading _ _ problem ih => exact List.forall_mem_cons.mpr ⟨rfl, ih⟩

/-- The body that is cut out of a line decodes to what is read. -/
theorem decodes_splitBody (line : Line) (column : Nat) {text : List Char} (inLine : '\n' ∉ text) :
    let reading := readBody line column (splitBody text).1
    Decodes (splitBody text).1 reading.value reading.closed reading.problems.isEmpty ∧
      (reading.closed = false → (splitBody text).2 = []) := by
  fun_induction splitBody text generalizing column with
  | case1 => exact ⟨.cut, fun _ => rfl⟩
  | case2 c rest ih =>
      simp only [List.mem_cons, not_or] at inLine
      obtain ⟨decodes, ended⟩ := ih (column + 2) inLine.2.2
      simp only [readBody]
      cases meaning : unescape? c with
      | some meant => exact ⟨.escape ((mem_escapes_iff c meant).mpr meaning) decodes, ended⟩
      | none =>
          refine ⟨.invalidEscape (fun meant listed => ?_) (Ne.symm inLine.2.1) decodes, ended⟩
          rw [mem_escapes_iff, meaning] at listed
          cases listed
  | case3 rest _ =>
      exact ⟨.mark, fun closed => by cases closed⟩
  | case4 c rest last noMark ih =>
      simp only [List.mem_cons, not_or] at inLine
      obtain ⟨decodes, ended⟩ := ih (column + 1) inLine.2
      by_cases backslash : c = '\\'
      · have none : rest = [] := by
          cases rest with
          | nil => rfl
          | cons d rest => exact (last d rest backslash rfl).elim
        subst none backslash
        exact ⟨.backslash, fun _ => rfl⟩
      · have other (d : Char) (more : List Char) (same : c = '\\') :
            (splitBody rest).1 ≠ d :: more :=
          absurd same backslash
        simp only [readBody.eq_3 line column c _ other, noMark, backslash, if_false]
        by_cases printable : isStringChar c = true
        · rw [if_pos printable]
          exact ⟨.plain noMark backslash (by simpa [isStringChar] using printable) decodes, ended⟩
        · rw [if_neg printable]
          exact ⟨.invalid (by simpa [isStringChar] using printable) (Ne.symm inLine.1) decodes,
            ended⟩

theorem texts_readBody (line : Line) (column : Nat) (body : List Char) :
    texts ((readBody line column body).problems.map .problem) = [] := by
  refine texts_eq_nil (List.forall_mem_map.mpr fun problem among => ?_)
  simp [isText, code_of_mem_readBody line column body problem among]

/-! ## Segments -/

/-- What is known of a segment in front of the rest of its line. -/
inductive Segment.Cut (rest : List Char) : Segment → Prop where
  /-- Blanks. -/
  | blank {chars : List Char} (blanks : ∀ c ∈ chars, c = ' ' ∨ c = '\t') : Cut rest (.blank chars)
  /-- A comment runs to the end of the line. -/
  | comment {chars : List Char} (last : rest = []) : Cut rest (.comment ('#' :: chars))
  /-- Characters that spell the one token read, and with more of the line behind them no token. -/
  | lexeme {segment : Segment} (longest : Unextendable segment.chars rest)
      (reads : ∀ line column, ∃ kind value, Spells segment.chars kind value ∧
        texts (segment.read line column) =
          [.token ⟨kind, value, line.span column (column + segment.chars.length)⟩]) :
      Cut rest segment
  /-- Characters at which nothing begins, up to one at which something does. -/
  | stray {chars : List Char} (nothing : ∀ front back, chars = front ++ back → back ≠ [] →
      beginsSegment (back ++ rest) = false) (ended : beginsSegment rest = true) :
      Cut rest (.invalid chars)

/-- Where a run of characters has stopped, the next one is of another sort. -/
theorem head_of_prefix_dropWhile {p : Char → Bool} {text more : List Char} {c : Char}
    (within : c :: more <+: text.dropWhile p) : p c = false := by
  obtain ⟨later, shape⟩ := within
  have head := List.head?_dropWhile_not p text
  rw [← shape] at head
  simpa using head

theorem decimalValue_eq_ofDigits (digits : List Char) :
    decimalValue digits =
      Nat.ofDigits 10 (digits.reverse.map fun c => c.toNat - '0'.toNat) := by
  rw [Nat.ofDigits_eq_foldr, List.foldr_map, List.foldr_reverse, decimalValue]
  congr 1
  funext value digit
  exact Nat.add_comm _ _

theorem cut_digits {c : Char} (digit : c.isDigit = true) (rest : List Char) :
    Segment.Cut (rest.dropWhile Char.isDigit) (.digits (c :: rest.takeWhile Char.isDigit)) := by
  have decimal : ∀ d ∈ c :: rest.takeWhile Char.isDigit, d.isDigit = true :=
    List.forall_mem_cons.mpr ⟨digit, fun d among => List.mem_takeWhile_imp among⟩
  refine .lexeme (fun more nonempty within kind value spells => ?_) fun line column =>
    ⟨_, _, .integer (List.cons_ne_nil _ _) decimal, ?_⟩
  · obtain ⟨d, tail, rfl⟩ := List.exists_cons_of_ne_nil nonempty
    have all := spells.isDigit_of_start digit d (by simp)
    rw [head_of_prefix_dropWhile within] at all
    cases all
  · rw [← decimalValue_eq_ofDigits]
    simp only [Segment.read]
    unfold digitsError?
    split
    · rfl
    split
    · rfl
    · rfl

theorem cut_word {c : Char} (start : isNameStart c = true) (rest : List Char) :
    Segment.Cut (rest.dropWhile isNameChar) (.word (c :: rest.takeWhile isNameChar)) := by
  have named : isName (c :: rest.takeWhile isNameChar) = true :=
    isName_cons.mpr ⟨start, fun d among => List.mem_takeWhile_imp among⟩
  refine .lexeme (fun more nonempty within kind value spells => ?_) fun line column => ?_
  · obtain ⟨d, tail, rfl⟩ := List.exists_cons_of_ne_nil nonempty
    have all := (isName_cons.mp (spells.isName_of_start start)).2 d (by simp)
    rw [head_of_prefix_dropWhile within] at all
    cases all
  · simp only [Segment.read, Segment.chars]
    cases found : Keyword.ofSpelling? (String.ofList (c :: rest.takeWhile isNameChar)) with
    | some word =>
        have spelled : word.spelling = String.ofList (c :: rest.takeWhile isNameChar) := by
          simpa only [beq_iff_eq] using List.find?_some found
        have spells := Spells.keyword word
        rw [spelled, String.toList_ofList] at spells
        exact ⟨_, _, spells, rfl⟩
    | none =>
        refine ⟨_, _, .name named fun word same => ?_, rfl⟩
        have other := List.find?_eq_none.mp found word word.mem_all
        rw [← same, String.ofList_toList, beq_self_eq_true] at other
        exact other rfl

theorem cut_literal {rest : List Char} (inLine : '\n' ∉ rest) :
    Segment.Cut (splitBody rest).2 (.literal (splitBody rest).1) := by
  refine .lexeme (fun more nonempty within kind value spells => ?_) fun line column => ?_
  · obtain ⟨decodes, ended⟩ := decodes_splitBody ⟨"", 0⟩ 0 inLine
    obtain ⟨_, _, _, longer⟩ := spells.decodes_of_mark
    cases closed : (readBody ⟨"", 0⟩ 0 (splitBody rest).1).closed with
    | true =>
        rw [closed] at decodes
        exact nonempty (decodes.eq_nil_of_append longer)
    | false =>
        rw [ended closed] at within
        exact nonempty (List.prefix_nil.mp within)
  · obtain ⟨decodes, -⟩ := decodes_splitBody line (column + 1) inLine
    refine ⟨_, _, .literal decodes, ?_⟩
    have width : column + 1 + (splitBody rest).1.length =
        column + (Segment.literal (splitBody rest).1).chars.length := by
      simp only [Segment.chars, List.length_cons]
      omega
    simp only [Segment.read, readLiteral, width]
    cases (readBody line (column + 1) (splitBody rest).1).closed with
    | true =>
        rw [if_pos rfl, texts_append, texts_readBody, Bool.true_and]
        refine texts_cons_text ?_ []
        dsimp only [isText]
        split <;> rfl
    | false =>
        rw [if_neg (by decide), texts_append, texts_readBody]
        rfl

theorem cut_symbol {c : Char} {rest after : List Char} {sign : Symbol}
    (found : symbolAt? (c :: rest) = some (sign, after)) (noName : isNameStart c = false)
    (noDigit : c.isDigit = false) (noMark : c ≠ '"') : Segment.Cut after (.symbol sign) := by
  have spelled := chars_of_symbolAt? found
  refine .lexeme (fun more nonempty within kind value spells => ?_) fun line column =>
    ⟨_, _, .symbol sign, rfl⟩
  -- A longer symbol has two characters, and these would have been found first.
  obtain ⟨first, others, shape⟩ := List.exists_cons_of_ne_nil sign.chars_ne_nil
  obtain ⟨second, tail, rfl⟩ := List.exists_cons_of_ne_nil nonempty
  rw [shape, List.cons_append] at spelled
  obtain ⟨rfl, split⟩ := List.cons.inj spelled
  rw [Segment.chars, shape, List.cons_append] at spells
  obtain ⟨longer, shape'⟩ := spells.symbol_of_start noName noDigit noMark
  rcases longer.chars_cases with ⟨d, single⟩ | ⟨d, e, pair⟩
  · rw [single] at shape'
    simp at shape'
  · rw [pair] at shape'
    obtain ⟨rfl, same⟩ := List.cons.inj shape'
    cases others with
    | cons other others => simp at same
    | nil =>
        obtain ⟨rfl, -⟩ := List.cons.inj same
        obtain ⟨later, ahead⟩ := within
        obtain rfl : rest = e :: (tail ++ later) := by
          rw [← split, ← ahead]
          rfl
        obtain ⟨symbol, first⟩ := Option.isSome_iff_exists.mp (Symbol.isSome_ofPair? pair)
        simp [symbolAt?, first, ← ahead] at found

theorem beginsSegment_splitInvalid (text : List Char) :
    beginsSegment (splitInvalid text).2 = true := by
  induction text with
  | nil => rfl
  | cons c rest ih =>
      rw [splitInvalid]
      split
      · assumption
      · exact ih

theorem nothing_splitInvalid (text : List Char) {front back : List Char}
    (shape : (splitInvalid text).1 = front ++ back) (nonempty : back ≠ []) :
    beginsSegment (back ++ (splitInvalid text).2) = false := by
  induction text generalizing front with
  | nil =>
      rw [splitInvalid, List.nil_eq, List.append_eq_nil_iff] at shape
      exact absurd shape.2 nonempty
  | cons c rest ih =>
      rw [splitInvalid] at shape ⊢
      split at shape
      · rw [List.nil_eq, List.append_eq_nil_iff] at shape
        exact absurd shape.2 nonempty
      · next nothing =>
          rw [if_neg nothing]
          cases front with
          | nil =>
              rw [List.nil_append] at shape
              rw [← shape, List.cons_append, splitInvalid_append]
              simpa using nothing
          | cons first front => exact ih (List.cons.inj shape).2

theorem cut_invalid {c : Char} {rest : List Char} (nothing : beginsSegment (c :: rest) = false) :
    Segment.Cut (splitInvalid rest).2 (.invalid (c :: (splitInvalid rest).1)) := by
  refine .stray (fun front back shape nonempty => ?_) (beginsSegment_splitInvalid rest)
  cases front with
  | nil =>
      rw [List.nil_append] at shape
      rwa [← shape, List.cons_append, splitInvalid_append]
  | cons first front => exact nothing_splitInvalid rest (List.cons.inj shape).2 nonempty

/-- The first segment of a line is cut as it should be. -/
theorem Segment.next_cut {c : Char} {rest : List Char} (inLine : '\n' ∉ rest) :
    (Segment.next c rest).1.Cut (Segment.next c rest).2 := by
  unfold Segment.next
  split
  · next blank =>
      refine .blank (List.forall_mem_cons.mpr ⟨?_, fun d among => ?_⟩)
      · simpa [isBlank] using blank
      · simpa [isBlank] using List.mem_takeWhile_imp among
  split
  · next mark =>
      subst mark
      exact .comment rfl
  split
  · exact cut_literal inLine
  split
  · next digit => exact cut_digits digit rest
  split
  · next start => exact cut_word start rest
  split
  · next noMark noDigit noName _ _ _ found =>
      exact cut_symbol found (by simpa using noName) (by simpa using noDigit) noMark
  · next noBlank noComment noMark noDigit noName none =>
      exact cut_invalid (by simp_all [beginsSegment])

/-- Every segment of a line is cut as it should be. -/
theorem cut_of_segments {line : List Char} (inLine : '\n' ∉ line) {front back : List Segment}
    {segment : Segment} (shape : segments line = front ++ segment :: back) :
    segment.Cut (back.flatMap Segment.chars) := by
  fun_induction segments line generalizing front with
  | case1 => simp at shape
  | case2 c rest ih =>
      rw [List.mem_cons, not_or] at inLine
      cases front with
      | nil =>
          obtain ⟨rfl, rfl⟩ := List.cons.inj shape
          rw [segments_flatten]
          exact Segment.next_cut inLine.2
      | cons first front =>
          refine ih (fun among => ?_) (List.cons.inj shape).2
          have whole := Segment.next_append c rest
          have later : '\n' ∈ c :: rest := whole ▸ List.mem_append_right _ among
          exact (List.mem_cons.mp later).elim inLine.1 inLine.2

/-! ## Behind the line -/

/-- The text ends, or the line does. -/
def AtBreak (text : List Char) : Prop := ∀ c ∈ text.head?, c = '\n'

/-- What has no break in it ends where the line does. -/
theorem prefix_of_atBreak {chars line behind : List Char} (inLine : '\n' ∉ chars)
    (ended : AtBreak behind) (within : chars <+: line ++ behind) : chars <+: line := by
  have line_within := List.prefix_append line behind
  rcases List.prefix_or_prefix_of_prefix within line_within with shorter | longer
  · exact shorter
  · obtain ⟨more, rfl⟩ := longer
    rw [List.prefix_append_right_inj] at within
    cases more with
    | nil => simp
    | cons c more =>
        obtain ⟨later, rfl⟩ := within
        obtain rfl : c = '\n' := ended c rfl
        simp at inLine

theorem Unextendable.append {chars line behind : List Char} (longest : Unextendable chars line)
    (ended : AtBreak behind) : Unextendable chars (line ++ behind) := by
  intro more nonempty within kind value spells
  have inLine : '\n' ∉ more := fun among => spells.inLine (List.mem_append_right chars among)
  exact longest more nonempty (prefix_of_atBreak inLine ended within) kind value spells

theorem isSome_symbolAt?_iff {text : List Char} :
    (symbolAt? text).isSome = true ↔ ∃ sign : Symbol, sign.chars <+: text := by
  constructor
  · intro some
    obtain ⟨⟨sign, rest⟩, found⟩ := Option.isSome_iff_exists.mp some
    exact ⟨sign, rest, chars_of_symbolAt? found⟩
  · rintro ⟨sign, rest, rfl⟩
    exact isSome_symbolAt? sign rest

/-- Whether something begins in a line does not depend on what stands behind the line. -/
theorem beginsSegment_append {line behind : List Char} (nonempty : line ≠ [])
    (ended : AtBreak behind) : beginsSegment (line ++ behind) = beginsSegment line := by
  obtain ⟨c, rest, rfl⟩ := List.exists_cons_of_ne_nil nonempty
  have same : (symbolAt? (c :: (rest ++ behind))).isSome = (symbolAt? (c :: rest)).isSome := by
    rw [Bool.eq_iff_iff, isSome_symbolAt?_iff, isSome_symbolAt?_iff]
    constructor
    · rintro ⟨sign, within⟩
      exact ⟨sign, prefix_of_atBreak (Spells.symbol sign).inLine ended within⟩
    · rintro ⟨sign, within⟩
      exact ⟨sign, within.trans (List.prefix_append (c :: rest) behind)⟩
  rw [List.cons_append, beginsSegment, beginsSegment, same]

end ChocoLang
