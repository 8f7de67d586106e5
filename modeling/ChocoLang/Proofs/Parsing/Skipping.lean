import ChocoLang.Proofs.Parsing.Repetition
import ChocoLang.Proofs.Token.Nesting

/-!
# What recovery skips

To get past a statement in error, the rest of its line is skipped, with the block that follows it.
The tokens skipped are balanced unless the file ends among them, so recovery never leaves the block
around the statement, and a block is skipped as a whole or not at all.
-/

namespace ChocoLang

namespace Cursor

variable {token : Token} {rest : List Token} {depth : Nat}

/-! ## Counting tokens -/

/-- How many tokens are skipped depends on the first one. -/
theorem skipLength_cons (depth : Nat) (token : Token) (rest : List Token) :
    skipLength depth (token :: rest) =
      match token.kind, depth with
      | .indent, depth => 1 + skipLength (depth + 1) rest
      | .dedent, 0 => 0
      | .dedent, 1 => 1
      | .dedent, depth + 2 => 1 + skipLength (depth + 1) rest
      | .newline, 0 =>
        if (rest.head?.map Token.kind) == some .indent then 1 + skipLength 0 rest else 1
      | _, depth => 1 + skipLength depth rest := rfl

theorem skipLength_indent (kind : token.kind = .indent) :
    skipLength depth (token :: rest) = 1 + skipLength (depth + 1) rest := by
  rw [skipLength_cons, kind]

theorem skipLength_zero_dedent (kind : token.kind = .dedent) :
    skipLength 0 (token :: rest) = 0 := by
  rw [skipLength_cons, kind]

theorem skipLength_one_dedent (kind : token.kind = .dedent) :
    skipLength 1 (token :: rest) = 1 := by
  rw [skipLength_cons, kind]

theorem skipLength_dedent (kind : token.kind = .dedent) :
    skipLength (depth + 2) (token :: rest) = 1 + skipLength (depth + 1) rest := by
  rw [skipLength_cons, kind]

theorem skipLength_newline_indent (kind : token.kind = .newline) (next : kindAt rest = .indent) :
    skipLength 0 (token :: rest) = 1 + skipLength 0 rest := by
  rw [skipLength_cons, kind]
  cases rest with
  | nil => cases next
  | cons first rest =>
      change first.kind = .indent at next
      simp [next]

theorem skipLength_newline (kind : token.kind = .newline) (next : kindAt rest ≠ .indent) :
    skipLength 0 (token :: rest) = 1 := by
  rw [skipLength_cons, kind]
  cases rest with
  | nil => rfl
  | cons first rest =>
      change first.kind ≠ .indent at next
      simp [next]

/-- Inside a block only its beginnings and ends matter, and on a line only its end. -/
theorem skipLength_level (level : token.kind.isLevel = true)
    (inside : 0 < depth ∨ token.kind ≠ .newline) :
    skipLength depth (token :: rest) = 1 + skipLength depth rest := by
  rw [skipLength_cons]
  split <;> simp_all [TokenKind.isLevel]

theorem skipLength_le (depth : Nat) (tokens : List Token) :
    skipLength depth tokens ≤ tokens.length := by
  fun_induction skipLength depth tokens <;> simp <;> omega

/-- Only the end of the block around stops recovery at once. -/
theorem skipLength_eq_zero_iff :
    skipLength depth (token :: rest) = 0 ↔ depth = 0 ∧ token.kind = .dedent := by
  rw [skipLength_cons]
  split <;> grind

/-- Something is skipped, unless the body ends. -/
theorem skipLength_eq_zero_iff_atBodyEnd {cursor : Cursor} :
    skipLength 0 cursor.ahead = 0 ↔ cursor.atBodyEnd = true := by
  unfold atBodyEnd atEnd kind
  cases shape : cursor.ahead with
  | nil => simp [skipLength]
  | cons token rest => simp [skipLength_eq_zero_iff]

theorem map_kind_take (count : Nat) (token : Token) (rest : List Token) :
    ((token :: rest).take (1 + count)).map Token.kind =
      token.kind :: (rest.take count).map Token.kind := by
  rw [Nat.add_comm, List.take_succ_cons, List.map_cons]

/-- The tokens skipped end the blocks around them, unless the file ends. -/
theorem nesting_take_skipLength (depth : Nat) (tokens : List Token) :
    ∃ after, nesting depth ((tokens.take (skipLength depth tokens)).map Token.kind) = some after ∧
      (after = 0 ∨ skipLength depth tokens = tokens.length) := by
  fun_induction skipLength depth tokens with
  | case1 depth => exact ⟨depth, rfl, .inr rfl⟩
  | case2 token rest depth kind ih =>
      obtain ⟨after, nested, ends⟩ := ih
      refine ⟨after, ?_, ends.imp_right (by simp; omega)⟩
      rwa [map_kind_take, kind]
  | case3 token rest kind => exact ⟨0, rfl, .inl rfl⟩
  | case4 token rest kind => exact ⟨0, by simp [kind], .inl rfl⟩
  | case5 token rest depth kind ih =>
      obtain ⟨after, nested, ends⟩ := ih
      refine ⟨after, ?_, ends.imp_right (by simp; omega)⟩
      rwa [map_kind_take, kind]
  | case6 token rest kind next ih =>
      obtain ⟨after, nested, ends⟩ := ih
      refine ⟨after, ?_, ends.imp_right (by simp; omega)⟩
      rwa [map_kind_take, kind, nesting_of_isLevel rfl]
  | case7 token rest kind next =>
      refine ⟨0, ?_, .inl rfl⟩
      rw [List.take_succ_cons, List.map_cons, kind, nesting_of_isLevel rfl]
      rfl
  | case8 token rest depth noIndent outer last inner line ih =>
      obtain ⟨after, nested, ends⟩ := ih
      refine ⟨after, ?_, ends.imp_right (by simp; omega)⟩
      have noDedent : token.kind ≠ .dedent := fun kind => by
        rcases depth with _ | _ | depth
        · exact outer kind rfl
        · exact last kind rfl
        · exact inner depth kind rfl
      have level : token.kind.isLevel = true := by
        simpa [TokenKind.isLevel, noDedent] using noIndent
      rwa [map_kind_take, nesting_of_isLevel level]

/-- Inside a block all of what is nested there is skipped. -/
theorem skipLength_append_of_nesting {inner : List Token} {depth after : Nat}
    (nested : nesting depth (inner.map Token.kind) = some after) (rest : List Token) :
    skipLength (depth + 1) (inner ++ rest) = inner.length + skipLength (after + 1) rest := by
  induction inner generalizing depth with
  | nil =>
      cases nested
      simp
  | cons token inner ih =>
      rw [List.map_cons] at nested
      rw [List.cons_append, List.length_cons]
      by_cases level : token.kind.isLevel = true
      · rw [nesting_of_isLevel level] at nested
        rw [skipLength_level level (.inl (Nat.succ_pos depth)), ih nested]
        omega
      rcases TokenKind.eq_of_not_isLevel level with kind | kind
      · rw [kind, nesting_indent] at nested
        rw [skipLength_indent kind, ih nested]
        omega
      · rw [kind] at nested
        cases depth with
        | zero => cases nested
        | succ depth =>
            rw [nesting_succ_dedent] at nested
            rw [skipLength_dedent kind, ih nested]
            omega

/-- What is skipped does not depend on what comes behind the next token. -/
theorem skipLength_append_congr {rest rest' : List Token} (same : rest.head? = rest'.head?)
    {front : List Token} (depth : Nat)
    (inside : skipLength depth (front ++ rest) ≤ front.length) :
    skipLength depth (front ++ rest') = skipLength depth (front ++ rest) := by
  induction front generalizing depth with
  | nil =>
      cases rest with
      | nil =>
          obtain rfl : rest' = [] := by simpa using same.symm
          rfl
      | cons token rest =>
          obtain ⟨rest', rfl⟩ : ∃ others, rest' = token :: others := by
            cases rest' with
            | nil => cases same
            | cons other others => exact ⟨others, by simpa using same.symm⟩
          have nothing : skipLength depth (token :: rest) = 0 := Nat.le_zero.mp inside
          exact (skipLength_eq_zero_iff.mpr (skipLength_eq_zero_iff.mp nothing)).trans nothing.symm
  | cons token front ih =>
      have next : kindAt (front ++ rest') = kindAt (front ++ rest) := by
        cases front with
        | nil => exact kindAt_congr same.symm
        | cons => rfl
      simp only [List.cons_append, List.length_cons] at inside ⊢
      by_cases level : token.kind.isLevel = true
      · by_cases inner : 0 < depth ∨ token.kind ≠ .newline
        · rw [skipLength_level level inner] at inside ⊢
          rw [skipLength_level level inner, ih depth (by omega)]
        · obtain ⟨rfl, kind⟩ : depth = 0 ∧ token.kind = .newline := by
            simpa using inner
          by_cases opens : kindAt (front ++ rest) = .indent
          · rw [skipLength_newline_indent kind opens] at inside ⊢
            rw [skipLength_newline_indent kind (next.trans opens), ih 0 (by omega)]
          · rw [skipLength_newline kind opens, skipLength_newline kind (next ▸ opens)]
      rcases TokenKind.eq_of_not_isLevel level with kind | kind
      · rw [skipLength_indent kind] at inside ⊢
        rw [skipLength_indent kind, ih (depth + 1) (by omega)]
      · rcases depth with _ | _ | depth
        · rw [skipLength_zero_dedent kind, skipLength_zero_dedent kind]
        · rw [skipLength_one_dedent kind, skipLength_one_dedent kind]
        · rw [skipLength_dedent kind] at inside ⊢
          rw [skipLength_dedent kind, ih (depth + 1) (by omega)]

/-! ## Moving past the tokens -/

variable {cursor : Cursor}

theorem advance_of_nil (ended : cursor.ahead = []) : cursor.advance = cursor := by
  unfold advance
  rw [ended]

theorem advance_of_cons (more : cursor.ahead = token :: rest) :
    cursor.advance =
      { cursor with
        ahead := rest
        last := if token.kind.isLayout then cursor.last else token.span
        position := cursor.position + 1 } := by
  unfold advance
  rw [more]

@[simp]
theorem ahead_advance (cursor : Cursor) : cursor.advance.ahead = cursor.ahead.tail := by
  unfold advance
  cases shape : cursor.ahead with
  | nil => exact shape
  | cons token rest => rfl

@[simp]
theorem problems_advance (cursor : Cursor) : cursor.advance.problems = cursor.problems := by
  unfold advance
  split <;> rfl

@[simp]
theorem ahead_advanceBy (count : Nat) (cursor : Cursor) :
    (cursor.advanceBy count).ahead = cursor.ahead.drop count := by
  induction count generalizing cursor with
  | zero => rfl
  | succ count ih =>
      rw [advanceBy, ih, ahead_advance, List.drop_tail]

@[simp]
theorem problems_advanceBy (count : Nat) (cursor : Cursor) :
    (cursor.advanceBy count).problems = cursor.problems := by
  induction count generalizing cursor with
  | zero => rfl
  | succ count ih => rw [advanceBy, ih, problems_advance]

/-- Recovery skips the statement in error and never needs to go further. -/
theorem recover_eq {start : Nat} (reached : start ≤ cursor.position)
    (problem : Located SyntaxError) :
    cursor.recover start problem =
      (cursor.record problem).advanceBy (skipLength 0 cursor.ahead) := by
  let skipped := (cursor.record problem).advanceBy (skipLength 0 cursor.ahead)
  have moved : (cursor.record problem).Onward skipped := Onward.advanceBy _ _
  have counted : skipped.position + (cursor.ahead.length - skipLength 0 cursor.ahead) =
      cursor.position + cursor.ahead.length := by
    have position := moved.position
    rwa [ahead_advanceBy, List.length_drop] at position
  change (if skipped.position == start && !skipped.atBodyEnd then skipped.advance else skipped) = _
  by_cases ends : skipLength 0 cursor.ahead = 0
  · have stays : skipped = cursor.record problem := by
      simp only [skipped, ends]
      rfl
    have ended : (cursor.record problem).atBodyEnd = true :=
      skipLength_eq_zero_iff_atBodyEnd.mp ends
    simp only [stays, ended, Bool.not_true, Bool.and_false, Bool.false_eq_true, if_false]
    exact stays.symm
  · have fits := skipLength_le 0 cursor.ahead
    have later : skipped.position ≠ start := by omega
    simp [later, skipped]

end Cursor
end ChocoLang
