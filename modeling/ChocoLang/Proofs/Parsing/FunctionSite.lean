import Mathlib.Data.List.TakeWhile
import ChocoLang.Proofs.Parsing.TopLevel

/-!
# A function among the tokens of a program

The tokens of a function are those of its first line and, between the beginning and the end of a
block, those of its body.  Where a step at the top level begins with the function, the same tokens
are ahead whatever stands in the body, up to the beginning of the body.
-/

namespace ChocoLang

/-! ## Tokens -/

/-- Text passed from a line on does not go beyond its end. -/
theorem PassesText.within_line {line rest after : List Token} {newline : Token}
    (ends : newline.kind = .newline) (inline : ∀ token ∈ line, token.kind.isLayout = false)
    (passed : PassesText (line ++ newline :: rest) after) :
    ∃ left, after = left ++ newline :: rest ∧ ∀ token ∈ left, token.kind.isLayout = false := by
  obtain ⟨passed, whole, text⟩ := passed
  rcases List.append_eq_append_iff.mp whole with ⟨beyond, rfl, shape⟩ | ⟨left, rfl, rfl⟩
  · cases beyond with
    | nil => exact ⟨[], shape.symm, by simp⟩
    | cons token beyond =>
        obtain ⟨rfl, -⟩ := List.cons_eq_cons.mp shape
        have layout := text newline (by simp)
        rw [ends] at layout
        cases layout
  · exact ⟨left, rfl, fun token among => inline token (List.mem_append_right _ among)⟩

/-- Whole blocks passed up to the end of a block are all that stand in it. -/
theorem PassesBlocks.eq_of_ends {inner rest after : List Token} {dedent : Token}
    (closes : dedent.kind = .dedent) (balanced : Balanced (inner.map Token.kind))
    (passed : PassesBlocks (inner ++ dedent :: rest) after)
    (ends : kindAt after = .dedent ∨ after = []) : after = dedent :: rest := by
  obtain ⟨passed, depth, whole, nested, level⟩ := passed
  rcases List.append_eq_append_iff.mp whole with ⟨beyond, rfl, shape⟩ | ⟨left, rfl, rfl⟩
  · cases beyond with
    | nil => exact shape.symm
    | cons token beyond =>
        obtain ⟨rfl, -⟩ := List.cons_eq_cons.mp shape
        rw [List.map_append, nesting_append, balanced] at nested
        simp [closes] at nested
  · obtain rfl : depth = 0 := level.resolve_right (by simp)
    rw [List.map_append, Balanced, nesting_append, nested, Option.bind_some] at balanced
    cases left with
    | nil => rfl
    | cons token left =>
        have stands : token.kind = .dedent := ends.resolve_right (by simp)
        simp [stands] at balanced

/-- A function among the tokens of a program, but for the tokens in its body. -/
structure FunctionSite where
  /-- The tokens before the function. -/
  before : List Token
  /-- The word that begins it. -/
  word : Token
  /-- The rest of its first line. -/
  line : List Token
  /-- The end of this line. -/
  newline : Token
  /-- The beginning of the body. -/
  indent : Token
  /-- The end of the body. -/
  dedent : Token
  /-- The tokens behind the function, up to the end of the file. -/
  after : List Token
  word_kind : word.kind = .keyword .kwDef
  line_isLayout : ∀ token ∈ line, token.kind.isLayout = false
  newline_kind : newline.kind = .newline
  indent_kind : indent.kind = .indent
  dedent_kind : dedent.kind = .dedent
  ended : ∃ token ∈ after, token.kind = .endOfFile

/-- The tokens may stand in a body: the blocks in it are whole, and the file does not end in it. -/
structure Indented (inner : List Token) : Prop where
  balanced : Balanced (inner.map Token.kind)
  more : ∀ token ∈ inner, token.kind ≠ .endOfFile

namespace FunctionSite

variable (site : FunctionSite) (inner : List Token)

/-- The tokens of the program with some tokens in the body of the function. -/
def tokens : List Token :=
  site.before ++ (site.word :: site.line) ++ [site.newline, site.indent] ++ inner ++ [site.dedent] ++
    site.after

theorem tokens_ne_nil : site.tokens inner ≠ [] := by simp [tokens]

/-- The tokens behind the function that are read. -/
def rest : List Token := site.after.takeWhile (·.kind != .endOfFile)

/-- The tokens that are read from the end of the first line of the function on. -/
def block : List Token := site.newline :: site.indent :: inner ++ site.dedent :: site.rest

variable {inner inner' : List Token}

/-- Recovery in the first line of a function skips its body, too. -/
theorem drop_skipLength {line : List Token} (inline : ∀ token ∈ line, token.kind.isLayout = false)
    (fills : Indented inner) :
    (line ++ site.block inner).drop (Cursor.skipLength 0 (line ++ site.block inner)) =
      site.rest := by
  induction line with
  | nil =>
      have opens : kindAt (site.indent :: inner ++ site.dedent :: site.rest) = .indent :=
        site.indent_kind
      have inside := Cursor.skipLength_append_of_nesting fills.balanced (site.dedent :: site.rest)
      rw [Cursor.skipLength_one_dedent site.dedent_kind] at inside
      have length : Cursor.skipLength 0 (site.block inner) = inner.length + 3 := by
        rw [block, List.cons_append, Cursor.skipLength_newline_indent site.newline_kind opens,
          List.cons_append, Cursor.skipLength_indent site.indent_kind, inside]
        omega
      rw [List.nil_append, length, block]
      simp
  | cons token line ih =>
      have text := inline token List.mem_cons_self
      have within : token.kind ≠ .newline := fun line => by
        rw [line] at text
        cases text
      rw [List.cons_append,
        Cursor.skipLength_level (TokenKind.isLevel_of_isLayout text) (.inr within), Nat.add_comm,
        List.drop_succ_cons]
      exact ih fun other among => inline other (List.mem_cons_of_mem _ among)

/-! ### Where the function begins -/

/-- No token up to the end of the body ends the file, unless one before the function does. -/
theorem more_of_mem (fills : Indented inner)
    (more : ∀ token ∈ site.before, token.kind ≠ .endOfFile) :
    ∀ token ∈ site.before ++ (site.word :: site.line) ++ [site.newline, site.indent] ++ inner ++
      [site.dedent], token.kind ≠ .endOfFile := by
  intro token among stands
  simp only [List.mem_append, List.mem_cons, List.not_mem_nil, or_false] at among
  obtain (((among | rfl | among) | rfl | rfl) | among) | rfl := among
  · exact more token among stands
  · simp [site.word_kind] at stands
  · have text := site.line_isLayout token among
    rw [stands] at text
    cases text
  · simp [site.newline_kind] at stands
  · simp [site.indent_kind] at stands
  · exact fills.more token among stands
  · simp [site.dedent_kind] at stands

theorem ahead_ofTokens (fills : Indented inner)
    (more : ∀ token ∈ site.before, token.kind ≠ .endOfFile) :
    (Cursor.ofTokens (site.tokens inner) (site.tokens_ne_nil inner)).ahead =
      site.before ++ (site.word :: site.line ++ site.block inner) := by
  have read : (site.tokens inner).takeWhile (·.kind != .endOfFile) = _ ++ site.rest :=
    List.takeWhile_append_of_pos fun token among => by
      simpa using site.more_of_mem fills more token among
  simpa [Cursor.ofTokens, block] using read

/-- The first token that ends the file stands behind the function. -/
theorem exists_ending (more : ∀ token ∈ site.before, token.kind ≠ .endOfFile) :
    ∃ ending, ending.kind = .endOfFile ∧ ∀ inner, Indented inner →
      (Cursor.ofTokens (site.tokens inner) (site.tokens_ne_nil inner)).ending = ending := by
  obtain ⟨ending, found⟩ : ∃ ending, site.after.find? (·.kind == .endOfFile) = some ending := by
    obtain ⟨token, among, stands⟩ := site.ended
    rw [← Option.isSome_iff_exists, List.find?_isSome]
    exact ⟨token, among, by simpa using stands⟩
  refine ⟨ending, by simpa using List.find?_some found, fun inner fills => ?_⟩
  have earlier : (site.before ++ (site.word :: site.line) ++ [site.newline, site.indent] ++ inner ++
      [site.dedent]).find? (·.kind == .endOfFile) = none :=
    List.find?_eq_none.mpr fun token among => by simpa using site.more_of_mem fills more token among
  have first : (site.tokens inner).find? (·.kind == .endOfFile) = some ending := by
    rw [tokens, List.find?_append, earlier, Option.none_or, found]
  simp only [Cursor.ofTokens, first, Option.getD_some]

/-- With other tokens in the body the program begins the same. -/
theorem last_ofTokens :
    (Cursor.ofTokens (site.tokens inner) (site.tokens_ne_nil inner)).last =
      (Cursor.ofTokens (site.tokens inner') (site.tokens_ne_nil inner')).last := by
  obtain ⟨before, _⟩ := site
  cases before <;> rfl

/-- The tokens before the function do not end the file if a step begins with the function. -/
theorem more_of_reaches {read : ProgramBody} {cursor : Cursor}
    (reached : Parse.Reaches (.ofTokens (site.tokens inner) (site.tokens_ne_nil inner)) read cursor)
    (stands : cursor.position = site.before.length) :
    ∀ token ∈ site.before, token.kind ≠ .endOfFile := by
  have moved := reached.onward.position
  have start : (Cursor.ofTokens (site.tokens inner) (site.tokens_ne_nil inner)).position = 0 := rfl
  have long : site.before.length ≤
      ((site.tokens inner).takeWhile (·.kind != .endOfFile)).length := by
    change _ = _ + ((site.tokens inner).takeWhile (·.kind != .endOfFile)).length at moved
    omega
  simp only [tokens, List.append_assoc] at long
  rw [List.takeWhile_append] at long
  have taken : (site.before.takeWhile (·.kind != .endOfFile)).length = site.before.length := by
    by_contra short
    rw [if_neg short] at long
    exact short (Nat.le_antisymm (List.takeWhile_prefix _).length_le long)
  have whole := (List.takeWhile_prefix _).eq_of_length taken
  simpa using List.takeWhile_eq_self_iff.mp whole

theorem ahead_of_reaches (fills : Indented inner) {read : ProgramBody} {cursor : Cursor}
    (reached : Parse.Reaches (.ofTokens (site.tokens inner) (site.tokens_ne_nil inner)) read cursor)
    (stands : cursor.position = site.before.length) :
    cursor.ahead = site.word :: site.line ++ site.block inner := by
  have moved := reached.onward.position
  obtain ⟨passed, whole⟩ := reached.onward.ahead
  rw [site.ahead_ofTokens fills (site.more_of_reaches reached stands)] at whole moved
  refine (List.append_inj' whole ?_).2
  have start : (Cursor.ofTokens (site.tokens inner) (site.tokens_ne_nil inner)).position = 0 := rfl
  rw [start, stands, List.length_append] at moved
  omega

end FunctionSite
end ChocoLang
