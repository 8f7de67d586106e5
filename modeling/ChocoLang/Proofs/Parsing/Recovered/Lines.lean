import ChocoLang.Proofs.Parsing.Recovered.Account

/-!
# Accounts from cursor to cursor

From the cursor at which a statement begins to one further on, what has been read and found there
gives an account of the tokens in between: inside the statement of its inner blocks, behind it of
all.  A statement that is left out is accounted for by its problems.  So a body, which is read
statement by statement, is accounted for as a whole.
-/

namespace ChocoLang

/-! ## Text -/

namespace Sheet

variable {sheet : Sheet} {p q : Nat}

theorem level_of_text (behind : p ≤ q) (text : ∀ i, p ≤ i → i < q → sheet.Text i) :
    sheet.level q = sheet.level p := by
  induction q, behind using Nat.le_induction with
  | base => rfl
  | succ q behind ih =>
      rw [level_of_isLevel (TokenKind.isLevel_of_isLayout (text q behind (Nat.lt_succ_self q)))]
      exact ih fun i after before => text i after (Nat.lt_succ_of_lt before)

/-- Text is whole. -/
theorem Whole.of_text (behind : p ≤ q) (text : ∀ i, p ≤ i → i < q → sheet.Text i) :
    sheet.Whole p q :=
  ⟨behind, level_of_text behind text, fun _ after before =>
    (level_of_text after fun j later early => text j later (early.trans_le before)).ge⟩

/-- There is no code of inner blocks in text. -/
theorem Account.of_text (text : ∀ i, p ≤ i → i < q → sheet.Text i) {floor : Int}
    (inner : sheet.level p < floor) : sheet.Account floor p q [] [] :=
  .vacant fun i after before _ => by
    rw [level_of_text after fun j later early => text j later (early.trans before)]
    omega

/-- A token that is no code need not be accounted for. -/
theorem Account.step (noCode : ¬sheet.Code p) (floor : Int) :
    sheet.Account floor p (p + 1) [] [] :=
  .vacant fun i after before code => by
    obtain rfl : i = p := by omega
    exact absurd code noCode

theorem not_code_of_isLayout (layout : (sheet.token p).kind.isLayout = true) : ¬sheet.Code p :=
  fun code => by
    have text := code.text
    rw [Text, layout] at text
    cases text

end Sheet

/-! ## Where a line may begin -/

namespace Cursor

/-- The last token that is skipped is layout, unless the block or the file ends behind it. -/
theorem skipLength_stops (depth : Nat) (tokens : List Token) :
    kindAt (tokens.drop (skipLength depth tokens)) = .endOfFile ∨
      kindAt (tokens.drop (skipLength depth tokens)) = .dedent ∨
      ∃ token ∈ (tokens.take (skipLength depth tokens)).getLast?, token.kind.isLayout = true := by
  have further {token : Token} {rest : List Token} {count : Nat}
      (stops : kindAt (rest.drop count) = .endOfFile ∨ kindAt (rest.drop count) = .dedent ∨
        ∃ last ∈ (rest.take count).getLast?, last.kind.isLayout = true) :
      kindAt ((token :: rest).drop (1 + count)) = .endOfFile ∨
        kindAt ((token :: rest).drop (1 + count)) = .dedent ∨
        ∃ last ∈ ((token :: rest).take (1 + count)).getLast?, last.kind.isLayout = true := by
    rw [Nat.add_comm, List.drop_succ_cons, List.take_succ_cons]
    refine stops.imp_right (Or.imp_right ?_)
    rintro ⟨last, among, layout⟩
    refine ⟨last, ?_, layout⟩
    rw [List.getLast?_cons, Option.mem_def.mp among]
    rfl
  fun_induction skipLength depth tokens with
  | case1 depth => exact .inl rfl
  | case2 token rest depth kind ih => exact further ih
  | case3 token rest kind => exact .inr (.inl kind)
  | case4 token rest kind => exact .inr (.inr ⟨token, rfl, by rw [kind]; rfl⟩)
  | case5 token rest depth kind ih => exact further ih
  | case6 token rest kind next ih => exact further ih
  | case7 token rest kind next => exact .inr (.inr ⟨token, rfl, by rw [kind]; rfl⟩)
  | case8 token rest depth noIndent outer last inner line ih => exact further ih

variable {sheet : Sheet} {cursor : Cursor}

/-- Behind layout no line ends. -/
theorem On.kind_ne_newline (on : cursor.On sheet) {place : Nat}
    (before : cursor.position = place + 1) (layout : ¬sheet.Text place) :
    cursor.kind ≠ .newline := by
  intro ends
  obtain ⟨other, same, text⟩ := Sheet.exists_text_of_newline (on.kind ▸ ends)
  obtain rfl : other = place := by omega
  exact layout text

theorem On.fresh_advance (on : cursor.On sheet) (layout : cursor.kind.isLayout = true)
    (more : cursor.kind ≠ .endOfFile) : cursor.advance.kind ≠ .newline := by
  rw [on.kind] at layout more
  refine on.advance.kind_ne_newline (on.position_advance (Sheet.lt_of_kind more)) fun text => ?_
  rw [Sheet.Text, layout] at text
  cases text

/-- Where no line ends and no body either, a block or a line begins. -/
theorem On.indent_or_text (on : cursor.On sheet) (fresh : cursor.kind ≠ .newline)
    (more : cursor.atBodyEnd = false) :
    cursor.kind = .indent ∨ sheet.Text cursor.position := by
  obtain ⟨noDedent, further⟩ : cursor.kind ≠ .dedent ∧ cursor.ahead ≠ [] := by
    simpa [atBodyEnd, atEnd] using more
  have inside : cursor.position < sheet.tokens.length := by
    simpa [on.ahead] using further
  have notEnd := sheet.more _ (Sheet.token_mem inside)
  rw [on.kind] at fresh noDedent ⊢
  rw [Sheet.Text]
  cases kind : (sheet.token cursor.position).kind <;> simp_all [TokenKind.isLayout]

theorem position_advanceBy {count : Nat} (fits : count ≤ cursor.ahead.length) :
    (cursor.advanceBy count).position = cursor.position + count := by
  have counted := (Onward.advanceBy count cursor).position
  rw [ahead_advanceBy, List.length_drop] at counted
  omega

/-- Behind a statement in error no line ends. -/
theorem On.fresh_recover (on : cursor.On sheet) {start : Nat} (reached : start ≤ cursor.position)
    (problem : Located SyntaxError) : (cursor.recover start problem).kind ≠ .newline := by
  have on' := on.moves (.recover start problem cursor)
  have fits := skipLength_le 0 cursor.ahead
  rw [recover_eq reached] at on' ⊢
  have position : ((cursor.record problem).advanceBy (skipLength 0 cursor.ahead)).position =
      cursor.position + skipLength 0 cursor.ahead := position_advanceBy fits
  intro ends
  have kind := ends
  rw [kind_eq_kindAt, ahead_advanceBy] at kind
  rcases skipLength_stops 0 cursor.ahead with none | closes | ⟨token, last, layout⟩
  · exact nomatch none.symm.trans kind
  · exact nomatch closes.symm.trans kind
  · rw [on'.kind, position] at ends
    obtain ⟨place, same, text⟩ := Sheet.exists_text_of_newline ends
    generalize skipLength 0 cursor.ahead = count at fits same last
    rcases count with _ | count
    · simp at last
    have stands : cursor.ahead[count]? = some token := by
      simpa [List.getLast?_take, List.getElem?_eq_getElem (Nat.lt_of_succ_le fits)] using last
    have there : cursor.position + count = place := by omega
    rw [on.ahead, List.getElem?_drop, there] at stands
    rw [Sheet.Text, Sheet.token, stands, Option.getD_some, layout] at text
    cases text

end Cursor

/-! ## From cursor to cursor -/

/-- From the start to the cursor, what was read and found gives an account of the tokens. -/
structure Cursor.Accounts (sheet : Sheet) (floor : Int) (start : Cursor) (parts : List Span)
    (cursor : Cursor) : Prop where
  on : cursor.On sheet
  whole : sheet.Whole start.position cursor.position
  account : ∃ found, cursor.problems = start.problems ++ found ∧
    sheet.Account floor start.position cursor.position parts found

/-- At the cursor a statement or declaration that begins at the start goes on. -/
structure Cursor.Inside (sheet : Sheet) (start : Cursor) (parts : List Span) (cursor : Cursor) :
    Prop extends Cursor.Accounts sheet (sheet.level start.position + 1) start parts cursor where
  begun : start.On sheet
  text : sheet.Text start.position
  moved : start.position < cursor.position

/-- From the start to the cursor, something in the same block begins with the word. -/
def Cursor.Begins (sheet : Sheet) (start cursor : Cursor) (word : Span) : Prop :=
  ∃ place, start.position ≤ place ∧ place < cursor.position ∧ sheet.Text place ∧
    sheet.level place = sheet.level start.position ∧ (sheet.token place).span = word

/-- At the cursor statements and declarations that begin at the start are at an end. -/
structure Cursor.Finishes (sheet : Sheet) (start : Cursor) (parts : List Span) (cursor : Cursor) :
    Prop extends Cursor.Accounts sheet (sheet.level start.position) start parts cursor where
  /-- The end of the last line has been read, too. -/
  fresh : cursor.kind ≠ .newline

namespace Cursor

variable {sheet : Sheet} {floor : Int} {start middle cursor after : Cursor}
  {parts others : List Span}

namespace Accounts

theorem refl (on : start.On sheet) (floor : Int) : start.Accounts sheet floor [] start :=
  ⟨on, .refl _, [], by simp, .refl floor _⟩

theorem trans (first : start.Accounts sheet floor parts middle)
    (second : middle.Accounts sheet floor others after) :
    start.Accounts sheet floor (parts ++ others) after := by
  obtain ⟨-, whole, found, problems, account⟩ := first
  obtain ⟨on, whole', more, problems', account'⟩ := second
  exact ⟨on, whole.trans whole', found ++ more, by rw [problems', problems, List.append_assoc],
    account.append whole.le whole'.le account'⟩

theorem of_mem_iff (accounts : start.Accounts sheet floor parts cursor)
    (same : ∀ part, part ∈ others ↔ part ∈ parts) : start.Accounts sheet floor others cursor := by
  obtain ⟨on, whole, found, problems, account⟩ := accounts
  exact ⟨on, whole, found, problems, account.of_mem_iff same⟩

/-- Text need not be accounted for where only inner blocks are. -/
theorem of_text (on : start.On sheet) (on' : cursor.On sheet)
    (passes : PassesText start.ahead cursor.ahead) (same : cursor.problems = start.problems) :
    start.Accounts sheet (sheet.level start.position + 1) [] cursor := by
  obtain ⟨behind, text⟩ := on.text_of_passes on' passes
  exact ⟨on', .of_text behind text, [], by simp [same], .of_text text (by omega)⟩

/-- A token that is no code need not be accounted for. -/
theorem step (on : cursor.On sheet) (level : cursor.kind.isLevel = true)
    (noCode : ¬sheet.Code cursor.position) (more : cursor.kind ≠ .endOfFile) (floor : Int) :
    cursor.Accounts sheet floor [] cursor.advance := by
  rw [on.kind] at level more
  have position := on.position_advance (Sheet.lt_of_kind more)
  refine ⟨on.advance, position ▸ .step level, [], by simp, position ▸ .step noCode floor⟩

end Accounts

theorem Begins.mono {word : Span} (begins : start.Begins sheet cursor word)
    (further : cursor.position ≤ after.position) : start.Begins sheet after word := by
  obtain ⟨place, behind, before, stands⟩ := begins
  exact ⟨place, behind, before.trans_le further, stands⟩

namespace Inside

theorem append (inside : start.Inside sheet parts cursor)
    (accounts : cursor.Accounts sheet (sheet.level cursor.position + 1) others after) :
    start.Inside sheet (parts ++ others) after := by
  have further := accounts.whole.le
  rw [inside.whole.level] at accounts
  exact ⟨inside.toAccounts.trans accounts, inside.begun, inside.text,
    inside.moved.trans_le further⟩

/-- Text belongs to the line in which it stands. -/
theorem keep (inside : start.Inside sheet parts cursor) (on : after.On sheet)
    (passes : PassesText cursor.ahead after.ahead) (same : after.problems = cursor.problems) :
    start.Inside sheet parts after := by
  simpa using inside.append (.of_text inside.on on passes same)

/-- What begins with text has begun behind it. -/
theorem begin (on : start.On sheet) (text : start.kind.isLayout = false) :
    start.Inside sheet [] start.advance := by
  rw [on.kind] at text
  have position := on.position_advance (Sheet.Text.lt text)
  have passes : PassesText start.ahead start.advance.ahead :=
    Parse.passes_advance (on.kind ▸ text)
  exact ⟨.of_text on on.advance passes (by simp), on, text, by omega⟩

/-- Problems that need not cost any code may be recorded on the way. -/
theorem record (inside : start.Inside sheet parts cursor) {more : List (Located SyntaxError)}
    (spares : ∀ problem ∈ more, ∃ place, start.position ≤ place ∧ place < cursor.position ∧
      problem.Spares (sheet.token place)) :
    start.Inside sheet parts { cursor with problems := cursor.problems ++ more } := by
  obtain ⟨⟨on, whole, found, problems, account⟩, begun, text, moved⟩ := inside
  exact ⟨⟨⟨on.ahead, on.ending, on.inside, on.behind⟩, whole, found ++ more, by simp [problems],
    account.record spares⟩, begun, text, moved⟩

theorem begins (inside : start.Inside sheet parts cursor) :
    start.Begins sheet cursor start.current.span :=
  ⟨start.position, Nat.le_refl _, inside.moved, inside.text, rfl, by rw [inside.begun.current]⟩

/-- What begins at the start takes all of its block, beside what else begins there. -/
theorem cover (inside : start.Inside sheet others cursor) {words : List Span}
    (first : start.current.span ∈ words)
    (begins : ∀ word ∈ words, start.Begins sheet cursor word) :
    start.Accounts sheet (sheet.level start.position)
      ((words.map fun word => cursor.spanFrom word) ++ others) cursor := by
  obtain ⟨⟨on, whole, found, problems, account⟩, begun, text, moved⟩ := inside
  obtain ⟨starts, stops⟩ := on.spanFrom moved text
  rw [← begun.current] at starts stops
  refine ⟨on, whole, found, problems,
    account.cover whole text (List.mem_map_of_mem first) ?_ ?_ fun part among => ?_⟩
  · rw [starts, begun.current]
  · intro i before plain
    rw [stops]
    exact (on.behind i before plain).1
  · obtain ⟨word, chosen, rfl⟩ := List.mem_map.mp among
    obtain ⟨place, behind, before, plain, level, rfl⟩ := begins word chosen
    obtain ⟨starts, stops⟩ := on.spanFrom before plain
    obtain ⟨-, other, inside, text', last⟩ := on.behind place before plain
    exact ⟨⟨⟨place, behind, before, plain, level.ge, starts.symm⟩,
      other, inside, text', by rw [stops, last]⟩, place, plain, level, starts.symm⟩

end Inside
end Cursor
end ChocoLang
