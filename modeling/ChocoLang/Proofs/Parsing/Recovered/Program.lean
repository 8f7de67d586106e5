import ChocoLang.Proofs.Parsing.Recovered.Function

/-!
# The tokens of a body

Where a function stands, the tokens of the program are those before it, those of its first line,
those of its body and those behind.  In the body, places are counted from its first token on; what a
span takes there it takes among all tokens, and so the losses of a function are what its parts lose.
-/

namespace ChocoLang

/-! ## Stretches of tokens -/

namespace Sheet

variable {sheet : Sheet} {p q : Nat}

/-- From a place on stand the tokens up to a later place, and then the others. -/
theorem drop_eq_append (le : p ≤ q) :
    sheet.tokens.drop p = sheet.tokens.extract p q ++ sheet.tokens.drop q := by
  have rest : (sheet.tokens.drop p).drop (q - p) = sheet.tokens.drop q := by
    rw [List.drop_drop, Nat.add_sub_cancel' le]
  rw [List.extract_eq_take_drop, ← rest, List.take_append_drop]

theorem mem_getElem?_extract {token : Token} {place : Nat} (inside : q ≤ sheet.tokens.length) :
    token ∈ (sheet.tokens.extract p q)[place]? ↔
      p + place < q ∧ sheet.token (p + place) = token := by
  rw [List.extract_eq_take_drop, List.getElem?_take, List.getElem?_drop]
  split
  · next early =>
      rw [getElem?_of_lt (by omega)]
      simp [show p + place < q by omega]
  · next late => simp [show ¬p + place < q by omega]

/-- Balanced tokens are whole blocks. -/
theorem whole_iff_balanced (le : p ≤ q) (inside : q ≤ sheet.tokens.length) :
    sheet.Whole p q ↔ Balanced ((sheet.tokens.extract p q).map Token.kind) := by
  constructor
  · intro whole
    have shape : sheet.tokens.drop p = sheet.tokens.extract p q ++ sheet.tokens.drop q :=
      drop_eq_append le
    obtain ⟨long, -⟩ := passed_spec (le.trans inside) inside shape
    have level (count : Nat) (fits : count ≤ (sheet.tokens.extract p q).length) :=
      level_add (le.trans inside) inside shape fits
    generalize sheet.tokens.extract p q = passed at long level
    refine balanced_iff.mpr ⟨fun front within => ?_, ?_⟩
    · rw [List.prefix_iff_eq_take.mp within, ← List.map_take]
      have fits : front.length ≤ passed.length := by simpa using within.length_le
      have above := whole.above (p + front.length) (Nat.le_add_right _ _) (by omega)
      rw [level _ fits] at above
      omega
    · have same := whole.level
      rw [long, level _ (Nat.le_refl _), List.take_length] at same
      omega
  · intro balanced
    refine whole_of_passes (le.trans inside) inside ?_
    exact ⟨_, 0, drop_eq_append le, balanced, .inl rfl⟩

/-! ## What is taken in a stretch -/

section Stretch

variable (inside : q ≤ sheet.tokens.length)
include inside

/-- In a stretch of tokens its spans take what they take among all tokens. -/
theorem takes_iff {floor : Int} {part : Span} (lies : sheet.Lies floor p q part) {place : Nat}
    (before : p + place < q) :
    part.Takes (sheet.tokens.extract p q) place ↔ sheet.Takes part (p + place) := by
  have stretch (first : Nat) : (sheet.tokens.extract p q).extract first place =
      sheet.tokens.extract (p + first) (p + place) := by
    simp only [List.extract_eq_take_drop, List.drop_take, List.take_take, List.drop_drop]
    congr 1
    omega
  have stands : sheet.token (p + place) ∈ (sheet.tokens.extract p q)[place]? :=
    (mem_getElem?_extract inside).mpr ⟨before, rfl⟩
  constructor
  · rintro ⟨first, early, balanced, ⟨start, starts, text, begins⟩, token, same, stops⟩
    obtain ⟨-, rfl⟩ := (mem_getElem?_extract inside).mp starts
    obtain ⟨-, rfl⟩ := (mem_getElem?_extract inside).mp same
    rw [stretch, ← whole_iff_balanced (by omega) (by omega)] at balanced
    exact ⟨p + first, balanced, text, begins, stops⟩
  · rintro ⟨first, whole, text, begins, stops⟩
    obtain ⟨⟨other, behind, -, text', -, begins'⟩, -⟩ := lies
    obtain rfl := eq_of_start_eq text' text (begins'.trans begins.symm)
    obtain ⟨first, rfl⟩ := Nat.exists_eq_add_of_le behind
    have early := whole.le
    refine ⟨first, by omega, ?_, ⟨sheet.token (p + first), ?_, text, begins⟩, _, stands, stops⟩
    · rw [stretch, ← whole_iff_balanced (by omega) (by omega)]
      exact whole
    · exact (mem_getElem?_extract inside).mpr ⟨by omega, rfl⟩

/-- The losses of a function are what its parts lose in its body. -/
theorem losses_ne_nil_iff {function : FunctionDef} (whole : sheet.Whole p q)
    (lies : ∀ part ∈ function.parts, sheet.Lies (sheet.level p) p q part) :
    function.losses (sheet.tokens.extract p q) ≠ [] ↔
      sheet.Loses (sheet.level p) p q function.parts := by
  rw [FunctionDef.losses_ne_nil_iff]
  constructor
  · rintro ⟨place, ⟨token, stands, code⟩, free⟩
    obtain ⟨before, rfl⟩ := (mem_getElem?_extract inside).mp stands
    exact ⟨p + place, Nat.le_add_right _ _, before, code,
      whole.above _ (Nat.le_add_right _ _) before.le, fun part among takes =>
        free part among ((takes_iff inside (lies part among) before).mpr takes)⟩
  · rintro ⟨place, behind, before, code, -, free⟩
    obtain ⟨place, rfl⟩ := Nat.exists_eq_add_of_le behind
    exact ⟨place, ⟨_, (mem_getElem?_extract inside).mpr ⟨before, rfl⟩, code⟩,
      fun part among takes =>
        free part among ((takes_iff inside (lies part among) before).mp takes)⟩

theorem spared_iff {found : List (Located SyntaxError)} :
    sheet.Spared p q found ↔
      ∃ problem ∈ found, ∃ token ∈ sheet.tokens.extract p q, problem.Spares token := by
  constructor
  · rintro ⟨place, behind, before, problem, among, spares⟩
    obtain ⟨place, rfl⟩ := Nat.exists_eq_add_of_le behind
    have stands := (mem_getElem?_extract inside).mpr ⟨before, rfl⟩
    exact ⟨problem, among, _, List.mem_of_getElem? stands, spares⟩
  · rintro ⟨problem, among, token, stands, spares⟩
    obtain ⟨place, stands⟩ := List.mem_iff_getElem?.mp stands
    obtain ⟨before, rfl⟩ := (mem_getElem?_extract inside).mp stands
    exact ⟨p + place, Nat.le_add_right _ _, before, problem, among, spares⟩

end Stretch
end Sheet

/-! ## The site of a function -/

namespace Footing.Holds

variable {sheet : Sheet} {footing : Footing} {known : List (Located SyntaxError)}
  {function : FunctionDef} (holds : footing.Holds sheet known function)
include holds

theorem close_lt : footing.close < sheet.tokens.length :=
  Sheet.lt_of_kind (by simp [holds.body.dedent])

/-- The function among the tokens of the program. -/
def site : FunctionSite where
  before := sheet.tokens.take footing.word
  word := sheet.token footing.word
  line := sheet.tokens.extract (footing.word + 1) footing.signed.position
  newline := sheet.token footing.signed.position
  indent := sheet.token (footing.signed.position + 1)
  dedent := sheet.token footing.close
  after := sheet.tokens.drop (footing.close + 1) ++ [sheet.ending]
  word_kind := holds.word
  line_isLayout token among := by
    obtain ⟨place, stands⟩ := List.mem_iff_getElem?.mp among
    obtain ⟨before, rfl⟩ := (Sheet.mem_getElem?_extract holds.body.on.inside).mp stands
    exact holds.text _ (by omega) before
  newline_kind := holds.body.newline
  indent_kind := holds.body.indent
  dedent_kind := holds.body.dedent
  ended := ⟨sheet.ending, by simp, sheet.ended⟩

/-- The tokens of the body. -/
def inner (_ : footing.Holds sheet known function) : List Token :=
  sheet.tokens.extract (footing.signed.position + 2) footing.close

theorem rest_site : holds.site.rest = sheet.tokens.drop (footing.close + 1) := by
  have plain : ∀ token ∈ sheet.tokens.drop (footing.close + 1), (token.kind != .endOfFile) = true :=
    fun token among => by simpa using sheet.more token (List.mem_of_mem_drop among)
  rw [FunctionSite.rest, site, List.takeWhile_append_of_pos plain]
  simp [sheet.ended]

/-- From the end of the first line on stand the block of the function and what is behind it. -/
theorem block_site : holds.site.block holds.inner = sheet.tokens.drop footing.signed.position := by
  have le := holds.body.whole.le
  have close := holds.close_lt
  have line : sheet.tokens.drop footing.signed.position = sheet.token footing.signed.position ::
      sheet.tokens.drop (footing.signed.position + 1) := Sheet.drop_eq_cons (by omega)
  have opens : sheet.tokens.drop (footing.signed.position + 1) =
      sheet.token (footing.signed.position + 1) ::
        sheet.tokens.drop (footing.signed.position + 2) := Sheet.drop_eq_cons (by omega)
  rw [FunctionSite.block, rest_site, line, opens, Sheet.drop_eq_append le, Sheet.drop_eq_cons close]
  rfl

theorem tokens_site : holds.site.tokens holds.inner = sheet.tokens ++ [sheet.ending] := by
  have further := holds.further
  have inside := holds.body.on.inside
  have word : sheet.tokens.drop footing.word = sheet.token footing.word ::
      sheet.tokens.drop (footing.word + 1) := Sheet.drop_eq_cons (by omega)
  have line : sheet.tokens.drop (footing.word + 1) =
      holds.site.line ++ sheet.tokens.drop footing.signed.position :=
    Sheet.drop_eq_append (Nat.le_of_lt further)
  have whole : sheet.tokens = holds.site.before ++ (holds.site.word ::
      (holds.site.line ++ holds.site.block holds.inner)) := by
    rw [block_site, ← line]
    exact (List.take_append_drop footing.word _).symm.trans (congrArg _ word)
  rw [whole, FunctionSite.block, rest_site, FunctionSite.tokens]
  simp [site]

/-- The name of the function stands behind the word that begins it. -/
theorem name_site :
    ∃ name ∈ holds.site.line.head?, name.span = function.heading.name.info.span := by
  refine ⟨sheet.token (footing.word + 1), ?_, holds.name⟩
  rw [List.head?_eq_getElem?]
  exact (Sheet.mem_getElem?_extract holds.body.on.inside).mpr ⟨holds.further, rfl⟩

theorem indented : Indented holds.inner where
  balanced := (Sheet.whole_iff_balanced holds.body.whole.le holds.close_lt.le).mp holds.body.whole
  more token among := sheet.more token <| by
    obtain ⟨place, stands⟩ := List.mem_iff_getElem?.mp among
    obtain ⟨before, rfl⟩ := (Sheet.mem_getElem?_extract holds.close_lt.le).mp stands
    exact Sheet.token_mem (before.trans holds.close_lt)

end Footing.Holds
end ChocoLang

/-!
## Which functions tell that code was lost

A function tells that problems were found in its body if and only if some code of the body is taken
by nothing in the function, or one of the problems need not have cost any code: the body of an inner
function is empty, a block begins without need, or the empty statement is followed by another one on
its line.
-/

namespace ChocoLang

namespace Parse

variable {sheet : Sheet} {start : Cursor}

/-! ## Programs -/

theorem topDeclaration_grounds (on : start.On sheet) :
    Carries (· = start) topDeclaration fun decl cursor => cursor.Grounds sheet [decl] := by
  refine .atStart ?_
  split
  · next kind => exact (functionsAccounted nestingLimit start on kind).mono fun _ _ holds => holds.1
  · exact .atStart ((classDefinition_grounds nestingLimit (functionsAccounted nestingLimit)
      (fun _ => functionDefinition_opens nestingLimit) _ on).mono fun _ _ holds => holds.1)
  · exact (variableDefinition_finishes nestingLimit on).mono fun _ cursor holds =>
      .of_nil holds.1 cursor

theorem programStep_grounds (read : ProgramBody) :
    Recovering.Carries (OnGround sheet read.declarations) (programStep read)
      fun read => OnGround sheet read.declarations := by
  intro cursor stands
  rw [programStep_apply]
  split
  · exact stands.moves (.advance .refl)
  split
  · refine recovering_grounds ProgramBody.declarations (fun cursor value final stands ok => ?_)
      cursor stands
    obtain ⟨decl, middle, read', ok⟩ := exists_of_bind ok
    have grounds := topDeclaration_grounds stands.1 cursor decl middle rfl read'
    have before := stands.2.later (onward_of_ok read').problems
    rw [declareIn_apply] at ok
    split at ok
    · cases ok
      exact before.append grounds
    · cases ok
      exact before.later (List.prefix_append _ _)
  · refine recovering_grounds ProgramBody.declarations (fun cursor value final stands ok => ?_)
      cursor stands
    obtain ⟨stmt, middle, read', ok⟩ := exists_of_bind ok
    cases ok
    exact stands.2.later (onward_of_ok read').problems

/-- The functions of a program stand somewhere among its tokens. -/
theorem programBody_grounds (on : start.On sheet) :
    (programBody start).2.Grounds sheet (programBody start).1.declarations :=
  (repeatUntil_carries programStep_grounds start.ahead.length {} start ⟨on, .nil start⟩).2

end Parse

open Parse

/-- The function stands at the site, with a body that reading comes to what is in the function. -/
structure FunctionDef.StandsAt (function : FunctionDef) (tokens : List Token) (site : FunctionSite)
    (body : List Token) (reading : BodyReading) : Prop where
  tokens : tokens = site.tokens body
  fills : Indented body
  /-- The name of the function stands behind the word that begins it. -/
  name : ∃ name ∈ site.line.head?, name.span = function.heading.name.info.span
  /-- The body is read from the end of the first line on, up to what stands behind the function. -/
  reads : ∃ room cursor, cursor.ahead = site.block body ∧ reading.Of room cursor site.rest
  declarations : function.declarations = reading.content.declarations
  statements : function.statements = reading.content.statements

namespace Program

/-- Every function of a program stands at some site, and its account is kept there. -/
theorem exists_footing {file source : String} {lexing : Lexing}
    (read : Lexing.ofSource file source = .ok lexing) {function : FunctionDef}
    (among : function ∈ (ofLexing file lexing).functionDefs) :
    ∃ (sheet : Sheet) (known : List (Located SyntaxError)) (footing : Footing),
      lexing.tokens = sheet.tokens ++ [sheet.ending] ∧ footing.Holds sheet known function ∧
        ∀ problem ∈ known, problem.toDiagnostic ∈ (ofLexing file lexing).errors := by
  obtain ⟨sheet, shape⟩ := Sheet.exists_of_ofSource read
  let start := Cursor.ofTokens lexing.tokens lexing.tokens_ne_nil
  obtain ⟨footing, holds⟩ :=
    programBody_grounds (sheet.on_ofTokens lexing.tokens_ne_nil shape) function among
  refine ⟨sheet, _, footing, shape, holds, fun problem found => ?_⟩
  exact List.mem_append_right _ (List.mem_map_of_mem found)

/--
A function tells that problems were found in its body if and only if code of the body is lost, or
one of these problems, of which the program reports all, is found at a token of the body where it
need not cost any code.
-/
theorem recovered_iff {file source : String} {lexing : Lexing}
    (read : Lexing.ofSource file source = .ok lexing) {function : FunctionDef}
    (among : function ∈ (ofLexing file lexing).functionDefs) :
    ∃ site body reading, function.StandsAt lexing.tokens site body reading ∧
      (∀ problem ∈ reading.problems, problem.toDiagnostic ∈ (ofLexing file lexing).errors) ∧
      (function.recovered = true ↔ function.losses body ≠ [] ∨
        ∃ problem ∈ reading.problems, ∃ token ∈ body, problem.Spares token) := by
  obtain ⟨sheet, known, footing, shape, holds, reported⟩ := exists_footing read among
  have close := holds.close_lt.le
  have account := holds.body.account
  have parts : function.parts = footing.reading.content.spans := by
    rw [FunctionDef.parts, holds.declarations, holds.statements]
    rfl
  rw [← parts] at account
  refine ⟨holds.site, holds.inner, footing.reading, ⟨shape.trans holds.tokens_site.symm,
    holds.indented, holds.name_site, ⟨_, _, ?_, holds.rest_site ▸ holds.body.reads⟩,
    holds.declarations, holds.statements⟩,
    fun problem found => reported problem (holds.known problem found), ?_⟩
  · rw [holds.block_site, holds.body.on.ahead]
  · rw [holds.recovered, Footing.Holds.inner,
      Sheet.losses_ne_nil_iff close holds.body.whole account.lies, ← Sheet.spared_iff close]
    refine ⟨account.costs, ?_⟩
    rintro (loses | ⟨place, behind, before, problem, found, spares⟩)
    · exact account.told loses
    · exact List.ne_nil_of_mem found

/-- A method that has lost one of the statements of its loop. -/
def unfinishedSource : String :=
  "class A(object):\n    def m(self: \"A\", n: int) -> int:\n        while n > 0:\n" ++
    "            n = (n -\n            print(n)\n        return n\n"

/-- The method tells that code was lost, and so it was. -/
theorem recovered_iff_unfinishedSource :
    ∃ lexing function, Lexing.ofSource "unfinished.choc" unfinishedSource = .ok lexing ∧
      function ∈ (ofLexing "unfinished.choc" lexing).functionDefs ∧ function.name = "m" ∧
      function.recovered = true ∧ ∃ site body reading,
        function.StandsAt lexing.tokens site body reading ∧
        (∀ problem ∈ reading.problems,
          problem.toDiagnostic ∈ (ofLexing "unfinished.choc" lexing).errors) ∧
        (function.recovered = true ↔ function.losses body ≠ [] ∨
          ∃ problem ∈ reading.problems, ∃ token ∈ body, problem.Spares token) := by
  obtain ⟨lexing, read, facts⟩ : ∃ lexing, Lexing.ofSource "unfinished.choc" unfinishedSource =
      .ok lexing ∧ ((ofLexing "unfinished.choc" lexing).functionDefs.any fun function =>
        function.name == "m" && function.recovered) = true :=
    exists_ok_of_any (by decide +kernel)
  obtain ⟨function, among, named, lost⟩ := by simpa using facts
  exact ⟨lexing, function, read, among, named, lost, recovered_iff read among⟩

/-- A function with another one in it that has no statement. -/
def emptyInnerSource : String := "def f() -> int:\n    def g():\n        x: int = 1\n    pass\n"

/-- The outer function tells that code was lost, but none was. -/
theorem exists_recovered_without_losses :
    ∃ lexing function front body back,
      Lexing.ofSource "<input>" emptyInnerSource = .ok lexing ∧
      (ofLexing "<input>" lexing).functionDefs.head? = some function ∧ function.name = "f" ∧
      lexing.tokens = front ++ body ++ back ∧ Balanced (body.map Token.kind) ∧
      front.map Token.kind = [.keyword .kwDef, .identifier, .symbol .leftParen, .symbol .rightParen,
        .symbol .arrow, .identifier, .symbol .colon, .newline, .indent] ∧
      back.map Token.kind = [.dedent, .endOfFile] ∧
      function.recovered = true ∧ function.losses body = [] := by
  obtain ⟨lexing, read, facts⟩ : ∃ lexing, Lexing.ofSource "<input>" emptyInnerSource =
      .ok lexing ∧ ((ofLexing "<input>" lexing).functionDefs.head?.any (fun function =>
        function.name == "f" && function.recovered &&
          (function.losses ((lexing.tokens.drop 9).take 16)).isEmpty) &&
        nesting 0 (((lexing.tokens.drop 9).take 16).map Token.kind) == some 0 &&
        (lexing.tokens.take 9).map Token.kind == [.keyword .kwDef, .identifier, .symbol .leftParen,
          .symbol .rightParen, .symbol .arrow, .identifier, .symbol .colon, .newline, .indent] &&
        ((lexing.tokens.drop 9).drop 16).map Token.kind == [.dedent, .endOfFile]) = true :=
    exists_ok_of_any (by decide +kernel)
  simp only [Bool.and_eq_true, beq_iff_eq, Option.any_eq_true, List.isEmpty_iff] at facts
  obtain ⟨⟨⟨⟨function, first, ⟨named, recovered⟩, whole⟩, balanced⟩, front⟩, back⟩ := facts
  exact ⟨lexing, function, _, _, _, read, first, named,
    by rw [List.append_assoc, List.take_append_drop, List.take_append_drop], balanced, front, back,
    recovered, whole⟩

end Program
end ChocoLang
