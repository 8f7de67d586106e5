import ChocoLang.Proofs.Parsing.FunctionSite

/-!
# What is wrong in a function stays in it

Whatever tokens stand in the body of a function, as long as they are balanced, the body is read up
to its end and recovery goes on behind it.  So a program with other tokens in the body of one of its
functions differs from it in this function only: everything before and behind is read the same.
-/

namespace ChocoLang

/-! ## What a function adds to a program -/

/-- What a step at the top level adds to a program. -/
structure Addition where
  /-- The declarations. -/
  declared : List Decl
  /-- What is wrong. -/
  problems : List (Located SyntaxError)

/-- The program body with what a step at the top level added to it. -/
def ProgramBody.add (body : ProgramBody) (own : Addition) : ProgramBody :=
  { body with declarations := body.declarations ++ own.declared }

namespace Parse

variable {α : Type}

/-- What reading the body of a function comes to. -/
structure BodyReading where
  /-- What is read of it. -/
  content : FunctionBody
  /-- What is found wrong in it. -/
  problems : List (Located SyntaxError)
  /-- The span of the last text in it, or before it if there is none. -/
  last : Span

namespace BodyReading

/-- The body behind the cursor is read, up to the tokens that follow it. -/
def Of (body : BodyReading) (room : Nat) (cursor : Cursor) (rest : List Token) : Prop :=
  ∃ after, functionBody room cursor = .ok body.content after ∧ after.ahead = rest ∧
    after.problems = cursor.problems ++ body.problems ∧ after.last = body.last

/-- The span of a function that begins with a word. -/
def span (body : BodyReading) (start : Span) : Span :=
  if body.last.stop < start.start then start else start.through body.last

/-- The function with this body. -/
def function (body : BodyReading) (start : Span) (heading : FunctionHeading) : Decl :=
  .funcDef (.ofSpan (body.span start)) heading body.content.declarations body.content.statements
    (!body.problems.isEmpty)

/-- The report of an empty body, if it is empty and nothing is wrong in it. -/
def emptiness (body : BodyReading) (heading : FunctionHeading) : List (Located SyntaxError) :=
  if body.content.hasStatement || !body.problems.isEmpty then []
  else [⟨.emptyFunction heading.name.name, heading.name.info.span⟩]

/-- What the function adds to a program; behind a statement it is reported and left out. -/
def addition (body : BodyReading) (start : Span) (heading : FunctionHeading) (late : Bool) :
    Addition :=
  let found := body.problems ++ body.emptiness heading
  if late then ⟨[], found ++ [⟨.lateDeclaration, body.span start⟩]⟩
  else ⟨[body.function start heading], found⟩

end BodyReading

/-! ## Reading a function -/

/-- An indented body is read up to the end of the block. -/
theorem enclosed_ahead {inner : Recovering α} [Recovering.Forward inner]
    [Recovering.Passes PassesBlocks inner]
    (ends : ∀ cursor : Cursor, cursor.Closed → (inner cursor).2.atBodyEnd = true)
    (wanted : Expectation) {cursor : Cursor} (closed : cursor.Closed)
    {newline indent dedent : Token} {tokens rest : List Token} (line : newline.kind = .newline)
    (opens : indent.kind = .indent) (closes : dedent.kind = .dedent)
    (balanced : Balanced (tokens.map Token.kind))
    (ahead : cursor.ahead = newline :: indent :: tokens ++ dedent :: rest) :
    ∃ value after, enclosed wanted inner cursor = .ok value after ∧ after.ahead = rest := by
  let start := cursor.advance.advance
  have moved : cursor.Onward start := (Cursor.Onward.advance _).trans (Cursor.Onward.advance _)
  have first : cursor.kind = .newline := by rw [Cursor.kind, ahead]; exact line
  have second : cursor.advance.kind = .indent := by
    rw [Cursor.kind, Cursor.ahead_advance, ahead]
    exact opens
  have within : start.ahead = tokens ++ dedent :: rest := by simp [start, ahead]
  refine ⟨_, _, enclosed_of_ok (openBody_of_kind first second wanted) inner, ?_⟩
  have passed : PassesBlocks start.ahead (inner start).2.ahead :=
    Recovering.Passes.passed start (moved.closed closed)
  have ended : kindAt (inner start).2.ahead = .dedent ∨ (inner start).2.ahead = [] := by
    simpa [Cursor.atBodyEnd, Cursor.atEnd, Cursor.kind_eq_kindAt] using
      ends start (moved.closed closed)
  have stands := PassesBlocks.eq_of_ends closes balanced (within ▸ passed) ended
  have kind : (inner start).2.kind = .dedent := by rw [Cursor.kind, stands]; exact closes
  change (closeBody (inner start).2).ahead = rest
  rw [closeBody, if_pos kind, Cursor.ahead_advance, stands, List.tail_cons]

/-- The body of a function is read up to the end of the block. -/
theorem exists_bodyReading (site : FunctionSite) {inner : List Token} (fills : Indented inner)
    (room : Nat) {cursor : Cursor} (closed : cursor.Closed)
    (ahead : cursor.ahead = site.block inner) : ∃ body : BodyReading, body.Of room cursor site.rest := by
  have declaration := innerDeclaration_passes room fun _ => functionDefinition_opens room
  obtain ⟨content, after, read, stands⟩ := enclosed_ahead
    (fun _ closed => atBodyEnd_functionBody room closed) .functionBody closed site.newline_kind
    site.indent_kind site.dedent_kind fills.balanced ahead
  obtain ⟨problems, found⟩ := (onward_of_ok read).problems
  exact ⟨⟨content, problems, after.last⟩, after, read, stands, found.symm, rfl⟩

section Function

variable {start : Span} {heading : FunctionHeading} {body : BodyReading} {cursor : Cursor}

theorem functionOf_apply {known : List (Located SyntaxError)}
    (problems : cursor.problems = known ++ body.problems) (last : cursor.last = body.last) :
    functionOf start heading known.length body.content cursor =
      .ok (body.function start heading)
        { cursor with problems := cursor.problems ++ body.emptiness heading } := by
  have recovered : decide (known.length < cursor.problems.length) = !body.problems.isEmpty := by
    rw [problems, List.length_append]
    cases body.problems <;> simp
  unfold functionOf
  rw [look_bind, recovered]
  unfold BodyReading.emptiness BodyReading.function BodyReading.span
  rw [← last]
  split
  · simp only [List.append_nil]
    rfl
  · rfl

theorem declareIn_apply (read : ProgramBody) (own : Decl) :
    declareIn read own cursor =
      if read.statements.isEmpty then .ok (read.add ⟨[own], []⟩) cursor
      else .ok read (cursor.record ⟨.lateDeclaration, own.info.span⟩) := by
  unfold declareIn
  split <;> rfl

theorem programStep_function (stands : cursor.kind = .keyword .kwDef) (read : ProgramBody) :
    programStep read cursor =
      recovering read (do declareIn read (← functionDefinition nestingLimit)) cursor := by
  have declares : cursor.atDeclaration = true := by
    unfold Cursor.atDeclaration
    rw [stands]
  have same : topDeclaration cursor = functionDefinition nestingLimit cursor := by
    unfold topDeclaration
    rw [look_bind, stands]
  rw [programStep_apply, if_neg (by simp [stands]), if_pos declares]
  simp only [recovering, EStateM.run, bind, EStateM.bind, same]

/-- A step has added something to the program and goes on at some tokens. -/
structure Adds (read : ProgramBody) (earlier : List (Located SyntaxError)) (own : Addition)
    (rest : List Token) (result : ProgramBody × Cursor) : Prop where
  read : result.1 = read.add own
  ahead : result.2.ahead = rest
  problems : result.2.problems = earlier ++ own.problems

theorem functionDefinition_of_signature {room : Nat} {problem : Located SyntaxError} {stop : Cursor}
    (failed : functionSignature room cursor.advance = .error problem stop) :
    functionDefinition (room + 1) cursor = .error problem stop := by
  have first : advance cursor = .ok cursor.current cursor.advance := rfl
  rw [functionDefinition_enclosed, bind_of_ok first, bind_of_error failed]

/-- Behind the header of a function its line has to end. -/
theorem functionDefinition_of_line {room : Nat} {signed : Cursor}
    (signature : functionSignature room cursor.advance = .ok heading signed)
    (more : signed.kind ≠ .newline) :
    functionDefinition (room + 1) cursor =
      .error ⟨.missing .newlineAfterColon signed.current, signed.current.span⟩ signed := by
  have first : advance cursor = .ok cursor.current cursor.advance := rfl
  have body : functionBody room signed = _ := enclosed_of_error (openBody_of_ne more _) _
  rw [functionDefinition_enclosed, bind_of_ok first, bind_of_ok signature, look_bind,
    bind_of_error body]

/-- A step that reads a function with its body goes on behind the body. -/
theorem programStep_of_body {room : Nat} (limit : nestingLimit = room + 1) {signed : Cursor}
    {rest : List Token} (stands : cursor.kind = .keyword .kwDef)
    (signature : functionSignature room cursor.advance = .ok heading signed)
    (reads : body.Of room signed rest) (read : ProgramBody) :
    Adds read signed.problems
      (body.addition cursor.current.span heading (!read.statements.isEmpty)) rest
      (programStep read cursor) := by
  obtain ⟨after, content, ahead, problems, last⟩ := reads
  have first : advance cursor = .ok cursor.current cursor.advance := rfl
  have function : functionDefinition nestingLimit cursor =
      .ok (body.function cursor.current.span heading)
        { after with problems := after.problems ++ body.emptiness heading } := by
    rw [limit, functionDefinition_enclosed, bind_of_ok first, bind_of_ok signature, look_bind,
      bind_of_ok content, functionOf_apply problems last]
  have whole : (do declareIn read (← functionDefinition nestingLimit)) cursor = _ :=
    bind_of_ok function
  rw [declareIn_apply] at whole
  rw [programStep_function stands]
  unfold BodyReading.addition
  cases before : read.statements.isEmpty with
  | true =>
      rw [if_pos before] at whole
      rw [recovering_of_ok whole]
      exact ⟨rfl, ahead, by simp [problems]⟩
  | false =>
      rw [if_neg (by simp [before])] at whole
      rw [recovering_of_ok whole]
      refine ⟨by simp [ProgramBody.add], ahead, ?_⟩
      simp only [Cursor.record, problems, Bool.not_false, if_true, List.append_assoc]
      rfl

/-- A step that refuses the first line of a function goes on behind the body. -/
theorem programStep_of_refusal {site : FunctionSite} {line inner : List Token} {stop : Cursor}
    {problem : Located SyntaxError} (stands : cursor.kind = .keyword .kwDef)
    (inline : ∀ token ∈ line, token.kind.isLayout = false) (fills : Indented inner)
    (refused : functionDefinition nestingLimit cursor = .error problem stop)
    (ahead : stop.ahead = line ++ site.block inner) (read : ProgramBody) :
    Adds read stop.problems ⟨[], [problem]⟩ site.rest (programStep read cursor) := by
  have reached := (onward_of_error refused).position_le
  rw [programStep_function stands, recovering_of_error (bind_of_error refused),
    Cursor.recover_eq reached]
  refine ⟨by simp [ProgramBody.add], ?_, by simp [Cursor.record]⟩
  rw [Cursor.ahead_advanceBy]
  change stop.ahead.drop _ = _
  rw [ahead, site.drop_skipLength inline fills]

end Function

end Parse

/-! ## Two programs -/

namespace FunctionSite

open Parse

variable (site : FunctionSite) {inner inner' : List Token}

/--
Two functions with different tokens in their bodies, of which the first line and the problems found
before the bodies are the same.
-/
inductive Alike (inner inner' : List Token) (late : Bool) (earlier : List (Located SyntaxError)) :
    Addition → Addition → Prop where
  /-- What is wrong in the first line is reported, and the function left out. -/
  | refused (problem : Located SyntaxError) :
      Alike inner inner' late earlier ⟨[], [problem]⟩ ⟨[], [problem]⟩
  /-- The two functions have one heading, and each adds what is read of its own body. -/
  | read (start : Span) (heading : FunctionHeading) {signed signed' : Cursor}
      {body body' : BodyReading} (ahead : signed.ahead = site.block inner)
      (ahead' : signed'.ahead = site.block inner') (problems : signed.problems = earlier)
      (problems' : signed'.problems = earlier) (reads : body.Of (nestingLimit - 1) signed site.rest)
      (reads' : body'.Of (nestingLimit - 1) signed' site.rest) :
      Alike inner inner' late earlier (body.addition start heading late)
        (body'.addition start heading late)

/-- The bodies of the two functions begin alike. -/
def fork (inner inner' : List Token) (ending : Token) (closed : ending.kind = .endOfFile) : Fork where
  rest := site.indent :: inner ++ site.dedent :: site.rest
  rest' := site.indent :: inner' ++ site.dedent :: site.rest
  known := []
  known' := []
  ending := ending
  head := rfl
  plain := by simp [kindAt, site.indent_kind]
  closed := closed

variable {ending : Token} {closed : ending.kind = .endOfFile}

section Runs

variable {one other : Cursor} (alike : one.Alike (site.fork inner inner' ending closed) other)
include alike

/-- In the first line of the function both runs have the same ahead up to the end of the line. -/
theorem ahead_alike {line : List Token} (ahead : one.ahead = line ++ site.block inner) :
    other.ahead = line ++ site.block inner' := by
  obtain ⟨front, whole, whole'⟩ := alike.tokens
  have same : line ++ [site.newline] = front := by
    have joined : (line ++ [site.newline]) ++ (site.indent :: inner ++ site.dedent :: site.rest) =
        front ++ (site.indent :: inner ++ site.dedent :: site.rest) := by
      rw [ahead] at whole
      simpa [block, fork] using whole
    exact List.append_cancel_right joined
  rw [whole', ← same, block]
  simp [fork]

theorem problems_alike : other.problems = one.problems := by
  obtain ⟨found, problems, problems'⟩ := alike.problems
  rw [problems, problems']
  rfl

omit alike in
theorem fork_suffix (line : List Token) :
    (site.fork inner inner' ending closed).rest <:+ line ++ site.block inner :=
  ⟨line ++ [site.newline], by simp [fork, block]⟩

/-- If the first line of the function is refused, then in both runs, for the same problem. -/
theorem refusal_alike (fills : Indented inner) (fills' : Indented inner') {line : List Token}
    (inline : ∀ token ∈ line, token.kind.isLayout = false) {start start' : Cursor}
    (stands : start.kind = .keyword .kwDef) (stands' : start'.kind = .keyword .kwDef)
    {problem : Located SyntaxError}
    (refused : functionDefinition nestingLimit start = .error problem one)
    (refused' : functionDefinition nestingLimit start' = .error problem other)
    (ahead : one.ahead = line ++ site.block inner) (read : ProgramBody) :
    ∃ earlier own own', site.Alike inner inner' (!read.statements.isEmpty) earlier own own' ∧
      Adds read earlier own site.rest (programStep read start) ∧
      Adds read earlier own' site.rest (programStep read start') := by
  refine ⟨one.problems, _, _, .refused problem,
    programStep_of_refusal stands inline fills refused ahead read, ?_⟩
  rw [← site.problems_alike alike]
  exact programStep_of_refusal stands' inline fills' refused' (site.ahead_alike alike ahead) read

/-- A step at the function adds what its heading and its body make up, and goes on behind it. -/
theorem programStep_alike (fills : Indented inner) (fills' : Indented inner')
    (ahead : one.ahead = site.word :: site.line ++ site.block inner) (read : ProgramBody) :
    ∃ earlier own own', site.Alike inner inner' (!read.statements.isEmpty) earlier own own' ∧
      Adds read earlier own site.rest (programStep read one) ∧
      Adds read earlier own' site.rest (programStep read other) := by
  let room := nestingLimit - 1
  have limit : nestingLimit = room + 1 := rfl
  have stands : one.kind = .keyword .kwDef := by
    rw [Cursor.kind, ahead]
    exact site.word_kind
  have stands' : other.kind = .keyword .kwDef := alike.kind ▸ stands
  have first : one.advance.ahead = site.line ++ site.block inner := by simp [ahead]
  have behind := alike.advance (first ▸ site.fork_suffix site.line)
  have header : Parse.Passes PassesText (functionSignature room) := inferInstance
  obtain ⟨line, rest, inline⟩ := PassesText.within_line site.newline_kind site.line_isLayout
    (first ▸ header.passed one.advance behind.closed)
  have agree := (inferInstance : Agrees (functionSignature room)).agrees _ behind
    (rest ▸ site.fork_suffix line)
  generalize signature' : functionSignature room other.advance = result at agree
  cases signature : functionSignature room one.advance with
  | error problem stop =>
      rw [stop_of_error signature] at rest
      rw [signature] at agree
      cases agree with
      | error same =>
          exact site.refusal_alike same fills fills' inline stands stands'
            (functionDefinition_of_signature signature)
            (functionDefinition_of_signature signature') rest read
  | ok heading signed =>
      rw [stop_of_ok signature] at rest
      rw [signature] at agree
      cases agree with
      | @ok _ _ signed' same =>
          have rest' := site.ahead_alike same rest
          cases line with
          | nil =>
              obtain ⟨body, reads⟩ := exists_bodyReading site fills room same.closed rest
              obtain ⟨body', reads'⟩ := exists_bodyReading site fills' room same.closed' rest'
              have problems := site.problems_alike same
              refine ⟨signed.problems, _, _, .read one.current.span heading rest rest' rfl problems
                reads reads', programStep_of_body limit stands signature reads read, ?_⟩
              have step' := programStep_of_body limit stands' signature' reads' read
              rwa [problems, ← alike.current] at step'
          | cons token line =>
              have more : signed.kind ≠ .newline := fun line => by
                have text := inline token List.mem_cons_self
                rw [Cursor.kind, rest] at line
                change token.kind = .newline at line
                rw [line] at text
                cases text
              have refused' := functionDefinition_of_line signature' (same.kind ▸ more)
              rw [← same.current] at refused'
              exact site.refusal_alike same fills fills' inline stands stands'
                (functionDefinition_of_line signature more) refused' rest read

end Runs

end FunctionSite

/-- What a program has besides a function, and what was found before and behind the function. -/
structure Outside where
  /-- The declarations before the function. -/
  before : List Decl
  /-- The declarations behind it. -/
  after : List Decl
  /-- The statements. -/
  statements : List Stmt
  /-- What was known before reading. -/
  known : List Diagnostic
  /-- The problems found up to the end of the first line of the function. -/
  earlier : List (Located SyntaxError)
  /-- The problems found behind the function. -/
  later : List (Located SyntaxError)

/-- The program is the rest of a program with what a function adds to it. -/
structure Program.Completes (program : Program) (outside : Outside) (own : Addition) : Prop where
  declarations : program.declarations = outside.before ++ own.declared ++ outside.after
  statements : program.statements = outside.statements
  errors : program.errors = outside.known ++
    (outside.earlier ++ own.problems ++ outside.later).map Located.toDiagnostic

/-- A program is complete with what is read behind the step that adds the function. -/
theorem Program.completes {file : String} {known : List Diagnostic} {tokens rest : List Token}
    (nonempty : tokens ≠ []) {read behind : ProgramBody} {own : Addition}
    {earlier later : List (Located SyntaxError)} {result whole : ProgramBody × Cursor}
    (adds : Parse.Adds read earlier own rest result)
    (resumed : Parse.programBody (.ofTokens tokens nonempty) = whole)
    (body : whole.1 = behind.behind (read.declarations ++ own.declared))
    (problems : whole.2.problems = result.2.problems ++ later) :
    (Program.ofTokens file known tokens nonempty).Completes
      ⟨read.declarations, behind.declarations, behind.statements, known, earlier, later⟩ own := by
  have read : (Program.ofTokens file known tokens nonempty).declarations = whole.1.declarations ∧
      (Program.ofTokens file known tokens nonempty).statements = whole.1.statements ∧
      (Program.ofTokens file known tokens nonempty).errors = known ++ whole.2.diagnostics := by
    rw [← resumed]
    exact ⟨rfl, rfl, rfl⟩
  obtain ⟨declarations, statements, errors⟩ := read
  refine ⟨?_, ?_, ?_⟩
  · rw [declarations, body]
    rfl
  · rw [statements, body]
    rfl
  · rw [errors, Cursor.diagnostics, problems, adds.problems]

/--
Let a step at the top level begin with the first line of a function.  With other tokens in the body
of this function the program is the same but for what is read of the body: the same declarations
and statements stand around the function, the same problems are found around it, and the function,
if it is not refused for its first line, has the same heading and begins at the same place.
-/
theorem Program.alike_outside (site : FunctionSite) {inner inner' : List Token}
    (fills : Indented inner) (fills' : Indented inner') (file : String) (known : List Diagnostic)
    {read : ProgramBody} {cursor : Cursor}
    (reached : Parse.Reaches (.ofTokens (site.tokens inner) (site.tokens_ne_nil inner)) read cursor)
    (stands : cursor.position = site.before.length) :
    ∃ (outside : Outside) (own own' : Addition),
      site.Alike inner inner' (!read.statements.isEmpty) outside.earlier own own' ∧
      (Program.ofTokens file known (site.tokens inner) (site.tokens_ne_nil inner)).Completes
        outside own ∧
      (Program.ofTokens file known (site.tokens inner') (site.tokens_ne_nil inner')).Completes
        outside own' := by
  have more := site.more_of_reaches reached stands
  obtain ⟨ending, ends, marks⟩ := site.exists_ending more
  let start := Cursor.ofTokens (site.tokens inner) (site.tokens_ne_nil inner)
  let start' := Cursor.ofTokens (site.tokens inner') (site.tokens_ne_nil inner')
  have begins : start.Alike (site.fork inner inner' ending ends) start' := by
    refine ⟨⟨site.before ++ (site.word :: site.line ++ [site.newline]), ?_, ?_⟩, ⟨[], rfl, rfl⟩,
      site.last_ofTokens, marks inner fills, marks inner' fills'⟩
    · simp [start, site.ahead_ofTokens fills more, FunctionSite.fork, FunctionSite.block]
    · simp [start', site.ahead_ofTokens fills' more, FunctionSite.fork, FunctionSite.block]
  have ahead := site.ahead_of_reaches fills reached stands
  obtain ⟨cursor', reached', alike⟩ :=
    reached.alike begins (ahead ▸ site.fork_suffix (site.word :: site.line))
  obtain ⟨earlier, own, own', same, adds, adds'⟩ :=
    site.programStep_alike alike fills fills' ahead read
  have goesOn : cursor.atEnd = false := by simp [Cursor.atEnd, ahead]
  have moved := Parse.Recovering.onward_snd (Parse.programStep read) cursor
  have moved' := Parse.Recovering.onward_snd (Parse.programStep read) cursor'
  have ending' : (Parse.programStep read cursor').2.ending = (Parse.programStep read cursor).2.ending := by
    rw [moved'.ending, moved.ending, alike.ending, alike.ending']
  obtain ⟨behind, later, rest⟩ := Parse.rest_alike (moved.closed alike.closed)
    (adds'.ahead.trans adds.ahead.symm) ending' read.statements site.rest.length
  obtain ⟨body, body', problems, problems'⟩ :=
    rest (read.declarations ++ own.declared) (read.declarations ++ own'.declared)
  have resumed := (reached.step goesOn).programBody_eq begins.closed
  have resumed' := (reached'.step (alike.atEnd ▸ goesOn)).programBody_eq begins.closed'
  rw [adds.ahead, adds.read] at resumed
  rw [adds'.ahead, adds'.read] at resumed'
  exact ⟨_, own, own', same, completes _ adds resumed body problems,
    completes _ adds' resumed' body' problems'⟩

/-- A function behind the definition of a variable, with a statement behind it. -/
def laterFunction : FunctionSite :=
  let token (column : Nat) (kind : TokenKind) (text : String) : Token :=
    ⟨kind, .text text, .onLine "later.choc" 1 column (column + 1)⟩
  { before :=
      [token 1 .identifier "x", token 2 (.symbol .colon) ":", token 3 .identifier "int",
        token 4 (.symbol .assign) "=", ⟨.integer, .integer 1, .onLine "later.choc" 1 5 6⟩,
        token 6 .newline ""]
    word := token 7 (.keyword .kwDef) "def"
    line :=
      [token 8 .identifier "f", token 9 (.symbol .leftParen) "(",
        token 10 (.symbol .rightParen) ")", token 11 (.symbol .colon) ":"]
    newline := token 12 .newline ""
    indent := token 13 .indent ""
    dedent := token 20 .dedent ""
    after := [token 21 .identifier "x", token 22 .newline "", token 23 .endOfFile ""]
    word_kind := rfl
    line_isLayout := by decide
    newline_kind := rfl
    indent_kind := rfl
    dedent_kind := rfl
    ended := by decide }

/-- A body that does nothing. -/
def emptyBody : List Token :=
  [⟨.keyword .kwPass, .text "pass", .onLine "later.choc" 1 14 15⟩,
    ⟨.newline, .absent, .onLine "later.choc" 1 15 16⟩]

/-- A body with a block that no statement begins, in which an expression is left unfinished. -/
def brokenBody : List Token :=
  [⟨.indent, .absent, .onLine "later.choc" 1 14 15⟩,
    ⟨.symbol .leftParen, .text "(", .onLine "later.choc" 1 15 16⟩,
    ⟨.newline, .absent, .onLine "later.choc" 1 16 17⟩,
    ⟨.dedent, .absent, .onLine "later.choc" 1 17 18⟩]

/-- The function may have either body: the rest of the program stays the same. -/
theorem Program.alike_outside_laterFunction :
    let start := Cursor.ofTokens (laterFunction.tokens emptyBody) (laterFunction.tokens_ne_nil _)
    (Parse.programStep {} start).2.position = laterFunction.before.length ∧
      ∃ (outside : Outside) (own own' : Addition),
        laterFunction.Alike emptyBody brokenBody
          (!(Parse.programStep {} start).1.statements.isEmpty) outside.earlier own own' ∧
        (Program.ofTokens "later.choc" [] (laterFunction.tokens emptyBody)
          (laterFunction.tokens_ne_nil _)).Completes outside own ∧
        (Program.ofTokens "later.choc" [] (laterFunction.tokens brokenBody)
          (laterFunction.tokens_ne_nil _)).Completes outside own' := by
  intro start
  have stands : (Parse.programStep {} start).2.position = laterFunction.before.length := by
    decide +kernel
  have empty : Indented emptyBody := ⟨rfl, by decide⟩
  have broken : Indented brokenBody := ⟨rfl, by decide⟩
  exact ⟨stands, Program.alike_outside laterFunction empty broken "later.choc" []
    (.step .start rfl) stands⟩

end ChocoLang
