import ChocoLang.Proofs.Parsing.Agreement.Line
import ChocoLang.Proofs.Parsing.ReadBack.Program
import ChocoLang.Proofs.Parsing.TopLevel

/-!
# Programs of lines without bodies

A program that consists of lines only is read line by line, and a malformed line costs only itself,
unless it is a header.  The body that a header lacks is missed at the first token of the next line,
and recovery from there skips this line as well.
-/

namespace ChocoLang

/-- A line of a program with the token that ends it. -/
structure TokenLine where
  /-- The tokens that carry text. -/
  text : List Token
  /-- The end of the line. -/
  ending : Token
  /-- Nothing of the block structure stands in the line. -/
  inline : ∀ token ∈ text, token.kind.isLayout = false
  /-- The line ends. -/
  ends : ending.kind = .newline

namespace TokenLine

/-- All tokens of a line. -/
def tokens (line : TokenLine) : List Token := line.text ++ [line.ending]

/-- The token with which a line begins. -/
def first (line : TokenLine) : Token := line.text.headD line.ending

theorem tokens_append (line : TokenLine) (rest : List Token) :
    line.tokens ++ rest = line.text ++ line.ending :: rest := by simp [tokens]

theorem head_tokens_append (line : TokenLine) (rest : List Token) :
    (line.tokens ++ rest).head? = some line.first := by
  rw [tokens_append, first]
  cases line.text <;> rfl

/-- No block begins or ends in a line. -/
theorem isLevel_kindAt (line : TokenLine) (rest : List Token) :
    (kindAt (line.tokens ++ rest)).isLevel = true := by
  have inline := line.inline
  rw [tokens_append]
  cases shape : line.text with
  | nil => simp [kindAt, line.ends, TokenKind.isLevel]
  | cons token text => exact TokenKind.isLevel_of_isLayout (inline token (by simp [shape]))

theorem kindAt_flatMap {rest : List Token} (plain : kindAt rest ≠ .indent)
    (lines : List TokenLine) : kindAt (lines.flatMap tokens ++ rest) ≠ .indent := by
  cases lines with
  | nil => exact plain
  | cons line lines =>
      intro indent
      have level := line.isLevel_kindAt (lines.flatMap tokens ++ rest)
      rw [List.flatMap_cons, List.append_assoc] at indent
      rw [indent] at level
      cases level

theorem kindAt_lines (lines : List TokenLine) : kindAt (lines.flatMap tokens) ≠ .indent := by
  simpa using kindAt_flatMap (show kindAt [] ≠ .indent by simp [kindAt]) lines

theorem kind_ne_endOfFile {lines : List TokenLine} {token : Token}
    (among : token ∈ lines.flatMap tokens) : token.kind ≠ .endOfFile := by
  obtain ⟨line, -, inside⟩ := List.mem_flatMap.mp among
  rcases List.mem_append.mp inside with text | ending
  · intro kind
    have inline := line.inline token text
    simp [kind, TokenKind.isLayout] at inline
  · rw [List.mem_singleton.mp ending, line.ends]
    nofun

end TokenLine

namespace Cursor

/-- Records a problem and moves past the statement in error. -/
def skipPast (problem : Located SyntaxError) (cursor : Cursor) : Cursor :=
  (cursor.record problem).advanceBy (skipLength 0 cursor.ahead)

theorem OnLine.kind_ne_dedent {fork : Fork} {one other : Cursor} (ends : fork.EndsLine)
    (onLine : one.OnLine fork other) : one.kind ≠ .dedent := by
  obtain ⟨front, ahead, text⟩ := onLine.line
  rw [kind_eq_kindAt, ahead]
  cases front with
  | nil => simp [ends.newline]
  | cons token front =>
      intro dedent
      have inside := text token List.mem_cons_self
      rw [show token.kind = .dedent from dedent] at inside
      cases inside

theorem ending_skipPast (problem : Located SyntaxError) (cursor : Cursor) :
    (cursor.skipPast problem).ending = cursor.ending :=
  (Onward.advanceBy _ (cursor.record problem)).ending

@[simp]
theorem problems_skipPast (problem : Located SyntaxError) (cursor : Cursor) :
    (cursor.skipPast problem).problems = cursor.problems ++ [problem] := by
  simp [skipPast, record]

/-- At the end of the file nothing is skipped. -/
theorem ahead_skipPast_of_nil {cursor : Cursor} (ended : cursor.ahead = [])
    (problem : Located SyntaxError) : (cursor.skipPast problem).ahead = [] := by
  simp [skipPast, record, ended]

/-- At the beginning of a line this line is skipped. -/
theorem ahead_skipPast_of_line {cursor : Cursor} {line : TokenLine} {rest : List Token}
    (ahead : cursor.ahead = line.tokens ++ rest) (plain : kindAt rest ≠ .indent)
    (problem : Located SyntaxError) : (cursor.skipPast problem).ahead = rest := by
  have whole := ahead.trans (line.tokens_append rest)
  have count : skipLength 0 (line.text ++ line.ending :: rest) = line.text.length + 1 :=
    skipLength_line line.inline line.ends plain
  rw [skipPast, ahead_advanceBy, whole, count, record]
  simp [ahead, TokenLine.tokens]

/-- Two runs stand before different tokens, and nothing else is different. -/
structure Abreast (rest rest' : List Token) (one other : Cursor) : Prop where
  /-- The tokens ahead of the first run. -/
  ahead : one.ahead = rest
  /-- The tokens ahead of the second run. -/
  ahead' : other.ahead = rest'
  /-- The same problems have been found. -/
  problems : one.problems = other.problems
  /-- The same text is behind. -/
  last : one.last = other.last
  /-- The files end with the same token. -/
  ending : one.ending = other.ending

end Cursor

/-- Two runs on the same line, with different tokens behind it. -/
def TokenLine.fork (line : TokenLine) (rest rest' : List Token)
    (known known' : List (Located SyntaxError)) {ending : Token}
    (closed : ending.kind = .endOfFile) : Fork where
  rest := line.ending :: rest
  rest' := line.ending :: rest'
  known
  known'
  ending
  head := rfl
  plain := by simp [kindAt, line.ends]
  closed

namespace Parse

variable {α : Type} {fork : Fork} {one other : Cursor}

/-! ## A step on a line -/

/--
Both runs of a reader that deals with its failures return the same and stand behind the line, or
they miss a body behind the line and go on from there with what they have.
-/
inductive StepEnds (fork : Fork) (fallback : α) : α × Cursor → α × Cursor → Prop where
  | behind {value : α} {one other : Cursor} (behind : one.BehindLine fork other) :
      StepEnds fork fallback (value, one) (value, other)
  | bare {wanted : Expectation} {one other : Cursor} (body : wanted.isBody = true)
      (behind : one.BehindLine fork other) :
      StepEnds fork fallback (fallback, one.skipPast (wanted.missingAt one.current))
        (fallback, other.skipPast (wanted.missingAt other.current))

theorem recovering_line (ends : fork.EndsLine) (onLine : one.OnLine fork other) (fallback : α)
    (reader : Parse α) [Forward reader] [reads : ReadsLine reader] :
    StepEnds fork fallback (recovering fallback reader one) (recovering fallback reader other) := by
  have result := reads.ends ends onLine
  generalize shape : reader one = first at result
  generalize shape' : reader other = second at result
  cases result with
  | ok behind =>
      rw [recovering_of_ok shape, recovering_of_ok shape']
      exact .behind behind
  | fails fails =>
      cases fails with
      | onLine onLine =>
          rw [recovering_of_error shape, recovering_of_error shape']
          exact .behind (onLine.recover ends (onward_of_error shape).position_le
            (onward_of_error shape').position_le _)
      | bare body behind =>
          rw [recovering_of_error shape, recovering_of_error shape',
            Cursor.recover_eq (onward_of_error shape).position_le,
            Cursor.recover_eq (onward_of_error shape').position_le]
          exact .bare body behind

/-- A step of a program on a line. -/
theorem programStep_line (ends : fork.EndsLine) (onLine : one.OnLine fork other)
    (body : ProgramBody) :
    StepEnds fork body (programStep body one) (programStep body other) := by
  have inside : (one.kind == .dedent) = false := by simpa using onLine.kind_ne_dedent ends
  rw [programStep_apply, programStep_apply, ← onLine.toAlike.kind, ← onLine.toAlike.atDeclaration,
    inside]
  by_cases declares : one.atDeclaration = true
  · rw [if_pos declares, if_pos declares]
    exact recovering_line ends onLine body _
  · rw [if_neg declares, if_neg declares]
    exact recovering_line ends onLine body _

/-! ## Line after line -/

section Lines

variable {rest rest' : List Token} (plain : kindAt rest ≠ .indent) (plain' : kindAt rest' ≠ .indent)
include plain plain'

theorem endsLine_fork (line : TokenLine) (known known' : List (Located SyntaxError))
    {ending : Token} (closed : ending.kind = .endOfFile) :
    (line.fork rest rest' known known' closed).EndsLine :=
  ⟨line.ends, plain, plain'⟩

omit plain plain' in
theorem onLine_fork (line : TokenLine) (closed : one.Closed)
    (ahead : one.ahead = line.tokens ++ rest) (ahead' : other.ahead = line.tokens ++ rest')
    (last : one.last = other.last)
    (ending : one.ending = other.ending) :
    one.OnLine (line.fork rest rest' one.problems other.problems closed) other := by
  rw [line.tokens_append] at ahead ahead'
  have known : ∃ found, one.problems = one.problems ++ found ∧
      other.problems = other.problems ++ found := ⟨[], by simp, by simp⟩
  exact ⟨⟨⟨line.text, ahead, ahead'⟩, known, last, rfl, ending.symm⟩,
    ⟨line.text, ahead, line.inline⟩⟩

omit plain plain' in
theorem abreast_of_behindLine {line : TokenLine} {after after' : Cursor} (closed : one.Closed)
    (problems : one.problems = other.problems)
    (behind : after.BehindLine (line.fork rest rest' one.problems other.problems closed) after') :
    after.Abreast rest rest' after' := by
  obtain ⟨found, same, same'⟩ := behind.problems
  refine ⟨behind.ahead, behind.ahead', ?_, behind.last, behind.ending.trans behind.ending'.symm⟩
  rw [same, same']
  exact congrArg (· ++ found) problems

/-- Recovery at the beginning of a line skips this line. -/
theorem abreast_skipPast (line : TokenLine) (closed : one.Closed)
    (abreast : one.Abreast (line.tokens ++ rest) (line.tokens ++ rest') other)
    (problem : Located SyntaxError) :
    (one.skipPast problem).Abreast rest rest' (other.skipPast problem) := by
  have onLine := onLine_fork line closed abreast.ahead abreast.ahead' abreast.last abreast.ending
  have ends := endsLine_fork plain plain' line one.problems other.problems closed
  have behind := (onLine.toAlike.record problem).behindLine ends line.text
    (abreast.ahead.trans (line.tokens_append rest))
  have count {tokens : List Token} (plain : kindAt tokens ≠ .indent) :
      Cursor.skipLength 0 (line.tokens ++ tokens) = line.text.length + 1 := by
    rw [line.tokens_append]
    exact Cursor.skipLength_line line.inline line.ends plain
  unfold Cursor.skipPast
  rw [abreast.ahead, abreast.ahead', count plain, count plain']
  exact abreast_of_behindLine closed abreast.problems behind

/-- Between two runs that stood abreast before a line, the step on it makes no difference. -/
theorem programStep_abreast (line : TokenLine) (closed : one.Closed)
    (abreast : one.Abreast (line.tokens ++ rest) (line.tokens ++ rest') other)
    (body : ProgramBody) :
    (∃ (read : ProgramBody) (after after' : Cursor), programStep body one = (read, after) ∧
        programStep body other = (read, after') ∧ after.Abreast rest rest' after') ∨
      ∃ (wanted : Expectation) (after after' : Cursor), wanted.isBody = true ∧
        after.Abreast rest rest' after' ∧
        programStep body one = (body, after.skipPast (wanted.missingAt after.current)) ∧
        programStep body other = (body, after'.skipPast (wanted.missingAt after'.current)) := by
  have onLine := onLine_fork line closed abreast.ahead abreast.ahead' abreast.last abreast.ending
  have result := programStep_line (endsLine_fork plain plain' line _ _ closed) onLine body
  generalize shape : programStep body one = first at result
  generalize shape' : programStep body other = second at result
  cases result with
  | behind behind =>
      exact .inl ⟨_, _, _, rfl, rfl, abreast_of_behindLine closed abreast.problems behind⟩
  | bare asked behind =>
      exact .inr ⟨_, _, _, asked, abreast_of_behindLine closed abreast.problems behind, rfl, rfl⟩

/--
Two runs that stand abreast before some lines take the same steps on them.  They end abreast behind
the lines, unless the last of them is a header in order: then its body is missed at the next token.
-/
theorem reaches_lines {start start' one other : Cursor} (closed : start.Closed)
    (lines : List TokenLine) {body : ProgramBody}
    (abreast : one.Abreast (lines.flatMap TokenLine.tokens ++ rest)
      (lines.flatMap TokenLine.tokens ++ rest') other)
    (reached : Reaches start body one) (reached' : Reaches start' body other) :
    ∃ (read : ProgramBody) (after after' : Cursor), after.Abreast rest rest' after' ∧
      (Reaches start read after ∧ Reaches start' read after' ∨
        ∃ wanted : Expectation, wanted.isBody = true ∧
          Reaches start read (after.skipPast (wanted.missingAt after.current)) ∧
          Reaches start' read (after'.skipPast (wanted.missingAt after'.current))) := by
  match lines with
  | [] => exact ⟨body, one, other, abreast, .inl ⟨reached, reached'⟩⟩
  | line :: lines =>
      have next := TokenLine.kindAt_flatMap plain lines
      have next' := TokenLine.kindAt_flatMap plain' lines
      rw [List.flatMap_cons, List.append_assoc, List.append_assoc] at abreast
      have more (cursor : Cursor) {tokens : List Token}
          (ahead : cursor.ahead = line.tokens ++ tokens) : cursor.atEnd = false := by
        simp [Cursor.atEnd, ahead, TokenLine.tokens]
      have step := reached.step (more one abreast.ahead)
      have step' := reached'.step (more other abreast.ahead')
      obtain ⟨read, after, after', first, second, abreast⟩ |
          ⟨wanted, after, after', asked, abreast, first, second⟩ :=
        programStep_abreast next next' line (reached.onward.closed closed) abreast body
      · rw [first] at step
        rw [second] at step'
        exact reaches_lines closed lines abreast step step'
      · rw [first] at step
        rw [second] at step'
        cases lines with
        | nil => exact ⟨body, after, after', abreast, .inr ⟨wanted, asked, step, step'⟩⟩
        | cons line lines =>
            rw [List.flatMap_cons, List.append_assoc, List.append_assoc] at abreast
            have same : after'.current = after.current := by
              unfold Cursor.current
              simp only [List.headD_eq_head?_getD, abreast.ahead, abreast.ahead',
                line.head_tokens_append]
              rfl
            have here : after.Closed := by
              rw [Cursor.Closed, ← Cursor.ending_skipPast (wanted.missingAt after.current)]
              exact step.onward.closed closed
            rw [same] at step'
            exact reaches_lines closed lines
              (abreast_skipPast (TokenLine.kindAt_flatMap plain lines)
                (TokenLine.kindAt_flatMap plain' lines) line here abreast _) step step'

end Lines

/-! ## Lines that are statements -/

/-- Without a problem nothing is recovered from. -/
theorem exists_ok_of_quiet {fallback : α} {reader : Parse α} {cursor : Cursor}
    (quiet : (recovering fallback reader cursor).2.problems = []) :
    ∃ value after, reader cursor = .ok value after ∧
      recovering fallback reader cursor = (value, after) := by
  cases read : reader cursor with
  | ok value after => exact ⟨value, after, rfl, recovering_of_ok read⟩
  | error problem after =>
      rw [recovering_of_error read] at quiet
      have recorded := (Cursor.Onward.recovered cursor.position problem after).problems
      rw [show (after.recover cursor.position problem).problems = [] from quiet] at recorded
      simp [Cursor.record] at recorded

section Alone

variable {line : TokenLine} {stmt : Stmt} {start : Cursor} (closed : start.Closed)
  (ahead : start.ahead = line.tokens)
include closed ahead

/-- A program of one line is read in one step. -/
theorem programBody_eq_programStep : programBody start = programStep {} start := by
  have more : start.atEnd = false := by simp [Cursor.atEnd, ahead, TokenLine.tokens]
  have none : kindAt [] ≠ .indent := by simp [kindAt]
  have whole : start.ahead = line.tokens ++ [] := by simpa using ahead
  have abreast : start.Abreast (line.tokens ++ []) (line.tokens ++ []) start :=
    ⟨whole, whole, rfl, rfl, rfl⟩
  have past : (programStep {} start).2.ahead = [] := by
    obtain ⟨read, after, after', step, -, abreast⟩ | ⟨wanted, after, after', -, abreast, step, -⟩ :=
      programStep_abreast none none line closed abreast {}
    · rw [step]
      exact abreast.ahead
    · rw [step]
      simp [Cursor.skipPast, Cursor.record, abreast.ahead]
  have ended : (programStep {} start).2.atEnd = true := by simp [Cursor.atEnd, past]
  exact ((Reaches.start.step more).programBody_eq closed).trans (repeatUntil_of_halt ended _)

variable (quiet : (programBody start).2.problems = [])
  (reads : (programBody start).1.statements = [stmt])
include quiet reads

/-- If a program of one line has one statement and no problem, then the line is a statement. -/
theorem statement_of_line : start.atDeclaration = false ∧ ∃ after,
    statement (expression nestingLimit) (block nestingLimit) start = .ok (some stmt) after ∧
      after.problems = [] := by
  have noDedent : (start.kind == .dedent) = false := by
    have level := line.isLevel_kindAt []
    rw [List.append_nil, ← ahead, ← Cursor.kind_eq_kindAt] at level
    exact beq_eq_false_iff_ne.mpr fun dedent => by simp [dedent, TokenKind.isLevel] at level
  rw [programBody_eq_programStep closed ahead, programStep_apply, noDedent] at quiet reads
  cases declares : start.atDeclaration with
  | true =>
      simp only [declares, if_true] at quiet reads
      obtain ⟨body, after, read, same⟩ := exists_ok_of_quiet quiet
      rw [same] at reads
      obtain ⟨decl, later, -, read⟩ := exists_of_bind read
      cases read
      cases reads
  | false =>
      simp only [declares, Bool.false_eq_true, if_false] at quiet reads
      obtain ⟨body, after, read, same⟩ := exists_ok_of_quiet quiet
      rw [same] at quiet reads
      obtain ⟨found, later, first, read⟩ := exists_of_bind read
      cases read
      obtain rfl : found = some stmt := Option.toList_eq_singleton_iff.mp (by simpa using reads)
      exact ⟨rfl, after, first, quiet⟩

/-- A line that is a statement on its own is the same statement wherever it stands. -/
theorem programStep_statement {rest : List Token} (plain : kindAt rest ≠ .indent)
    {cursor : Cursor} (ahead' : cursor.ahead = line.tokens ++ rest)
    (ending : cursor.ending = start.ending) (body : ProgramBody) :
    (programStep body cursor).1 = { body with statements := body.statements ++ [stmt] } ∧
      (programStep body cursor).2.ahead = rest ∧
      (programStep body cursor).2.problems = cursor.problems := by
  let moved : Cursor := { cursor with last := start.last }
  have none : kindAt [] ≠ .indent := by simp [kindAt]
  have onLine : start.OnLine (line.fork [] rest start.problems moved.problems closed) moved :=
    onLine_fork line closed (by simpa using ahead) ahead' rfl ending.symm
  have ends := endsLine_fork none plain line start.problems moved.problems closed
  obtain ⟨states, after, read, silent⟩ := statement_of_line closed ahead quiet reads
  let reader := statement (expression nestingLimit) (block nestingLimit)
  have result : Ends _ (reader start) (reader moved) := ReadsLine.ends ends onLine
  rw [show reader start = _ from read] at result
  generalize shape : reader moved = second at result
  cases result with
  | fails fails => cases fails
  | @ok _ _ after' behind =>
      have step : programStep body moved =
          ({ body with statements := body.statements ++ [stmt] }, after') := by
        have inside : (moved.kind == .dedent) = false := by
          rw [← onLine.toAlike.kind]
          simpa using onLine.kind_ne_dedent ends
        rw [programStep_apply, inside, ← onLine.toAlike.atDeclaration, states]
        exact recovering_of_ok (bind_of_ok shape)
      have beside : cursor.Beside moved := ⟨start.last, rfl⟩
      have here : cursor.Closed := by rwa [Cursor.Closed, ending]
      obtain ⟨value, last, same⟩ := programStep_beside body here beside
      rw [step] at value same
      obtain ⟨found, problems, problems'⟩ := behind.problems
      obtain ⟨-, rfl⟩ := List.append_eq_nil_iff.mp (problems.symm.trans silent)
      rw [value]
      refine ⟨rfl, (congrArg Cursor.ahead same).symm.trans behind.ahead', ?_⟩
      exact (congrArg Cursor.problems same).symm.trans (problems'.trans (List.append_nil _))

end Alone

/-- The cursor before some lines, behind which the file ends. -/
def beforeLines (lines : List TokenLine) (eof : Token) : Cursor :=
  .ofTokens (lines.flatMap TokenLine.tokens ++ [eof]) (by simp)

theorem last_beforeLines (line : TokenLine) (lines : List TokenLine) (eof : Token) :
    (beforeLines (line :: lines) eof).last = line.first.span := by
  have head := line.head_tokens_append (lines.flatMap TokenLine.tokens ++ [eof])
  rw [← List.append_assoc, ← List.flatMap_cons] at head
  exact congrArg Token.span (Option.some.inj ((List.head?_eq_some_head _).symm.trans head))

/-- On its own, the line is a statement. -/
def States (eof : Token) (line : TokenLine) (stmt : Stmt) : Prop :=
  (programBody (beforeLines [line] eof)).2.problems = [] ∧
    (programBody (beforeLines [line] eof)).1.statements = [stmt]

section Statements

variable {eof : Token} (ends : eof.kind = .endOfFile)
include ends

theorem ahead_beforeLines (lines : List TokenLine) :
    (beforeLines lines eof).ahead = lines.flatMap TokenLine.tokens ∧
      (beforeLines lines eof).ending = eof :=
  Cursor.ahead_ofTokens (fun _ => TokenLine.kind_ne_endOfFile) ends _

/--
With and without further lines, the same is read up to these lines; if a header in order stands
before them, then its body is missed at the next token.
-/
theorem reaches_beforeLines (lines later : List TokenLine) :
    ∃ (read : ProgramBody) (after after' : Cursor), after.ahead = [] ∧
      after'.ahead = later.flatMap TokenLine.tokens ∧ after.problems = after'.problems ∧
      (Reaches (beforeLines lines eof) read after ∧
          Reaches (beforeLines (lines ++ later) eof) read after' ∨
        ∃ wanted : Expectation, wanted.isBody = true ∧
          Reaches (beforeLines lines eof) read
            (after.skipPast (wanted.missingAt after.current)) ∧
          Reaches (beforeLines (lines ++ later) eof) read
            (after'.skipPast (wanted.missingAt after'.current))) := by
  obtain ⟨ahead, ending⟩ := ahead_beforeLines ends lines
  obtain ⟨ahead', ending'⟩ := ahead_beforeLines ends (lines ++ later)
  rw [List.flatMap_append] at ahead'
  cases lines with
  | nil => exact ⟨{}, _, _, ahead, ahead', rfl, .inl ⟨.start, .start⟩⟩
  | cons line lines =>
      have closed : (beforeLines (line :: lines) eof).Closed := by rwa [Cursor.Closed, ending]
      have last : (beforeLines (line :: lines) eof).last =
          (beforeLines (line :: lines ++ later) eof).last := by
        rw [List.cons_append, last_beforeLines, last_beforeLines]
      obtain ⟨read, after, after', abreast, runs⟩ := reaches_lines (TokenLine.kindAt_lines [])
        (TokenLine.kindAt_lines later) closed (line :: lines)
        ⟨ahead.trans (List.append_nil _).symm, ahead', rfl, last, ending.trans ending'.symm⟩
        .start .start
      exact ⟨read, after, after', abreast.ahead, abreast.ahead', abreast.problems, runs⟩

/-- Lines that are statements are read as these statements. -/
theorem reaches_statements {start : Cursor} (ending : start.ending = eof) {later : List TokenLine}
    {stmts : List Stmt} (states : List.Forall₂ (States eof) later stmts) {body : ProgramBody}
    {cursor : Cursor} (reached : Reaches start body cursor)
    (ahead : cursor.ahead = later.flatMap TokenLine.tokens) :
    ∃ after, Reaches start { body with statements := body.statements ++ stmts } after ∧
      after.ahead = [] ∧ after.problems = cursor.problems := by
  induction states generalizing body cursor with
  | nil => exact ⟨cursor, by simpa using reached, ahead, rfl⟩
  | @cons line stmt later stmts states _ ih =>
      obtain ⟨quiet, reads⟩ := states
      obtain ⟨alone, last⟩ := ahead_beforeLines ends [line]
      have closed : (beforeLines [line] eof).Closed := by rwa [Cursor.Closed, last]
      have same : cursor.ending = (beforeLines [line] eof).ending :=
        reached.onward.ending.trans (ending.trans last.symm)
      obtain ⟨value, rest, known⟩ := programStep_statement closed (by simpa using alone) quiet reads
        (TokenLine.kindAt_lines later) (ahead.trans List.flatMap_cons) same body
      have more : cursor.atEnd = false := by simp [Cursor.atEnd, ahead, TokenLine.tokens]
      have step := reached.step more
      rw [value] at step
      obtain ⟨after, reached, ended, silent⟩ := ih step rest
      exact ⟨after, by simpa using reached, ended, silent.trans known⟩

end Statements

/-- A program is read when a cursor at its end is reached. -/
theorem programBody_of_reaches {start cursor : Cursor} {read : ProgramBody} (closed : start.Closed)
    (reached : Reaches start read cursor) (ended : cursor.ahead = []) :
    programBody start = (read, cursor) :=
  (reached.programBody_eq closed).trans (repeatUntil_of_halt (by simp [Cursor.atEnd, ended]) _)

end Parse

namespace Program

open Parse

/-- The program that some lines make up, behind which the file ends. -/
def ofLines (file : String) (lines : List TokenLine) (eof : Token) : Program :=
  .ofTokens file [] (lines.flatMap TokenLine.tokens ++ [eof]) (by simp)

/-- On its own, the line is a program of one statement and no problem. -/
def StatesAlone (file : String) (eof : Token) (line : TokenLine) (stmt : Stmt) : Prop :=
  (ofLines file [line] eof).errors = [] ∧ (ofLines file [line] eof).statements = [stmt]

/--
Some lines are followed by lines each of which is a statement on its own.  All these statements are
the last ones of the program, and nothing else is reported than without them; or the lines before
them end with a header in order, for which a body is missed at the token behind it.  Then only the
first of the lines that follow is left out.
-/
theorem ofLines_append (file : String) (lines later : List TokenLine) (eof : Token)
    (ends : eof.kind = .endOfFile) (stmts : List Stmt)
    (alone : List.Forall₂ (StatesAlone file eof) later stmts) :
    let first := ofLines file lines eof
    let whole := ofLines file (lines ++ later) eof
    (whole.errors = first.errors ∧ whole.statements = first.statements ++ stmts) ∨
      ∃ (wanted : Expectation) (known : List Diagnostic) (line : TokenLine) (rest : List TokenLine),
        wanted.isBody = true ∧ later = line :: rest ∧
        first.errors = known ++ [(wanted.missingAt eof).toDiagnostic] ∧
        whole.errors = known ++ [(wanted.missingAt line.first).toDiagnostic] ∧
        whole.statements = first.statements ++ stmts.tail := by
  intro first whole
  have states : List.Forall₂ (States eof) later stmts := alone.imp fun line stmt reads =>
    ⟨List.map_eq_nil_iff.mp reads.1, reads.2⟩
  obtain ⟨read, after, after', ended, next, problems, runs⟩ := reaches_beforeLines ends lines later
  obtain ⟨-, ending⟩ := ahead_beforeLines ends lines
  obtain ⟨-, ending'⟩ := ahead_beforeLines ends (lines ++ later)
  have closed : (beforeLines lines eof).Closed := by rwa [Cursor.Closed, ending]
  have closed' : (beforeLines (lines ++ later) eof).Closed := by rwa [Cursor.Closed, ending']
  have errors (lines : List TokenLine) : (ofLines file lines eof).errors =
      (programBody (beforeLines lines eof)).2.diagnostics := rfl
  have statements (lines : List TokenLine) : (ofLines file lines eof).statements =
      (programBody (beforeLines lines eof)).1.statements := rfl
  simp only [first, whole, errors, statements]
  rcases runs with ⟨reached, reached'⟩ | ⟨wanted, asked, reached, reached'⟩
  · obtain ⟨final, reached', past, silent⟩ := reaches_statements ends ending' states reached' next
    rw [programBody_of_reaches closed reached ended, programBody_of_reaches closed' reached' past]
    exact .inl ⟨by simp [Cursor.diagnostics, silent, problems], rfl⟩
  · have current {cursor : Cursor} (ended : cursor.ahead = []) (last : cursor.ending = eof) :
        cursor.current = eof := by rw [Cursor.current, ended, List.headD_nil, last]
    have last : after.ending = eof :=
      (Cursor.ending_skipPast _ after).symm.trans (reached.onward.ending.trans ending)
    have last' : after'.ending = eof :=
      (Cursor.ending_skipPast _ after').symm.trans (reached'.onward.ending.trans ending')
    rw [programBody_of_reaches closed reached (Cursor.ahead_skipPast_of_nil ended _)]
    cases states with
    | nil =>
        rw [programBody_of_reaches closed' reached' (Cursor.ahead_skipPast_of_nil next _)]
        refine .inl ⟨?_, (List.append_nil _).symm⟩
        simp [Cursor.diagnostics, problems, current ended last, current next last']
    | @cons line stmt later stmts states others =>
        rw [List.flatMap_cons] at next
        obtain ⟨final, reached', past, silent⟩ := reaches_statements ends ending' others reached'
          (Cursor.ahead_skipPast_of_line next (TokenLine.kindAt_lines later) _)
        have begins : after'.current = line.first := by
          rw [Cursor.current, List.headD_eq_head?_getD, next, line.head_tokens_append]
          rfl
        rw [programBody_of_reaches closed' reached' past]
        refine .inr ⟨wanted, after.diagnostics, line, later, asked, rfl, ?_, ?_, rfl⟩
        · simp [Cursor.diagnostics, current ended last]
        · simp [Cursor.diagnostics, silent, problems, begins]

/-- A line whose tokens all are put at the beginning of a row. -/
def lineOf (row : Int) (contents : List TokenContent)
    (inline : ∀ content ∈ contents, content.kind.isLayout = false) : TokenLine where
  text := contents.map fun content => ⟨content.kind, content.value, .point "<input>" row 1⟩
  ending := ⟨.newline, .text "\n", .point "<input>" row 1⟩
  inline := by simpa using inline
  ends := rfl

/-- The end of a file of three rows. -/
def thirdEnd : Token := ⟨.endOfFile, .absent, .point "<input>" 4 1⟩

/-- A definition without its value. -/
def brokenLine : TokenLine :=
  lineOf 1 [.name "x", .sign .colon, .name "int", .sign .assign] (by decide)

/-- A choice without its body. -/
def headerLine : TokenLine := lineOf 2 [.word .kwIf, .word .kwTrue, .sign .colon] (by decide)

/-- A line that reads a variable. -/
def readingLine : TokenLine := lineOf 3 [.name "y"] (by decide)

/-- The line behind a header is the only one that is left out. -/
theorem ofLines_append_readingLine :
    ∃ stmt, thirdEnd.kind = .endOfFile ∧
      List.Forall₂ (StatesAlone "<input>" thirdEnd) [readingLine] [stmt] ∧
      let first := ofLines "<input>" [brokenLine, headerLine] thirdEnd
      let whole := ofLines "<input>" ([brokenLine, headerLine] ++ [readingLine]) thirdEnd
      (whole.errors = first.errors ∧ whole.statements = first.statements ++ [stmt]) ∨
        ∃ (wanted : Expectation) (known : List Diagnostic) (line : TokenLine)
          (rest : List TokenLine),
          wanted.isBody = true ∧ [readingLine] = line :: rest ∧
          first.errors = known ++ [(wanted.missingAt thirdEnd).toDiagnostic] ∧
          whole.errors = known ++ [(wanted.missingAt line.first).toDiagnostic] ∧
          whole.statements = first.statements ++ [stmt].tail := by
  obtain ⟨stmt, states⟩ := List.length_eq_one_iff.mp
    (show (ofLines "<input>" [readingLine] thirdEnd).statements.length = 1 by decide +kernel)
  have quiet : (ofLines "<input>" [readingLine] thirdEnd).errors = [] :=
    List.isEmpty_iff.mp (by decide +kernel)
  have alone : List.Forall₂ (StatesAlone "<input>" thirdEnd) [readingLine] [stmt] :=
    .cons ⟨quiet, states⟩ .nil
  exact ⟨stmt, rfl, alone, ofLines_append _ _ _ _ rfl _ alone⟩

/-- A statement is left out though its line is in order. -/
theorem exists_statement_left_out :
    ∃ stmt, StatesAlone "<input>" thirdEnd readingLine stmt ∧
      ¬ [stmt] <:+ (ofLines "<input>" [headerLine, readingLine] thirdEnd).statements := by
  obtain ⟨stmt, states⟩ := List.length_eq_one_iff.mp
    (show (ofLines "<input>" [readingLine] thirdEnd).statements.length = 1 by decide +kernel)
  have none : (ofLines "<input>" [headerLine, readingLine] thirdEnd).statements = [] :=
    List.isEmpty_iff.mp (by decide +kernel)
  exact ⟨stmt, ⟨List.isEmpty_iff.mp (by decide +kernel), states⟩, by simp [none]⟩

end Program

end ChocoLang
