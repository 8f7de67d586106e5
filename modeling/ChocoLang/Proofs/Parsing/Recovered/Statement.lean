import ChocoLang.Proofs.Parsing.Recovered.Reading

/-!
# Statements and blocks account for their tokens

A statement takes all code of its lines, and its blocks account for the rest.  Where a statement is
left out, its first token is code, or no statement begins with it, or it is the empty statement, and
then the next token on its line is code or another empty statement.
-/

namespace ChocoLang

/-- A chain of choices stands where its conditions and blocks stand. -/
theorem Arm.mem_spansIn_chain {spanFrom : Span → Span} {otherwise : List Stmt} {arms : List Arm}
    {part : Span} : part ∈ Stmt.spansIn (Arm.chain spanFrom otherwise arms) ↔
      part ∈ arms.map (fun arm => spanFrom arm.start) ∨
        part ∈ arms.flatMap (fun arm => Stmt.spansIn arm.body) ∨
        part ∈ Stmt.spansIn otherwise := by
  induction arms with
  | nil => simp [Arm.chain]
  | cons arm rest ih =>
      simp only [Arm.chain, Stmt.spansIn, Stmt.spans, List.append_nil, List.mem_cons,
        List.mem_append, ih, List.map_cons, List.flatMap_cons, NodeInfo.ofSpan]
      tauto

namespace Parse

variable {sheet : Sheet} {start cursor : Cursor} {parts : List Span}

/-! ## Statements of one line -/

section Statements

variable {expression : Parse Expr} [Forward expression] [Silent expression]
  [Passes PassesText expression] (on : start.On sheet)
include on

theorem returnStatement_accounts (text : start.kind.isLayout = false) :
    Carries (· = start) (returnStatement expression)
      fun stmt => start.Accounts sheet (sheet.level start.position) stmt.spans :=
  .word on text (.look fun _ => .ite (fun _ => .cover fun _ => .pure fun _ accounts => accounts)
    fun _ => Carries.text.bind fun _ => .cover fun _ => .pure fun _ accounts => accounts)

theorem expressionStatement_accounts (opens : Opens expression start) :
    Carries (· = start) (expressionStatement expression)
      fun stmt => start.Accounts sheet (sheet.level start.position) stmt.spans := by
  rw [expressionStatement_eq]
  refine .atStart ((Carries.begin on opens).bind fun first => Carries.text.bind fun others => ?_)
  unfold statementOf
  split
  · exact .cover fun _ => .pure fun _ accounts => accounts
  · exact Carries.text.bind fun _ => .cover fun _ => .pure fun _ accounts => accounts

theorem simpleStatement_accounts (opens : Opens expression start) :
    Carries (· = start) (simpleStatement expression)
      fun read => start.Accounts sheet (sheet.level start.position) (Stmt.spansIn read.toList) := by
  have single {reader : Parse Stmt} (carries : Carries (· = start) reader
      fun stmt => start.Accounts sheet (sheet.level start.position) stmt.spans) :
      Carries (· = start) (reader >>= fun stmt => pure (some stmt)) fun read =>
        start.Accounts sheet (sheet.level start.position) (Stmt.spansIn read.toList) :=
    carries.bind fun stmt => .pure fun _ accounts => by
      simpa [Stmt.spansIn] using accounts
  refine .atStart ?_
  split
  · next kind =>
      rintro cursor _ _ rfl ⟨⟩
      have noCode : ¬sheet.Code cursor.position := by
        rw [Sheet.Code, Token.isCode, ← on.kind, kind]
        decide
      exact .step on (by rw [kind]; rfl) noCode (by simp [kind]) _
  · next kind => exact single (returnStatement_accounts on (by rw [kind]; rfl))
  · exact single (expressionStatement_accounts on opens)

end Statements
/-! ## Compound statements -/

/-- The reader of blocks accounts for what it reads. -/
def BlocksAccounted (sheet : Sheet) (block : Parse (List Stmt)) : Prop :=
  ∀ (start : Cursor) (parts : List Span), Carries (start.Inside sheet parts) block
    fun statements cursor => cursor.kind ≠ .newline ∧
      start.Inside sheet (parts ++ Stmt.spansIn statements) cursor

section Compound

variable {expression : Parse Expr} {block : Parse (List Stmt)} [Forward expression]
  [Silent expression] [Passes PassesText expression] (blocks : BlocksAccounted sheet block)

/-- Reads a condition and its block behind the word that begins it. -/
def armBehind (expression : Parse Expr) (block : Parse (List Stmt)) (word : Span) : Parse Arm := do
  let condition ← expression
  expectSymbol .colon .colonAfterCondition
  let body ← block
  return { start := word, condition, body }

include blocks

theorem armBehind_accounts (word : Span) :
    Carries (start.Inside sheet parts) (armBehind expression block word)
      fun arm cursor => arm.start = word ∧ cursor.kind ≠ .newline ∧
        start.Inside sheet (parts ++ Stmt.spansIn arm.body) cursor :=
  Carries.text.bind fun _ => Carries.text.bind fun _ => (blocks start parts).bind fun _ =>
    .pure fun _ inside => ⟨rfl, inside⟩

theorem arm_accounts (on : start.On sheet) (text : start.kind.isLayout = false) :
    Carries (· = start) (arm expression block) fun arm cursor =>
      arm.start = start.current.span ∧ cursor.kind ≠ .newline ∧
        start.Inside sheet (Stmt.spansIn arm.body) cursor :=
  .word on text (armBehind_accounts blocks start.current.span)

theorem furtherArm_accounts [Forward block] :
    Carries (fun cursor => cursor.kind = .keyword .kwElif ∧ start.Inside sheet parts cursor)
      (arm expression block) fun arm cursor => start.Begins sheet cursor arm.start ∧
        cursor.kind ≠ .newline ∧ start.Inside sheet (parts ++ Stmt.spansIn arm.body) cursor := by
  rintro cursor found final ⟨kind, inside⟩ ok
  have text : sheet.Text cursor.position := by rw [Sheet.Text, ← inside.on.kind, kind]; rfl
  have behind : start.Inside sheet parts cursor.advance :=
    inside.keep inside.on.advance (passes_advance (by rw [kind]; rfl)) (by simp)
  change armBehind expression block cursor.current.span cursor.advance = _ at ok
  obtain ⟨word, last⟩ := armBehind_accounts blocks _ _ found final behind ok
  have moved : Forward (armBehind expression block cursor.current.span) := by
    unfold armBehind; infer_instance
  have further := (onward_of_ok ok).position_le
  rw [inside.on.position_advance text.lt] at further
  exact ⟨⟨cursor.position, inside.whole.le, further, text, inside.whole.level,
    by rw [word, inside.on.current]⟩, last⟩

/-- Behind the last condition there may be one more block. -/
theorem alternative_accounts :
    Carries (fun cursor => cursor.kind ≠ .newline ∧ start.Inside sheet parts cursor)
      (alternative block) fun otherwise cursor => cursor.kind ≠ .newline ∧
        start.Inside sheet (parts ++ Stmt.spansIn otherwise) cursor := by
  rintro cursor otherwise final ⟨fresh, inside⟩ ok
  by_cases kind : cursor.kind = .keyword .kwElse
  · have behind : start.Inside sheet parts cursor.advance :=
      inside.keep inside.on.advance (passes_advance (by rw [kind]; rfl)) (by simp)
    have carries : Carries (start.Inside sheet parts) (do
        expectSymbol .colon .colonAfterElse
        block) _ := Carries.text.bind fun _ => blocks start parts
    rw [alternative, bind_of_ok (accept_of_kind kind)] at ok
    exact carries cursor.advance otherwise final behind ok
  · rw [alternative, bind_of_ok (accept_of_ne kind)] at ok
    cases ok
    exact ⟨fresh, by simpa [Stmt.spansIn] using inside⟩

/-- The further conditions of a chain begin in the block of the first one. -/
theorem furtherArms_accounts [Forward block] (bound : Nat) :
    Carries (fun cursor => cursor.kind ≠ .newline ∧ start.Inside sheet parts cursor)
      (furtherArms expression block bound) fun chain cursor =>
        (∀ arm ∈ chain.1, start.Begins sheet cursor arm.start) ∧ cursor.kind ≠ .newline ∧
          start.Inside sheet (parts ++ ((chain.1.flatMap fun arm => Stmt.spansIn arm.body) ++
            Stmt.spansIn chain.2)) cursor := by
  induction bound generalizing parts with
  | zero => exact .pure fun _ inside => ⟨by simp, inside.1, by simpa [Stmt.spansIn] using inside.2⟩
  | succ bound ih =>
      rintro cursor chain final inside ok
      change (if (cursor.kind == .keyword .kwElif) = true then _ else _ : Parse _) cursor = _ at ok
      split at ok
      · next kind =>
          obtain ⟨first, middle, read, ok⟩ := exists_of_bind ok
          obtain ⟨rest, later, read', ok⟩ := exists_of_bind ok
          cases ok
          obtain ⟨begins, reached⟩ :=
            furtherArm_accounts blocks cursor first middle ⟨beq_iff_eq.mp kind, inside.2⟩ read
          obtain ⟨others, fresh, last⟩ := ih middle rest final reached read'
          refine ⟨List.forall_mem_cons.mpr ⟨?_, others⟩, fresh, by simpa using last⟩
          exact begins.mono (onward_of_ok read').position_le
      · next kind =>
          obtain ⟨otherwise, middle, read, ok⟩ := exists_of_bind ok
          cases ok
          obtain ⟨fresh, last⟩ := alternative_accounts blocks cursor otherwise final inside read
          exact ⟨by simp, fresh, by simpa using last⟩

theorem ifStatement_finishes [Forward block] (on : start.On sheet)
    (text : start.kind.isLayout = false) :
    Carries (· = start) (ifStatement expression block)
      fun stmt => start.Finishes sheet stmt.spans := by
  rintro cursor stmt final rfl ok
  obtain ⟨first, middle, read, ok⟩ := exists_of_bind ok
  obtain ⟨bound, _, ⟨⟩, ok⟩ := exists_of_bind ok
  obtain ⟨⟨rest, otherwise⟩, later, read', ok⟩ := exists_of_bind ok
  cases ok
  obtain ⟨word, reached⟩ := arm_accounts blocks on text _ first middle rfl read
  obtain ⟨begins, fresh, inside⟩ := furtherArms_accounts blocks _ middle _ final reached read'
  have all : ∀ word ∈ first.start :: rest.map Arm.start, cursor.Begins sheet final word := by
    refine List.forall_mem_cons.mpr ⟨word ▸ inside.begins, fun other among => ?_⟩
    obtain ⟨arm, chained, rfl⟩ := List.mem_map.mp among
    exact begins arm chained
  refine ⟨(inside.cover (by simp [word]) all).of_mem_iff fun part => ?_, fresh⟩
  simp only [Stmt.spans, Arm.mem_spansIn_chain, NodeInfo.ofSpan, List.map_cons, List.map_map,
    List.cons_append, List.mem_cons, List.mem_append, Function.comp_def]
  tauto

theorem whileStatement_finishes (on : start.On sheet) (text : start.kind.isLayout = false) :
    Carries (· = start) (whileStatement expression block)
      fun stmt => start.Finishes sheet stmt.spans :=
  (arm_accounts blocks on text).bind fun loop => .of_and fun word => by
    rw [word]
    exact .finish fun _ => rfl

theorem forStatement_finishes (on : start.On sheet) (text : start.kind.isLayout = false) :
    Carries (· = start) (forStatement expression block)
      fun stmt => start.Finishes sheet stmt.spans :=
  .word on text (Carries.text.bind fun _ => Carries.text.bind fun _ => Carries.text.bind fun _ =>
    Carries.text.bind fun _ => (blocks start []).bind fun _ => .finish fun _ => rfl)

theorem statement_finishes [Forward block] (on : start.On sheet)
    (opens : Opens expression start) :
    Carries (· = start) (statement expression block)
      fun read => start.Finishes sheet (Stmt.spansIn read.toList) := by
  have single {reader : Parse Stmt} (carries : Carries (· = start) reader
      fun stmt => start.Finishes sheet stmt.spans) :
      Carries (· = start) (reader >>= fun stmt => pure (some stmt)) fun read =>
        start.Finishes sheet (Stmt.spansIn read.toList) :=
    carries.bind fun stmt => .pure fun _ finishes => by simpa [Stmt.spansIn] using finishes
  refine .atStart ?_
  split
  · exact .fail
  · next kind => exact single (ifStatement_finishes blocks on (by rw [kind]; rfl))
  · next kind => exact single (whileStatement_finishes blocks on (by rw [kind]; rfl))
  · next kind => exact single (forStatement_finishes blocks on (by rw [kind]; rfl))
  · exact .look fun _ => .ite (fun _ => .fail) fun _ =>
      (simpleStatement_accounts on opens).bind fun _ => Carries.lineEnd.bind fun _ =>
        .pure fun _ finishes => finishes

end Compound

/-! ## Statements that are left out -/

section Excuses

variable {expression : Parse Expr} {block : Parse (List Stmt)} {problem : Located SyntaxError}
  {after : Cursor}

theorem statement_of_pass (kind : start.kind = .keyword .kwPass) :
    statement expression block start =
      (lineEnd >>= fun _ => pure none : Parse (Option Stmt)) start.advance := by
  have simple : simpleStatement expression start = .ok none start.advance := by
    rw [simpleStatement, look_bind, kind]
    rfl
  have noDeclaration : start.atDeclaration = false := by
    rw [Cursor.atDeclaration, kind]
  rw [statement, look_bind, kind]
  change (if start.atDeclaration = true then _ else _ : Parse (Option Stmt)) start = _
  rw [if_neg (by simp [noDeclaration]), bind_of_ok simple]

/-- A statement at which a line goes wrong is code, unless it is the empty one. -/
theorem statement_excused (on : start.On sheet) (fresh : start.kind ≠ .newline)
    (more : start.atBodyEnd = false)
    (failed : statement expression block start = .error problem after) :
    Excused sheet start problem after := by
  rcases on.indent_or_text fresh more with indent | text
  · rw [statement, look_bind, indent] at failed
    cases failed
    exact ⟨start.position, .inl rfl, .inr
      ⟨by rw [on.current], by rw [← on.kind, indent]; exact .unexpectedIndent⟩⟩
  by_cases pass : start.kind = .keyword .kwPass
  · rw [statement_of_pass pass] at failed
    obtain ⟨rfl, rfl, fresh', more'⟩ := lineEnd_of_error (error_of_bind_pure failed)
    have on' := on.advance
    have position := on.position_advance text.lt
    have text' : sheet.Text start.advance.position := by
      rw [position]
      exact text.next.resolve_left (by rwa [← position, ← on'.kind])
    have inside : start.advance.atBodyEnd = false := by
      rw [Sheet.Text, ← on'.kind] at text'
      cases kind : start.advance.kind <;> simp_all [Cursor.atBodyEnd, TokenKind.isLayout]
    refine ⟨start.advance.position, .inr ⟨rfl, inside⟩, ?_⟩
    by_cases pass' : (sheet.token start.advance.position).kind = .keyword .kwPass
    · exact .inr ⟨by rw [on'.current], pass' ▸ .noLineEnd _⟩
    · exact .inl (text'.code pass')
  · exact excused_of_code (text.code (on.kind ▸ pass))

end Excuses

/-! ## Blocks -/

theorem blockRound_accounted (room : Nat) (blocks : BlocksAccounted sheet (block room))
    (statements : List Stmt) (on : start.On sheet) (fresh : start.kind ≠ .newline)
    (more : start.atBodyEnd = false) :
    Accounted sheet Stmt.spansIn statements start (blockRound room statements start) := by
  refine accounted_recovering on more ?_ fun problem after failed =>
    statement_excused on fresh more (error_of_bind_pure failed)
  refine (statement_finishes blocks on (expression_opens on.closed room)).bind fun read => ?_
  exact .pure fun _ finishes => ⟨_, finishes, by simp⟩

/-- Blocks are accounted for at any depth. -/
theorem blocks_accounted (room : Nat) : BlocksAccounted sheet (block room) := by
  induction room with
  | zero => exact fun _ _ => .fail
  | succ room ih =>
      intro start parts
      rw [block_succ]
      refine .enclosed (fun _ closed => atBodyEnd_blockBody room closed)
        (fun cursor on fresh => ?_) _
      obtain ⟨more, finishes, same⟩ := (run_block on.closed room []).accounted
        (fun statements _ on fresh more => blockRound_accounted room ih statements on fresh more)
        on fresh
      exact ⟨finishes.toAccounts.of_mem_iff fun part => (same part).trans (by simp [Stmt.spansIn]),
        finishes.fresh⟩

end Parse
end ChocoLang
