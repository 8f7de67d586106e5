import ChocoLang.Proofs.Parsing.ReadBack.Expression

/-!
# Statements read without problems

The tokens of a statement or of a block that is read quietly write it.  The members of a block are
told one after the other; its end comes where the indentation ends, as no block is open at the end
of the file.
-/

namespace ChocoLang
namespace Parse

variable {cursor after : Cursor}

/-! ## Blocks -/

theorem openBody_spells {wanted : Expectation} (quiet : Quiet (openBody wanted) cursor () after) :
    cursor.Spells [.newline, .indent] after := by
  obtain ⟨_, second, ended, rest⟩ := quiet.bind
  obtain ⟨_, third, begun, rest⟩ := rest.bind
  obtain ⟨-, rfl⟩ := rest.pure
  exact (ended.expectFixed rfl).cons (begun.expectFixed rfl)

/-- Lines in a block make up a body: there is one at least, and the end of the block is read. -/
theorem block_spells {first second third : Cursor} {inner : List TokenContent} {found : Bool}
    (orderly : first.Orderly) (opened : first.Spells [.newline, .indent] second)
    (lines : second.Spells inner third) (closed : BlocksClosed inner)
    (ends : third.atBodyEnd = true) (accepted : Quiet (accept .dedent) third found after) :
    inner ≠ [] ∧ first.Spells (bodySpelling inner) after := by
  have more := orderly.ahead_ne_nil_of_block closed (opened.trans lines)
  have dedent : third.kind = .dedent := by
    simpa [Cursor.atBodyEnd, Cursor.atEnd, more] using ends
  constructor
  · rintro rfl
    have text := orderly.kindAt_of_indent opened
    rw [lines.eq_of_nil, ← third.kind_eq_kindAt, dedent] at text
    cases text
  · obtain ⟨-, stands⟩ | ⟨-, -, other⟩ := accepted.accept rfl
    · exact opened.trans (lines.trans stands)
    · exact absurd dedent other

/-- The tokens write what was read of a line or of a statement, or nothing but an empty line. -/
def StatementAs (read : Option Stmt) (tokens : List TokenContent) : Prop :=
  tokens ≠ [] ∧ PaddedAs Stmt.WrittenAs read.toList tokens

/-- The statements of a block are those of its lines, one after the other. -/
theorem blockStep_writes {reader : Parse (Option Stmt)} [Forward reader]
    (each : Writes reader StatementAs) {first : Cursor} {stmts next : List Stmt}
    (read : ∃ tokens, first.Spells tokens cursor ∧ PaddedAs Stmt.WrittenAs stmts tokens)
    (quiet : Recovering.Quiet (blockStep reader stmts) cursor next after) :
    (∃ tokens, first.Spells tokens after ∧ PaddedAs Stmt.WrittenAs next tokens) ∧
      after.ahead.length < cursor.ahead.length := by
  obtain ⟨before, spells, writes⟩ := read
  obtain ⟨found, middle, one, rest⟩ := quiet.of_recovering.bind
  obtain ⟨rfl, rfl⟩ := rest.pure
  obtain ⟨tokens, spells', nonempty, writes'⟩ := each one
  exact ⟨⟨_, spells.trans spells', writes.append writes'⟩, spells'.length_lt nonempty⟩

section Statements

variable {expression : Parse Expr} {block : Parse (List Stmt)} [Forward expression] [Forward block]
  (whole : Writes expression (Expr.WrittenAs .lowest)) (body : Writes block Stmt.BodyAs)

/-! ## Simple statements -/

section Simple

include whole

omit [Forward block]

/-- The tokens are text of a line, and with the end of the line they write the statement. -/
def SimpleAs (read : Option Stmt) (tokens : List TokenContent) : Prop :=
  tokens ≠ [] ∧ Inline tokens ∧ PaddedAs Stmt.WrittenAs read.toList (tokens ++ [.newline])

theorem returnStatement_writes (stands : cursor.kind = .keyword .kwReturn) {stmt : Stmt}
    (quiet : Quiet (returnStatement expression) cursor stmt after) :
    ∃ tokens, cursor.Spells tokens after ∧ SimpleAs (some stmt) tokens := by
  obtain ⟨start, second, begun, rest⟩ := quiet.bind
  have first := begun.advanceFixed stands rfl
  have rest := rest.look
  split at rest
  · obtain ⟨rfl, rfl⟩ := rest.look.pure
    exact ⟨_, first, by simp, by simp [TokenKind.isLayout], .single (.bareReturn _)⟩
  · obtain ⟨value, third, read, rest⟩ := rest.bind
    obtain ⟨rfl, rfl⟩ := rest.look.pure
    obtain ⟨tokens, spells, writes⟩ := whole read
    exact ⟨_, first.cons spells, by simp, by simp [writes.inline, TokenKind.isLayout],
      .single (.returnValue _ writes)⟩

omit whole [Forward expression] in
/-- Further expressions behind signs of assignment are assigned the last one. -/
theorem statementOf_writes {start : Span} {first : Expr} {others : List Expr} {stmt : Stmt}
    {before behind : List TokenContent} (head : first.WrittenAs .lowest before)
    (tail : FurtherAs (.sign .assign) (Expr.WrittenAs .lowest) others behind)
    (quiet : Quiet (statementOf start first others) cursor stmt after) :
    cursor = after ∧ stmt.WrittenAs (before ++ behind ++ [.newline]) := by
  unfold statementOf at quiet
  split at quiet
  · next none =>
      obtain ⟨rfl, rfl⟩ := quiet.look.pure
      obtain rfl := List.getLast?_eq_none_iff.mp none
      cases tail
      rw [List.append_nil]
      exact ⟨rfl, .expr _ head⟩
  · next value last =>
      obtain ⟨_, second, checked, rest⟩ := quiet.bind
      obtain ⟨rfl, rfl⟩ := rest.look.pure
      have stays : cursor = second := by
        unfold checkTargets at checked
        split at checked
        · exact absurd checked Quiet.not_throw
        · exact checked.pure.2
      have all : first :: others.dropLast ++ [value] = first :: others := by
        rw [List.cons_append, List.dropLast_append_getLast? value last]
      exact ⟨stays, .assign _ (by simp) (all ▸ .cons head tail)⟩

theorem expressionStatement_writes {stmt : Stmt}
    (quiet : Quiet (expressionStatement expression) cursor stmt after) :
    ∃ tokens, cursor.Spells tokens after ∧ SimpleAs (some stmt) tokens := by
  rw [expressionStatement_eq] at quiet
  obtain ⟨first, second, read, rest⟩ := quiet.look.bind
  obtain ⟨others, third, further, rest⟩ := rest.bind
  obtain ⟨before, spells, head⟩ := whole read
  obtain ⟨behind, spells', tail⟩ := itemsAfter_writes rfl whole further
  obtain ⟨rfl, writes⟩ := statementOf_writes head tail rest
  refine ⟨_, spells.trans spells', by simp [head.ne_nil], ?_, .single writes⟩
  exact inline_append.mpr ⟨head.inline, tail.inline rfl fun _ _ writes => writes.inline⟩

theorem simpleStatement_writes : Writes (simpleStatement expression) SimpleAs := by
  intro cursor read after quiet
  have rest := quiet.look
  split at rest
  · next kind =>
      obtain ⟨_, second, skipped, rest⟩ := rest.bind
      obtain ⟨rfl, rfl⟩ := rest.pure
      have more := ahead_ne_nil_of_kind kind (by simp)
      exact ⟨_, skipped.skipFixed ((kind_current_of_ahead more).trans kind) rfl, by simp,
        by simp [TokenKind.isLayout], .pass .nil⟩
  · next kind =>
      obtain ⟨stmt, second, returned, rest⟩ := rest.bind
      obtain ⟨rfl, rfl⟩ := rest.pure
      exact returnStatement_writes whole kind returned
  · obtain ⟨stmt, second, read, rest⟩ := rest.bind
    obtain ⟨rfl, rfl⟩ := rest.pure
    exact expressionStatement_writes whole read

end Simple

/-! ## Compound statements -/

section Compound

include whole body

theorem arm_writes {lead : Keyword} (stands : cursor.kind = .keyword lead) {read : Arm}
    (quiet : Quiet (arm expression block) cursor read after) :
    ∃ asked inner, cursor.Spells (armTokens lead asked inner) after ∧
      read.condition.WrittenAs .lowest asked ∧ Stmt.BodyAs read.body inner := by
  obtain ⟨start, second, begun, rest⟩ := quiet.bind
  obtain ⟨condition, third, asks, rest⟩ := rest.bind
  obtain ⟨_, fourth, colon, rest⟩ := rest.bind
  obtain ⟨stmts, fifth, opened, rest⟩ := rest.bind
  obtain ⟨rfl, rfl⟩ := rest.pure
  obtain ⟨asked, spells, writes⟩ := whole asks
  obtain ⟨inner, spells', writes'⟩ := body opened
  refine ⟨asked, inner, ?_, writes, writes'⟩
  exact (begun.advanceFixed stands rfl).cons (spells.trans (colon.expectSymbol.cons spells'))

omit whole [Forward expression] in
theorem alternative_writes : Writes (alternative block) Stmt.BranchAs := by
  intro cursor stmts after quiet
  obtain ⟨found, second, accepted, rest⟩ := quiet.bind
  obtain ⟨rfl, stands⟩ | ⟨rfl, rfl, -⟩ := accepted.accept rfl
  · obtain ⟨_, third, colon, rest⟩ := rest.bind
    obtain ⟨tokens, spells, writes⟩ := body rest
    exact ⟨_, stands.cons (colon.expectSymbol.cons spells), .separate writes⟩
  · obtain ⟨rfl, rfl⟩ := rest.pure
    exact ⟨[], .refl _, .absent⟩

/-- The further conditions of a chain are its second branch, wherever its statements stop. -/
theorem furtherArms_writes (bound : Nat) :
    Writes (furtherArms expression block bound) fun read tokens =>
      ∀ spanFrom, Stmt.BranchAs (Arm.chain spanFrom read.2 read.1) tokens := by
  induction bound with
  | zero =>
      intro cursor read after quiet
      obtain ⟨rfl, rfl⟩ := quiet.pure
      exact ⟨[], .refl _, fun _ => .absent⟩
  | succ bound ih =>
      intro cursor read after quiet
      obtain ⟨found, second, checked, rest⟩ := quiet.bind
      obtain ⟨rfl, rfl⟩ := checked.check
      split at rest
      · next stands =>
          obtain ⟨first, third, one, rest⟩ := rest.bind
          obtain ⟨⟨others, otherwise⟩, fourth, further, rest⟩ := rest.bind
          obtain ⟨rfl, rfl⟩ := rest.pure
          obtain ⟨asked, inner, spells, writes, writes'⟩ :=
            arm_writes whole body (by simpa using stands) one
          obtain ⟨tokens, spells', chain⟩ := ih further
          exact ⟨_, spells.trans spells', fun spanFrom =>
            .chained _ writes writes' (chain spanFrom)⟩
      · obtain ⟨otherwise, third, read, rest⟩ := rest.bind
        obtain ⟨rfl, rfl⟩ := rest.pure
        obtain ⟨tokens, spells, writes⟩ := alternative_writes body read
        exact ⟨_, spells, fun _ => writes⟩

theorem ifStatement_writes (stands : cursor.kind = .keyword .kwIf) {stmt : Stmt}
    (quiet : Quiet (ifStatement expression block) cursor stmt after) :
    ∃ tokens, cursor.Spells tokens after ∧ stmt.WrittenAs tokens := by
  obtain ⟨first, second, one, rest⟩ := quiet.bind
  obtain ⟨⟨others, otherwise⟩, third, further, rest⟩ := rest.look.bind
  obtain ⟨rfl, rfl⟩ := (Quiet.get rest).pure
  obtain ⟨asked, inner, spells, writes, writes'⟩ := arm_writes whole body stands one
  obtain ⟨tokens, spells', chain⟩ := furtherArms_writes whole body _ further
  exact ⟨_, spells.trans spells', .ifElse _ writes writes' (chain _)⟩

theorem whileStatement_writes (stands : cursor.kind = .keyword .kwWhile) {stmt : Stmt}
    (quiet : Quiet (whileStatement expression block) cursor stmt after) :
    ∃ tokens, cursor.Spells tokens after ∧ stmt.WrittenAs tokens := by
  obtain ⟨loop, second, read, rest⟩ := quiet.bind
  obtain ⟨rfl, rfl⟩ := rest.look.pure
  obtain ⟨asked, inner, spells, writes, writes'⟩ := arm_writes whole body stands read
  exact ⟨_, spells, .whileLoop _ writes writes'⟩

theorem forStatement_writes (stands : cursor.kind = .keyword .kwFor) {stmt : Stmt}
    (quiet : Quiet (forStatement expression block) cursor stmt after) :
    ∃ tokens, cursor.Spells tokens after ∧ stmt.WrittenAs tokens := by
  obtain ⟨start, second, begun, rest⟩ := quiet.bind
  obtain ⟨element, third, named, rest⟩ := rest.bind
  obtain ⟨_, fourth, among, rest⟩ := rest.bind
  obtain ⟨iterable, fifth, read, rest⟩ := rest.bind
  obtain ⟨_, sixth, colon, rest⟩ := rest.bind
  obtain ⟨stmts, seventh, opened, rest⟩ := rest.bind
  obtain ⟨rfl, rfl⟩ := rest.look.pure
  obtain ⟨iterated, spells, writes⟩ := whole read
  obtain ⟨inner, spells', writes'⟩ := body opened
  refine ⟨_, ?_, .forLoop _ element writes writes'⟩
  exact (begun.advanceFixed stands rfl).cons (named.identifier.1.cons
    ((among.expectFixed rfl).cons (spells.trans (colon.expectSymbol.cons spells'))))

theorem statement_writes : Writes (statement expression block) StatementAs := by
  intro cursor read after quiet
  have rest := quiet.look
  split at rest
  · exact absurd rest Quiet.not_fail
  · next kind =>
      obtain ⟨stmt, second, read, rest⟩ := rest.bind
      obtain ⟨rfl, rfl⟩ := rest.pure
      obtain ⟨tokens, spells, writes⟩ := ifStatement_writes whole body kind read
      exact ⟨tokens, spells, writes.ne_nil, .single writes⟩
  · next kind =>
      obtain ⟨stmt, second, read, rest⟩ := rest.bind
      obtain ⟨rfl, rfl⟩ := rest.pure
      obtain ⟨tokens, spells, writes⟩ := whileStatement_writes whole body kind read
      exact ⟨tokens, spells, writes.ne_nil, .single writes⟩
  · next kind =>
      obtain ⟨stmt, second, read, rest⟩ := rest.bind
      obtain ⟨rfl, rfl⟩ := rest.pure
      obtain ⟨tokens, spells, writes⟩ := forStatement_writes whole body kind read
      exact ⟨tokens, spells, writes.ne_nil, .single writes⟩
  · have rest := rest.look
    split at rest
    · exact absurd rest Quiet.not_fail
    · obtain ⟨simple, second, one, rest⟩ := rest.bind
      obtain ⟨_, third, ended, rest⟩ := rest.bind
      obtain ⟨rfl, rfl⟩ := rest.pure
      obtain ⟨tokens, spells, nonempty, inside, writes⟩ := simpleStatement_writes whole one
      have more := quiet.orderly.ahead_ne_nil_of_inline spells nonempty inside
      exact ⟨_, spells.trans (ended.lineEnd more), by simp, writes⟩

end Compound
end Statements

/-- The tokens of a block that is read without problems write it. -/
theorem block_writes (room : Nat) : Writes (block room) Stmt.BodyAs := by
  induction room with
  | zero => exact fun _ _ _ quiet => absurd quiet Quiet.not_fail
  | succ room ih =>
      intro cursor stmts after quiet
      obtain ⟨_, second, opened, rest⟩ := quiet.bind
      obtain ⟨found, third, lines, rest⟩ := rest.bind
      obtain ⟨_, fourth, accepted, rest⟩ := rest.bind
      obtain ⟨rfl, rfl⟩ := rest.pure
      have each := statement_writes (expression_writes room) ih
      obtain ⟨⟨inner, spells, writes⟩, ends⟩ := body_quiet (blockStep_writes each)
        ⟨[], .refl second, .nil⟩ lines.ofRecovering
      obtain ⟨nonempty, spells'⟩ := block_spells quiet.orderly (openBody_spells opened) spells
        (Stmt.blocksClosed_of_padded writes) ends accepted
      exact ⟨_, spells', .lines nonempty writes⟩

end Parse
end ChocoLang
