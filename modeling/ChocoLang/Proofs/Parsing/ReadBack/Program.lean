import ChocoLang.Proofs.Parsing.ReadBack.Statement

/-!
# Declarations and programs read without problems

The tokens of a declaration that is read quietly write it.  A class below the top level and a
declaration behind a statement are reported, so that neither is left out quietly; and a function
without a statement is reported, so that the statements of a function are written by a line at
least.

When neither the tokens nor the tree of a program have a problem, the tokens write the tree: nothing
that stands in the program is dropped silently.
-/

namespace ChocoLang
namespace Parse

variable {cursor after : Cursor}

/-- What is read at a token of the kind is written by the tokens that are left behind. -/
def WritesAt {α : Type} (kind : TokenKind) (reader : Parse α)
    (writes : α → List TokenContent → Prop) : Prop :=
  ∀ ⦃cursor : Cursor⦄ ⦃value : α⦄ ⦃after : Cursor⦄, cursor.kind = kind →
    Quiet reader cursor value after → ∃ tokens, cursor.Spells tokens after ∧ writes value tokens

/-! ## Variables -/

theorem atom?_isLiteral {token : Token} {atom : Expr} (literal : token.kind.isLiteral = true)
    (found : atom? token = some atom) : atom.isLiteral = true := by
  unfold atom? at found
  dsimp only at found
  split at found
  · next kind => simp [kind, TokenKind.isLiteral] at literal
  all_goals cases found <;> rfl

theorem initializer_writes :
    Writes initializer fun value tokens => value.isLiteral = true ∧ value.BareAs tokens := by
  intro cursor value after quiet
  have rest := quiet.look
  split at rest
  · next value found =>
      obtain ⟨_, second, skipped, rest⟩ := rest.bind
      obtain ⟨rfl, rfl⟩ := rest.pure
      rw [Option.ite_none_right_eq_some] at found
      obtain ⟨literal, found⟩ := found
      have text : cursor.current.kind ≠ .endOfFile := by
        rintro kind
        simp [kind, TokenKind.isLiteral] at literal
      obtain ⟨spells, regular⟩ := skipped.skip (ahead_ne_nil_of_current quiet.orderly text)
      exact ⟨_, spells, atom?_isLiteral literal found, (atom?_bareAs regular found).1⟩
  · exact absurd rest Quiet.not_fail

theorem variableDefinition_writes (room : Nat) :
    Writes (variableDefinition room) Decl.WrittenAs := by
  intro cursor decl after quiet
  obtain ⟨var, second, typed, rest⟩ := quiet.look.bind
  obtain ⟨_, third, sign, rest⟩ := rest.bind
  obtain ⟨value, fourth, read, rest⟩ := rest.bind
  obtain ⟨_, fifth, ended, rest⟩ := rest.look.bind
  obtain ⟨rfl, rfl⟩ := rest.pure
  obtain ⟨before, spells, writes⟩ := typedVar_writes room typed
  obtain ⟨literal, spells', isLiteral, bare⟩ := initializer_writes read
  have line := spells.trans (sign.expectSymbol.cons spells')
  have more := quiet.orderly.ahead_ne_nil_of_inline line (by simp)
    (by simp [writes.inline, bare.inline, TokenKind.isLayout])
  have whole := spells.trans (sign.expectSymbol.cons (spells'.trans (ended.lineEnd more)))
  exact ⟨_, whole, .varDef _ writes isLiteral bare⟩

/-- A function begins the declaration of an outer variable with one of two words. -/
theorem outerVariable_writes {decl : Decl}
    (stands : cursor.kind = .keyword .kwGlobal ∨ cursor.kind = .keyword .kwNonlocal)
    (quiet : Quiet outerVariable cursor decl after) :
    ∃ tokens, cursor.Spells tokens after ∧ decl.WrittenAs tokens := by
  obtain ⟨start, second, begun, rest⟩ := quiet.bind
  obtain ⟨name, third, named, rest⟩ := rest.bind
  obtain ⟨_, fourth, ended, rest⟩ := rest.look.bind
  have more : cursor.ahead ≠ [] := by
    rcases stands with kind | kind <;> exact ahead_ne_nil_of_kind kind nofun
  have kind : start.kind = cursor.kind := by
    rw [(begun.advance more).1, kind_current_of_ahead more]
  have line {word : Keyword} (same : cursor.kind = .keyword word) :
      cursor.Spells [.word word, .name name.name, .newline] fourth := by
    have first := (begun.advanceFixed same rfl).cons named.identifier.1
    have further := quiet.orderly.ahead_ne_nil_of_inline first (by simp) (by simp [TokenKind.isLayout])
    exact first.trans (ended.lineEnd further)
  rcases stands with same | same <;> rw [kind, same] at rest <;> obtain ⟨rfl, rfl⟩ := rest.pure
  · exact ⟨_, line same, .globalDecl _ name⟩
  · exact ⟨_, line same, .nonlocalDecl _ name⟩

/-! ## Classes -/

/-- The tokens write the declaration that was read; there is one. -/
def DeclarationAs (read : Option Decl) (tokens : List TokenContent) : Prop :=
  ∃ decl, read = some decl ∧ decl.WrittenAs tokens

theorem classHeader_spells {read : Span × Identifier × Identifier}
    (stands : cursor.kind = .keyword .kwClass) (quiet : Quiet classHeader cursor read after) :
    ∃ middle : Cursor, middle.Orderly ∧ cursor.Spells [.word .kwClass, .name read.2.1.name,
        .sign .leftParen, .name read.2.2.name, .sign .rightParen, .sign .colon] middle ∧
      middle.Spells [.newline, .indent] after := by
  obtain ⟨start, second, begun, rest⟩ := quiet.bind
  obtain ⟨name, third, named, rest⟩ := rest.bind
  obtain ⟨_, fourth, opens, rest⟩ := rest.bind
  obtain ⟨superclass, fifth, above, rest⟩ := rest.bind
  obtain ⟨_, sixth, closes, rest⟩ := rest.bind
  obtain ⟨_, seventh, colon, rest⟩ := rest.bind
  obtain ⟨_, eighth, opened, rest⟩ := rest.bind
  obtain ⟨rfl, rfl⟩ := rest.pure
  refine ⟨seventh, opened.orderly, ?_, openBody_spells opened⟩
  exact (begun.advanceFixed stands rfl).cons (named.identifier.1.cons (opens.expectSymbol.cons
    (above.identifier.1.cons (closes.expectSymbol.cons colon.expectSymbol))))

/-- The tokens write the member that was read, or nothing but an empty line. -/
def MemberAs (read : Option Decl) (tokens : List TokenContent) : Prop :=
  tokens ≠ [] ∧ PaddedAs Decl.WrittenAs read.toList tokens

section Members

variable {declaration : Parse (Option Decl)} [Forward declaration]
  (each : Writes declaration DeclarationAs)

include each

theorem classMember_writes : Writes (classMember declaration) MemberAs := by
  intro cursor read after quiet
  obtain ⟨found, second, accepted, rest⟩ := quiet.bind
  obtain ⟨rfl, stands⟩ | ⟨rfl, rfl, -⟩ := accepted.accept rfl
  · obtain ⟨_, third, ended, rest⟩ := rest.bind
    obtain ⟨rfl, rfl⟩ := rest.pure
    have more := quiet.orderly.ahead_ne_nil_of_inline stands (by simp) (by simp [TokenKind.isLayout])
    exact ⟨_, stands.cons (ended.lineEnd more), by simp, .pass .nil⟩
  · have rest := rest.look
    split at rest
    · obtain ⟨tokens, spells, decl, rfl, writes⟩ := each rest
      exact ⟨tokens, spells, writes.ne_nil, .single writes⟩
    · exact absurd rest Quiet.not_fail

/-- The members of a class are those of its lines, one after the other. -/
theorem classStep_writes {first : Cursor} {members next : List Decl}
    (read : ∃ tokens, first.Spells tokens cursor ∧ PaddedAs Decl.WrittenAs members tokens)
    (quiet : Recovering.Quiet (classStep declaration members) cursor next after) :
    (∃ tokens, first.Spells tokens after ∧ PaddedAs Decl.WrittenAs next tokens) ∧
      after.ahead.length < cursor.ahead.length := by
  obtain ⟨before, spells, writes⟩ := read
  obtain ⟨found, middle, one, rest⟩ := quiet.of_recovering.bind
  obtain ⟨rfl, rfl⟩ := rest.pure
  obtain ⟨tokens, spells', nonempty, writes'⟩ := classMember_writes each one
  exact ⟨⟨_, spells.trans spells', writes.append writes'⟩, spells'.length_lt nonempty⟩

end Members

theorem not_rejectNested {decl : Decl} {read : Option Decl} :
    ¬Quiet (rejectNested decl) cursor read after := by
  intro quiet
  obtain ⟨_, second, recorded, rest⟩ := quiet.bind
  cases recorded.returns
  have silent := recorded.silent
  simp [Cursor.record] at silent

section Classes

variable {function : Parse Decl} [Forward function] (room : Nat)
  (each : WritesAt (.keyword .kwDef) function Decl.WrittenAs)

include each

theorem memberReader_writes (bound : Nat) :
    Writes (memberReader room function bound) DeclarationAs := by
  intro cursor read after quiet
  have rest := quiet.look
  split at rest
  · next kind =>
      obtain ⟨decl, second, one, rest⟩ := rest.bind
      obtain ⟨rfl, rfl⟩ := rest.pure
      obtain ⟨tokens, spells, writes⟩ := each kind one
      exact ⟨tokens, spells, decl, rfl, writes⟩
  · obtain ⟨decl, second, -, rest⟩ := rest.bind
    exact absurd rest not_rejectNested
  · obtain ⟨decl, second, one, rest⟩ := rest.bind
    obtain ⟨rfl, rfl⟩ := rest.pure
    obtain ⟨tokens, spells, writes⟩ := variableDefinition_writes room one
    exact ⟨tokens, spells, decl, rfl, writes⟩

theorem classDefinition_writes (bound : Nat) :
    WritesAt (.keyword .kwClass) (classDefinition room function bound) Decl.WrittenAs := by
  intro cursor decl after stands quiet
  cases bound with
  | zero => exact absurd quiet Quiet.not_fail
  | succ bound =>
      rw [classDefinition_succ] at quiet
      obtain ⟨⟨start, name, superclass⟩, second, header, rest⟩ := quiet.bind
      obtain ⟨members, third, lines, rest⟩ := rest.bind
      obtain ⟨_, fourth, accepted, rest⟩ := rest.bind
      obtain ⟨rfl, rfl⟩ := rest.look.pure
      obtain ⟨middle, orderly, spells, opened⟩ := classHeader_spells stands header
      obtain ⟨⟨inner, spells', writes⟩, ends⟩ :=
        body_quiet (classStep_writes (memberReader_writes room each bound))
          ⟨[], .refl second, .nil⟩ lines.ofRecovering
      obtain ⟨nonempty, block⟩ := block_spells orderly opened spells'
        (Decl.blocksClosed_of_padded writes) ends accepted
      exact ⟨_, spells.trans block, .classDef _ name superclass nonempty writes⟩

theorem classDeclaration_writes :
    WritesAt (.keyword .kwClass) (classDeclaration room function) Decl.WrittenAs :=
  fun _ _ _ stands quiet => classDefinition_writes room each _ stands quiet.look

theorem innerDeclaration_writes : Writes (innerDeclaration room function) DeclarationAs := by
  intro cursor read after quiet
  have rest := quiet.look
  split at rest
  · next kind =>
      obtain ⟨decl, second, one, rest⟩ := rest.bind
      obtain ⟨rfl, rfl⟩ := rest.pure
      obtain ⟨tokens, spells, writes⟩ := each kind one
      exact ⟨tokens, spells, decl, rfl, writes⟩
  · obtain ⟨decl, second, -, rest⟩ := rest.bind
    exact absurd rest not_rejectNested
  · obtain ⟨decl, second, one, rest⟩ := rest.bind
    obtain ⟨rfl, rfl⟩ := rest.pure
    obtain ⟨tokens, spells, writes⟩ := variableDefinition_writes room one
    exact ⟨tokens, spells, decl, rfl, writes⟩

end Classes

/-! ## Functions -/

theorem resultType_writes (room : Nat) (paren : Span) :
    Writes (resultType room paren) ResultAs := by
  intro cursor written after quiet
  obtain ⟨found, second, accepted, rest⟩ := quiet.bind
  obtain ⟨rfl, stands⟩ | ⟨rfl, rfl, -⟩ := accepted.accept rfl
  · obtain ⟨tokens, spells, writes⟩ := writtenType_writes room rest
    exact ⟨_, stands.cons spells, .annotated writes⟩
  · obtain ⟨rfl, rfl⟩ := rest.pure
    exact ⟨[], .refl _, .omitted _⟩

/-- A function is written up to its body by its first word and what is read behind it. -/
theorem functionHeading_spells {room : Nat} {heading : FunctionHeading} {first : Cursor}
    (begun : first.Spells [.word .kwDef] cursor)
    (quiet : Quiet (functionHeading room) cursor heading after) :
    ∃ (tokens : List TokenContent) (middle : Cursor), middle.Orderly ∧ first.Spells tokens middle ∧
      heading.WrittenAs tokens ∧ middle.Spells [.newline, .indent] after := by
  obtain ⟨name, second, named, rest⟩ := quiet.bind
  obtain ⟨_, third, opens, rest⟩ := rest.bind
  obtain ⟨params, fourth, read, rest⟩ := rest.bind
  obtain ⟨paren, fifth, closes, rest⟩ := rest.bind
  obtain ⟨returns, sixth, result, rest⟩ := rest.bind
  obtain ⟨_, seventh, colon, rest⟩ := rest.bind
  obtain ⟨_, eighth, opened, rest⟩ := rest.bind
  obtain ⟨rfl, rfl⟩ := rest.pure
  obtain ⟨inside, spells, writes⟩ := commaList_writes _ (typedVar_writes room) read
  obtain ⟨behind, spells', writes'⟩ := resultType_writes room paren.span result
  refine ⟨_, seventh, opened.orderly, ?_, .signature writes writes', openBody_spells opened⟩
  exact begun.cons (named.identifier.1.cons (opens.expectSymbol.cons
    (spells.trans ((closes.expectFixed rfl).cons (spells'.trans colon.expectSymbol)))))

/-- The tokens write what was read of the body; it has statements when they are written. -/
def FunctionBodyAs (body : FunctionBody) (tokens : List TokenContent) : Prop :=
  ∃ before behind, tokens = before ++ behind ∧ JoinedAs Decl.WrittenAs body.declarations before ∧
    PaddedAs Stmt.WrittenAs body.statements behind ∧ (body.hasStatement = true ↔ behind ≠ [])

/-- A declaration is put into a body quietly only as long as there is no statement. -/
theorem functionBodyAs_take {body next : FunctionBody} {read : Option Decl}
    {tokens later : List TokenContent} (written : FunctionBodyAs body tokens)
    (one : DeclarationAs read later) (quiet : Quiet (body.take read) cursor next after) :
    cursor = after ∧ FunctionBodyAs next (tokens ++ later) := by
  obtain ⟨before, behind, rfl, declarations, statements, nonempty⟩ := written
  obtain ⟨decl, rfl, writes⟩ := one
  change Quiet (if body.hasStatement then _ else _) cursor next after at quiet
  split at quiet
  · obtain ⟨_, second, recorded, -⟩ := quiet.bind
    have silent := recorded.silent
    cases recorded.returns
    simp [Cursor.record] at silent
  · next first =>
      obtain ⟨rfl, rfl⟩ := quiet.pure
      have none : behind = [] := by
        by_contra some
        exact first (nonempty.mpr some)
      subst none
      refine ⟨rfl, before ++ later, [], by simp, declarations.append (.single writes), statements, ?_⟩
      exact nonempty

/-- What is read of a body is written by its lines, one after the other. -/
theorem functionStep_writes {inner : Parse (Option Decl)} {reader : Parse (Option Stmt)}
    [Forward inner] [Forward reader] (declares : Writes inner DeclarationAs)
    (states : Writes reader StatementAs) {first : Cursor} {body next : FunctionBody}
    (read : ∃ tokens, first.Spells tokens cursor ∧ FunctionBodyAs body tokens)
    (quiet : Recovering.Quiet (functionStep inner reader body) cursor next after) :
    (∃ tokens, first.Spells tokens after ∧ FunctionBodyAs next tokens) ∧
      after.ahead.length < cursor.ahead.length := by
  obtain ⟨tokens, spells, written⟩ := read
  obtain ⟨orderly, returns, silent⟩ := quiet
  rw [functionStep_apply] at returns
  split at returns
  · obtain ⟨found, second, one, rest⟩ :=
      (Recovering.Quiet.mk orderly returns silent).of_recovering.bind
    have declared : ∃ tokens, cursor.Spells tokens second ∧ DeclarationAs found tokens := by
      have one := one.look
      split at one
      · next kind =>
          obtain ⟨decl, third, outer, rest⟩ := one.bind
          obtain ⟨rfl, rfl⟩ := rest.pure
          obtain ⟨tokens, spells, writes⟩ := outerVariable_writes (.inl kind) outer
          exact ⟨tokens, spells, decl, rfl, writes⟩
      · next kind =>
          obtain ⟨decl, third, outer, rest⟩ := one.bind
          obtain ⟨rfl, rfl⟩ := rest.pure
          obtain ⟨tokens, spells, writes⟩ := outerVariable_writes (.inr kind) outer
          exact ⟨tokens, spells, decl, rfl, writes⟩
      · exact declares one
    obtain ⟨later, spells', writes⟩ := declared
    obtain ⟨rfl, written⟩ := functionBodyAs_take written writes rest
    obtain ⟨decl, -, writes⟩ := writes
    exact ⟨⟨_, spells.trans spells', written⟩, spells'.length_lt writes.ne_nil⟩
  · obtain ⟨found, second, one, rest⟩ :=
      (Recovering.Quiet.mk orderly returns silent).of_recovering.bind
    obtain ⟨rfl, rfl⟩ := rest.pure
    obtain ⟨later, spells', nonempty, writes⟩ := states one
    obtain ⟨before, behind, rfl, declarations, statements, -⟩ := written
    refine ⟨⟨_, spells.trans spells', before, behind ++ later, by simp, declarations,
      statements.append writes, ?_⟩, spells'.length_lt nonempty⟩
    simp [nonempty]

/-- The tokens of a function that is read without problems write it. -/
theorem functionDefinition_writes (room : Nat) :
    WritesAt (.keyword .kwDef) (functionDefinition room) Decl.WrittenAs := by
  induction room with
  | zero => exact fun _ _ _ _ quiet => absurd quiet Quiet.not_fail
  | succ room ih =>
      intro cursor decl after stands quiet
      obtain ⟨start, second, begun, rest⟩ := quiet.bind
      obtain ⟨heading, third, read, rest⟩ := rest.bind
      obtain ⟨body, fourth, lines, rest⟩ := rest.look.bind
      obtain ⟨_, fifth, accepted, rest⟩ := rest.bind
      have rest := rest.look
      have recovered : decide (third.problems.length < fifth.problems.length) = false := by
        simp [accepted.silent]
      rw [recovered, Bool.or_false] at rest
      split at rest
      · next stated =>
          obtain ⟨rfl, rfl⟩ := rest.look.pure
          obtain ⟨signature, middle, orderly, spells, writes, opened⟩ :=
            functionHeading_spells (begun.advanceFixed stands rfl) read
          have declares := innerDeclaration_writes room ih
          have states := statement_writes (expression_writes room) (block_writes room)
          have empty : FunctionBodyAs {} [] := ⟨[], [], rfl, .nil, .nil, by simp⟩
          obtain ⟨⟨inner, spells', written⟩, ends⟩ :=
            body_quiet (functionStep_writes declares states) ⟨[], .refl third, empty⟩
              lines.ofRecovering
          obtain ⟨before, behind, rfl, declarations, statements, nonempty⟩ := written
          have closed := (Decl.blocksClosed_of_joined declarations).append
            (Stmt.blocksClosed_of_padded statements)
          obtain ⟨-, block⟩ := block_spells orderly opened spells' closed ends accepted
          exact ⟨_, spells.trans block, .funcDef _ writes declarations
            (nonempty.mp (by simpa using stated)) statements⟩
      · obtain ⟨_, sixth, recorded, -⟩ := rest.bind
        have silent := recorded.silent
        cases recorded.returns
        simp [Cursor.record] at silent

/-! ## Programs -/

theorem topDeclaration_writes : Writes topDeclaration Decl.WrittenAs := by
  intro cursor decl after quiet
  have rest := quiet.look
  split at rest
  · next kind => exact functionDefinition_writes _ kind rest
  · next kind => exact classDeclaration_writes _ (functionDefinition_writes _) kind rest
  · exact variableDefinition_writes _ rest

/-- The tokens write what was read of the program. -/
def ProgramBodyAs (body : ProgramBody) (tokens : List TokenContent) : Prop :=
  ∃ before behind, tokens = before ++ behind ∧
    PaddedAs Decl.WrittenAs body.declarations before ∧
    PaddedAs Stmt.WrittenAs body.statements behind

/-- Empty lines are no statements, so that declarations may stand behind them. -/
theorem declarations_of_no_statements {tokens : List TokenContent}
    (empty : PaddedAs Stmt.WrittenAs [] tokens) : PaddedAs Decl.WrittenAs [] tokens := by
  generalize none : ([] : List Stmt) = stmts at empty
  induction empty with
  | nil => exact .nil
  | pass tail ih => exact .pass (ih none)
  | cons head tail ih => cases none

/-- A declaration is put into a program quietly only as long as there is no statement. -/
theorem programBodyAs_declareIn {body next : ProgramBody} {decl : Decl}
    {tokens later : List TokenContent} (written : ProgramBodyAs body tokens)
    (writes : decl.WrittenAs later) (quiet : Quiet (declareIn body decl) cursor next after) :
    cursor = after ∧ ProgramBodyAs next (tokens ++ later) := by
  obtain ⟨before, behind, rfl, declarations, statements⟩ := written
  unfold declareIn at quiet
  split at quiet
  · next first =>
      obtain ⟨rfl, rfl⟩ := quiet.pure
      have none : body.statements = [] := by simpa using first
      rw [none] at statements
      have padded := declarations.append (declarations_of_no_statements statements)
      rw [List.append_nil] at padded
      exact ⟨rfl, _, [], by simp, padded.append (.single writes), none ▸ .nil⟩
  · obtain ⟨_, second, recorded, -⟩ := quiet.bind
    have silent := recorded.silent
    cases recorded.returns
    simp [Cursor.record] at silent

/-- Between full lines and blocks of a whole program no block ends. -/
theorem kind_ne_dedent {first : Cursor} {tokens : List TokenContent}
    (whole : Lined True 0 (first.ahead.map Token.content)) (spells : first.Spells tokens cursor)
    (closed : BlocksClosed tokens) : cursor.kind ≠ .dedent := by
  intro dedent
  have nested := whole.nesting_eq
  rw [spells.map_eq, List.map_append, nesting_append, closed.nesting_eq, Option.bind_some] at nested
  rw [cursor.kind_eq_kindAt] at dedent
  cases shape : cursor.ahead with
  | nil => simp [shape, kindAt] at dedent
  | cons token rest =>
      have kind : token.kind = .dedent := by simpa [shape, kindAt] using dedent
      simp [shape, kind] at nested

theorem ProgramBodyAs.blocksClosed {body : ProgramBody} {tokens : List TokenContent}
    (written : ProgramBodyAs body tokens) : BlocksClosed tokens := by
  obtain ⟨before, behind, rfl, declarations, statements⟩ := written
  exact (Decl.blocksClosed_of_padded declarations).append (Stmt.blocksClosed_of_padded statements)

/-- What is read of a program is written by its lines, one after the other. -/
theorem programStep_writes {first : Cursor} (whole : Lined True 0 (first.ahead.map Token.content))
    {body next : ProgramBody}
    (read : ∃ tokens, first.Spells tokens cursor ∧ ProgramBodyAs body tokens)
    (quiet : Recovering.Quiet (programStep body) cursor next after) :
    (∃ tokens, first.Spells tokens after ∧ ProgramBodyAs next tokens) ∧
      after.ahead.length < cursor.ahead.length := by
  obtain ⟨tokens, spells, written⟩ := read
  have open' : (cursor.kind == .dedent) = false :=
    beq_eq_false_iff_ne.mpr (kind_ne_dedent whole spells written.blocksClosed)
  obtain ⟨orderly, returns, silent⟩ := quiet
  rw [programStep_apply, open'] at returns
  simp only [Bool.false_eq_true, if_false] at returns
  split at returns
  · obtain ⟨decl, second, one, rest⟩ :=
      (Recovering.Quiet.mk orderly returns silent).of_recovering.bind
    obtain ⟨later, spells', writes⟩ := topDeclaration_writes one
    obtain ⟨rfl, written⟩ := programBodyAs_declareIn written writes rest
    exact ⟨⟨_, spells.trans spells', written⟩, spells'.length_lt writes.ne_nil⟩
  · obtain ⟨found, second, one, rest⟩ :=
      (Recovering.Quiet.mk orderly returns silent).of_recovering.bind
    obtain ⟨rfl, rfl⟩ := rest.pure
    have states := statement_writes (expression_writes nestingLimit) (block_writes nestingLimit)
    obtain ⟨later, spells', nonempty, writes⟩ := states one
    obtain ⟨before, behind, rfl, declarations, statements⟩ := written
    exact ⟨⟨_, spells.trans spells', before, behind ++ later, by simp, declarations,
      statements.append writes⟩, spells'.length_lt nonempty⟩

theorem programBody_writes (whole : Lined True 0 (cursor.ahead.map Token.content))
    {body : ProgramBody} (quiet : Recovering.Quiet programBody cursor body after) :
    ProgramBodyAs body (cursor.ahead.map Token.content) := by
  have ends : ∀ cursor : Cursor, cursor.ahead = [] → cursor.atEnd = true := by
    intro cursor ended
    simp [Cursor.atEnd, ended]
  have repeated : Recovering.Quiet
      (repeatUntil Cursor.atEnd programStep cursor.ahead.length {}) cursor body after :=
    ⟨quiet.orderly, quiet.returns, quiet.silent⟩
  have start : ∃ tokens, cursor.Spells tokens cursor ∧ ProgramBodyAs {} tokens :=
    ⟨[], .refl cursor, [], [], rfl, .nil, .nil⟩
  obtain ⟨⟨tokens, spells, written⟩, ended⟩ := repeatUntil_quiet ends
    (fun read _ => programStep_writes whole read) start (Nat.le_refl _) repeated
  have behind : after.ahead = [] := by simpa [Cursor.atEnd] using ended
  have same := spells.map_eq
  rw [behind, List.map_nil, List.append_nil] at same
  rwa [same]

end Parse

/-- Before the end of the file all tokens are ahead. -/
theorem Cursor.ahead_ofTokens {tokens : List Token} {ending : Token}
    (text : ∀ token ∈ tokens, token.kind ≠ .endOfFile) (ends : ending.kind = .endOfFile)
    (nonempty : tokens ++ [ending] ≠ []) :
    (Cursor.ofTokens (tokens ++ [ending]) nonempty).ahead = tokens ∧
      (Cursor.ofTokens (tokens ++ [ending]) nonempty).ending = ending := by
  have others : ∀ token ∈ tokens, (token.kind != .endOfFile) = true := by simpa using text
  have passed : tokens.find? (·.kind == .endOfFile) = none := by simpa using text
  constructor
  · simp only [Cursor.ofTokens]
    rw [List.takeWhile_append_of_pos others]
    simp [ends]
  · simp [Cursor.ofTokens, List.find?_append, passed, ends]

/--
If no problem is recorded in a program, then its tokens are some way of writing the tree that was
read of them, with the end of the file behind.
-/
theorem Program.writtenAs_of_errors_eq_nil {file source : String} {lexing : Lexing}
    (read : Lexing.ofSource file source = .ok lexing)
    (quiet : (Program.ofLexing file lexing).errors = []) :
    ∃ tokens ending, lexing.tokens = tokens ++ [ending] ∧
      ending.content = ⟨.endOfFile, .absent⟩ ∧
        (Program.ofLexing file lexing).WrittenAs (tokens.map Token.content) := by
  obtain ⟨known, recorded⟩ := List.append_eq_nil_iff.mp quiet
  obtain ⟨tokens, place, shape, lined, regular⟩ :=
    Lexing.lined_of_ofSource read (List.map_eq_nil_iff.mp known)
  refine ⟨tokens, ⟨.endOfFile, .absent, place⟩, shape, rfl, ?_⟩
  generalize start : Cursor.ofTokens lexing.tokens lexing.tokens_ne_nil = cursor at recorded
  have text : ∀ token ∈ tokens, token.kind ≠ .endOfFile := fun token among =>
    (regular token.content (List.mem_map_of_mem among)).kind_ne_endOfFile
  obtain ⟨ahead, ending⟩ : cursor.ahead = tokens ∧ cursor.ending = ⟨.endOfFile, .absent, place⟩ := by
    subst start
    simp only [shape]
    exact Cursor.ahead_ofTokens text rfl (by simp)
  have orderly : cursor.Orderly :=
    ⟨fun token among => regular token.content (List.mem_map_of_mem (ahead ▸ among)),
      ⟨[], by rwa [ahead]⟩, by rw [ending]⟩
  have silent : (Parse.programBody cursor).2.problems = [] := List.map_eq_nil_iff.mp recorded
  obtain ⟨before, behind, same, declarations, statements⟩ :=
    Parse.programBody_writes (by rwa [ahead]) ⟨orderly, rfl, silent⟩
  rw [← ahead, same]
  subst start
  exact .lines declarations statements

/-- A program in which every freedom of writing is taken. -/
def freeSource : String :=
  "pass\nclass A(object):\n    pass\n    x: [\"A\"] = None\ndef f() -> \"A\":\n    pass\n" ++
    "    if (1) < ((2)):\n        return (A)()\n    else:\n        if True:\n            pass\n" ++
    "        else:\n            pass\n"

/-- The program that takes every freedom is written by its tokens. -/
theorem Program.writtenAs_freeSource :
    ∃ lexing, Lexing.ofSource "free.choc" freeSource = .ok lexing ∧
      (Program.ofLexing "free.choc" lexing).errors = [] ∧
        ∃ tokens ending, lexing.tokens = tokens ++ [ending] ∧
          ending.content = ⟨.endOfFile, .absent⟩ ∧
            (Program.ofLexing "free.choc" lexing).WrittenAs (tokens.map Token.content) := by
  obtain ⟨lexing, read, clean⟩ : ∃ lexing, Lexing.ofSource "free.choc" freeSource =
      .ok lexing ∧ (Program.ofLexing "free.choc" lexing).errors.isEmpty = true :=
    exists_ok_of_any (by decide +kernel)
  have quiet : (Program.ofLexing "free.choc" lexing).errors = [] := List.isEmpty_iff.mp clean
  exact ⟨lexing, read, quiet, Program.writtenAs_of_errors_eq_nil read quiet⟩

end ChocoLang
