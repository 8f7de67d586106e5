import ChocoLang.Proofs.Parsing.ReadTrees

/-!
# Trees that a checker can rely on

Whatever tokens a program is read of, and whatever is wrong with them, every declaration in its tree
stands in a body that may hold it, variables are defined by literals, and assignments have targets
that can be assigned.  A function without a statement has been read only if some line says `pass` or
a problem is recorded: either an empty line was its only statement, or a statement in error has been
left out, or the missing statement itself was reported.
-/

namespace ChocoLang

mutual

/--
The declaration may stand in a body of the kind, and those in it may stand where they do.  That a
function has no statement needs an excuse.
-/
def Decl.Dependable (excused : Prop) (place : BodyKind) : Decl → Prop
  | .varDef _ _ value => value.isLiteral
  | .funcDef _ _ declarations statements _ =>
    DependableDecls excused .ofFunction declarations ∧ WellFormedStmts statements ∧
      (statements = [] → excused)
  | .classDef _ _ _ members => place = .program ∧ DependableDecls excused .ofClass members
  | .globalDecl _ _ | .nonlocalDecl _ _ => place = .ofFunction

/-- All declarations may stand in a body of the kind. -/
def DependableDecls (excused : Prop) (place : BodyKind) : List Decl → Prop
  | [] => True
  | decl :: rest => decl.Dependable excused place ∧ DependableDecls excused place rest

end

theorem dependableDecls_iff (excused : Prop) (place : BodyKind) (decls : List Decl) :
    DependableDecls excused place decls ↔ ∀ decl ∈ decls, decl.Dependable excused place := by
  induction decls with
  | nil => simp [DependableDecls]
  | cons decl rest ih => simp [DependableDecls, ih]

/-- A checker can rely on the program. -/
structure Program.Dependable (excused : Prop) (program : Program) : Prop where
  /-- The declarations may stand at the top level. -/
  declarations : DependableDecls excused .program program.declarations
  /-- The assignments have targets that can be assigned. -/
  statements : WellFormedStmts program.statements

/-- A line that says `pass` is an excuse. -/
def Token.Excuses (excused : Prop) (token : Token) : Prop :=
  token.kind = .keyword .kwPass → excused

namespace Parse

variable {trait : Token → Prop} {spoiled excused : Prop}

/-! ## Lines without a statement -/

section Statements

variable {expression : Parse Expr} [Forward expression] {block : Parse (List Stmt)} [Forward block]

theorem simpleStatement_empty : Yields (Token.Excuses excused) spoiled
    (simpleStatement expression) fun read => read = none → excused := by
  unfold simpleStatement
  refine .kind fun kind stands => ?_
  split
  · rcases stands with ends | ⟨token, excuses, same⟩
    · cases ends
    · exact .bind .any fun _ _ => .pure fun _ => excuses same.symm
  · exact .bind .any fun _ _ => .pure (by simp)
  · exact .bind .any fun _ _ => .pure (by simp)

/-- A line without a statement says `pass`. -/
theorem statement_empty : Yields (Token.Excuses excused) spoiled (statement expression block)
    fun read => read = none → excused := by
  unfold statement
  refine .look fun kind => ?_
  split
  · exact .fail
  · exact .bind .any fun _ _ => .pure (by simp)
  · exact .bind .any fun _ _ => .pure (by simp)
  · exact .bind .any fun _ _ => .pure (by simp)
  · exact .look fun _ => .ite .fail (simpleStatement_empty.bind fun read empty =>
      .bind .any fun _ _ => .pure empty)

end Statements

/-! ## Declarations -/

theorem variableDefinition_dependable (room : Nat) : Yields trait spoiled
    (variableDefinition room) fun decl => ∀ place, decl.Dependable excused place :=
  .look fun _ => .bind .any fun _ _ => .bind .any fun _ _ => initializer_yields.bind
    fun _ read => .look fun _ => .bind .any fun _ _ => .pure fun _ => read.1

theorem outerVariable_dependable : Yields trait spoiled outerVariable
    fun decl => decl.Dependable excused .ofFunction := by
  unfold outerVariable
  exact .bind .any fun _ _ => .bind .any fun _ _ => .look fun _ => .bind .any fun _ _ =>
    .ite (.pure rfl) (.pure rfl)

theorem rules_dependable : Rules (Token.Excuses excused) excused excused
    (fun place decl => decl.Dependable excused place) Stmt.WellFormed where
  lost := id
  definitions := variableDefinition_dependable
  outer := outerVariable_dependable
  statements room _ := ((statement_yields (expression_yields room) (block_yields room)).and
    statement_empty).mono fun _ read => ⟨fun stmt among => (read.1 stmt among).1, read.2⟩
  classes := Yields.any.mono fun _ _ _ members dependable =>
    ⟨rfl, (dependableDecls_iff _ _ members).mpr dependable⟩
  functions _ := Yields.any.mono fun _ _ _ declarations statements _ dependable sound _ excuse _ =>
    ⟨(dependableDecls_iff _ _ declarations).mpr dependable,
      (wellFormedStmts_iff statements).mpr sound, excuse⟩

end Parse

/--
A checker can rely on the program that any tokens are read as.  A function in it has no statement
only if one of the tokens is `pass` or a problem has been recorded besides those known before.
-/
theorem Program.dependable_ofTokens (file : String) (known : List Diagnostic) (tokens : List Token)
    (nonempty : tokens ≠ []) :
    (Program.ofTokens file known tokens nonempty).Dependable
      ((∃ token ∈ tokens, token.kind = .keyword .kwPass) ∨
        known.length < (Program.ofTokens file known tokens nonempty).errors.length) := by
  let excused := (∃ token ∈ tokens, token.kind = .keyword .kwPass) ∨
    known.length < (Program.ofTokens file known tokens nonempty).errors.length
  let after := (Parse.programBody (.ofTokens tokens nonempty)).2
  have excuses : (Cursor.ofTokens tokens nonempty).Throughout (Token.Excuses excused) :=
    .ofTokens nonempty fun token among pass => .inl ⟨token, among, pass⟩
  have recorded (problems : after.problems ≠ []) : excused := by
    have errors : (Program.ofTokens file known tokens nonempty).errors =
        known ++ after.diagnostics := rfl
    right
    rw [errors, List.length_append, Cursor.diagnostics, List.length_map]
    have some := List.length_pos_iff.mpr problems
    omega
  have rules : Parse.Rules (Token.Excuses excused) excused excused _ _ := Parse.rules_dependable
  have made := rules.programBody_yields _ excuses recorded
  exact ⟨(dependableDecls_iff _ _ _).mpr made.declarations,
    (wellFormedStmts_iff _).mpr made.statements⟩

/-- Tokens at one place: a function without a statement, and a method with a statement in error. -/
def idleTokens : List Token :=
  [(.keyword .kwDef, "def"), (.identifier, "f"), (.symbol .leftParen, "("),
    (.symbol .rightParen, ")"), (.symbol .colon, ":"), (.newline, ""), (.indent, ""),
    (.keyword .kwGlobal, "global"), (.identifier, "x"), (.newline, ""), (.dedent, ""),
    (.keyword .kwClass, "class"), (.identifier, "A"), (.symbol .leftParen, "("),
    (.identifier, "object"), (.symbol .rightParen, ")"), (.symbol .colon, ":"), (.newline, ""),
    (.indent, ""), (.keyword .kwDef, "def"), (.identifier, "g"), (.symbol .leftParen, "("),
    (.symbol .rightParen, ")"), (.symbol .colon, ":"), (.newline, ""), (.indent, ""),
    (.identifier, "f"), (.symbol .assign, "="), (.newline, ""), (.dedent, ""), (.dedent, ""),
    (.endOfFile, "")].map fun (kind, text) => ⟨kind, .text text, .point "idle.choc" 1 1⟩

/-- No token is `pass`, and both functions are read with a problem recorded. -/
theorem Program.dependable_idleTokens :
    idleTokens ≠ [] ∧ (∀ token ∈ idleTokens, token.kind ≠ .keyword .kwPass) ∧
      functionsIn (Program.ofTokens "idle.choc" [] idleTokens (by decide)).declarations =
        [("f", false), ("g", true)] ∧
      (Program.ofTokens "idle.choc" [] idleTokens (by decide)).errors.length = 2 ∧
      (Program.ofTokens "idle.choc" [] idleTokens (by decide)).Dependable
        ((∃ token ∈ idleTokens, token.kind = .keyword .kwPass) ∨
          0 < (Program.ofTokens "idle.choc" [] idleTokens (by decide)).errors.length) :=
  ⟨by decide, by decide, by decide +kernel, by decide +kernel,
    Program.dependable_ofTokens "idle.choc" [] idleTokens (by decide)⟩

end ChocoLang
