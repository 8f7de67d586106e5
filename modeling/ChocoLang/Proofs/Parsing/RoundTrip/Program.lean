import ChocoLang.Proofs.Parsing.RoundTrip.Declaration

/-!
# Spelled programs are read back

The tokens of a well-formed program are read as a program of the same shape, and no problem is
found in them, unless the program is nested too deeply.
-/

namespace ChocoLang

/-! ## No token of a program ends the file -/

/-- None of the tokens ends the file. -/
def noEnd (tokens : List TokenContent) : Bool := tokens.all (·.kind != .endOfFile)

section NoEnd

@[simp]
theorem noEnd_nil : noEnd [] = true := rfl

@[simp]
theorem noEnd_cons (content : TokenContent) (tokens : List TokenContent) :
    noEnd (content :: tokens) = (content.kind != .endOfFile && noEnd tokens) := rfl

@[simp]
theorem noEnd_append (front back : List TokenContent) :
    noEnd (front ++ back) = (noEnd front && noEnd back) := List.all_append

@[simp]
theorem noEnd_expr (expr : Expr) : noEnd expr.spelling = true := by
  have inside := expr.allInExpr_spelling
  simp only [allInExpr, noEnd, List.all_eq_true] at inside ⊢
  intro content among
  have occurs := inside content among
  cases kind : content.kind <;> simp_all [TokenKind.occursInExpr]

theorem noEnd_separated {δ : Type} {spelling : δ → List TokenContent}
    (each : ∀ one, noEnd (spelling one) = true) (symbol : Symbol) (items : List δ) :
    noEnd (separatedSpelling (.sign symbol) spelling items) = true := by
  have further : ∀ items, noEnd (furtherSpelling (.sign symbol) spelling items) = true := by
    intro items
    induction items with
    | nil => rfl
    | cons one items ih => simp [furtherSpelling, each, ih]
  cases items with
  | nil => rfl
  | cons one items => simp [separatedSpelling, each, further]

@[simp]
theorem noEnd_filled {members : List TokenContent} (inside : noEnd members = true) :
    noEnd (filled members) = true := by
  unfold filled
  split <;> simp [inside]

@[simp]
theorem noEnd_writtenType (written : WrittenType) : noEnd written.spelling = true := by
  induction written with
  | named info name => rfl
  | list info element ih => simp [WrittenType.spelling, ih]

@[simp]
theorem noEnd_typedVar (var : TypedVar) : noEnd var.spelling = true := by
  simp [TypedVar.spelling]

@[simp]
theorem noEnd_resultSpelling (written : WrittenType) : noEnd (resultSpelling written) = true := by
  unfold resultSpelling
  split
  · split <;> simp
  · simp

end NoEnd

theorem Stmt.noEnd_spelling : (∀ stmt : Stmt, noEnd stmt.spelling = true) ∧
    (∀ stmts, noEnd (spellingOfElse stmts) = true) ∧
      ∀ stmts, noEnd (spellingOfStmts stmts) = true := by
  apply Stmt.spelling_induction
  case expr => simp [spelling]
  case assign => simp [spelling, noEnd_separated noEnd_expr]
  case ifElse => simp_all [spelling, armSpelling, bodySpelling]
  case whileLoop => simp_all [spelling, armSpelling, bodySpelling]
  case forLoop => simp_all [spelling, bodySpelling]
  case ret =>
      intro info value
      cases value <;> simp [spelling]
  case noElse => rfl
  case elif => simp_all [spellingOfElse, armSpelling, bodySpelling]
  case elseBlock => simp_all [spellingOfStmts, bodySpelling]
  case nil => rfl
  case cons => simp_all [spellingOfStmts]

mutual

theorem Decl.noEnd_spelling : (decl : Decl) → noEnd decl.spelling = true
  | .varDef _ _ _ => by simp [spelling]
  | .funcDef _ _ decls stmts _ => by
      simp [spelling, FunctionHeading.spelling, bodySpelling, noEnd_separated noEnd_typedVar,
        Decl.noEnd_all decls, Stmt.noEnd_spelling.2.2 stmts]
  | .classDef _ _ _ decls => by simp [spelling, bodySpelling, Decl.noEnd_all decls]
  | .globalDecl _ _ | .nonlocalDecl _ _ => by simp [spelling]

theorem Decl.noEnd_all : (decls : List Decl) → noEnd (spellingOfDecls decls) = true
  | [] => rfl
  | first :: rest => by
      simp [spellingOfDecls, Decl.noEnd_spelling first, Decl.noEnd_all rest]

end

theorem Program.noEnd_spelling (program : Program) : noEnd program.spelling = true := by
  simp [spelling, Decl.noEnd_all, Stmt.noEnd_spelling.2.2]

/-! ## Programs -/

open Parse

section Programs

variable {cursor : Cursor} {rest : List Token}

/-- What has been read of a program. -/
def ProgramHolds (program : Program) (body : ProgramBody)
    (later : List (Decl ⊕ Option Stmt)) : Prop :=
  Remaining program.declarations program.statements (!body.statements.isEmpty) body.declarations
    body.statements later

/-- Programs hold no declarations that a function assigns outer variables. -/
theorem Decl.lead_of_program {decl : Decl} (wellFormed : decl.WellFormed .program) :
    decl.lead = .identifier ∨ decl.lead = .keyword .kwDef ∨ decl.lead = .keyword .kwClass := by
  cases decl with
  | varDef => exact .inl rfl
  | funcDef => exact .inr (.inl rfl)
  | classDef => exact .inr (.inr rfl)
  | globalDecl | nonlocalDecl => cases wellFormed

theorem topDeclaration_reads {decl : Decl} (read : decl.IsRead)
    (wellFormed : decl.WellFormed .program) (spelled : Spelled cursor.ahead decl.spelling rest) :
    Reads topDeclaration cursor rest fun read => read.shape = decl.shape := by
  have same : topDeclaration cursor = decl.reader nestingLimit cursor := by
    rw [topDeclaration, look_bind, kind_of_decl spelled]
    cases decl with
    | varDef | funcDef | classDef => rfl
    | globalDecl | nonlocalDecl => cases wellFormed
  exact .congr same (read nestingLimit cursor rest spelled)

/-- A step of a program reads the next declaration or statement. -/
theorem programStep_reads {program : Program} {part : Decl ⊕ Option Stmt} {body : ProgramBody}
    {later : List (Decl ⊕ Option Stmt)}
    (eachDecl : ∀ decl, part = .inl decl → decl.IsRead ∧ decl.WellFormed .program)
    (eachStmt : ∀ stmt, part = .inr (some stmt) → stmt.IsRead)
    (holds : ProgramHolds program body (part :: later))
    (spelled : Spelled cursor.ahead (partSpelling part) rest) (ends : (kindAt rest).EndsStmt) :
    Recovering.Reads (programStep body) cursor rest
      fun body => ProgramHolds program body later := by
  have noDedent : (cursor.kind == .dedent) = false := by
    obtain ⟨content, contents, shape, noDedent, -⟩ := partSpelling_begins part
    rw [kind_of_spelled (shape ▸ spelled)]
    exact beq_eq_false_iff_ne.mpr noDedent
  cases part with
  | inl decl =>
      obtain ⟨read, wellFormed⟩ := eachDecl decl rfl
      obtain ⟨notBegun, next⟩ := Remaining.declare holds
      have front := atDeclaration_of_decl (Decl.lead_of_program wellFormed) spelled
      refine .congr (by rw [programStep_apply, noDedent, front]; rfl) (.of_reads body ?_)
      refine (topDeclaration_reads read wellFormed spelled).bind fun value after same ahead _ => ?_
      unfold declareIn
      rw [if_pos (by simpa using notBegun)]
      exact .pure (next value same) ahead
  | inr member =>
      obtain ⟨-, plain⟩ := atDeclaration_of_member spelled
      refine .congr (by rw [programStep_apply, noDedent, plain]; rfl) (.of_reads body ?_)
      refine (member_reads member (fun stmt same => eachStmt stmt (congrArg _ same)) spelled
        ends).bind fun value after same ahead _ => ?_
      exact .pure (Remaining.state holds same _) ahead

/-- The declarations and statements of a program are read to the end of the file. -/
theorem programBody_reads {program : Program} (wellFormed : program.WellFormed)
    (intact : program.Intact) (spelled : Spelled cursor.ahead program.spelling []) :
    Recovering.Reads programBody cursor [] fun body =>
      body.declarations.map Decl.shape = program.declarations.map Decl.shape ∧
        body.statements.map Stmt.shape = program.statements.map Stmt.shape := by
  have parts : Spelled cursor.ahead ((program.declarations.map Sum.inl ++
      (program.statements.map some).map Sum.inr).flatMap partSpelling) [] := by
    rw [flatMap_parts, List.flatMap_map]
    rw [Program.spelling, spellingOfStmts_eq] at spelled
    exact spelled
  have enough := length_le_flatMap partSpelling fun part
      (_ : part ∈ program.declarations.map Sum.inl ++ (program.statements.map some).map Sum.inr) =>
    let ⟨content, contents, shape, _⟩ := partSpelling_begins part
    ⟨content, contents, shape⟩
  have short := parts.length_le
  have held : ProgramHolds program {} (program.declarations.map .inl ++
      (program.statements.map some).map .inr) :=
    .start program.declarations (by simp [List.reduceOption])
  have same : programBody cursor =
      repeatUntil Cursor.atEnd programStep cursor.ahead.length {} cursor := rfl
  refine .congr same ?_
  refine (repeatUntil_reads (fun kind => kind ≠ .dedent ∧ kind ≠ .endOfFile ∧ kind.EndsStmt)
    (ProgramHolds program) cursor.ahead.length (by omega) (fun part _ => partSpelling_begins part)
    ?_ (fun kind begins => begins.2.2) ?_ ?_ (by decide) held parts).mono fun body holds =>
      Remaining.done holds
  · rintro cursor ⟨-, noEnd, -⟩
    have nonempty : cursor.ahead ≠ [] := fun empty => noEnd (by rw [empty]; rfl)
    simp [Cursor.atEnd, nonempty]
  · intro part among body later cursor rest held spelled ends
    refine programStep_reads ?_ ?_ held spelled ends
    · rintro decl rfl
      have among : decl ∈ program.declarations := by simpa using among
      exact ⟨Decl.all_isRead _ wellFormed.declarations intact decl among,
        wellFormed.declarations.each decl among⟩
    · rintro stmt rfl
      exact Stmt.read_back.2.2 _ wellFormed.statements stmt (by simpa using among)
  · intro cursor ahead
    simp [Cursor.atEnd, ahead]

end Programs

/--
The tokens of a well-formed program, with an end of file behind them, are read as a program of the
same shape in which nothing is wrong, unless it is reported that the program is nested too deeply.
-/
theorem Program.shape_ofTokens_spelling (file : String) {program : Program}
    (wellFormed : program.WellFormed) (intact : program.Intact) {tokens : List Token}
    (spelled : tokens.map Token.content = program.spelling) {ending : Token}
    (ends : ending.kind = .endOfFile) :
    let read := Program.ofTokens file [] (tokens ++ [ending]) (by simp)
    (∃ error ∈ read.errors, error.code = ErrorCode.nestingTooDeep.id) ∨
      read.shape = program.shape ∧ read.errors = [] := by
  have noEnd : ∀ token ∈ tokens, (token.kind != .endOfFile) = true := by
    have all := program.noEnd_spelling
    rw [← spelled, ChocoLang.noEnd, List.all_map] at all
    exact List.all_eq_true.mp all
  intro read
  let cursor := Cursor.ofTokens (tokens ++ [ending]) (by simp)
  have ahead : cursor.ahead = tokens := by
    simp only [cursor, Cursor.ofTokens]
    rw [List.takeWhile_append_of_pos noEnd]
    simp [ends]
  have front : Spelled cursor.ahead program.spelling [] := by
    rw [ahead]
    simpa using Spelled.of_map_eq spelled []
  have errors : read.errors = (programBody cursor).2.problems.map Located.toDiagnostic := by
    simp only [read, Program.ofTokens, Cursor.readProgram, List.nil_append]
    rfl
  obtain ⟨⟨declared, stated⟩, -, quiet⟩ | exhausted := programBody_reads wellFormed intact front
  · refine .inr ⟨?_, by rw [errors, quiet]; rfl⟩
    simp only [Program.shape, Relabelling.node_blank, Program.mk.injEq, true_and, and_true]
    exact ⟨declared, stated⟩
  · obtain ⟨problem, recorded, content⟩ := exhausted
    refine .inl ⟨problem.toDiagnostic, errors ▸ List.mem_map_of_mem recorded, ?_⟩
    simp [Located.toDiagnostic, Diagnostic.error, Problem.code, content, SyntaxError.code]

/-- A token with some content, standing anywhere. -/
def TokenContent.token (content : TokenContent) : Token :=
  { kind := content.kind, value := content.value, span := .point "" 1 1 }

/-- A function that negates a product, chains a choice and defines nothing in its last branch. -/
def chainProgram : Program :=
  let info : ExprInfo := .ofSpan (.point "" 1 1)
  let node : NodeInfo := .ofSpan (.point "" 1 1)
  let name : String → Identifier := fun text => { info, name := text }
  let x : Expr := .name (name "x")
  let product : Expr := .binary info (.unary info .neg x) .mul (.binary info x .add x)
  let choice : Expr := .conditional info (.unary info .not x) product x
  { info := node
    declarations :=
      [.funcDef node
        { name := name "f"
          params := [⟨node, name "x", .list node (.named node "int")⟩]
          returns := .named node Parse.noResult }
        [.globalDecl node (name "y")]
        [.ifElse node (.binary info choice .lt x) [.assign node [x, .member info x (name "z")] x]
          [.ifElse node (.boolean info true) [] [.ret node none]]]
        false]
    statements := [.whileLoop node (.call info (name "f") [.list info [x, product]]) []]
    errors := [] }

/-- The end of a file, standing anywhere. -/
def endToken : Token := { kind := .endOfFile, value := .absent, span := .point "" 1 1 }

/-- The chained choice is read back behind its function. -/
theorem shape_ofTokens_chainProgram :
    (Program.ofTokens "chain.choc" [] (chainProgram.spelling.map TokenContent.token ++ [endToken])
      (by simp)).shape = chainProgram.shape := by
  have wellFormed : chainProgram.WellFormed := by
    constructor <;> simp [chainProgram, WellFormedDecls, Decl.WellFormed, WellFormedStmts,
      Stmt.WellFormed, FunctionHeading.WellFormed, WrittenType.IsImplicit, WrittenType.Writable,
      Parse.noResult, Expr.isTarget]
  have intact : chainProgram.Intact := by
    simp [Program.Intact, chainProgram, functionsIn, Decl.functions]
  have spelled : (chainProgram.spelling.map TokenContent.token).map Token.content =
      chainProgram.spelling := by
    rw [List.map_map]
    exact List.map_id _
  have shallow : ¬ ∃ error ∈ (Program.ofTokens "chain.choc" []
      (chainProgram.spelling.map TokenContent.token ++ [endToken]) (by simp)).errors,
        error.code = ErrorCode.nestingTooDeep.id := by decide +kernel
  exact ((Program.shape_ofTokens_spelling "chain.choc" wellFormed intact spelled rfl).resolve_left
    shallow).1

end ChocoLang
