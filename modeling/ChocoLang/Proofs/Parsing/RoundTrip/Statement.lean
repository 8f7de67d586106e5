import ChocoLang.Proofs.Parsing.Advancing
import ChocoLang.Proofs.Parsing.Repetition
import ChocoLang.Proofs.Parsing.RoundTrip.Expression
import Mathlib.Data.List.ReduceOption

/-!
# Spelled statements are read back

A statement of one line is read up to the end of its line, a block up to the end of the block, and
a choice with the conditions chained to it up to where neither a further condition nor a second
branch follows.
-/

namespace ChocoLang

/-! ## Tokens of expressions -/

/-- The kinds of token that expressions are made of. -/
def TokenKind.occursInExpr : TokenKind → Bool
  | integer | string | nameString | identifier => true
  | keyword .kwTrue | keyword .kwFalse | keyword .kwNone | keyword .kwAnd | keyword .kwOr => true
  | keyword .kwNot | keyword .kwIs | keyword .kwIf | keyword .kwElse => true
  | symbol .colon | symbol .assign | symbol .arrow => false
  | symbol _ => true
  | _ => false

/-- All the tokens can occur in an expression. -/
def allInExpr (tokens : List TokenContent) : Bool := tokens.all (·.kind.occursInExpr)

section AllInExpr

@[simp]
theorem allInExpr_nil : allInExpr [] = true := rfl

@[simp]
theorem allInExpr_cons (content : TokenContent) (tokens : List TokenContent) :
    allInExpr (content :: tokens) = (content.kind.occursInExpr && allInExpr tokens) := rfl

@[simp]
theorem allInExpr_append (front back : List TokenContent) :
    allInExpr (front ++ back) = (allInExpr front && allInExpr back) := List.all_append

@[simp]
theorem allInExpr_enclosed (required level : Precedence) (tokens : List TokenContent) :
    allInExpr (enclosed required level tokens) = allInExpr tokens := by
  unfold enclosed
  split <;> simp [TokenContent.sign, TokenKind.occursInExpr]

@[simp]
theorem occursInExpr_operator (operator : BinaryOperator) :
    operator.content.kind.occursInExpr = true := by
  cases operator <;> rfl

@[simp]
theorem occursInExpr_string (text : String) :
    (TokenContent.string text).kind.occursInExpr = true := by
  unfold TokenContent.string
  dsimp only
  split <;> rfl

end AllInExpr

mutual

/-- An expression is made of tokens of those kinds. -/
theorem Expr.allInExpr_spelling : (expr : Expr) → allInExpr expr.spelling = true
  | .name _ | .integer _ _ | .none _ => rfl
  | .boolean _ value => by cases value <;> rfl
  | .string _ text => by simp [spelling]
  | .list _ elements => by
      simp [spelling, TokenContent.sign, TokenKind.occursInExpr,
        Expr.allInExpr_listSpelling elements]
  | .binary _ left _ right => by
      simp [spelling, left.allInExpr_spelling, right.allInExpr_spelling]
  | .unary _ .neg operand | .unary _ .not operand => by
      simp [spelling, TokenContent.sign, TokenContent.word, TokenKind.occursInExpr,
        operand.allInExpr_spelling]
  | .conditional _ condition thenExpr elseExpr => by
      simp [spelling, TokenContent.word, TokenKind.occursInExpr, condition.allInExpr_spelling,
        thenExpr.allInExpr_spelling, elseExpr.allInExpr_spelling]
  | .member _ object _ => by
      simp [spelling, TokenContent.sign, TokenContent.name, TokenKind.occursInExpr,
        object.allInExpr_spelling]
  | .index _ container position => by
      simp [spelling, TokenContent.sign, TokenKind.occursInExpr, container.allInExpr_spelling,
        position.allInExpr_spelling]
  | .call _ _ args => by
      simp [spelling, TokenContent.sign, TokenContent.name, TokenKind.occursInExpr,
        Expr.allInExpr_listSpelling args]
  | .methodCall _ _ object _ args => by
      simp [spelling, TokenContent.sign, TokenContent.name, TokenKind.occursInExpr,
        object.allInExpr_spelling, Expr.allInExpr_listSpelling args]

theorem Expr.allInExpr_listSpelling : (exprs : List Expr) →
    allInExpr (Expr.listSpelling exprs) = true
  | [] => rfl
  | first :: rest => by
      simp [listSpelling, first.allInExpr_spelling, Expr.allInExpr_tailSpelling rest]

theorem Expr.allInExpr_tailSpelling : (exprs : List Expr) →
    allInExpr (Expr.tailSpelling exprs) = true
  | [] => rfl
  | first :: rest => by
      simp [tailSpelling, TokenContent.sign, TokenKind.occursInExpr, first.allInExpr_spelling,
        Expr.allInExpr_tailSpelling rest]

end

/-! ## Statements of one line -/

open Parse

/-- The kinds of token with which a statement of one line can begin. -/
def TokenKind.beginsLine : TokenKind → Bool
  | keyword .kwPass | keyword .kwReturn => true
  | kind => kind.beginsExpr

/-- Neither a further condition nor a second branch begins at a token of the kind. -/
def TokenKind.EndsStmt (kind : TokenKind) : Prop :=
  kind ≠ .keyword .kwElif ∧ kind ≠ .keyword .kwElse

instance (kind : TokenKind) : Decidable kind.EndsStmt := inferInstanceAs (Decidable (_ ∧ _))

/-- The tokens of the statement are read as that statement. -/
def Stmt.IsRead (stmt : Stmt) : Prop :=
  ∀ (room : Nat) (cursor : Cursor) (rest : List Token), Spelled cursor.ahead stmt.spelling rest →
    (kindAt rest).EndsStmt →
    Reads (statement (expression room) (block room)) cursor rest
      fun read => read.map Stmt.shape = some stmt.shape

section Lines

variable {room : Nat} {cursor : Cursor} {rest : List Token} {block : Parse (List Stmt)}

/-- No definition begins at a token unless a colon may follow it. -/
theorem atDeclaration_eq_false {content : TokenContent} {contents : List TokenContent}
    (spelled : Spelled cursor.ahead (content :: contents) rest)
    (noFunction : content.kind ≠ .keyword .kwDef) (noClass : content.kind ≠ .keyword .kwClass)
    (noColon : ∃ next ∈ contents.head?, next.kind ≠ .symbol .colon) :
    cursor.atDeclaration = false := by
  obtain ⟨next, first, apart⟩ := noColon
  obtain ⟨contents, rfl⟩ := List.head?_eq_some_iff.mp first
  have kind := kind_of_spelled spelled
  unfold Cursor.atDeclaration
  rw [kind, second_of_spelled spelled]
  split
  · next _ found => exact absurd found noFunction
  · next _ found => exact absurd found noClass
  · next colon => exact absurd (Option.some.inj colon) apart
  · rfl

/-- Where no statement with a block begins, one of one line is read. -/
theorem statement_of_line (begins : (kindAt cursor.ahead).beginsLine = true)
    (plain : cursor.atDeclaration = false) :
    statement (expression room) block cursor =
      (do
        let read ← simpleStatement (expression room)
        Parse.lineEnd
        return read : Parse (Option Stmt)) cursor := by
  have apart : ∀ kind : TokenKind, kind.beginsLine = false → cursor.kind ≠ kind := by
    intro kind no same
    rw [← same, cursor.kind_eq_kindAt, begins] at no
    cases no
  rw [statement, look_bind]
  refine Eq.trans (congrFun (g := (do
    if ← look Cursor.atDeclaration then fail .strayDeclaration
    else
      let read ← simpleStatement (expression room)
      Parse.lineEnd
      return read : Parse (Option Stmt))) ?_ cursor) ?_
  · split
    · next kind => exact absurd kind (apart _ rfl)
    · next kind => exact absurd kind (apart _ rfl)
    · next kind => exact absurd kind (apart _ rfl)
    · next kind => exact absurd kind (apart _ rfl)
    · rfl
  · rw [look_bind, plain]
    rfl

/-- A statement of one line is read with the end of the line. -/
theorem line_reads {content : TokenContent} (contents : List TokenContent)
    {accepts : Option Stmt → Prop} (begins : content.kind.beginsLine = true)
    (noColon : ∃ next ∈ (contents ++ [TokenContent.newline]).head?, next.kind ≠ .symbol .colon)
    (spelled : Spelled cursor.ahead (content :: contents ++ [.newline]) rest)
    (reads : ∀ middle, Spelled middle [.newline] rest →
      Spelled cursor.ahead (content :: contents) middle →
      Reads (simpleStatement (expression room)) cursor middle accepts) :
    Reads (statement (expression room) block) cursor rest accepts := by
  have plain : cursor.atDeclaration = false :=
    atDeclaration_eq_false spelled (by rintro same; rw [same] at begins; cases begins)
      (by rintro same; rw [same] at begins; cases begins) noColon
  obtain ⟨middle, line, ending⟩ := spelled.split
  have read : Reads (simpleStatement (expression room) >>= fun read => do
      Parse.lineEnd
      return read) cursor rest accepts := by
    refine (reads middle ending line).bind fun value after accepted ahead _ => ?_
    subst ahead
    exact Reads.lineEnd ending fun last tail => Reads.pure accepted tail.eq_of_nil
  exact read.congr (statement_of_line (by rwa [spelled.kindAt_eq]) plain)

/-- The empty statement is read as none. -/
theorem pass_reads (spelled : Spelled cursor.ahead [.word .kwPass, .newline] rest) :
    Reads (statement (expression room) block) cursor rest fun read => read = none := by
  refine line_reads [] rfl ⟨_, rfl, by decide⟩ spelled fun middle _ line => ?_
  have same : simpleStatement (expression room) cursor =
      (do modify Cursor.advance; return none : Parse (Option Stmt)) cursor := by
    rw [simpleStatement, look_bind, kind_of_spelled line]
    rfl
  exact .congr same (.skip line fun after tail => .pure rfl tail.eq_of_nil)

/-- A token that begins an expression begins an assignment or an expression by itself. -/
theorem simpleStatement_of_expr (begins : (kindAt cursor.ahead).beginsExpr = true) :
    simpleStatement (expression room) cursor =
      (do return some (← expressionStatement (expression room)) : Parse (Option Stmt)) cursor := by
  rw [simpleStatement, look_bind]
  refine congrFun ?_ cursor
  rw [← cursor.kind_eq_kindAt] at begins
  split
  · next kind => simp [kind, TokenKind.beginsExpr] at begins
  · next kind => simp [kind, TokenKind.beginsExpr] at begins
  · rfl

theorem beginsLine_of_beginsExpr {kind : TokenKind} (begins : kind.beginsExpr = true) :
    kind.beginsLine = true := by
  unfold TokenKind.beginsLine
  split <;> simp_all

/-- An expression that takes up a line is a statement. -/
theorem statement_of_expression {after : Cursor} {value : Expr}
    (begins : (kindAt cursor.ahead).beginsExpr = true) (plain : cursor.atDeclaration = false)
    (read : expression room cursor = .ok value after) (ends : after.kind = .newline) :
    statement (expression room) block cursor =
      .ok (some (.expr (.ofSpan (after.spanFrom cursor.current.span)) value)) after.advance := by
  let stmt := Stmt.expr (.ofSpan (after.spanFrom cursor.current.span)) value
  have whole : expressionStatement (expression room) cursor = .ok stmt after := by
    rw [expressionStatement_eq, look_bind, bind_of_ok read,
      bind_of_ok (itemsAfter_of_ne (by simp [ends]))]
    rfl
  have line : simpleStatement (expression room) cursor = .ok (some stmt) after :=
    (simpleStatement_of_expr begins).trans (bind_of_ok whole)
  have closed : Parse.lineEnd after = .ok () after.advance := by
    rw [Parse.lineEnd, bind_of_ok (accept_of_kind ends)]
    rfl
  rw [statement_of_line (beginsLine_of_beginsExpr begins) plain, bind_of_ok line,
    bind_of_ok closed]
  rfl

/-- An expression that cannot be read is no statement. -/
theorem statement_of_failure {after : Cursor} {problem : Located SyntaxError}
    (begins : (kindAt cursor.ahead).beginsExpr = true) (plain : cursor.atDeclaration = false)
    (failed : expression room cursor = .error problem after) :
    statement (expression room) block cursor = .error problem after := by
  have whole : expressionStatement (expression room) cursor = .error problem after := by
    rw [expressionStatement_eq, look_bind, bind_of_error failed]
  have line : simpleStatement (expression room) cursor = .error problem after :=
    (simpleStatement_of_expr begins).trans (bind_of_error whole)
  rw [statement_of_line (beginsLine_of_beginsExpr begins) plain, bind_of_error line]

/-- An expression is read with the further ones behind it, each after a sign of assignment. -/
theorem chain_reads {first : Expr} {others : List Expr} {accepts : Stmt → Prop}
    (spelled : Spelled cursor.ahead (separatedSpelling (.sign .assign) Expr.spelling
      (first :: others)) rest) (stands : kindAt rest = .newline)
    (accepted : ∀ (start : Span) (value : Expr) (values : List Expr) (after : Cursor),
      value.shape = first.shape → values.map Expr.shape = others.map Expr.shape →
      after.ahead = rest → Reads (statementOf start value values) after rest accepts) :
    Reads (expressionStatement (expression room)) cursor rest accepts := by
  rw [separatedSpelling] at spelled
  obtain ⟨middle, front, back⟩ := spelled.split
  have closes : (kindAt middle).Closes .lowest :=
    kindAt_furtherSpelling (TokenKind.Closes .lowest) back (by decide)
      (by rw [stands]; decide)
  rw [expressionStatement_eq]
  refine Reads.look ((expression_reads front closes).bind fun value after same ahead _ => ?_)
  subst ahead
  refine (Reads.itemsAfter (.sign .assign) (TokenKind.Closes .lowest)
    (fun expr value => value.shape = expr.shape)
    (fun one _ cursor rest => expression_reads) (by decide) (by rw [stands]; decide)
    (by rw [stands]; decide) back).bind fun values last read ahead _ => ?_
  exact accepted _ value values last same (map_shape_eq read) ahead

/-- A line of expressions begins as an expression does, and no colon stands second. -/
theorem exprLine_begins (first : Expr) (others : List Expr) : ∃ content contents,
    separatedSpelling (.sign .assign) Expr.spelling (first :: others) = content :: contents ∧
      content.kind.beginsExpr = true ∧
        ∃ next ∈ (contents ++ [TokenContent.newline]).head?, next.kind ≠ .symbol .colon := by
  obtain ⟨content, contents, shape, begins⟩ := first.begins
  have inside := first.allInExpr_spelling
  rw [shape, allInExpr_cons, Bool.and_eq_true] at inside
  refine ⟨content, contents ++ furtherSpelling (.sign .assign) Expr.spelling others,
    by rw [separatedSpelling, shape, List.cons_append], begins, ?_⟩
  cases contents with
  | nil => cases others <;> exact ⟨_, rfl, by decide⟩
  | cons next contents =>
      refine ⟨next, rfl, fun colon => ?_⟩
      simp [colon, TokenKind.occursInExpr] at inside

/-- A line of expressions with signs of assignment between them is read as such. -/
theorem exprLine_reads {first : Expr} {others : List Expr} (accepts : Stmt → Prop)
    (spelled : Spelled cursor.ahead (separatedSpelling (.sign .assign) Expr.spelling
      (first :: others) ++ [.newline]) rest)
    (accepted : ∀ (start : Span) (value : Expr) (values : List Expr) (after : Cursor)
      (middle : List Token), value.shape = first.shape →
      values.map Expr.shape = others.map Expr.shape → after.ahead = middle →
      Reads (statementOf start value values) after middle accepts) :
    Reads (statement (expression room) block) cursor rest
      fun read => ∃ stmt, read = some stmt ∧ accepts stmt := by
  obtain ⟨content, contents, line, begins, noColon⟩ := exprLine_begins first others
  refine line_reads _ (beginsLine_of_beginsExpr begins) noColon (line ▸ spelled)
    fun middle ending front => ?_
  refine .congr (simpleStatement_of_expr (by rwa [front.kindAt_eq])) ?_
  refine (chain_reads (line ▸ front) ending.kindAt_eq fun start value values after same read =>
    accepted start value values after middle same read).bind fun stmt after read ahead _ => ?_
  exact .pure ⟨stmt, rfl, read⟩ ahead

theorem Stmt.isRead_expr (info : NodeInfo) (value : Expr) : (Stmt.expr info value).IsRead := by
  intro room cursor rest spelled _
  have line : Spelled cursor.ahead
      (separatedSpelling (.sign .assign) Expr.spelling [value] ++ [.newline]) rest := by
    simpa [separatedSpelling, furtherSpelling, Stmt.spelling] using spelled
  refine (exprLine_reads (fun stmt => stmt.shape = (Stmt.expr info value).shape) line
    fun start read values after middle same empty ahead => ?_).mono
      (by rintro _ ⟨stmt, rfl, same⟩; exact congrArg some same)
  obtain rfl : values = [] := by simpa using empty
  exact Reads.look (.pure (by simp [Stmt.relabel, same]) ahead)

/-- Targets of the shapes of others can be assigned as the others can. -/
theorem checkTargets_reads {next : Unit → Parse Stmt} {accepts : Stmt → Prop}
    {read : List Expr} (targets : List Expr) (same : read.map Expr.shape = targets.map Expr.shape)
    (assignable : ∀ target ∈ targets, target.isTarget = true)
    (reads : Reads (next ()) cursor rest accepts) :
    Reads (checkTargets read >>= next) cursor rest accepts := by
  have none : read.find? (!·.isTarget) = none := by
    refine List.find?_eq_none.mpr fun target member => ?_
    obtain ⟨other, among, shape⟩ :=
      List.mem_map.mp (same ▸ List.mem_map_of_mem (f := Expr.shape) member)
    have shared := (Expr.isTarget_relabel .blank target).symm.trans
      ((congrArg Expr.isTarget shape.symm).trans (Expr.isTarget_relabel .blank other))
    simp [shared, assignable other among]
  unfold checkTargets
  rw [none]
  exact reads

theorem Stmt.isRead_assign (info : NodeInfo) {targets : List Expr} (value : Expr)
    (nonempty : targets ≠ []) (assignable : ∀ target ∈ targets, target.isTarget = true) :
    (Stmt.assign info targets value).IsRead := by
  intro room cursor rest spelled _
  obtain ⟨first, others, rfl⟩ := List.exists_cons_of_ne_nil nonempty
  rw [Stmt.spelling, List.cons_append] at spelled
  refine (exprLine_reads
    (fun stmt => stmt.shape = (Stmt.assign info (first :: others) value).shape) spelled
    fun start target values after middle same read ahead => ?_).mono
      (by rintro _ ⟨stmt, rfl, same⟩; exact congrArg some same)
  obtain ⟨targets, last, rfl⟩ : ∃ targets last, values = targets ++ [last] :=
    ⟨_, _, (List.dropLast_append_getLast (by rintro rfl; simp at read)).symm⟩
  obtain ⟨same', shape⟩ : targets.map Expr.shape = others.map Expr.shape ∧
      last.shape = value.shape := by simpa using read
  simp only [statementOf, List.getLast?_append, List.getLast?_singleton, List.dropLast_concat,
    Option.some_or]
  refine checkTargets_reads (first :: others) (by simp [same, same']) assignable
    (Reads.look (.pure ?_ ahead))
  simpa [Stmt.relabel, same, shape] using same'

/-- The word that ends a function is read with what stands behind it. -/
theorem returnLine_reads (contents : List TokenContent) {accepts : Stmt → Prop}
    (noColon : ∃ next ∈ (contents ++ [TokenContent.newline]).head?, next.kind ≠ .symbol .colon)
    (spelled : Spelled cursor.ahead (.word .kwReturn :: contents ++ [.newline]) rest)
    (reads : ∀ (start : Token) (after : Cursor) (middle : List Token),
      Spelled after.ahead contents middle → kindAt middle = .newline →
      Reads (do
        if ← look fun cursor => cursor.kind == .newline || cursor.atEnd then
          return .ret (.ofSpan (← look (Cursor.spanFrom start.span))) none
        else
          let value ← expression room
          return .ret (.ofSpan (← look (Cursor.spanFrom start.span))) (some value) : Parse Stmt)
        after middle accepts) :
    Reads (statement (expression room) block) cursor rest
      fun read => ∃ stmt, read = some stmt ∧ accepts stmt := by
  refine line_reads contents rfl noColon spelled fun middle ending line => ?_
  have same : simpleStatement (expression room) cursor =
      (do return some (← returnStatement (expression room)) : Parse (Option Stmt)) cursor := by
    rw [simpleStatement, look_bind, kind_of_spelled line]
    rfl
  refine .congr same ?_
  simp only [returnStatement, bind_assoc]
  refine Reads.advance line fun start after _ tail => ?_
  simp only [← bind_assoc]
  refine (reads start after middle tail ending.kindAt_eq).bind fun stmt last read ahead _ => ?_
  exact .pure ⟨stmt, rfl, read⟩ ahead

theorem Stmt.isRead_ret (info : NodeInfo) (value : Option Expr) : (Stmt.ret info value).IsRead := by
  intro room cursor rest spelled _
  suffices reads : Reads (statement (expression room) (block room)) cursor rest fun read =>
      ∃ stmt, read = some stmt ∧ stmt.shape = (Stmt.ret info value).shape from
    reads.mono (by rintro _ ⟨stmt, rfl, same⟩; exact congrArg some same)
  cases value with
  | none =>
      refine returnLine_reads [] ⟨_, rfl, by decide⟩ spelled
        fun start after middle tail stands => ?_
      have ahead := tail.eq_of_nil
      refine Reads.look ?_
      simp only [Cursor.kind_eq_kindAt, ahead, stands, beq_self_eq_true, Bool.true_or, if_true]
      exact Reads.look (.pure (by simp [Stmt.relabel]) ahead)
  | some value =>
      obtain ⟨content, contents, shape, begins⟩ := value.begins
      refine returnLine_reads value.spelling
        ⟨content, by simp [shape], by rintro colon; rw [colon] at begins; cases begins⟩ spelled
        fun start after middle tail stands => ?_
      refine Reads.look ?_
      have other : (after.kind == .newline || after.atEnd) = false := by
        have front := shape ▸ tail
        rw [kind_of_spelled front, atEnd_of_spelled front, Bool.or_false]
        exact beq_eq_false_iff_ne.mpr (by rintro line; rw [line] at begins; cases begins)
      simp only [other, Bool.false_eq_true, if_false]
      refine (expression_reads tail (by rw [stands]; decide)).bind
        fun read last same ahead _ => ?_
      exact Reads.look (.pure (by simp [Stmt.relabel, same]) ahead)

end Lines

/-! ## Blocks -/

/-- The tokens of a member of a body; none stands for the empty statement. -/
def memberSpelling {δ : Type} (spelling : δ → List TokenContent) : Option δ → List TokenContent
  | none => [.word .kwPass, .newline]
  | some member => spelling member

/-- The members of a body; an empty one has the empty statement as its only member. -/
def membersOf {δ : Type} (members : List δ) : List (Option δ) :=
  if members.isEmpty then [none] else members.map some

theorem filled_flatMap {δ : Type} {spelling : δ → List TokenContent}
    (nonempty : ∀ one, spelling one ≠ []) (members : List δ) :
    filled (members.flatMap spelling) = (membersOf members).flatMap (memberSpelling spelling) := by
  cases members with
  | nil => rfl
  | cons one members =>
      have some : spelling one ++ members.flatMap spelling ≠ [] := by simp [nonempty one]
      simp [filled, membersOf, memberSpelling, some, List.flatMap_map]

@[simp]
theorem reduceOption_membersOf {δ : Type} (members : List δ) :
    (membersOf members).reduceOption = members := by
  cases members <;> simp [membersOf, List.reduceOption]

/-- Every member of a body that is not the empty statement is one of those given. -/
theorem mem_of_mem_membersOf {δ : Type} {members : List δ} {one : δ}
    (among : some one ∈ membersOf members) : one ∈ members := by
  cases members <;> simp_all [membersOf]

theorem spellingOfStmts_eq (stmts : List Stmt) :
    spellingOfStmts stmts = stmts.flatMap Stmt.spelling := by
  induction stmts with
  | nil => rfl
  | cons stmt stmts ih => rw [spellingOfStmts, List.flatMap_cons, ih]

/-- The kinds of token with which a statement can begin. -/
def TokenKind.beginsStmt : TokenKind → Bool
  | keyword .kwIf | keyword .kwWhile | keyword .kwFor => true
  | kind => kind.beginsLine

theorem beginsStmt_of_beginsExpr {kind : TokenKind} (begins : kind.beginsExpr = true) :
    kind.beginsStmt = true := by
  unfold TokenKind.beginsStmt
  split <;> first | rfl | exact beginsLine_of_beginsExpr begins

theorem exists_head_ne_colon {contents : List TokenContent} {content : TokenContent}
    (begins : content.kind.beginsExpr = true) :
    ∃ next ∈ (content :: contents).head?, next.kind ≠ .symbol .colon :=
  ⟨content, rfl, by rintro colon; rw [colon] at begins; cases begins⟩

/-- Every statement begins with a token of one of those kinds, and no colon stands second. -/
theorem Stmt.begins (stmt : Stmt) : ∃ content contents, stmt.spelling = content :: contents ∧
    content.kind.beginsStmt = true ∧
      ∃ next ∈ contents.head?, next.kind ≠ .symbol .colon := by
  have line : ∀ first others, ∃ content contents,
      separatedSpelling (.sign .assign) Expr.spelling (first :: others) ++ [.newline] =
        content :: contents ∧ content.kind.beginsStmt = true ∧
          ∃ next ∈ contents.head?, next.kind ≠ .symbol .colon := by
    intro first others
    obtain ⟨content, contents, shape, begins, noColon⟩ := exprLine_begins first others
    exact ⟨content, _, by rw [shape, List.cons_append], beginsStmt_of_beginsExpr begins, noColon⟩
  have condition : ∀ (lead : Keyword) (condition : Expr) (members : List TokenContent),
      ∃ contents, armSpelling lead condition members = .word lead :: contents ∧
        ∃ next ∈ contents.head?, next.kind ≠ .symbol .colon := by
    intro lead condition members
    obtain ⟨content, contents, shape, begins⟩ := condition.begins
    exact ⟨_, by rw [armSpelling, shape]; rfl, exists_head_ne_colon begins⟩
  cases stmt with
  | expr info value => simpa [spelling, separatedSpelling, furtherSpelling] using line value []
  | assign info targets value => cases targets with
    | nil => exact line value []
    | cons first targets => exact line first (targets ++ [value])
  | ifElse info test thenBody elseBody =>
      obtain ⟨contents, shape, next, head, apart⟩ :=
        condition .kwIf test (spellingOfStmts thenBody)
      refine ⟨_, contents ++ spellingOfElse elseBody, by rw [spelling, shape]; rfl, rfl, next, ?_,
        apart⟩
      rw [List.head?_append, head]
      rfl
  | whileLoop info test body =>
      obtain ⟨contents, shape, noColon⟩ := condition .kwWhile test (spellingOfStmts body)
      exact ⟨_, contents, by rw [spelling, shape], rfl, noColon⟩
  | forLoop => exact ⟨_, _, by rw [spelling]; rfl, rfl, _, rfl, fun colon => by cases colon⟩
  | ret info value => cases value with
    | none => exact ⟨_, _, by rw [spelling]; rfl, rfl, _, rfl, fun colon => by cases colon⟩
    | some value =>
        obtain ⟨content, contents, shape, begins⟩ := value.begins
        exact ⟨_, _, by rw [spelling, Option.map_some, Option.getD_some, shape]; rfl, rfl,
          exists_head_ne_colon begins⟩

/-- A token that begins a statement ends no body and continues no choice. -/
theorem TokenKind.beginsStmt_apart {kind : TokenKind} (begins : kind.beginsStmt = true) :
    kind ≠ .dedent ∧ kind ≠ .endOfFile ∧ kind.EndsStmt := by
  refine ⟨?_, ?_, ?_, ?_⟩ <;>
  · rintro rfl
    cases begins

theorem Stmt.spelling_ne_nil (stmt : Stmt) : stmt.spelling ≠ [] := by
  obtain ⟨content, contents, shape, -⟩ := stmt.begins
  simp [shape]

theorem memberSpelling_begins (member : Option Stmt) :
    ∃ content contents, memberSpelling Stmt.spelling member = content :: contents ∧
      content.kind.beginsStmt = true ∧
        ∃ next ∈ contents.head?, next.kind ≠ .symbol .colon := by
  cases member with
  | none => exact ⟨_, _, rfl, rfl, _, rfl, fun colon => by cases colon⟩
  | some stmt => exact stmt.begins

/-- A member of a body is read as the statement it is, or as none. -/
theorem member_reads {room : Nat} {cursor : Cursor} {rest : List Token} (member : Option Stmt)
    (each : ∀ stmt ∈ member, stmt.IsRead)
    (spelled : Spelled cursor.ahead (memberSpelling Stmt.spelling member) rest)
    (ends : (kindAt rest).EndsStmt) :
    Reads (statement (expression room) (block room)) cursor rest
      fun read => read.map Stmt.shape = member.map Stmt.shape := by
  cases member with
  | none => exact (pass_reads spelled).mono (by rintro _ rfl; rfl)
  | some stmt => exact each stmt rfl room cursor rest spelled ends

/-- A block of statements that can each be read is read. -/
theorem block_reads {room : Nat} {cursor : Cursor} {rest : List Token} {stmts : List Stmt}
    (each : ∀ stmt ∈ stmts, stmt.IsRead)
    (spelled : Spelled cursor.ahead (bodySpelling (filled (spellingOfStmts stmts))) rest) :
    Reads (block room) cursor rest fun read => read.map Stmt.shape = stmts.map Stmt.shape := by
  cases room with
  | zero =>
      unfold block
      exact Reads.fail
  | succ room =>
      unfold block
      simp only [openBody, bind_assoc]
      rw [bodySpelling, spellingOfStmts_eq, filled_flatMap Stmt.spelling_ne_nil] at spelled
      refine Reads.expect spelled rfl fun line after _ tail => ?_
      refine Reads.expect tail rfl fun indent after _ tail => ?_
      simp only [pure_bind]
      obtain ⟨middle, members, ending⟩ := tail.split
      refine (Recovering.Reads.ofRecovering (body_reads TokenKind.EndsStmt
        (fun read later => read.map Stmt.shape ++ later.reduceOption.map Stmt.shape =
          stmts.map Stmt.shape) ?_ ?_ ending.kindAt_eq (by decide) (by simp) members)).bind
            fun read after same ahead _ => ?_
      · intro member _
        obtain ⟨content, contents, shape, begins, -⟩ := memberSpelling_begins member
        exact ⟨content, contents, shape, TokenKind.beginsStmt_apart begins⟩
      · intro member among read later cursor rest held spelled ends
        refine .of_reads read ((member_reads member ?_ spelled ends).bind
          fun value after same ahead _ => .pure ?_ ahead)
        · rintro stmt rfl
          exact each stmt (mem_of_mem_membersOf among)
        · rw [← held]
          cases member <;> cases value <;> simp_all [List.reduceOption]
      · subst ahead
        exact Reads.accept ending rfl fun last tail =>
          .pure (by simpa [List.reduceOption] using same) tail.eq_of_nil

/-! ## Statements with blocks -/

section Compound

variable {room : Nat} {cursor : Cursor} {rest : List Token}

/-- A condition is read with the body it guards. -/
theorem arm_reads {lead : Keyword} {condition : Expr} {body : List Stmt}
    (each : ∀ stmt ∈ body, stmt.IsRead)
    (spelled : Spelled cursor.ahead (armSpelling lead condition (spellingOfStmts body)) rest) :
    Reads (arm (expression room) (block room)) cursor rest fun read =>
      read.condition.shape = condition.shape ∧ read.body.map Stmt.shape = body.map Stmt.shape := by
  simp only [arm]
  refine Reads.advance spelled fun token after _ tail => ?_
  obtain ⟨middle, front, back⟩ := tail.split
  refine (expression_reads front (by rw [back.kindAt_eq]; decide)).bind
    fun read after same ahead _ => ?_
  subst ahead
  refine Reads.expectSymbol back fun after tail => ?_
  exact (block_reads each tail).bind fun stmts last same' ahead _ => .pure ⟨same, same'⟩ ahead

/-- The tokens of a second branch are read as what a chain of choices leaves to it. -/
def ElseIsRead (stmts : List Stmt) : Prop :=
  ∀ (room bound : Nat) (cursor : Cursor) (rest : List Token),
    Spelled cursor.ahead (spellingOfElse stmts) rest → (kindAt rest).EndsStmt →
    cursor.ahead.length < bound →
    Reads (furtherArms (expression room) (block room) bound) cursor rest fun read =>
      ∀ spanFrom, (Arm.chain spanFrom read.2 read.1).map Stmt.shape = stmts.map Stmt.shape

theorem furtherArms_of_other {expression : Parse Expr} {block : Parse (List Stmt)} {bound : Nat}
    {accepts : List Arm × List Stmt → Prop} (other : kindAt cursor.ahead ≠ .keyword .kwElif)
    (reads : Reads (do return ([], ← alternative block)) cursor rest accepts) :
    Reads (furtherArms expression block (bound + 1)) cursor rest accepts := by
  refine Reads.check ?_
  rw [beq_eq_false_iff_ne.mpr other]
  exact reads

theorem elseIsRead_nil : ElseIsRead [] := by
  intro room bound cursor rest spelled ends enough
  obtain ⟨bound, rfl⟩ : ∃ smaller, bound = smaller + 1 := ⟨bound - 1, by omega⟩
  have ahead := spelled.eq_of_nil
  refine furtherArms_of_other (ahead ▸ ends.1) ?_
  simp only [alternative, bind_assoc]
  exact Reads.accept_of_ne (ahead ▸ ends.2) (.pure (fun _ => rfl) ahead)

theorem elseIsRead_block {stmts : List Stmt} (each : ∀ stmt ∈ stmts, stmt.IsRead)
    (spelling : spellingOfElse stmts =
      .word .kwElse :: .sign .colon :: bodySpelling (filled (spellingOfStmts stmts))) :
    ElseIsRead stmts := by
  intro room bound cursor rest spelled ends enough
  obtain ⟨bound, rfl⟩ : ∃ smaller, bound = smaller + 1 := ⟨bound - 1, by omega⟩
  rw [spelling] at spelled
  refine furtherArms_of_other (by rw [spelled.kindAt_eq]; decide) ?_
  simp only [alternative, bind_assoc]
  refine Reads.accept spelled rfl fun after tail => ?_
  simp only [if_true, bind_assoc]
  refine Reads.expectSymbol tail fun after tail => ?_
  exact (block_reads each tail).bind fun read last same ahead _ => .pure (fun _ => same) ahead

theorem elseIsRead_elif {info : NodeInfo} {condition : Expr} {thenBody elseBody : List Stmt}
    (each : ∀ stmt ∈ thenBody, stmt.IsRead) (others : ElseIsRead elseBody) :
    ElseIsRead [.ifElse info condition thenBody elseBody] := by
  intro room bound cursor rest spelled ends enough
  obtain ⟨bound, rfl⟩ : ∃ smaller, bound = smaller + 1 := ⟨bound - 1, by omega⟩
  rw [spellingOfElse] at spelled
  obtain ⟨middle, first, back⟩ := spelled.split
  have short := first.length_le
  refine Reads.check ?_
  rw [armSpelling] at short
  simp only [spelled.kindAt_eq, TokenContent.word, beq_self_eq_true, if_true]
  refine (arm_reads each first).bind fun read after same ahead _ => ?_
  subst ahead
  refine (others room bound after rest back ends ?_).bind fun reads last same' ahead _ => ?_
  · simp only [List.cons_append, List.length_cons] at short
    omega
  · refine .pure (fun spanFrom => ?_) ahead
    simp [Arm.chain, Stmt.relabel, same.1, same.2, same' spanFrom]

theorem Stmt.isRead_ifElse {info : NodeInfo} {condition : Expr} {thenBody elseBody : List Stmt}
    (each : ∀ stmt ∈ thenBody, stmt.IsRead) (others : ElseIsRead elseBody) :
    (Stmt.ifElse info condition thenBody elseBody).IsRead := by
  intro room cursor rest spelled ends
  rw [Stmt.spelling] at spelled
  obtain ⟨middle, first, back⟩ := spelled.split
  have same : statement (expression room) (block room) cursor =
      (do return some (← ifStatement (expression room) (block room)) :
        Parse (Option Stmt)) cursor := by
    rw [statement, look_bind, kind_of_spelled spelled]
    rfl
  refine .congr same ?_
  simp only [ifStatement, bind_assoc]
  refine (arm_reads each first).bind fun read after same ahead _ => ?_
  subst ahead
  refine Reads.look ?_
  refine (others room _ after rest back ends (Nat.lt_succ_self _)).bind
    fun reads last same' ahead _ => ?_
  exact Reads.look (.pure (by simp [Stmt.relabel, same.1, same.2, same']) ahead)

theorem Stmt.isRead_whileLoop {info : NodeInfo} {condition : Expr} {body : List Stmt}
    (each : ∀ stmt ∈ body, stmt.IsRead) : (Stmt.whileLoop info condition body).IsRead := by
  intro room cursor rest spelled _
  rw [Stmt.spelling] at spelled
  have same : statement (expression room) (block room) cursor =
      (do return some (← whileStatement (expression room) (block room)) :
        Parse (Option Stmt)) cursor := by
    rw [statement, look_bind, kind_of_spelled spelled]
    rfl
  refine .congr same ?_
  simp only [whileStatement, bind_assoc]
  refine (arm_reads each spelled).bind fun read after same ahead _ => ?_
  exact Reads.look (.pure (by simp [Stmt.relabel, same.1, same.2]) ahead)

theorem Stmt.isRead_forLoop {info : NodeInfo} {element : Identifier} {iterable : Expr}
    {body : List Stmt} (each : ∀ stmt ∈ body, stmt.IsRead) :
    (Stmt.forLoop info element iterable body).IsRead := by
  intro room cursor rest spelled _
  rw [Stmt.spelling] at spelled
  have same : statement (expression room) (block room) cursor =
      (do return some (← forStatement (expression room) (block room)) :
        Parse (Option Stmt)) cursor := by
    rw [statement, look_bind, kind_of_spelled spelled]
    rfl
  refine .congr same ?_
  simp only [forStatement, bind_assoc]
  refine Reads.advance spelled fun token after _ tail => ?_
  refine Reads.identifier tail fun name after text tail => ?_
  refine Reads.expect tail rfl fun token after _ tail => ?_
  obtain ⟨middle, front, back⟩ := tail.split
  refine (expression_reads front (by rw [back.kindAt_eq]; decide)).bind
    fun read after same ahead _ => ?_
  subst ahead
  refine Reads.expectSymbol back fun after tail => ?_
  refine (block_reads each tail).bind fun stmts last same' ahead _ => ?_
  exact Reads.look (.pure (by simp [Stmt.relabel, Identifier.relabel, text, same, same']) ahead)

end Compound

/-! ## All statements -/

/--
Well-formed statements are read back: each by itself, several as a second branch, and each of
several.
-/
theorem Stmt.read_back : (∀ stmt : Stmt, stmt.WellFormed → stmt.IsRead) ∧
    (∀ stmts, WellFormedStmts stmts → ElseIsRead stmts) ∧
      ∀ stmts, WellFormedStmts stmts → ∀ stmt ∈ stmts, stmt.IsRead := by
  apply Stmt.spelling_induction
  case expr => exact fun info value _ => isRead_expr info value
  case assign =>
      exact fun info targets value wellFormed => isRead_assign info value wellFormed.1 wellFormed.2
  case ifElse =>
      exact fun info condition thenBody elseBody each others wellFormed =>
        isRead_ifElse (each wellFormed.1) (others wellFormed.2)
  case whileLoop =>
      exact fun info condition body each wellFormed => isRead_whileLoop (each wellFormed)
  case forLoop =>
      exact fun info element iterable body each wellFormed => isRead_forLoop (each wellFormed)
  case ret => exact fun info value _ => isRead_ret info value
  case noElse => exact fun _ => elseIsRead_nil
  case elif =>
      exact fun info condition thenBody elseBody each others wellFormed =>
        elseIsRead_elif (each wellFormed.1.1) (others wellFormed.1.2)
  case elseBlock =>
      exact fun stmt rest spelling first others wellFormed =>
        elseIsRead_block (List.forall_mem_cons.mpr ⟨first wellFormed.1, others wellFormed.2⟩)
          spelling
  case nil => exact fun _ => by simp
  case cons =>
      exact fun stmt rest first others wellFormed =>
        List.forall_mem_cons.mpr ⟨first wellFormed.1, others wellFormed.2⟩

end ChocoLang
