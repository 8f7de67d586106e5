import ChocoLang.Proofs.Parsing.RoundTrip.Statement

/-!
# Spelled declarations are read back

A class is read member by member, a function first its declarations and then its statements.  No
function loses a part of its body, as nothing is recorded on the way.
-/

namespace ChocoLang

open Parse

/-! ## Types and variables -/

section Variables

variable {room : Nat} {cursor : Cursor} {rest : List Token}

theorem writtenType_reads {written : WrittenType}
    (spelled : Spelled cursor.ahead written.spelling rest) :
    Reads (writtenType room) cursor rest fun read => read.shape = written.shape := by
  induction written generalizing room cursor rest with
  | named info name =>
      cases room with
      | zero => exact Reads.fail
      | succ room =>
          have text : cursor.current.value.display = name := by
            rw [← Token.value_content, content_current spelled]
            rfl
          have same : writtenType (room + 1) cursor =
              (do modify Cursor.advance
                  return .named (.ofSpan cursor.current.span) cursor.current.value.display :
                Parse WrittenType) cursor := by
            rw [writtenType, look_bind, kind_current spelled]
            rfl
          exact .congr same (.skip spelled fun after tail =>
            .pure (by simp [WrittenType.relabel, text]) tail.eq_of_nil)
  | list info element ih =>
      cases room with
      | zero => exact Reads.fail
      | succ room =>
          have same : writtenType (room + 1) cursor =
              (do modify Cursor.advance
                  let element ← writtenType room
                  expectSymbol .rightBracket .closeListType
                  return .list (.ofSpan (← look (Cursor.spanFrom cursor.current.span))) element :
                Parse WrittenType) cursor := by
            rw [writtenType, look_bind, kind_current spelled]
            rfl
          refine .congr same (.skip spelled fun after tail => ?_)
          obtain ⟨middle, inner, bracket⟩ := tail.split
          refine (ih inner).bind fun read after same ahead _ => ?_
          subst ahead
          exact Reads.expectSymbol bracket fun last tail =>
            Reads.look (.pure (by simp [WrittenType.relabel, same]) tail.eq_of_nil)

theorem typedVar_reads {var : TypedVar} (spelled : Spelled cursor.ahead var.spelling rest) :
    Reads (typedVar room) cursor rest fun read => read.shape = var.shape := by
  unfold typedVar
  refine Reads.identifier spelled fun name after text tail => ?_
  refine Reads.expectSymbol tail fun after tail => ?_
  refine (writtenType_reads tail).bind fun read last same ahead _ => ?_
  exact Reads.look (.pure (by simp [TypedVar.relabel, Identifier.relabel, text, same]) ahead)

theorem initializer_reads {value : Expr} (literal : value.isLiteral = true)
    (spelled : Spelled cursor.ahead value.spelling rest) :
    Reads initializer cursor rest fun read => read.shape = value.shape := by
  obtain ⟨content, single, sort, stands⟩ := value.literal_token literal
  rw [single] at spelled
  obtain ⟨atom, found, same⟩ := stands cursor.current (content_current spelled)
  have step : initializer cursor = (do modify Cursor.advance; return atom : Parse Expr) cursor := by
    rw [initializer, look_bind]
    simp only [kind_current spelled, sort, if_true, found]
  exact .congr step (.skip spelled fun after tail => .pure same tail.eq_of_nil)

theorem variableDefinition_reads {info : NodeInfo} {var : TypedVar} {value : Expr}
    (literal : value.isLiteral = true)
    (spelled : Spelled cursor.ahead (Decl.varDef info var value).spelling rest) :
    Reads (variableDefinition room) cursor rest
      fun read => read.shape = (Decl.varDef info var value).shape := by
  rw [Decl.spelling, List.append_assoc] at spelled
  obtain ⟨middle, front, back⟩ := spelled.split
  unfold variableDefinition
  refine Reads.look ?_
  refine (typedVar_reads front).bind fun read after same ahead _ => ?_
  subst ahead
  refine Reads.expectSymbol back fun after tail => ?_
  obtain ⟨middle, inner, ending⟩ := tail.split
  refine (initializer_reads literal inner).bind fun read' after same' ahead _ => ?_
  subst ahead
  refine Reads.look (Reads.lineEnd ending fun last tail => ?_)
  exact .pure (by simp [Decl.relabel, same, same']) tail.eq_of_nil

theorem outerVariable_reads {decl : Decl} {name : Identifier}
    (outer : (∃ info, decl = .globalDecl info name) ∨ ∃ info, decl = .nonlocalDecl info name)
    (spelled : Spelled cursor.ahead decl.spelling rest) :
    Reads outerVariable cursor rest fun read => read.shape = decl.shape := by
  unfold outerVariable
  obtain ⟨info, rfl⟩ | ⟨info, rfl⟩ := outer <;>
  · refine Reads.advance spelled fun token after same tail => ?_
    refine Reads.identifier tail fun read after text tail => ?_
    refine Reads.look (Reads.lineEnd tail fun last tail => ?_)
    have kind := congrArg TokenContent.kind same
    simp only [Token.kind_content, TokenContent.word] at kind
    simp only [kind]
    exact .pure (by simp [Decl.relabel, Identifier.relabel, text]) tail.eq_of_nil

end Variables
/-! ## Declarations by their first token -/

/-- The reader of a declaration, which its first token selects. -/
def Decl.reader (room : Nat) : Decl → Parse Decl
  | .varDef _ _ _ => variableDefinition room
  | .funcDef _ _ _ _ _ => functionDefinition room
  | .classDef _ _ _ _ => classDeclaration room (functionDefinition room)
  | .globalDecl _ _ | .nonlocalDecl _ _ => outerVariable

instance (room : Nat) (decl : Decl) : Forward (decl.reader room) := by
  cases decl <;> unfold Decl.reader <;> infer_instance

/-- The tokens of the declaration are read as that declaration. -/
def Decl.IsRead (decl : Decl) : Prop :=
  ∀ (room : Nat) (cursor : Cursor) (rest : List Token), Spelled cursor.ahead decl.spelling rest →
    Reads (decl.reader room) cursor rest fun read => read.shape = decl.shape

/-- The kind of the token that a declaration begins with. -/
def Decl.lead : Decl → TokenKind
  | .varDef _ _ _ => .identifier
  | .funcDef _ _ _ _ _ => .keyword .kwDef
  | .classDef _ _ _ _ => .keyword .kwClass
  | .globalDecl _ _ => .keyword .kwGlobal
  | .nonlocalDecl _ _ => .keyword .kwNonlocal

theorem Decl.begins (decl : Decl) :
    ∃ content contents, decl.spelling = content :: contents ∧ content.kind = decl.lead := by
  cases decl <;> exact ⟨_, _, by rw [spelling] <;> rfl, rfl⟩

section Lead

variable {room : Nat} {cursor : Cursor} {rest : List Token} {decl : Decl}

theorem kind_of_decl (spelled : Spelled cursor.ahead decl.spelling rest) :
    cursor.kind = decl.lead := by
  obtain ⟨content, contents, shape, kind⟩ := decl.begins
  rw [shape] at spelled
  exact (kind_of_spelled spelled).trans kind

/-- Variables, functions and classes are recognised as declarations. -/
theorem atDeclaration_of_decl (inner : decl.lead = .identifier ∨ decl.lead = .keyword .kwDef ∨
      decl.lead = .keyword .kwClass) (spelled : Spelled cursor.ahead decl.spelling rest) :
    cursor.atDeclaration = true := by
  have kind := kind_of_decl spelled
  unfold Cursor.atDeclaration
  rw [kind]
  cases decl with
  | varDef info var value =>
      rw [Decl.spelling, TypedVar.spelling] at spelled
      rw [second_of_spelled spelled]
      rfl
  | funcDef => rfl
  | classDef => rfl
  | globalDecl => simp [Decl.lead] at inner
  | nonlocalDecl => simp [Decl.lead] at inner

end Lead

theorem spellingOfDecls_eq (decls : List Decl) :
    spellingOfDecls decls = decls.flatMap Decl.spelling := by
  induction decls with
  | nil => rfl
  | cons decl decls ih => rw [spellingOfDecls, List.flatMap_cons, ih]

theorem Decl.spelling_ne_nil (decl : Decl) : decl.spelling ≠ [] := by
  obtain ⟨content, contents, shape, -⟩ := decl.begins
  simp [shape]

/-! ## Classes -/

section Classes

variable {room : Nat} {cursor : Cursor} {rest : List Token}

/-- Classes hold variables and functions. -/
theorem Decl.lead_of_ofClass {decl : Decl} (wellFormed : decl.WellFormed .ofClass) :
    decl.lead = .identifier ∨ decl.lead = .keyword .kwDef := by
  cases decl with
  | varDef => exact .inl rfl
  | funcDef => exact .inr rfl
  | classDef => cases wellFormed.1
  | globalDecl | nonlocalDecl => cases wellFormed

theorem memberReader_reads {bound : Nat} {decl : Decl} (read : decl.IsRead)
    (wellFormed : decl.WellFormed .ofClass) (spelled : Spelled cursor.ahead decl.spelling rest) :
    Reads (memberReader room (functionDefinition room) bound) cursor rest
      fun read => read.map Decl.shape = some decl.shape := by
  have same : memberReader room (functionDefinition room) bound cursor =
      (do return some (← decl.reader room) : Parse (Option Decl)) cursor := by
    rw [memberReader, look_bind, kind_of_decl spelled]
    cases decl with
    | varDef | funcDef => rfl
    | _ => rcases Decl.lead_of_ofClass wellFormed with lead | lead <;> cases lead
  exact .congr same ((read room cursor rest spelled).bind fun value after same ahead _ =>
    .pure (by simp [same]) ahead)

/-- A member of a class is read as the declaration it is, or as none. -/
theorem classMember_reads {bound : Nat} {member : Option Decl}
    (each : ∀ decl ∈ member, decl.IsRead ∧ decl.WellFormed .ofClass)
    (spelled : Spelled cursor.ahead (memberSpelling Decl.spelling member) rest) :
    Reads (classMember (memberReader room (functionDefinition room) bound)) cursor rest
      fun read => read.map Decl.shape = member.map Decl.shape := by
  unfold classMember
  cases member with
  | none =>
      refine Reads.accept spelled rfl fun after tail => ?_
      simp only [if_true]
      exact Reads.lineEnd tail fun last tail => .pure rfl tail.eq_of_nil
  | some decl =>
      obtain ⟨read, wellFormed⟩ := each decl rfl
      have kind := kind_of_decl spelled
      have inner := Decl.lead_of_ofClass wellFormed
      refine Reads.accept_of_ne ?_ ?_
      · rw [← cursor.kind_eq_kindAt, kind]
        rcases inner with lead | lead <;> rw [lead] <;> decide
      · simp only [Bool.false_eq_true, if_false]
        refine Reads.look ?_
        rw [atDeclaration_of_decl (inner.imp_right .inl) spelled]
        exact memberReader_reads read wellFormed spelled

/-- A class is read with members that can each be read. -/
theorem Decl.isRead_classDef {info : NodeInfo} {name superclass : Identifier} {decls : List Decl}
    (each : ∀ decl ∈ decls, decl.IsRead ∧ decl.WellFormed .ofClass) :
    (Decl.classDef info name superclass decls).IsRead := by
  intro room cursor rest spelled
  rw [Decl.spelling, bodySpelling, spellingOfDecls_eq,
    filled_flatMap Decl.spelling_ne_nil] at spelled
  refine Reads.look ?_
  rw [classDefinition_succ]
  simp only [classHeader, openBody, bind_assoc, pure_bind]
  refine Reads.advance spelled fun start after _ tail => ?_
  refine Reads.identifier tail fun name' after text tail => ?_
  refine Reads.expectSymbol tail fun after tail => ?_
  refine Reads.identifier tail fun superclass' after text' tail => ?_
  refine Reads.expectSymbol tail fun after tail => ?_
  refine Reads.expectSymbol tail fun after tail => ?_
  refine Reads.expect tail rfl fun line after _ tail => ?_
  refine Reads.expect tail rfl fun indent after _ tail => ?_
  obtain ⟨middle, members, ending⟩ := tail.split
  refine (Recovering.Reads.ofRecovering (body_reads (fun _ => True)
    (fun read later => read.map Decl.shape ++ later.reduceOption.map Decl.shape =
      decls.map Decl.shape) ?_ ?_ ending.kindAt_eq trivial (by simp) members)).bind
        fun read after same ahead _ => ?_
  · intro member among
    cases member with
    | none => exact ⟨_, _, rfl, by decide, by decide, trivial⟩
    | some decl =>
        obtain ⟨content, contents, shape, kind⟩ := decl.begins
        refine ⟨content, contents, shape, ?_, ?_, trivial⟩ <;>
        · rw [kind]
          cases decl <;> simp [Decl.lead]
  · intro member among read later cursor rest held spelled _
    refine .of_reads read ((classMember_reads ?_ spelled).bind
      fun value after same ahead _ => .pure ?_ ahead)
    · rintro decl rfl
      exact each decl (mem_of_mem_membersOf among)
    · rw [← held]
      cases member <;> cases value <;> simp_all [List.reduceOption]
  · subst ahead
    refine Reads.accept ending rfl fun last tail => Reads.look (.pure ?_ tail.eq_of_nil)
    simpa [Decl.relabel, Identifier.relabel, text, text', List.reduceOption] using same

end Classes
/-! ## Bodies of declarations and statements -/

/-- The tokens of a declaration or of a member of the statements. -/
def partSpelling : Decl ⊕ Option Stmt → List TokenContent
  | .inl decl => decl.spelling
  | .inr member => memberSpelling Stmt.spelling member

/--
What has been read of a body and what is still to come make up the given declarations and
statements; no declaration is to come once a statement was begun.
-/
def Remaining (declarations : List Decl) (statements : List Stmt) (begun : Bool)
    (declared : List Decl) (stated : List Stmt) (later : List (Decl ⊕ Option Stmt)) : Prop :=
  ∃ (decls : List Decl) (members : List (Option Stmt)),
    later = decls.map .inl ++ members.map .inr ∧
    declared.map Decl.shape ++ decls.map Decl.shape = declarations.map Decl.shape ∧
    stated.map Stmt.shape ++ members.reduceOption.map Stmt.shape = statements.map Stmt.shape ∧
    (begun = true → decls = [])

theorem flatMap_parts (decls : List Decl) (members : List (Option Stmt)) :
    (decls.map Sum.inl ++ members.map Sum.inr).flatMap partSpelling =
      spellingOfDecls decls ++ members.flatMap (memberSpelling Stmt.spelling) := by
  rw [List.flatMap_append, List.flatMap_map, List.flatMap_map, spellingOfDecls_eq]
  rfl

/-- The first token of a part ends no body and continues no choice. -/
theorem partSpelling_begins (part : Decl ⊕ Option Stmt) : ∃ content contents,
    partSpelling part = content :: contents ∧ content.kind ≠ .dedent ∧
      content.kind ≠ .endOfFile ∧ content.kind.EndsStmt := by
  cases part with
  | inl decl =>
      obtain ⟨content, contents, shape, kind⟩ := decl.begins
      refine ⟨content, contents, shape, ?_, ?_, ?_, ?_⟩ <;>
      · rw [kind]
        cases decl <;> simp [Decl.lead]
  | inr member =>
      obtain ⟨content, contents, shape, begins, -⟩ := memberSpelling_begins member
      exact ⟨content, contents, shape, TokenKind.beginsStmt_apart begins⟩

namespace Remaining

variable {declarations declared : List Decl} {statements stated : List Stmt} {begun : Bool}
  {later : List (Decl ⊕ Option Stmt)}

/-- At first all is to come. -/
theorem start (declarations : List Decl) {statements : List Stmt} {members : List (Option Stmt)}
    (same : members.reduceOption = statements) :
    Remaining declarations statements false [] []
      (declarations.map .inl ++ members.map .inr) :=
  ⟨declarations, members, rfl, rfl, by rw [same]; rfl, nofun⟩

/-- A declaration is to come only before all statements; once it is read, it is to come no more. -/
theorem declare {decl : Decl}
    (remaining : Remaining declarations statements begun declared stated (.inl decl :: later)) :
    begun = false ∧ ∀ read : Decl, read.shape = decl.shape →
      Remaining declarations statements begun (declared ++ [read]) stated later := by
  obtain ⟨decls, members, shape, same, same', first⟩ := remaining
  cases decls with
  | nil => cases members <;> cases shape
  | cons one decls =>
      simp only [List.map_cons, List.cons_append, List.cons.injEq, Sum.inl.injEq] at shape
      obtain ⟨rfl, rfl⟩ := shape
      have notBegun : begun = false := by
        cases begun with
        | false => rfl
        | true => cases first rfl
      refine ⟨notBegun, fun read shape => ⟨decls, members, rfl, ?_, same', ?_⟩⟩
      · simpa [shape] using same
      · simp [notBegun]

/-- Once a statement is read, it is to come no more. -/
theorem state {member : Option Stmt}
    (remaining : Remaining declarations statements begun declared stated (.inr member :: later))
    {read : Option Stmt} (shape : read.map Stmt.shape = member.map Stmt.shape) (begun : Bool) :
    Remaining declarations statements begun declared (stated ++ read.toList) later := by
  obtain ⟨decls, members, split, same, same', -⟩ := remaining
  cases decls with
  | cons one decls => cases split
  | nil =>
      cases members with
      | nil => cases split
      | cons one members =>
          simp only [List.map_nil, List.nil_append, List.map_cons, List.cons.injEq,
            Sum.inr.injEq] at split
          obtain ⟨rfl, rfl⟩ := split
          refine ⟨[], members, rfl, same, ?_, fun _ => rfl⟩
          rw [← same']
          cases member <;> cases read <;> simp_all [List.reduceOption]

/-- When nothing is to come, all has been read. -/
theorem done (remaining : Remaining declarations statements begun declared stated []) :
    declared.map Decl.shape = declarations.map Decl.shape ∧
      stated.map Stmt.shape = statements.map Stmt.shape := by
  obtain ⟨decls, members, split, same, same', -⟩ := remaining
  obtain ⟨rfl, rfl⟩ : decls = [] ∧ members = [] := by simpa using split.symm
  exact ⟨by simpa using same, by simpa [List.reduceOption] using same'⟩

end Remaining

/-! ## Functions -/

section Functions

variable {room : Nat} {cursor : Cursor} {rest : List Token}

/-- The type of a result is read, or left out before the colon. -/
theorem resultType_reads {written : WrittenType} {paren : Span}
    (spelled : Spelled cursor.ahead (resultSpelling written) rest)
    (stands : kindAt rest = .symbol .colon) :
    Reads (resultType room paren) cursor rest fun read => read.shape = written.shape := by
  have arrow (spelled : Spelled cursor.ahead (.sign .arrow :: written.spelling) rest) :
      Reads (resultType room paren) cursor rest fun read => read.shape = written.shape :=
    Reads.accept spelled rfl fun after tail => writtenType_reads tail
  unfold resultSpelling at spelled
  split at spelled
  · next info text =>
      split at spelled
      · next absent =>
          have ahead := spelled.eq_of_nil
          refine Reads.accept_of_ne (by rw [ahead, stands]; decide) ?_
          exact .pure (by simp [WrittenType.relabel, absent]) ahead
      · exact arrow spelled
  · exact arrow spelled

/-- A heading is read with the beginning of the body behind it. -/
theorem heading_reads {heading : FunctionHeading} {members : List TokenContent}
    {next : Token → FunctionHeading → Parse Decl} {final : List Token} {accepts : Decl → Prop}
    [forward : ∀ start heading, Forward (next start heading)]
    (spelled : Spelled cursor.ahead (heading.spelling ++ .newline :: .indent :: members) rest)
    (reads : ∀ (start : Token) (read : FunctionHeading) (after : Cursor),
      read.shape = heading.shape → Spelled after.ahead members rest →
      Reads (next start read) after final accepts) :
    Reads (do next (← advance) (← functionHeading room)) cursor final accepts := by
  simp only [functionHeading, openBody, bind_assoc, pure_bind]
  rw [FunctionHeading.spelling] at spelled
  simp only [List.cons_append, List.append_assoc] at spelled
  refine Reads.advance spelled fun start after _ tail => ?_
  refine Reads.identifier tail fun name after text tail => ?_
  refine Reads.expectSymbol tail fun after tail => ?_
  obtain ⟨middle, front, back⟩ := tail.split
  refine (Reads.commaList (fun _ => True) (fun var read => read.shape = var.shape)
    (fun var _ cursor rest spelled _ => typedVar_reads spelled)
    (fun var _ => ⟨_, _, by rw [TypedVar.spelling], fun close => by cases close⟩) trivial trivial
    (by decide)
    back.kindAt_eq front).bind fun params after same ahead _ => ?_
  subst ahead
  refine Reads.expect back rfl fun paren after _ tail => ?_
  obtain ⟨middle, result, tail⟩ := tail.split
  refine (resultType_reads result tail.kindAt_eq).bind fun returns after same' ahead _ => ?_
  subst ahead
  refine Reads.expectSymbol tail fun after tail => ?_
  refine Reads.expect tail rfl fun line after _ tail => ?_
  refine Reads.expect tail rfl fun indent after _ tail => ?_
  refine reads start _ after ?_ tail
  simpa [FunctionHeading.relabel, Identifier.relabel, text, same'] using map_shape_eq same

/-- Functions hold no classes. -/
theorem Decl.lead_of_ofFunction {decl : Decl} (wellFormed : decl.WellFormed .ofFunction) :
    decl.lead ≠ .keyword .kwClass := by
  cases decl with
  | classDef => cases wellFormed.1
  | _ => simp [Decl.lead]

/-- A declaration of a function body is read by the reader that its first token selects. -/
theorem functionDeclaration_reads {decl : Decl} (read : decl.IsRead)
    (noClass : decl.lead ≠ .keyword .kwClass) (spelled : Spelled cursor.ahead decl.spelling rest) :
    Reads (functionDeclaration (innerDeclaration room (functionDefinition room))) cursor rest
      fun read => read.map Decl.shape = some decl.shape := by
  have same : functionDeclaration (innerDeclaration room (functionDefinition room)) cursor =
      (do return some (← decl.reader room) : Parse (Option Decl)) cursor := by
    have kind := kind_of_decl spelled
    rw [functionDeclaration, look_bind, kind]
    cases decl with
    | varDef | funcDef =>
        dsimp only [Decl.lead] at kind ⊢
        rw [innerDeclaration, look_bind, kind]
        rfl
    | globalDecl | nonlocalDecl => rfl
    | classDef => exact absurd rfl noClass
  exact .congr same ((read room cursor rest spelled).bind fun value after same ahead _ =>
    .pure (by simp [same]) ahead)

/-- The declarations of a function body are recognised as such. -/
theorem atFunctionDeclaration_of_decl {decl : Decl}
    (spelled : Spelled cursor.ahead decl.spelling rest) : atFunctionDeclaration cursor = true := by
  have kind := kind_of_decl spelled
  unfold atFunctionDeclaration
  cases decl with
  | varDef | funcDef | classDef =>
      rw [atDeclaration_of_decl (by simp [Decl.lead]) spelled, Bool.or_true]
  | globalDecl | nonlocalDecl => simp [kind, Decl.lead]

/-- A member of the statements is not taken for a declaration. -/
theorem atDeclaration_of_member {member : Option Stmt}
    (spelled : Spelled cursor.ahead (memberSpelling Stmt.spelling member) rest) :
    cursor.kind.beginsStmt = true ∧ cursor.atDeclaration = false := by
  obtain ⟨content, contents, shape, begins, noColon⟩ := memberSpelling_begins member
  rw [shape] at spelled
  rw [kind_of_spelled spelled]
  exact ⟨begins, atDeclaration_eq_false spelled (by rintro same; rw [same] at begins; cases begins)
    (by rintro same; rw [same] at begins; cases begins) noColon⟩

/-- What has been read of the body of a function, and that a statement was or will be begun. -/
def FunctionHolds (declarations : List Decl) (statements : List Stmt) (body : FunctionBody)
    (later : List (Decl ⊕ Option Stmt)) : Prop :=
  Remaining declarations statements body.hasStatement body.declarations body.statements later ∧
    (body.hasStatement = true ∨ ∃ member, .inr member ∈ later)

/-- A step of a function body reads the next declaration or statement. -/
theorem functionStep_reads {declarations : List Decl} {statements : List Stmt}
    {part : Decl ⊕ Option Stmt} {body : FunctionBody} {later : List (Decl ⊕ Option Stmt)}
    (eachDecl : ∀ decl, part = .inl decl → decl.IsRead ∧ decl.lead ≠ .keyword .kwClass)
    (eachStmt : ∀ stmt, part = .inr (some stmt) → stmt.IsRead)
    (holds : FunctionHolds declarations statements body (part :: later))
    (spelled : Spelled cursor.ahead (partSpelling part) rest) (ends : (kindAt rest).EndsStmt) :
    Recovering.Reads (functionStep (innerDeclaration room (functionDefinition room))
      (statement (expression room) (block room)) body) cursor rest
        fun body => FunctionHolds declarations statements body later := by
  obtain ⟨remaining, begins⟩ := holds
  cases part with
  | inl decl =>
      obtain ⟨read, noClass⟩ := eachDecl decl rfl
      obtain ⟨notBegun, next⟩ := remaining.declare
      refine .congr (by rw [functionStep_apply, if_pos (atFunctionDeclaration_of_decl spelled)])
        (.of_reads body ?_)
      refine (functionDeclaration_reads read noClass spelled).bind
        fun value after same ahead _ => ?_
      obtain ⟨value, rfl, shape⟩ := Option.map_eq_some_iff.mp same
      simp only [FunctionBody.take, FunctionBody.declare]
      rw [if_neg (by simp [notBegun])]
      refine .pure ⟨next value shape, begins.imp_right ?_⟩ ahead
      rintro ⟨member, among⟩
      exact ⟨member, by simpa using among⟩
  | inr member =>
      obtain ⟨kind, plain⟩ := atDeclaration_of_member spelled
      have other : atFunctionDeclaration cursor = false := by
        have noGlobal : cursor.kind ≠ .keyword .kwGlobal := by
          rintro same; rw [same] at kind; cases kind
        have noNonlocal : cursor.kind ≠ .keyword .kwNonlocal := by
          rintro same; rw [same] at kind; cases kind
        simp [atFunctionDeclaration, plain, noGlobal, noNonlocal]
      refine .congr (by rw [functionStep_apply, other]; rfl)
        (.of_reads { body with hasStatement := true } ?_)
      refine (member_reads member (fun stmt same => eachStmt stmt (congrArg _ same)) spelled
        ends).bind fun value after same ahead _ => ?_
      exact .pure ⟨remaining.state same true, .inl rfl⟩ ahead

/-- A function is read with declarations and statements that can each be read. -/
theorem Decl.isRead_funcDef {info : NodeInfo} {heading : FunctionHeading} {decls : List Decl}
    {stmts : List Stmt} (eachDecl : ∀ decl ∈ decls, decl.IsRead ∧ decl.lead ≠ .keyword .kwClass)
    (eachStmt : ∀ stmt ∈ stmts, stmt.IsRead) :
    (Decl.funcDef info heading decls stmts false).IsRead := by
  intro room cursor rest spelled
  rw [Decl.spelling, bodySpelling] at spelled
  cases room with
  | zero => exact Reads.fail
  | succ room =>
      unfold Decl.reader functionDefinition
      refine heading_reads spelled fun start read after shape tail => ?_
      rw [spellingOfStmts_eq, filled_flatMap Stmt.spelling_ne_nil, ← flatMap_parts] at tail
      obtain ⟨middle, parts, ending⟩ := tail.split
      refine Reads.look ((Recovering.Reads.ofRecovering (body_reads TokenKind.EndsStmt
        (FunctionHolds decls stmts) (fun part _ => partSpelling_begins part) ?_
        ending.kindAt_eq (by decide) ⟨.start decls (by simp), .inr ?_⟩ parts)).bind
          fun body last holds ahead quiet => ?_)
      · intro part among body later cursor rest held spelled ends
        refine functionStep_reads ?_ ?_ held spelled ends
        · rintro decl rfl
          exact eachDecl decl (by simpa using among)
        · rintro stmt rfl
          exact eachStmt stmt (mem_of_mem_membersOf (by simpa using among))
      · obtain ⟨member, among⟩ : ∃ member, member ∈ membersOf stmts := by
          cases stmts <;> exact ⟨_, List.mem_cons_self⟩
        exact ⟨member, by simpa using among⟩
      · subst ahead
        have begun : body.hasStatement = true := holds.2.resolve_right (by simp)
        obtain ⟨declared, stated⟩ := holds.1.done
        refine (Reads.accept_last ending rfl).bind fun _ final _ ahead quiet' => ?_
        have nothing : decide (after.problems.length < final.problems.length) = false := by
          rw [quiet', quiet]
          exact decide_eq_false (Nat.lt_irrefl _)
        refine Reads.look ?_
        rw [nothing]
        simp only [begun, Bool.true_or]
        refine Reads.look (.pure ?_ ahead)
        simp [Decl.relabel, shape, declared, stated]

end Functions
/-! ## All declarations -/

theorem Decl.isRead_varDef {info : NodeInfo} {var : TypedVar} {value : Expr}
    (literal : value.isLiteral = true) : (Decl.varDef info var value).IsRead :=
  fun _ _ _ spelled => variableDefinition_reads literal spelled

/-- Declarations that a class or a function holds. -/
theorem WellFormedDecls.each {place : BodyKind} {decls : List Decl}
    (wellFormed : WellFormedDecls place decls) : ∀ decl ∈ decls, decl.WellFormed place :=
  (wellFormedDecls_iff place decls).mp wellFormed

mutual

/-- Every well-formed declaration in which no function lost a part of its body is read back. -/
theorem Decl.isRead {place : BodyKind} : (decl : Decl) → decl.WellFormed place →
    (∀ function ∈ decl.functions, function.2 = false) → decl.IsRead
  | .varDef _ _ _, wellFormed, _ => isRead_varDef wellFormed.2
  | .funcDef _ heading decls stmts recovered, wellFormed, intact => by
      obtain rfl : recovered = false := intact (heading.name.name, recovered) (by simp [functions])
      refine isRead_funcDef (fun decl among => ⟨Decl.all_isRead decls wellFormed.2.1
        (fun function inside => intact function (by simp [functions, inside])) decl among,
        lead_of_ofFunction (wellFormed.2.1.each decl among)⟩)
        (Stmt.read_back.2.2 stmts wellFormed.2.2)
  | .classDef _ _ _ decls, wellFormed, intact =>
    isRead_classDef fun decl among => ⟨Decl.all_isRead decls wellFormed.2
      (fun function inside => intact function (by simpa [functions] using inside)) decl among,
      wellFormed.2.each decl among⟩
  | .globalDecl _ _, _, _ => fun _ _ _ => outerVariable_reads (.inl ⟨_, rfl⟩)
  | .nonlocalDecl _ _, _, _ => fun _ _ _ => outerVariable_reads (.inr ⟨_, rfl⟩)

/-- So is each of several declarations. -/
theorem Decl.all_isRead {place : BodyKind} : (decls : List Decl) → WellFormedDecls place decls →
    (∀ function ∈ functionsIn decls, function.2 = false) → ∀ decl ∈ decls, decl.IsRead
  | [], _, _ => by simp
  | first :: rest, wellFormed, intact => List.forall_mem_cons.mpr
    ⟨first.isRead wellFormed.1 fun function inside =>
        intact function (by simp [functionsIn, inside]),
      Decl.all_isRead rest wellFormed.2 fun function inside =>
        intact function (by simp [functionsIn, inside])⟩

end
end ChocoLang
