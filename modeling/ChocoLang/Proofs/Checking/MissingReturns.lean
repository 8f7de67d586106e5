import ChocoLang.Proofs.Checking.Annotation.Program
import ChocoLang.Proofs.Checking.Marking.Program
import ChocoLang.Proofs.Checking.Reports.Receiver
import ChocoLang.Proofs.Syntax.Labels
import ChocoLang.Proofs.Syntax.Paths

/-!
# Missing returns

A function with a result must not come to the end of its statements without a return.  Whether it
can is told from the statements alone: there is a run through them unless one of them always
returns.  It is reported at the name of the function, unless an error was found while the body was
read or is known of the name already.
-/

namespace ChocoLang

/-! ## Runs through statements -/

/-- Statements of which none always returns can be run through, whatever comes before them. -/
theorem exists_passes :
    (∀ stmt : Stmt, stmt.alwaysReturns = false → ∀ rest trace, Passes rest trace →
      ∃ whole, Passes (stmt :: rest) whole) ∧
    ∀ stmts : List Stmt, anyReturns stmts = false → ∃ trace, Passes stmts trace := by
  apply Stmt.mutual_induction
  case expr => exact fun info value _ rest trace later => ⟨_, .expr later⟩
  case assign => exact fun info targets value _ rest trace later => ⟨_, .assign later⟩
  case ifElse =>
    intro info condition thenBody elseBody ihThen ihElse open_ rest trace later
    rw [Stmt.alwaysReturns, Bool.and_eq_false_iff] at open_
    rcases open_ with first | second
    · obtain ⟨during, inner⟩ := ihThen first
      exact ⟨_, .thenBranch inner later⟩
    · obtain ⟨during, inner⟩ := ihElse second
      exact ⟨_, .elseBranch inner later⟩
  -- A loop may have no round at all.
  case whileLoop => exact fun info condition body _ _ rest trace later => ⟨_, .whileDone later⟩
  case forLoop => exact fun info element iterable body _ _ rest trace later => ⟨_, .forDone later⟩
  case ret =>
    intro info value open_
    simp [Stmt.alwaysReturns] at open_
  case nil => exact fun _ => ⟨[], .nil⟩
  case cons =>
    intro stmt rest ihStmt ihRest none
    rw [anyReturns, Bool.or_eq_false_iff] at none
    obtain ⟨trace, later⟩ := ihRest none.2
    exact ihStmt none.1 rest trace later

/-- What is run through to its end has no statement that always returns. -/
theorem Passes.anyReturns_eq_false {stmts : List Stmt} {trace : List Identifier}
    (passes : Passes stmts trace) : anyReturns stmts = false := by
  induction passes with
  | nil => rw [anyReturns]
  | expr _ later | assign _ later | whileDone _ later | forDone _ later =>
      rw [anyReturns, later, Stmt.alwaysReturns] <;> simp
  | thenBranch _ _ inner later | elseBranch _ _ inner later =>
      rw [anyReturns, later, Stmt.alwaysReturns, inner]
      simp
  | whileRound _ _ _ later | forRound _ _ _ later => exact later

/-- The end of statements can be reached if and only if none of them always returns. -/
theorem anyReturns_eq_false_iff (stmts : List Stmt) :
    anyReturns stmts = false ↔ ∃ trace, Passes stmts trace :=
  ⟨exists_passes.2 stmts, fun ⟨_, passes⟩ => passes.anyReturns_eq_false⟩

/-- A function must return unless its result is not known or may be absent. -/
theorem ClassHierarchy.needsReturn_iff {hierarchy : ClassHierarchy} {result : ValueType} :
    hierarchy.needsReturn result = true ↔
      result ≠ .unknown ∧ ¬ hierarchy.isAssignable .none result = true := by
  have unknown : result.isUnknown = false ↔ result ≠ .unknown := by
    cases result <;> simp [ValueType.isUnknown]
  simp [needsReturn, unknown]

/-! ## The report -/

theorem any_head?_append {good : Char → Bool} {first : String}
    (begins : first.toList.head?.any good) (second : String) :
    (first ++ second).toList.head?.any good := by
  rw [String.toList_append, List.head?_append]
  cases opening : first.toList.head? with
  | none => simp [opening] at begins
  | some c => simpa [opening] using begins

/-- Only the report of a missing return begins as it does. -/
theorem CheckError.head?_message_ne {error : CheckError}
    (other : ∀ name, error ≠ missingReturn name) :
    error.message.toList.head?.any (· != 'N') := by
  cases error with
  | missingReturn name => exact absurd rfl (other name)
  | returnAtTopLevel | listOfNoneToMany | characterAssigned => decide +kernel
  -- the mark of a quotation comes first
  | undefinedName | notVariable | notGlobal | notNonlocal | notAssignable | notCallable =>
      unfold message quoteCode
      repeat with_reducible apply any_head?_append
      decide +kernel
  | _ =>
      unfold message
      repeat with_reducible apply any_head?_append
      decide +kernel

/-- A report of a missing return is not that of anything else. -/
theorem CheckError.message_ne_missingReturn {error : CheckError}
    (other : ∀ name, error ≠ missingReturn name) (name : String) :
    error.message ≠ (missingReturn name).message := by
  intro same
  have begins := head?_message_ne other
  rw [same, Check.head?_missingReturn] at begins
  simp at begins

theorem CheckError.missingReturn_message_inj {name other : String}
    (same : (missingReturn name).message = (missingReturn other).message) : name = other := by
  have texts : "Not all paths in " ++ quoteCode name ++ " have a return statement" =
      "Not all paths in " ++ quoteCode other ++ " have a return statement" := same
  simpa [quoteCode] using texts

theorem CheckError.eq_missingReturn_of_message {error : CheckError} {name : String}
    (same : error.message = (missingReturn name).message) : error = missingReturn name := by
  have missing : ∃ other, error = missingReturn other := by
    by_contra none
    rw [not_exists] at none
    exact message_ne_missingReturn none name same
  obtain ⟨other, shape⟩ := missing
  rw [shape] at same ⊢
  rw [missingReturn_message_inj same]

/-! ## The first pass -/

/-- No missing return is known of the name. -/
def Identifier.Unjudged (identifier : Identifier) : Prop :=
  ∀ name, identifier.info.error ≠ some (CheckError.missingReturn name).message

/-- No missing return is known of a function that the heading is of. -/
inductive Heading.Unjudged : Heading → Prop where
  | ofVariable (var : TypedVar) : Unjudged (.variable var)
  | ofFunction {heading : FunctionHeading} (own : heading.name.Unjudged) :
    Unjudged (.function heading)
  | ofClass (name superclass : Identifier) {members : List Heading}
    (inside : ∀ heading ∈ members, heading.Unjudged) : Unjudged (.ofClass name superclass members)
  | ofOuter (info : NodeInfo) (name : Identifier) : Unjudged (.outer info name)

theorem Identifier.unjudged_of_fresh {identifier : Identifier}
    (fresh : identifier.info.error = none) : identifier.Unjudged := by
  simp [Unjudged, fresh]

namespace Check

theorem reportName_unjudged {error : CheckError} (other : ∀ name, error ≠ .missingReturn name)
    {identifier : Identifier} (unjudged : identifier.Unjudged) :
    Returns (reportName error identifier) Identifier.Unjudged := by
  intro state name
  change (report error identifier.info.toNodeInfo state).1.error ≠ _
  rw [report_apply]
  split
  · exact unjudged name
  · simpa using CheckError.message_ne_missingReturn other name

theorem clash?_ne_missingReturn (state : CheckState) (name : String) (kind : BindingKind)
    (function : String) : state.clash? name kind ≠ some (.missingReturn function) := by
  unfold CheckState.clash?
  grind

theorem methodError?_ne_missingReturn (hierarchy : ClassHierarchy) (info : ClassInfo)
    (name : String) (signature : Signature) (function : String) :
    hierarchy.methodError? info name signature ≠ some (.missingReturn function) := by
  unfold ClassHierarchy.methodError?
  grind

theorem declare_unjudged {identifier : Identifier} (unjudged : identifier.Unjudged)
    (type : ValueType) (kind : BindingKind) :
    Returns (declare identifier type kind) fun declared => declared.1.Unjudged := by
  refine .any fun state => ?_
  split
  · next error clash =>
      have other (name : String) : error ≠ .missingReturn name := fun same =>
        clash?_ne_missingReturn state _ _ name (same ▸ clash)
      exact (reportName_unjudged other unjudged).bind fun _ own => .pure own
  · exact .any fun _ => .pure unjudged

theorem declareFunction_unjudged {heading : FunctionHeading} (unjudged : heading.name.Unjudged) :
    Returns (declareFunction heading) fun heading => heading.name.Unjudged :=
  fun state => declare_unjudged unjudged _ _ (resolveSignature heading state).2

theorem demandMethod_unjudged (info : ClassInfo) (signature : Signature) {identifier : Identifier}
    (unjudged : identifier.Unjudged) :
    Returns (demandMethod info signature identifier) Identifier.Unjudged := by
  refine .any fun state => ?_
  split
  · next error misfit =>
      have other (name : String) : error ≠ .missingReturn name := fun same =>
        methodError?_ne_missingReturn _ _ _ _ name (same ▸ misfit)
      exact reportName_unjudged other unjudged
  · exact .pure unjudged

theorem declareMethod_unjudged (info : ClassInfo) {heading : FunctionHeading}
    (unjudged : heading.name.Unjudged) :
    Returns (declareMethod info heading) fun declared => declared.2.name.Unjudged := by
  rw [declareMethod_eq]
  have resolved : Returns (resolveSignature heading) fun resolved => resolved.1.name.Unjudged :=
    fun _ => unjudged
  refine resolved.bind fun (heading, signature) own => ?_
  refine (declare_unjudged own signature.type .function).bind fun (name, bound) own => ?_
  refine .ite (fun _ => .pure own) fun _ => ?_
  exact (demandMethod_unjudged info signature own).bind fun name own => .pure own

/-- Nothing is known yet of the names of a function that was read. -/
theorem unjudged_of_raw {place : BodyKind} {info : NodeInfo} {heading : FunctionHeading}
    {declarations : List Decl} {statements : List Stmt} {recovered : Bool}
    (raw : (Decl.funcDef info heading declarations statements recovered).Raw True place) :
    heading.name.Unjudged := by
  have fresh := raw.fresh
  simp only [Decl.outline, FunctionHeading.outlines, Outline.all_node, List.cons_append,
    Outline.allIn_cons, Identifier.fresh_outline_iff] at fresh
  exact Identifier.unjudged_of_fresh fresh.2.1.1

theorem declareMember_unjudged (info : ClassInfo) {decl : Decl} (raw : decl.Raw True .ofClass) :
    Returns (declareMember info decl) fun declared => declared.2.Unjudged := by
  cases decl with
  | varDef => exact .any fun _ => .pure (.ofVariable _)
  | funcDef =>
      exact (declareMethod_unjudged info (unjudged_of_raw raw)).bind fun _ own =>
        .pure (.ofFunction own)
  | classDef => exact absurd raw.wellFormed.1 (by decide)
  | globalDecl | nonlocalDecl => cases raw.wellFormed

theorem declareMembers_unjudged (info : ClassInfo) {decls : List Decl}
    (raw : ∀ decl ∈ decls, decl.Raw True .ofClass) :
    Returns (declareMembers info decls) fun declared =>
      ∀ heading ∈ declared.2, heading.Unjudged := by
  induction decls generalizing info with
  | nil => exact .pure (List.forall_mem_nil _)
  | cons decl rest ih =>
      obtain ⟨first, others⟩ := List.forall_mem_cons.mp raw
      rw [declareMembers_cons]
      refine (declareMember_unjudged info first).bind fun (info, heading) own => ?_
      exact (ih info others).bind fun _ after => .pure (List.forall_mem_cons.mpr ⟨own, after⟩)

theorem declareClass_unjudged (name superclass : Identifier) {members : List Decl}
    (raw : ∀ decl ∈ members, decl.Raw True .ofClass) :
    Returns (declareClass name superclass members) Heading.Unjudged := by
  refine .any fun inherited => ?_
  obtain ⟨superclass, parent⟩ := inherited
  refine .any fun named => ?_
  obtain ⟨name, bound⟩ := named
  refine (within_returns _ _ (declareMembers_unjudged _ raw)).bind fun declared inside => ?_
  obtain ⟨info, members⟩ := declared
  exact .ite (fun _ => .any fun _ => .pure (.ofClass name superclass inside))
    fun _ => .pure (.ofClass name superclass inside)

theorem declareGlobal_unjudged {decl : Decl} (raw : decl.Raw True .program) :
    Returns (declareGlobal decl) Heading.Unjudged := by
  cases decl with
  | varDef => exact .any fun _ => .pure (.ofVariable _)
  | funcDef =>
      exact (declareFunction_unjudged (unjudged_of_raw raw)).bind fun _ own =>
        .pure (.ofFunction own)
  | classDef => exact declareClass_unjudged _ _ raw.members
  | globalDecl | nonlocalDecl => cases raw.wellFormed

theorem declareGlobals_unjudged {decls : List Decl}
    (raw : ∀ decl ∈ decls, decl.Raw True .program) :
    Returns (declareGlobals decls) fun headings => ∀ heading ∈ headings, heading.Unjudged := by
  induction decls with
  | nil => exact .pure (List.forall_mem_nil _)
  | cons decl rest ih =>
      obtain ⟨first, others⟩ := List.forall_mem_cons.mp raw
      refine (declareGlobal_unjudged first).bind fun heading own => ?_
      exact (ih others).bind fun _ after => .pure (List.forall_mem_cons.mpr ⟨own, after⟩)

theorem declareLocal_unjudged {decl : Decl} (raw : decl.Raw True .ofFunction) :
    Returns (declareLocal decl) Heading.Unjudged := by
  cases decl with
  | varDef => exact .any fun _ => .pure (.ofVariable _)
  | funcDef =>
      exact (declareFunction_unjudged (unjudged_of_raw raw)).bind fun _ own =>
        .pure (.ofFunction own)
  | classDef => exact absurd raw.wellFormed.1 (by decide)
  | globalDecl info name | nonlocalDecl info name =>
      refine .any fun found state => ?_
      obtain ⟨node, identifier, shape⟩ := declareOuter_outer found _ _ _ info name state
      exact shape ▸ .ofOuter node identifier

theorem declareLocals_unjudged {decls : List Decl}
    (raw : ∀ decl ∈ decls, decl.Raw True .ofFunction) :
    Returns (declareLocals decls) fun headings => ∀ heading ∈ headings, heading.Unjudged := by
  induction decls with
  | nil => exact .pure (List.forall_mem_nil _)
  | cons decl rest ih =>
      obtain ⟨first, others⟩ := List.forall_mem_cons.mp raw
      refine (declareLocal_unjudged first).bind fun heading own => ?_
      exact (ih others).bind fun _ after => .pure (List.forall_mem_cons.mpr ⟨own, after⟩)

/-! ## The second pass -/

/-- A written type stands for the same when errors are recorded in it. -/
theorem resolved_resolve (names : List String) (written : WrittenType) (state : CheckState) :
    (resolve written state).1.1.resolved names = written.resolved names := by
  induction written with
  | named info name =>
      simp only [resolve, bind_apply, get_apply]
      cases state.namedType? name <;> rfl
  | list info element ih => exact congrArg ValueType.list ih

end Check

/-- The function must have a result, no code of it was lost, and its end can be reached. -/
structure FunctionDef.LacksReturn (function : FunctionDef) (hierarchy : ClassHierarchy)
    (names : List String) : Prop where
  /-- The body was read whole. -/
  whole : function.recovered = false
  /-- The function must have a result. -/
  wanted : hierarchy.needsReturn (function.heading.returns.resolved names) = true
  /-- No statement always returns. -/
  falls : anyReturns function.statements = false

/-- A missing return is known of the function if it lacks one and nothing else is known. -/
structure FunctionDef.Judged (function : FunctionDef) (hierarchy : ClassHierarchy)
    (names : List String) : Prop where
  /-- Only functions that lack a return are reported. -/
  sound : function.heading.name.info.error =
    some (CheckError.missingReturn function.name).message → function.LacksReturn hierarchy names
  /-- Something is known of every function that lacks a return. -/
  complete : function.LacksReturn hierarchy names → function.heading.name.info.error ≠ none

/-- The classes are those of the hierarchy, and written types consist of the names. -/
structure CheckState.Knows (hierarchy : ClassHierarchy) (names : List String)
    (state : CheckState) : Prop where
  /-- The classes are known. -/
  hierarchy : state.hierarchy = hierarchy
  /-- The names are known. -/
  typeNames : state.typeNames = names

namespace Check

variable {hierarchy : ClassHierarchy} {names : List String}

/-- The classes are still known after an action that changes at most the frame on top. -/
theorem knows_ran {α : Type} (action : Check α) [Has (CheckState.OnTop .function) action]
    {state : CheckState} (knows : state.Knows hierarchy names) :
    (action state).2.Knows hierarchy names := by
  obtain ⟨scope, found, after, -⟩ : CheckState.OnTop .function state (action state).2 :=
    Has.ran action state
  rw [after]
  exact ⟨knows.hierarchy, knows.typeNames⟩

theorem resolveSignature_result (heading : FunctionHeading) {state : CheckState}
    (knows : state.Knows hierarchy names) :
    (resolveSignature heading state).1.1.returns.resolved names =
      (resolveSignature heading state).1.2.result := by
  rw [resolveSignature_signature, knows.typeNames]
  exact resolved_resolve names heading.returns _

/-- Behind a report something is known of the name. -/
theorem reportName_recorded (error : CheckError) (identifier : Identifier) (state : CheckState) :
    (reportName error identifier state).1.info.error ≠ none := by
  change (report error identifier.info.toNodeInfo state).1.error ≠ none
  rw [report_apply]
  split
  · next known => exact Option.isSome_iff_ne_none.mp known
  · exact Option.some_ne_none _

/-- At its end a function is judged by the statements and the result it is given with. -/
theorem demandReturn_judged (info : NodeInfo) {heading : FunctionHeading} (params : List TypedVar)
    (declarations : List Decl) (statements : List Stmt) (recovered : Bool)
    (unjudged : heading.name.Unjudged) {state : CheckState} (knows : state.Knows hierarchy names) :
    let result := heading.returns.resolved names
    let name := (demandReturn result statements recovered heading.name state).1
    (FunctionDef.mk info { heading with name, params } declarations statements recovered).Judged
      hierarchy names := by
  dsimp only
  rw [demandReturn, bind_apply, get_apply]
  simp only [knows.hierarchy]
  split
  · next lacks =>
      simp only [Bool.and_eq_true, Bool.not_eq_true'] at lacks
      exact ⟨fun _ => ⟨lacks.1.1, lacks.1.2, lacks.2⟩, fun _ => reportName_recorded _ _ _⟩
  · next fine =>
      refine ⟨fun reported => (unjudged _ reported).elim, fun ⟨whole, wanted, falls⟩ => ?_⟩
      dsimp only at whole wanted falls
      simp [whole, wanted, falls] at fine

theorem checkBody_judged {heading : FunctionHeading} (signature : Signature)
    {declarations : List Decl} {statements : List Stmt}
    (raw : ∀ decl ∈ declarations, decl.Raw True .ofFunction)
    (inner : ∀ headings, HeadedAll declarations headings →
      (∀ heading ∈ headings, heading.Unjudged) → ∀ state, state.Knows hierarchy names →
        ∀ function ∈ functionDefsIn (checkDecls declarations headings state).1,
          function.Judged hierarchy names)
    {state : CheckState} (knows : state.Knows hierarchy names) :
    ∀ function ∈ functionDefsIn
      (checkBody heading signature declarations statements state).1.2.1,
      function.Judged hierarchy names := by
  rw [checkBody_apply]
  have inside : ({ state with scope := state.scope.enter .function heading.name.name } :
      CheckState).Knows hierarchy names := ⟨knows.hierarchy, knows.typeNames⟩
  have params := knows_ran (declareParams heading.params signature.params) inside
  have locals := knows_ran (declareLocals declarations) params
  exact inner _ (declareLocals_headed (fun decl among => (raw decl among).wellFormed) _)
    (declareLocals_unjudged raw _) _ ⟨locals.hierarchy, locals.typeNames⟩

/-- Checking bodies judges every function in them. -/
theorem checkDecl_judged :
    (∀ (decl : Decl) (heading : Heading), (∃ place, decl.Raw True place) → decl.Headed heading →
      heading.Unjudged → ∀ state : CheckState, state.Knows hierarchy names →
        ∀ function ∈ (checkDecl decl heading state).1.functionDefs,
          function.Judged hierarchy names) ∧
    ∀ (decls : List Decl) (headings : List Heading),
      (∀ decl ∈ decls, ∃ place, decl.Raw True place) → HeadedAll decls headings →
        (∀ heading ∈ headings, heading.Unjudged) → ∀ state : CheckState,
          state.Knows hierarchy names →
            ∀ function ∈ functionDefsIn (checkDecls decls headings state).1,
              function.Judged hierarchy names := by
  apply headed_induction
  case varDef | globalDecl | nonlocalDecl =>
    intros
    rename_i among
    unfold checkDecl at among
    cases among
  case funcDef =>
    intro place info heading declarations statements recovered looked ih raw _ unjudged state knows
      function among
    cases unjudged with | ofFunction own =>
    rw [checkDecl_function] at among
    simp only [bind_apply, pure_apply, Decl.functionDefs, List.mem_cons] at among
    have resolved := knows_ran (resolveSignature looked) knows
    have written := resolveSignature_result looked knows
    have own : (resolveSignature looked state).1.1.name.Unjudged := own
    generalize resolveSignature looked state = before at among resolved written own
    obtain ⟨⟨heading, signature⟩, before⟩ := before
    dsimp only at among resolved written own
    have after := knows_ran (checkBody heading signature declarations statements) resolved
    rcases among with rfl | inside
    · rw [← written]
      exact demandReturn_judged info _ _ _ recovered own after
    · exact checkBody_judged _ raw.locals ih resolved function inside
  case classDef =>
    intro place info name superclass members called parent headings ih raw unjudged state knows
    cases unjudged with | ofClass _ _ inside =>
    unfold checkDecl
    exact ih inside state knows
  case nil =>
    intro _ state _ function among
    unfold checkDecls at among
    cases among
  case cons =>
    intro decl decls heading headings ihDecl ihDecls unjudged state knows function among
    obtain ⟨first, others⟩ := List.forall_mem_cons.mp unjudged
    unfold checkDecls at among
    simp only [bind_apply, pure_apply, functionDefsIn, List.mem_append] at among
    rcases among with here | later
    · exact ihDecl first state knows function here
    · exact ihDecls others _ (knows_ran (checkDecl decl heading) knows) function later

end Check

namespace Program

/-- The error is recorded at the name, and it is one of the errors of the program. -/
structure Reports (program : Program) (error : CheckError) (name : Identifier) : Prop where
  /-- The error is recorded at the name. -/
  recorded : name.info.error = some error.message
  /-- The error is listed with its code and the place of the name. -/
  listed : (⟨error, name.info.span⟩ : Located CheckError).toDiagnostic ∈ program.errors

/-- In a checked program every function is judged. -/
theorem functionDefs_judged {file source : String} {program : Program}
    (read : Program.ofSource file source = .ok program) :
    ∀ function ∈ program.check.functionDefs,
      function.Judged program.hierarchy program.announced.typeNames := by
  have raw := raw_of_ofSource read
  have kept : program.announced.SameTypeNames program.declared.2 :=
    Check.Has.ran (Check.declareGlobals program.declarations) program.announced
  exact Check.checkDecl_judged.2 program.declarations program.declared.1
    (fun decl among => ⟨_, raw.topLevel decl among⟩) raw.headed
    (Check.declareGlobals_unjudged raw.topLevel _) program.declared.2 ⟨rfl, kept⟩

/-- A missing return that is recorded at the name of a function is listed. -/
theorem listed_of_recorded {file source : String} {program : Program}
    (read : Program.ofSource file source = .ok program) {function : FunctionDef}
    (among : function ∈ program.check.functionDefs) {name : String}
    (recorded : function.heading.name.info.error = some (CheckError.missingReturn name).message) :
    (⟨.missingReturn name, function.heading.name.info.span⟩ : Located CheckError).toDiagnostic ∈
      program.check.errors := by
  let mark : Mark := ((CheckError.missingReturn name).message,
    some function.heading.name.info.span)
  have own : function.heading.name.outline.tally mark = 1 := by
    simp [NodeInfo.tally, recorded, mark]
  have below : function.heading.name.outline.tally mark ≤
      Outline.tallyAll mark (Decl.outlines program.check.declarations) :=
    FunctionDef.tally_name_le_in _ among
  have found : 0 < program.checkedStatements.2.tally mark := by
    rw [← tally_check mark read, outline, Outline.tally_node, Outline.tallyAll_append]
    omega
  obtain ⟨problem, member, same⟩ := List.mem_map.mp (List.count_pos_iff.mp found)
  obtain ⟨content, span⟩ := problem
  obtain ⟨message, place⟩ := Prod.mk.inj same
  cases Option.some.inj place
  cases CheckError.eq_missingReturn_of_message message
  rw [check_eq]
  exact List.mem_append_right _ (List.mem_map_of_mem member)

/--
A missing return is reported at the name of a function, at which nothing else is recorded, if and
only if no code of the function was lost, its result is known and cannot be absent, and there is a
run through its statements to their end.
-/
theorem missingReturn_iff {file source : String} {program : Program}
    (read : Program.ofSource file source = .ok program) {function : FunctionDef}
    (among : function ∈ program.check.functionDefs)
    (only : ∀ message ∈ function.heading.name.info.error,
      message = (CheckError.missingReturn function.name).message) :
    program.check.Reports (.missingReturn function.name) function.heading.name ↔
      let result := function.heading.returns.resolved program.announced.typeNames
      function.recovered = false ∧ result ≠ .unknown ∧
        ¬ program.hierarchy.isAssignable .none result = true ∧
        ∃ trace, Passes function.statements trace := by
  have judged := functionDefs_judged read function among
  constructor
  · intro reports
    obtain ⟨whole, wanted, falls⟩ := judged.sound reports.recorded
    obtain ⟨known, misfit⟩ := ClassHierarchy.needsReturn_iff.mp wanted
    exact ⟨whole, known, misfit, (anyReturns_eq_false_iff _).mp falls⟩
  · rintro ⟨whole, known, misfit, falls⟩
    have lacks : function.LacksReturn program.hierarchy program.announced.typeNames :=
      ⟨whole, ClassHierarchy.needsReturn_iff.mpr ⟨known, misfit⟩,
        (anyReturns_eq_false_iff _).mpr falls⟩
    obtain ⟨message, recorded⟩ := Option.ne_none_iff_exists'.mp (judged.complete lacks)
    cases only message recorded
    exact ⟨recorded, listed_of_recorded read among recorded⟩

/-- A method in which a choice returns on all paths but one: the loop in it may have no round. -/
def loopingSource : String :=
  "class A(object):\n    def size(self: \"A\", n: int) -> int:\n        if n > 0:\n" ++
    "            return n\n        elif n < 0:\n            while n < 0:\n" ++
    "                return 0 - n\n        else:\n            return 0\n"

/-- The missing return of the method is reported, and there is a run to its end. -/
theorem missingReturn_iff_loopingSource :
    ∃ program function, Program.ofSource "looping.choc" loopingSource = .ok program ∧
      function ∈ program.check.functionDefs ∧ function.name = "size" ∧
      (∀ message ∈ function.heading.name.info.error,
        message = (CheckError.missingReturn function.name).message) ∧
      program.check.Reports (.missingReturn function.name) function.heading.name ∧
        let result := function.heading.returns.resolved program.announced.typeNames
        function.recovered = false ∧ result ≠ .unknown ∧
          ¬ program.hierarchy.isAssignable .none result = true ∧
          ∃ trace, Passes function.statements trace := by
  obtain ⟨program, read, facts⟩ : ∃ program, Program.ofSource "looping.choc" loopingSource =
      .ok program ∧ (program.check.functionDefs.any fun function =>
        function.name = "size" ∧ function.heading.name.info.error =
          some (CheckError.missingReturn function.name).message) = true :=
    exists_ok_of_any (by decide +kernel)
  obtain ⟨function, among, called, recorded⟩ := by simpa using facts
  have only : ∀ message ∈ function.heading.name.info.error,
      message = (CheckError.missingReturn function.name).message := by
    simp [recorded]
  have reports := (⟨recorded, listed_of_recorded read among recorded⟩ :
    program.check.Reports (.missingReturn function.name) function.heading.name)
  exact ⟨program, function, read, among, called, only, reports,
    (missingReturn_iff read among only).mp reports⟩

end Program
end ChocoLang
