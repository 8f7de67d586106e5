import ChocoLang.Proofs.Checking.Headings
import ChocoLang.Proofs.Checking.Narrowing.Statement

/-!
# Narrowing in declarations and programs

No declaration binds a name to the type of the absent value, as that type cannot be written.  So in
the body of a function no variable is narrowed at first, and every name that is read with that type
is justified.

In a checked program, then, a name that is read with the type of the absent value stands in the
branch of a condition that says that the variable is absent.  Straight paths from the condition to
the read assign the variable only where this is refused.  But a loop in the branch may have had a
round that assigns the variable, which is not seen.
-/

namespace ChocoLang

namespace Check

variable {state : CheckState}

/-! ## Bindings -/

theorem declare_unbranched (name : Identifier) {type : ValueType} (proper : type ≠ .none)
    (kind : BindingKind) (unbranched : state.scope.Unbranched) :
    (declare name type kind state).2.scope.Unbranched := by
  cases clash : state.clash? name.name kind with
  | some error =>
      rw [declare_of_clash type clash]
      dsimp only
      rwa [scope_apply (reportName error name)]
  | none =>
      rw [declare_of_free type clash]
      exact unbranched.define proper

theorem declareVar_unbranched {var : TypedVar} (writable : var.written.Writable)
    (unbranched : state.scope.Unbranched) : (declareVar var state).2.scope.Unbranched := by
  have between : (resolveVar var state).2.scope.Unbranched := by rwa [scope_apply (resolveVar var)]
  exact declare_unbranched var.identifier (resolve_writable writable state).2 .ownVariable between

theorem declareFunction_unbranched (heading : FunctionHeading)
    (unbranched : state.scope.Unbranched) :
    (declareFunction heading state).2.scope.Unbranched := by
  have proper : (resolveSignature heading state).1.2.type ≠ .none := nofun
  have between : (resolveSignature heading state).2.scope.Unbranched := by
    rwa [scope_apply (resolveSignature heading)]
  exact declare_unbranched heading.name proper .function between

theorem declareParams_unbranched (vars : List TypedVar) {types : List ValueType}
    (proper : ∀ type ∈ types, type ≠ .none) (unbranched : state.scope.Unbranched) :
    (declareParams vars types state).2.scope.Unbranched := by
  induction vars generalizing types state with
  | nil =>
      unfold declareParams
      exact unbranched
  | cons var rest ih =>
      cases types with
      | nil =>
          unfold declareParams
          exact unbranched
      | cons type types =>
          rw [List.forall_mem_cons] at proper
          unfold declareParams
          exact ih proper.2 (declare_unbranched var.identifier proper.1 .parameter unbranched)

theorem declareOuter_unbranched {found : Option Binding}
    (proper : ∀ binding ∈ found, binding.type ≠ .none) (allowed : List BindingKind)
    (kind : BindingKind) (error : CheckError) (info : NodeInfo) (name : Identifier)
    (unbranched : state.scope.Unbranched) :
    (declareOuter found allowed kind error info name state).2.scope.Unbranched := by
  unfold declareOuter
  cases among : found.filter fun binding => allowed.contains binding.kind with
  | none =>
      change (report error info state).2.scope.Unbranched
      rwa [scope_apply (report error info)]
  | some binding =>
      have present := (Option.filter_eq_some_iff.mp among).1
      exact declare_unbranched name (proper binding present) kind unbranched

theorem proper_of_lookupNonlocal {scope : Scope} (unbranched : scope.Unbranched) (name : String) :
    ∀ binding ∈ scope.lookupNonlocal name, binding.type ≠ .none := by
  intro binding found
  obtain ⟨frame, among, bound⟩ := List.exists_of_findSome?_eq_some found
  split at bound
  · refine unbranched.proper frame (List.mem_append_left _ ?_) name binding bound
    exact (List.dropWhile_sublist _).subset (List.mem_of_mem_tail among)
  · cases bound

theorem declareLocal_unbranched {decl : Decl} (wellFormed : decl.WellFormed .ofFunction)
    (unbranched : state.scope.Unbranched) : (declareLocal decl state).2.scope.Unbranched := by
  cases decl with
  | varDef _ var _ => exact declareVar_unbranched wellFormed.1 unbranched
  | funcDef _ heading _ _ _ => exact declareFunction_unbranched heading unbranched
  | classDef _ _ _ _ => exact absurd wellFormed.1 (by decide)
  | globalDecl info name =>
      exact declareOuter_unbranched
        (fun binding found => unbranched.proper state.scope.outermost (by simp [Scope.frames])
          name.name binding found)
        [.ownVariable] .globalReference (.notGlobal name.name) info name unbranched
  | nonlocalDecl info name =>
      exact declareOuter_unbranched (proper_of_lookupNonlocal unbranched name.name)
        [.ownVariable, .parameter] .nonlocalReference (.notNonlocal name.name) info name unbranched

theorem declareLocals_unbranched {decls : List Decl}
    (wellFormed : ∀ decl ∈ decls, decl.WellFormed .ofFunction)
    (unbranched : state.scope.Unbranched) : (declareLocals decls state).2.scope.Unbranched := by
  induction decls generalizing state with
  | nil => exact unbranched
  | cons decl rest ih =>
      obtain ⟨first, others⟩ := List.forall_mem_cons.mp wellFormed
      exact ih others (declareLocal_unbranched first unbranched)

/-! ## Bodies -/

end Check

/-- Every name that is read with the type of the absent value is justified. -/
def AllJustified (reads : List Read) : Prop :=
  ∀ read ∈ reads, read.name.info.type = some .none → Justified read.way read.name.name

theorem AllJustified.nil : AllJustified [] := by simp [AllJustified]

theorem AllJustified.append {first second : List Read} (before : AllJustified first)
    (behind : AllJustified second) : AllJustified (first ++ second) :=
  List.forall_mem_append.mpr ⟨before, behind⟩

/-- Outside all branches a read is explained only if it is justified. -/
theorem Scope.Unbranched.allJustified {scope : Scope} (unbranched : scope.Unbranched)
    {reads : List Read} (explained : ∀ read ∈ reads, scope.Explains read) : AllJustified reads :=
  fun read among absent => (explained read among absent).resolve_right
    fun narrowed => unbranched.not_narrows _ narrowed.1

namespace Check

theorem checkVarDef_justified (info : NodeInfo) (var : TypedVar) (value : Expr)
    (unbranched : state.scope.Unbranched) :
    AllJustified (checkVarDef info var value state).1.reads := by
  have between : (resolveVar var state).2.scope.Unbranched := by rwa [scope_apply (resolveVar var)]
  exact between.allJustified (infer_explains.1 value _ between.honest)

/-- The names that are read in a function are read in its body. -/
theorem reads_checkDecl_funcDef (info : NodeInfo) (heading looked : FunctionHeading)
    (declarations : List Decl) (statements : List Stmt) (recovered : Bool) (state : CheckState) :
    (checkDecl (.funcDef info heading declarations statements recovered) (.function looked)
      state).1.reads =
      let resolved := resolveSignature looked state
      let body := checkBody resolved.1.1 resolved.1.2 declarations statements resolved.2
      Decl.readsIn body.1.2.1 ++ Stmt.readsIn body.1.2.2 := by
  unfold checkDecl
  rfl

/-- In the body of a function every name that is read as absent is justified. -/
theorem checkBody_justified (heading : FunctionHeading) {signature : Signature}
    (proper : ∀ type ∈ signature.params, type ≠ .none) {declarations : List Decl}
    (rawDecls : ∀ decl ∈ declarations, decl.Raw True .ofFunction) {statements : List Stmt}
    (rawBody : ∀ stmt ∈ statements, stmt.Raw) {state : CheckState}
    (unbranched : state.scope.Unbranched)
    (inner : ∀ headings, HeadedAll declarations headings → ∀ state : CheckState,
      state.scope.Unbranched →
        AllJustified (Decl.readsIn (checkDecls declarations headings state).1)) :
    let body := (checkBody heading signature declarations statements state).1
    AllJustified (Decl.readsIn body.2.1 ++ Stmt.readsIn body.2.2) := by
  rw [checkBody_apply]
  dsimp only
  have entered : (declareParams heading.params signature.params
      { state with scope := state.scope.enter .function heading.name.name }).2.scope.Unbranched :=
    declareParams_unbranched heading.params proper (unbranched.enter (by decide) _)
  generalize declareParams heading.params signature.params _ = params at entered ⊢
  have wellFormed : ∀ decl ∈ declarations, decl.WellFormed .ofFunction := fun decl among =>
    (rawDecls decl among).wellFormed
  have headed := declareLocals_headed wellFormed params.2
  have bound := declareLocals_unbranched wellFormed entered
  generalize declareLocals declarations params.2 = headings at headed bound ⊢
  generalize known : { headings.2 with results := signature.result :: headings.2.results } = inside
  have inFunction : inside.scope.Unbranched := known ▸ bound
  refine (inner headings.1 headed _ inFunction).append ?_
  have still : (checkDecls declarations headings.1 inside).2.scope.Unbranched := by
    rwa [scope_apply (checkDecls declarations headings.1)]
  exact still.allJustified (checkStmt_accounts.2 statements rawBody _ still.honest).explained

/-- The body of a function is checked in a frame of its own, outside all branches. -/
theorem checkDecl_justified :
    (∀ (decl : Decl) (heading : Heading), (∃ place, decl.Raw True place) → decl.Headed heading →
      ∀ state : CheckState, state.scope.Unbranched →
        AllJustified (checkDecl decl heading state).1.reads) ∧
    ∀ (decls : List Decl) (headings : List Heading),
      (∀ decl ∈ decls, ∃ place, decl.Raw True place) →
      HeadedAll decls headings → ∀ state : CheckState, state.scope.Unbranched →
        AllJustified (Decl.readsIn (checkDecls decls headings state).1) := by
  apply headed_induction
  case varDef =>
    intro place info var value looked raw state unbranched
    unfold checkDecl
    exact checkVarDef_justified info looked value unbranched
  case funcDef =>
    intro place info heading declarations statements recovered looked ih raw writable state
      unbranched
    obtain ⟨-, proper⟩ := resolveSignature_writable writable state
    have between : (resolveSignature looked state).2.scope.Unbranched := by
      rwa [scope_apply (resolveSignature looked)]
    rw [reads_checkDecl_funcDef]
    exact checkBody_justified _ proper raw.locals raw.body between ih
  case classDef =>
    intro place info name superclass members called parent headings ih raw state unbranched
    unfold checkDecl
    exact ih state unbranched
  case globalDecl | nonlocalDecl =>
    intros
    unfold checkDecl
    exact .nil
  case nil =>
    intros
    unfold checkDecls
    exact .nil
  case cons =>
    intro decl decls heading headings ihDecl ihDecls state unbranched
    unfold checkDecls
    refine (ihDecl state unbranched).append (ihDecls _ ?_)
    rwa [scope_apply (checkDecl decl _)]

variable {state : CheckState}

/-! ## The first pass -/

theorem declareClass_unbranched {name : Identifier} (proper : name.name ≠ Parse.noResult)
    (superclass : Identifier) (members : List Decl) (unbranched : state.scope.Unbranched) :
    (declareClass name superclass members state).2.scope.Unbranched := by
  have resolved : (resolveSuperclass superclass state).2.scope.Unbranched := by
    rwa [scope_apply (resolveSuperclass superclass)]
  have type : ValueType.classType name.name ≠ .none := fun same =>
    proper (ValueType.classType.inj same)
  have declared := declare_unbranched name type .classDef resolved
  rw [declareClass_apply]
  dsimp only
  generalize declare name (.classType name.name) .classDef (resolveSuperclass superclass state).2 =
    between at declared ⊢
  generalize (resolveSuperclass superclass state).1.2.subclass between.1.1.name = inherited
  have after : (within .classBody between.1.1.name (declareMembers inherited members)
      between.2).2.scope.Unbranched := by
    rwa [scope_apply (within .classBody between.1.1.name (declareMembers inherited members))]
  split <;> exact after

theorem declareGlobal_unbranched {decl : Decl} (raw : decl.Raw True .program)
    (unbranched : state.scope.Unbranched) : (declareGlobal decl state).2.scope.Unbranched := by
  cases decl with
  | varDef _ var _ => exact declareVar_unbranched raw.wellFormed.1 unbranched
  | funcDef _ heading _ _ _ => exact declareFunction_unbranched heading unbranched
  | classDef _ name superclass members =>
      exact declareClass_unbranched (ne_noResult_of_isName raw.named) superclass members unbranched
  | globalDecl _ _ | nonlocalDecl _ _ => exact unbranched

theorem declareGlobals_unbranched {decls : List Decl} (raw : ∀ decl ∈ decls, decl.Raw True .program)
    (unbranched : state.scope.Unbranched) : (declareGlobals decls state).2.scope.Unbranched := by
  induction decls generalizing state with
  | nil => exact unbranched
  | cons decl rest ih =>
      obtain ⟨first, others⟩ := List.forall_mem_cons.mp raw
      exact ih others (declareGlobal_unbranched first unbranched)

end Check

/-! ## Programs -/

theorem Scope.Unbranched.defineAll {scope : Scope} (unbranched : scope.Unbranched)
    {bindings : List Binding} (proper : ∀ binding ∈ bindings, binding.type ≠ .none) :
    (bindings.foldl Scope.define scope).Unbranched := by
  induction bindings generalizing scope with
  | nil => exact unbranched
  | cons binding rest ih =>
      rw [List.forall_mem_cons] at proper
      exact ih (unbranched.define proper.1) proper.2

namespace Program

theorem announced_unbranched (program : Program) : program.announced.scope.Unbranched := by
  rw [announced_eq]
  have empty : Scope.Unbranched {} := by
    refine ⟨nofun, fun frame among name binding found => ?_⟩
    obtain rfl := List.mem_singleton.mp among
    cases found
  exact empty.defineAll (by decide)

/-- In a checked program every name that is read with the type of the absent value is justified. -/
theorem allJustified_check {program : Program} (raw : program.Raw) :
    AllJustified program.check.reads := by
  have declared := Check.declareGlobals_unbranched raw.topLevel program.announced_unbranched
  refine AllJustified.append ?_ ?_
  · exact Check.checkDecl_justified.2 _ _ (fun decl among => ⟨_, raw.topLevel decl among⟩)
      raw.headed _ declared
  · have checked : program.checkedDeclarations.2.scope.Unbranched := by
      unfold checkedDeclarations
      rwa [Check.scope_apply (Check.checkDecls _ _)]
    exact checked.allJustified
      (Check.checkStmt_accounts.2 _ raw.statements _ checked.honest).explained

/--
A name that is read with the type of the absent value stands behind a condition that says that the
variable is absent, and behind no further one.  Along straight paths from the condition to the read
the variable is only assigned where it cannot be.  So it can be assigned on the way only if this is
refused, or in the round of a loop that the way enters behind the condition.
-/
theorem assigned_of_absent_iff {file source : String} {program : Program}
    (read : Program.ofSource file source = .ok program) {one : Read}
    (among : one ∈ program.check.reads) (absent : one.name.info.type = some .none) :
    ∃ outer condition inner, one.way = outer ++ .holding condition :: inner ∧
      condition.SaysAbsent one.name.name ∧
      (∀ other, .holding other ∈ inner → ¬ other.SaysAbsent one.name.name) ∧
      (∀ trace, Straight inner trace → ∀ name ∈ trace, name.name = one.name.name → name.Refused) ∧
      ((∃ trace, Reaches inner trace ∧ Assigns trace one.name.name) ↔
        (∃ trace, Straight inner trace ∧ Assigns trace one.name.name) ∨
          (∃ trace, Straight inner trace) ∧ RoundAssigns inner one.name.name) := by
  obtain ⟨outer, condition, inner, way, stated, untouched⟩ :=
    allJustified_check (raw_of_ofSource read) one among absent
  refine ⟨outer, condition, inner, way, stated, fun other inside again => ?_,
    fun trace straight name assigned same => ?_, exists_reaches_assigns_iff inner _⟩
  · exact (untouched _ inside).silent ⟨other, rfl, again⟩
  · obtain ⟨step, inside, named⟩ := straight.mem_names name assigned
    exact (untouched step inside).refused name named same

/-- A variable is assigned in a loop behind the condition, after it is read there. -/
def lateAssignmentSource : String := "a:object=None\nif a is None:\n while True:\n  a\n  a=1\n"

/-- The variable is read as absent and assigned later in the round of a loop without a condition. -/
def isLateAssigned (one : Read) : Bool :=
  match one.way with
  | [.holding _, .round none [.expr _ _, .assign _ [.name target] _]] =>
    one.name.info.type = some .none ∧ one.name.name = "a" ∧ target.name = "a"
  | _ => false

theorem read_lateAssignmentSource : ∃ program one condition info value final target expr,
    Program.ofSource "<input>" lateAssignmentSource = .ok program ∧ program.check.errors = [] ∧
      one ∈ program.check.reads ∧ one.name.info.type = some .none ∧ one.name.name = "a" ∧
      target.name = "a" ∧
      one.way = [.holding condition,
        .round none [.expr info value, .assign final [.name target] expr]] := by
  obtain ⟨program, read, facts⟩ : ∃ program, Program.ofSource "<input>" lateAssignmentSource =
      .ok program ∧
        (program.check.errors.isEmpty && program.check.reads.any isLateAssigned) = true :=
    exists_ok_of_any (by decide +kernel)
  simp only [Bool.and_eq_true, List.isEmpty_iff, List.any_eq_true] at facts
  obtain ⟨clean, one, among, shape⟩ := facts
  unfold isLateAssigned at shape
  split at shape
  · next condition info value final target expr way =>
      obtain ⟨absent, name, assigned⟩ := of_decide_eq_true shape
      exact ⟨program, one, condition, info, value, final, target, expr, read, clean, among, absent,
        name, assigned, way⟩
  · cases shape

/-- In a loop entered directly behind a condition, what its round assigns can be assigned. -/
theorem roundAssigns_of_way {way outer inner : List Step} {condition first : Expr}
    {info final : NodeInfo} {value expr : Expr} {target : Identifier}
    (entered : way = [.holding first,
      .round none [.expr info value, .assign final [.name target] expr]])
    (behind : way = outer ++ .holding condition :: inner) :
    (∃ trace, Straight inner trace) ∧ RoundAssigns inner target.name := by
  have same : inner = [.round none [.expr info value, .assign final [.name target] expr]] := by
    rw [entered] at behind
    rcases outer with _ | ⟨step, _ | ⟨deeper, rest⟩⟩ <;> simp_all
  subst same
  exact ⟨⟨_, .round .here⟩, _, _, List.mem_cons_self, _, .expr (.assign .nil), target,
    by simp [Expr.targetNames], rfl⟩

/-- The variable can be assigned on the way from the condition to the read, in a round before. -/
theorem reaches_assigns_lateAssignmentSource : ∃ program one,
    Program.ofSource "<input>" lateAssignmentSource = .ok program ∧ one ∈ program.check.reads ∧
      one.name.info.type = some .none ∧ ∃ outer condition inner,
        one.way = outer ++ .holding condition :: inner ∧
        condition.SaysAbsent one.name.name ∧
        ∃ trace, Reaches inner trace ∧ Assigns trace one.name.name := by
  obtain ⟨program, one, _, _, _, _, target, _, read, -, among, absent, name, assigned, entered⟩ :=
    read_lateAssignmentSource
  obtain ⟨outer, condition, inner, way, stated, -, -, assigns⟩ :=
    assigned_of_absent_iff read among absent
  refine ⟨program, one, read, among, absent, outer, condition, inner, way, stated,
    assigns.mpr (.inr ?_)⟩
  rw [name, ← assigned]
  exact roundAssigns_of_way entered way

/--
In a program without errors a name is read with the type of the absent value although the variable
can be assigned on the way from any condition that says that it is absent.
-/
theorem exists_absent_read_assigned : ∃ program one,
    Program.ofSource "<input>" lateAssignmentSource = .ok program ∧ program.check.errors = [] ∧
      one ∈ program.check.reads ∧ one.name.info.type = some .none ∧
      ¬ ∃ outer condition inner, one.way = outer ++ .holding condition :: inner ∧
        condition.SaysAbsent one.name.name ∧
        ∀ trace, Reaches inner trace → ¬ Assigns trace one.name.name := by
  obtain ⟨program, one, _, _, _, _, target, _, read, clean, among, absent, name, assigned,
    entered⟩ := read_lateAssignmentSource
  refine ⟨program, one, read, clean, among, absent, ?_⟩
  rintro ⟨outer, condition, inner, way, -, never⟩
  obtain ⟨trace, reaches, assigns⟩ :=
    (exists_reaches_assigns_iff inner _).mpr (.inr (roundAssigns_of_way entered way))
  exact never trace reaches (name ▸ assigned ▸ assigns)

end Program

end ChocoLang
