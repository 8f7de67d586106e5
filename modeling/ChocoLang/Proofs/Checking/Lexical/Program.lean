import ChocoLang.Proofs.Checking.Lexical.Statement
import ChocoLang.Proofs.Checking.Soundness.Program

/-!
# Lexical scoping in declarations and programs

If no problem is found, then the names that are declared are new, and the frame at hand comes to
mirror what the body declares, one declaration after the other.  With all of them bound, the bodies
of functions are checked in a scope that mirrors the tree around them.

So in a program without any error every name that is read or assigned has the type that is written
where scoping on the tree finds the name declared.  Only where a condition says that a variable is
absent it may have the type of the absent value instead.
-/

namespace ChocoLang

/-! ## Bindings -/

/-- The state behind the binding of a name. -/
def CheckState.define (state : CheckState) (binding : Binding) : CheckState :=
  { state with scope := state.scope.define binding }

namespace Check

variable {α : Type} {before after : CheckState → Prop} {around : Context}

theorem declareVar_accepts {var : TypedVar} (fresh : var.outline.Fresh)
    (step : ∀ state, before state → state.scope.current.find? var.identifier.name = none →
      ∀ span, after (state.define
        { name := var.identifier.name, type := var.written.denoted, kind := .ownVariable, span })) :
    Accepts before (declareVar var) fun declared state => declared = var ∧ after state := by
  refine Accepts.bind (resolveVar_establishes fresh) fun resolved => .of_fact ?_
  rintro rfl
  refine Accepts.bind (declare_accepts (TypedVar.error_of_fresh fresh) step) fun declared =>
    .of_fact ?_
  rintro rfl state holds _
  exact ⟨rfl, holds⟩

theorem declareFunction_accepts {heading : FunctionHeading}
    (fresh : Outline.AllIn Label.Fresh heading.outlines)
    (step : ∀ state, before state → state.scope.current.find? heading.name.name = none →
      ∀ span, after (state.define
        { name := heading.name.name, type := heading.signature.type, kind := .function, span })) :
    Accepts before (declareFunction heading) fun declared state =>
      declared = heading ∧ after state := by
  refine Accepts.bind (resolveSignature_establishes fresh) fun resolved => .of_fact ?_
  rintro rfl
  refine Accepts.bind (declare_accepts (FunctionHeading.fresh_parts fresh).1 step)
    fun declared => .of_fact ?_
  rintro rfl state holds _
  exact ⟨rfl, holds⟩

theorem declareOuter_accepts {found : Option Binding} {allowed : List BindingKind}
    {kind : BindingKind} {error : CheckError} {info : NodeInfo} {name : Identifier}
    (freshInfo : info.error = none) (freshName : name.info.error = none)
    (step : ∀ binding, found = some binding → binding.kind ∈ allowed →
      ∀ state, before state → state.scope.current.find? name.name = none →
        ∀ span, after (state.define { name := name.name, type := binding.type, kind, span })) :
    Accepts before (declareOuter found allowed kind error info name) fun heading state =>
      heading = .outer info name ∧ after state := by
  unfold declareOuter
  cases shape : found.filter fun binding => allowed.contains binding.kind with
  | none =>
      have reported : Establishes before (report error info) fun _ => False :=
        report_establishes freshInfo
      exact Accepts.bind reported fun _ => .of_fact False.elim
  | some binding =>
      obtain ⟨bound, isAllowed⟩ := Option.filter_eq_some_iff.mp shape
      refine Accepts.bind (declare_accepts freshName
        (step binding bound (by simpa using isAllowed))) fun declared => .of_fact ?_
      rintro rfl state holds _
      exact ⟨rfl, holds⟩

/-! ## Bodies of functions -/

variable {declarations : Declarations}

theorem mirrors_declare (declared : Declared) {name : String} {type : ValueType}
    {kind : BindingKind} (binds : kind.isVariable → ∀ span,
      declared.Binds around.program around.functions name { name, type, kind, span })
    (state : CheckState) (mirrors : state.Mirrors (around.inside declarations))
    (free : state.scope.current.find? name = none) (span : Option Span) :
    (state.define { name, type, kind, span }).Mirrors
      (around.inside (declarations ++ [(name, declared)])) :=
  @Scope.Mirrors.define_function _ _ { name, type, kind, span } _ mirrors free _
    fun isVariable => binds isVariable span

/-- Parameters are declared with their written types. -/
theorem declareParams_declares {vars : List TypedVar} (fresh : ∀ var ∈ vars, var.outline.Fresh) :
    Accepts (CheckState.Mirrors (around.inside declarations))
      (declareParams vars (vars.map (·.written.denoted))) fun declared state =>
        declared = vars ∧
          state.Mirrors (around.inside (declarations ++ vars.map TypedVar.declared)) := by
  induction vars generalizing declarations with
  | nil =>
      unfold declareParams
      rw [List.map_nil, List.append_nil]
      exact fun state mirrors _ => ⟨rfl, mirrors⟩
  | cons var rest ih =>
      obtain ⟨first, others⟩ := List.forall_mem_cons.mp fresh
      unfold declareParams
      refine Accepts.bind (declare_accepts (TypedVar.error_of_fresh first)
        (mirrors_declare (.own _) fun _ _ => .own (.inr rfl) rfl)) fun declared => .of_fact ?_
      rintro rfl
      refine Accepts.bind (ih others) fun declared => .of_fact ?_
      rintro rfl state mirrors _
      exact ⟨rfl, by rwa [List.append_assoc] at mirrors⟩

/-- A declaration in the body of a function declares its name there. -/
theorem declareLocal_declares {decl : Decl} (fresh : decl.outline.Fresh)
    (wellFormed : decl.WellFormed .ofFunction) :
    Accepts (CheckState.Mirrors (around.inside declarations)) (declareLocal decl)
      fun heading state => heading = decl.heading ∧
        state.Mirrors (around.inside (declarations ++ [decl.declared])) := by
  cases decl with
  | varDef info var value =>
      simp only [Decl.outline, Outline.all_node, Outline.allIn_cons] at fresh
      refine Accepts.bind (declareVar_accepts fresh.2.1
        (mirrors_declare (.own _) fun _ _ => .own (.inl rfl) rfl)) fun declared => .of_fact ?_
      rintro rfl state mirrors _
      exact ⟨rfl, mirrors⟩
  | funcDef info heading declarations statements recovered =>
      simp only [Decl.outline, Outline.all_node, Outline.allIn_append] at fresh
      refine Accepts.bind (declareFunction_accepts fresh.2.1
        (mirrors_declare .other fun isVariable => by cases isVariable)) fun declared => .of_fact ?_
      rintro rfl state mirrors _
      exact ⟨rfl, mirrors⟩
  | classDef info name superclass members => exact absurd wellFormed.1 (by decide)
  | globalDecl info name =>
      simp only [Decl.outline, Outline.all_node, Outline.allIn_cons, fresh_label_iff,
        Identifier.fresh_outline_iff] at fresh
      refine Accepts.bind Establishes.view fun found => .of_fact ?_
      rintro ⟨state, mirrors, rfl⟩
      -- What is looked up before the name is bound is the same when it is bound.
      refine declareOuter_accepts fresh.1 fresh.2.1.1 fun binding found allowed => ?_
      have own : binding.kind = .ownVariable := by simpa using allowed
      obtain ⟨written, selected, type⟩ :=
        Scope.Mirrors.lookupGlobal mirrors found (by rw [own]; rfl)
      exact mirrors_declare .global fun _ _ => .global selected rfl type
  | nonlocalDecl info name =>
      simp only [Decl.outline, Outline.all_node, Outline.allIn_cons, fresh_label_iff,
        Identifier.fresh_outline_iff] at fresh
      refine Accepts.bind Establishes.view fun found => .of_fact ?_
      rintro ⟨state, mirrors, rfl⟩
      refine declareOuter_accepts fresh.1 fresh.2.1.1 fun binding found allowed => ?_
      obtain ⟨written, selected, type⟩ :=
        Scope.Mirrors.lookupNonlocal mirrors found (by simpa using allowed)
      exact mirrors_declare .nonlocal fun _ _ => .nonlocal selected rfl type

/-- The declarations in the body of a function declare their names there. -/
theorem declareLocals_declares {decls : List Decl} (fresh : ∀ decl ∈ decls, decl.outline.Fresh)
    (wellFormed : ∀ decl ∈ decls, decl.WellFormed .ofFunction) :
    Accepts (CheckState.Mirrors (around.inside declarations)) (declareLocals decls)
      fun headings state => headings = decls.map Decl.heading ∧
        state.Mirrors (around.inside (declarations ++ decls.map Decl.declared)) := by
  induction decls generalizing declarations with
  | nil =>
      rw [List.map_nil, List.map_nil, List.append_nil]
      exact fun state mirrors _ => ⟨rfl, mirrors⟩
  | cons decl rest ih =>
      obtain ⟨first, others⟩ := List.forall_mem_cons.mp fresh
      obtain ⟨shape, shapes⟩ := List.forall_mem_cons.mp wellFormed
      refine Accepts.bind (declareLocal_declares first shape) fun heading => .of_fact ?_
      rintro rfl
      refine Accepts.bind (ih others shapes) fun headings => .of_fact ?_
      rintro rfl state mirrors _
      exact ⟨rfl, by rwa [List.append_assoc] at mirrors⟩

/-- Whatever a function declares, its frame is left again. -/
theorem within_resolves (inside : Context) {title : String} {inner : Check α}
    [Has (CheckState.OnTop .function) inner] {good : α → Prop} (untested : around.tests = [])
    (accepts : Accepts (CheckState.Mirrors (around.inside [])) inner fun value state =>
      good value ∧ state.Mirrors inside) :
    Establishes (CheckState.Mirrors around) (within .function title inner) good := by
  intro state mirrors clean
  refine ⟨?_, mirrors.forgot (Has.ran (within .function title inner) state)⟩
  exact (accepts { state with scope := state.scope.enter .function title }
    (Scope.Mirrors.enter mirrors untested title) clean).1

theorem returning_resolves {wanted : ValueType} {inner : Check α} {good : α → Prop}
    (establishes : Establishes (CheckState.Mirrors around) inner good) :
    Establishes (CheckState.Mirrors around) (returning wanted inner) good :=
  fun state mirrors clean =>
    establishes { state with results := wanted :: state.results } mirrors clean

theorem demandReturn_resolves {wanted : ValueType} {statements : List Stmt} {recovered : Bool}
    {name : Identifier} (fresh : name.info.error = none) :
    Establishes before (demandReturn wanted statements recovered name) fun demanded =>
      demanded = name :=
  .bind .get fun _ _ => .ite (fun _ => (reportName_establishes fresh).mono fun _ impossible =>
    impossible.elim) fun _ => .pure rfl

/-- What is checked in the body of a function is checked with all of its names declared. -/
theorem checkBody_resolves {heading : FunctionHeading} {declarations : List Decl}
    {statements : List Stmt} (freshParams : ∀ var ∈ heading.params, var.outline.Fresh)
    (fresh : ∀ decl ∈ declarations, decl.outline.Fresh)
    (wellFormed : ∀ decl ∈ declarations, decl.WellFormed .ofFunction)
    (raw : ∀ stmt ∈ statements, stmt.Raw) (untested : around.tests = [])
    {good : List Decl → Prop} (locals : Establishes
      (CheckState.Mirrors (around.inside (heading.declares declarations)))
      (checkDecls declarations (declarations.map Decl.heading)) good) :
    Establishes (CheckState.Mirrors around)
      (checkBody heading heading.signature declarations statements) fun checked =>
      checked.1 = heading.params ∧ good checked.2.1 ∧
        ∀ use ∈ Stmt.usesIn (around.inside (heading.declares declarations)) checked.2.2,
          use.Lexical := by
  refine within_resolves (around.inside (heading.declares declarations)) untested ?_
  refine Accepts.bind (declareParams_declares freshParams) fun params => .of_fact ?_
  rintro rfl
  refine Accepts.bind (declareLocals_declares fresh wellFormed) fun headings => .of_fact ?_
  rintro rfl
  exact returning_resolves (locals.bind fun locals resolved =>
    (checkStmt_resolves.2 statements raw _).bind fun statements uses => .pure ⟨rfl, resolved, uses⟩)

/-! ## Declarations -/

/-- Checking bodies without finding a problem resolves the names in them. -/
theorem checkDecl_resolves {spoiled : Prop} :
    (∀ (decl : Decl) (heading : Heading), (∃ place, decl.Raw spoiled place) →
      heading = decl.fullHeading → ∀ around : Context, around.tests = [] →
        Establishes (CheckState.Mirrors around) (checkDecl decl heading) fun checked =>
          checked.declared = decl.declared ∧ ∀ use ∈ checked.uses around, use.Lexical) ∧
    ∀ (decls : List Decl) (headings : List Heading),
      (∀ decl ∈ decls, ∃ place, decl.Raw spoiled place) → headings = decls.map Decl.fullHeading →
        ∀ around : Context, around.tests = [] →
          Establishes (CheckState.Mirrors around) (checkDecls decls headings) fun checked =>
            checked.map Decl.declared = decls.map Decl.declared ∧
              ∀ use ∈ Decl.usesIn around checked, use.Lexical := by
  apply Decl.mutual_induction
  case varDef =>
    rintro info var value _ ⟨place, raw⟩ ⟨⟩ around _
    have fresh := raw.fresh
    simp only [Decl.outline, Outline.all_node, Outline.allIn_cons, fresh_label_iff] at fresh
    unfold checkDecl
    refine (resolveVar_establishes fresh.2.1).bind ?_
    rintro _ rfl
    exact (infer_resolves.1 value fresh.2.2.1 around).bind fun value resolved =>
      (demandFit_fits fresh.1).bind fun info _ => .pure ⟨rfl, resolved.uses⟩
  case funcDef =>
    rintro info heading declarations statements recovered ih _ ⟨place, raw⟩ ⟨⟩ around untested
    have fresh := raw.fresh
    simp only [Decl.outline, Outline.all_node, Outline.allIn_append, Decl.allIn_outlines,
      fresh_label_iff] at fresh
    obtain ⟨freshInfo, freshHeading, freshLocals, -⟩ := fresh
    obtain ⟨freshName, freshParams⟩ := FunctionHeading.fresh_parts freshHeading
    have wellFormed : ∀ decl ∈ declarations, decl.WellFormed .ofFunction := fun decl among =>
      (raw.locals decl among).wellFormed
    change Establishes _ (checkDecl _ (.function heading)) _
    rw [checkDecl_function]
    refine (resolveSignature_establishes freshHeading).bind ?_
    rintro _ rfl
    refine (checkBody_resolves freshParams freshLocals wellFormed raw.body untested (ih _
      (fun decl among => ⟨_, raw.locals decl among⟩) (map_fullHeading (by decide) wellFormed)
      _ rfl)).bind ?_
    rintro ⟨_, locals, body⟩ ⟨rfl, ⟨declared, first⟩, second⟩
    refine (demandReturn_resolves freshName).bind ?_
    rintro _ rfl
    refine .pure ⟨rfl, ?_⟩
    -- The context is that of the checked tree, in which the same names are declared.
    have declares : heading.declares locals = heading.declares declarations :=
      congrArg (heading.params.map TypedVar.declared ++ ·) declared
    rw [Decl.uses, List.forall_mem_append]
    exact declares ▸ ⟨first, second⟩
  case classDef =>
    rintro info name superclass members ih _ ⟨place, raw⟩ ⟨⟩ around untested
    have wellFormed : ∀ decl ∈ members, decl.WellFormed .ofClass := fun decl among =>
      (raw.members decl among).wellFormed
    unfold checkDecl
    exact (ih _ (fun decl among => ⟨_, raw.members decl among⟩)
      (map_fullHeading (by decide) wellFormed) around untested).bind fun members resolved =>
        .pure ⟨rfl, resolved.2⟩
  case globalDecl | nonlocalDecl =>
    rintro info name _ _ ⟨⟩ around _
    unfold checkDecl
    exact .pure ⟨rfl, by simp [Decl.uses]⟩
  case nil =>
    rintro _ - ⟨⟩ around _
    unfold checkDecls
    exact .pure ⟨rfl, by simp [Decl.usesIn]⟩
  case cons =>
    rintro decl rest ihDecl ihRest _ raw ⟨⟩ around untested
    obtain ⟨first, others⟩ := List.forall_mem_cons.mp raw
    unfold checkDecls
    refine (ihDecl _ first rfl around untested).bind fun decl resolved =>
      (ihRest _ others rfl around untested).bind fun rest more => .pure ⟨?_, ?_⟩
    · rw [List.map_cons, List.map_cons, resolved.1, more.1]
    · rw [Decl.usesIn, List.forall_mem_append]
      exact ⟨resolved.2, more.2⟩

/-! ## The top level -/

theorem mirrors_declare_program (declared : Declared) {name : String} {type : ValueType}
    {kind : BindingKind} (binds : kind.isVariable → ∀ span,
      declared.Binds [] [] name { name, type, kind, span })
    (state : CheckState) (mirrors : state.Mirrors { program := declarations })
    (free : state.scope.current.find? name = none) (span : Option Span) :
    (state.define { name, type, kind, span }).Mirrors
      { program := declarations ++ [(name, declared)] } :=
  @Scope.Mirrors.define_program _ { name, type, kind, span } _ mirrors free _
    fun isVariable => binds isVariable span

/-- A declaration at the top level declares its name there. -/
theorem declareGlobal_declares {decl : Decl} (fresh : decl.outline.Fresh)
    (wellFormed : decl.WellFormed .program) :
    Accepts (CheckState.Mirrors { program := declarations }) (declareGlobal decl)
      fun heading state => heading = decl.fullHeading ∧
        state.Mirrors { program := declarations ++ [decl.declared] } := by
  cases decl with
  | varDef info var value =>
      simp only [Decl.outline, Outline.all_node, Outline.allIn_cons] at fresh
      refine Accepts.bind (declareVar_accepts fresh.2.1
        (mirrors_declare_program (.own _) fun _ _ => .own (.inl rfl) rfl)) fun declared =>
          .of_fact ?_
      rintro rfl state mirrors _
      exact ⟨rfl, mirrors⟩
  | funcDef info heading locals statements recovered =>
      simp only [Decl.outline, Outline.all_node, Outline.allIn_append] at fresh
      refine Accepts.bind (declareFunction_accepts fresh.2.1
        (mirrors_declare_program .other fun isVariable => by cases isVariable)) fun declared =>
          .of_fact ?_
      rintro rfl state mirrors _
      exact ⟨rfl, mirrors⟩
  | classDef info name superclass members =>
      simp only [Decl.outline, Outline.all_node, Outline.allIn_cons, Decl.allIn_outlines,
        Identifier.fresh_outline_iff] at fresh
      intro state mirrors clean
      obtain ⟨free, heading, parent, own, -, -, after⟩ :=
        declareClass_adds fresh.2.1.1 fresh.2.2.1.1 fresh.2.2.2 state state rfl clean
      have bound : (state.bindClass name).Mirrors
          { program := declarations ++ [(name.name, .other)] } :=
        mirrors_declare_program .other (fun isVariable => by cases isVariable) state mirrors
          (CheckState.unbound_of_clash? free) _
      refine ⟨heading, ?_⟩
      change CheckState.Mirrors _ (declareClass name superclass members state).2
      rw [after]
      exact bound
  | globalDecl | nonlocalDecl => cases (wellFormed : BodyKind.program = .ofFunction)

/-- The declarations at the top level declare their names there. -/
theorem declareGlobals_declares {decls : List Decl} (fresh : ∀ decl ∈ decls, decl.outline.Fresh)
    (wellFormed : ∀ decl ∈ decls, decl.WellFormed .program) :
    Accepts (CheckState.Mirrors { program := declarations }) (declareGlobals decls)
      fun headings state => headings = decls.map Decl.fullHeading ∧
        state.Mirrors { program := declarations ++ decls.map Decl.declared } := by
  induction decls generalizing declarations with
  | nil =>
      rw [List.map_nil, List.map_nil, List.append_nil]
      exact fun state mirrors _ => ⟨rfl, mirrors⟩
  | cons decl rest ih =>
      obtain ⟨first, others⟩ := List.forall_mem_cons.mp fresh
      obtain ⟨shape, shapes⟩ := List.forall_mem_cons.mp wellFormed
      refine Accepts.bind (declareGlobal_declares first shape) fun heading => .of_fact ?_
      rintro rfl
      refine Accepts.bind (ih others shapes) fun headings => .of_fact ?_
      rintro rfl state mirrors _
      exact ⟨rfl, by rwa [List.append_assoc] at mirrors⟩

end Check

/-! ## Programs -/

/-- What is present in every program are no variables. -/
theorem ClassHierarchy.builtinBindings_no_variable :
    ∀ binding ∈ initial.builtinBindings, binding.kind.isVariable = false := by
  decide

/-- Before the declarations of a program nothing is declared. -/
theorem Program.announced_mirrors (program : Program) :
    program.announced.Mirrors { program := [] } := by
  rw [announced_eq]
  have nothing : Scope.All (fun _ binding => binding.kind.isVariable = false) {} := by
    intro frame among
    obtain rfl := List.mem_singleton.mp among
    exact nofun
  have noVariable := nothing.defineAll ClassHierarchy.builtinBindings_no_variable
  obtain ⟨inner, -⟩ :=
    @Scope.defineAll_of_inner {} rfl ClassHierarchy.initial.builtinBindings
  refine Scope.Mirrors.of_inner (inner ▸ .nil) ⟨nofun, fun name binding found isVariable => ?_⟩
  have constant : binding.kind.isVariable = false :=
    noVariable _ (List.mem_append_right _ List.mem_cons_self) name binding found
  cases isVariable.symm.trans constant

/--
In a program that is read and accepted, each name that is read or assigned has the type that is
written where scoping on the tree finds it declared, unless a condition says that it is absent.
-/
theorem Program.lexical_of_accepted {file source : String} {program : Program}
    (read : Program.ofSource file source = .ok program) (accepted : program.check.errors = []) :
    ∀ use ∈ program.check.uses, use.Lexical := by
  have raw := Program.raw_of_ofSource read
  have clean := (program.errors_check_eq_nil_iff.mp accepted).2
  have grown : program.checkedDeclarations.2.problems <+: program.checkedStatements.2.problems :=
    @Check.Has.ran _ CheckState.Grown (Check.checkStmts program.statements) _ _
  obtain ⟨headings, mirrors⟩ := Check.declareGlobals_declares
    (fun decl among => (raw.declarations decl among).fresh)
    (fun decl among => (raw.declarations decl among).wellFormed) program.announced
    program.announced_mirrors (Program.declared_clean accepted)
  obtain ⟨⟨declared, declarations⟩, mirrors⟩ := Check.checkDecl_resolves.2 program.declarations
    program.declared.1 (fun decl among => ⟨_, raw.declarations decl among⟩) headings _ rfl
    program.declared.2 mirrors (List.prefix_nil.mp (clean ▸ grown))
  obtain ⟨statements, -⟩ := Check.checkStmt_resolves.2 program.statements raw.statements _
    program.checkedDeclarations.2 mirrors clean
  have context : program.check.context =
      { program := program.declarations.map Decl.declared } :=
    congrArg (fun declared => Context.mk declared [] []) declared
  rw [Program.uses, context, List.forall_mem_append]
  exact ⟨declarations, statements⟩

/-- A program in which a parameter hides a variable of the program and is assigned from inside. -/
def shadowingSource : String :=
  "x: object = None\ndef f(x: int) -> int:\n    def g() -> int:\n        nonlocal x\n" ++
  "        x = 1\n        return x\n    return g()\nif x is None:\n    print(x)\n"

/-- In the program the name is twice that of the parameter, and then that of the variable. -/
theorem Program.lexical_shadowingSource : ∃ program,
    Program.ofSource "shadowing.choc" shadowingSource = .ok program ∧ program.check.errors = [] ∧
      (program.check.uses.map fun use => (use.identifier.name, use.identifier.info.type)) =
        [("x", some .int), ("x", some .int), ("x", some .object), ("x", some .none)] ∧
      ∀ use ∈ program.check.uses, use.Lexical := by
  obtain ⟨program, read, told⟩ : ∃ program,
      Program.ofSource "shadowing.choc" shadowingSource = .ok program ∧
        (program.check.errors.isEmpty &&
          (program.check.uses.map fun use => (use.identifier.name, use.identifier.info.type)) ==
            [("x", some .int), ("x", some .int), ("x", some .object), ("x", some .none)]) = true :=
    exists_ok_of_any (by decide +kernel)
  obtain ⟨quiet, types⟩ := Bool.and_eq_true_iff.mp told
  have accepted : program.check.errors = [] := List.isEmpty_iff.mp quiet
  exact ⟨program, read, accepted, beq_iff_eq.mp types, Program.lexical_of_accepted read accepted⟩

end ChocoLang
