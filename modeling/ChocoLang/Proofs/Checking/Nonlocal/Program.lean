import ChocoLang.Proofs.Checking.Narrowing.Program
import ChocoLang.Proofs.Checking.Nonlocal.Declaring
import ChocoLang.Proofs.Checking.Nonlocal.Uses

/-!
# Variables of functions around, in programs

In a checked program a function refers to a variable of a function around it just if the innermost
function that binds the name does so as a variable or parameter of its own.  A function that itself
refers to the variable hides it: although the name means the variable there, it cannot be referred
to from further inside.
-/

namespace ChocoLang

/-!
## References to variables of functions around

A function may refer to a variable of a function around it.  The reference is followed if what the
name means around the function is a variable or parameter, and is reported otherwise.  A name that
is followed and declared once means this variable in the function, wherever it stands there.
-/

/-- What a name means where a function refers to a variable of a function around by it. -/
def Scoping.referred? (scoping : Scoping) (around : List Roles) (name : String) : Option Meaning :=
  (scoping.meaning? name around).bind
    (Meaning.referred? [.ownVariable, .parameter] .nonlocalReference)

/-- The reference is reported if and only if what the name means around it is no variable. -/
structure Scoping.Judges (scoping : Scoping) (around : List Roles)
    (problems : List (Located CheckError)) (info : NodeInfo) (name : Identifier) : Prop where
  /-- What is no variable around is reported. -/
  declined : scoping.referred? around name.name = none →
    info.error = some (CheckError.notNonlocal name.name).message ∧
      ⟨.notNonlocal name.name, info.span⟩ ∈ problems
  /-- A variable around is not reported. -/
  followed : ∀ meaning, scoping.referred? around name.name = some meaning → info.error = none

/-- The name is declared once. -/
def Roles.Once (roles : Roles) (name : String) : Prop := (roles.map Prod.fst).count name = 1

instance (roles : Roles) (name : String) : Decidable (roles.Once name) :=
  inferInstanceAs (Decidable (_ = 1))

section

variable {scoping : Scoping} {before later : Roles} {around : List Roles} {name : String}

/-- A name means nothing by declarations of other names. -/
theorem Roles.meaning?_of_count_eq_zero {roles : Roles}
    (never : (roles.map Prod.fst).count name = 0) (global outer : Option Meaning) :
    roles.meaning? name global outer = none := by
  rw [List.count_eq_zero] at never
  refine List.findSome?_eq_none_iff.mpr fun role among => if_neg ?_
  rintro rfl
  exact never (List.mem_map_of_mem among)

/-- A name that is declared once is not declared before or behind that. -/
theorem Roles.Once.elsewhere {role : Role}
    (once : Roles.Once (before ++ (name, role) :: later) name) (global outer : Option Meaning) :
    Roles.meaning? before name global outer = none ∧
      Roles.meaning? later name global outer = none := by
  constructor <;> refine meaning?_of_count_eq_zero ?_ global outer
  all_goals
    simp [Roles.Once] at once
    omega

theorem Roles.Once.unbound {role : Role}
    (once : Roles.Once (before ++ (name, role) :: later) name) :
    scoping.bound? name (scoping.meaning? name around) before = none := by
  unfold Scoping.bound?
  rw [(once.elsewhere _ _).1]
  exact ite_self none

/-- A name that is declared once means what the reference to it says. -/
theorem Roles.Once.bound (once : Roles.Once (before ++ (name, .nonlocal) :: later) name) :
    scoping.bound? name (scoping.meaning? name around) (before ++ (name, .nonlocal) :: later) =
      scoping.referred? around name := by
  unfold Scoping.bound?
  split
  · next ofClass =>
      cases found : scoping.meaning? name around with
      | none => simp [Scoping.referred?, found]
      | some meaning => exact absurd ofClass (Scoping.not_mem_classNames found)
  · obtain ⟨first, last⟩ :=
      once.elsewhere (scoping.global? name) (scoping.meaning? name around)
    have own : Role.nonlocal.meaning? (scoping.global? name) (scoping.meaning? name around) =
      scoping.referred? around name := rfl
    unfold Roles.meaning? at first last ⊢
    rw [List.findSome?_append, first, Option.none_or, List.findSome?_cons, last, if_pos rfl, own]
    cases scoping.referred? around name <;> rfl

theorem Scoping.kind_of_referred? {meaning : Meaning}
    (referred : scoping.referred? around name = some meaning) :
    meaning.kind = .nonlocalReference := by
  obtain ⟨found, -, allowed⟩ := Option.bind_eq_some_iff.mp referred
  unfold Meaning.referred? at allowed
  split at allowed
  · cases allowed
    rfl
  · cases allowed

/-- A variable or parameter of the innermost function that binds the name can be referred to. -/
theorem Scoping.referred?_of_kind {meaning : Meaning}
    (found : scoping.meaning? name around = some meaning)
    (kind : meaning.kind = .ownVariable ∨ meaning.kind = .parameter) :
    scoping.referred? around name = some { meaning with kind := .nonlocalReference } := by
  unfold referred? Meaning.referred?
  rw [found, Option.bind_some, if_pos (by rcases kind with kind | kind <;> simp [kind])]

/-- Nothing else can be referred to. -/
theorem Scoping.referred?_eq_none_iff : scoping.referred? around name = none ↔
    ∀ meaning ∈ scoping.meaning? name around,
      meaning.kind ≠ .ownVariable ∧ meaning.kind ≠ .parameter := by
  simp [referred?, Meaning.referred?, Option.bind_eq_none_iff]

/-- Through a function that only refers to a variable there is no reference to the variable. -/
theorem Roles.Once.referred?_eq_none
    (once : Roles.Once (before ++ (name, .nonlocal) :: later) name) :
    scoping.referred? ((before ++ (name, .nonlocal) :: later) :: around) name = none := by
  refine Scoping.referred?_eq_none_iff.mpr fun meaning found => ?_
  rw [Scoping.meaning?, once.bound] at found
  cases referred : scoping.referred? around name with
  | none =>
      rw [referred, Option.none_or] at found
      exact Scoping.referred?_eq_none_iff.mp referred meaning found
  | some own =>
      rw [referred, Option.some_or] at found
      obtain rfl := Option.some.inj found
      simp [Scoping.kind_of_referred? referred]

end

/-- Outside of branches a variable that the function at hand binds has its type. -/
theorem CheckState.Shows.offers {scoping : Scoping} {roles : Roles} {around : List Roles}
    {state : CheckState} (shows : state.Shows scoping (roles :: around)) {name : String}
    {meaning : Meaning}
    (bound : scoping.bound? name (scoping.meaning? name around) roles = some meaning)
    (assignable : meaning.kind.isAssignable) : state.Offers name meaning.type := by
  obtain ⟨inFunction, meant⟩ := shows.lookupLocal name
  obtain ⟨binding, found, rfl⟩ := Option.map_eq_some_iff.mp (meant.trans bound)
  refine ⟨inFunction, ⟨binding, found, assignable, rfl⟩, ?_⟩
  obtain ⟨⟨frames, outermost⟩, _⟩ := state
  obtain ⟨functions, -, -, -⟩ := shows
  cases functions with
  | cons kind _ _ => simp [Scope.branches, kind]

namespace Check

variable {scoping : Scoping} {roles : Roles} {around : List Roles} {state : CheckState}
  {info node : NodeInfo} {name looked : Identifier}

/-- A reference is judged where it is declared, and its name can be bound unless it is already. -/
theorem declareLocal_judges (fresh : info.error = none) (freshName : name.info.error = none)
    (shows : state.Shows scoping (roles :: around))
    (shape : (declareLocal (.nonlocalDecl info name) state).1 = .outer node looked) :
    looked.name = name.name ∧
      scoping.Judges around (declareLocal (.nonlocalDecl info name) state).2.problems node
        looked ∧
      ∀ meaning, scoping.referred? around looked.name = some meaning →
        scoping.bound? looked.name (scoping.meaning? looked.name around) roles = none →
          looked.info.error = none := by
  have same : (Decl.nonlocalDecl info name).Matches (.outer node looked) :=
    shape ▸ declareLocal_matches (.nonlocalDecl info name) state
  have named : looked.name = name.name := (Identifier.bare_eq_iff.mp same.2).2
  refine ⟨named, ?_⟩
  have meant : scoping.referred? around looked.name =
      ((state.scope.lookupNonlocal name.name).filter fun binding =>
        [BindingKind.ownVariable, .parameter].contains binding.kind).map fun binding =>
          ⟨.nonlocalReference, binding.type⟩ := by
    rw [named, ← referred?_meaning, shows.lookupNonlocal]
    rfl
  change (declareOuter (state.scope.lookupNonlocal name.name) _ _ _ _ _ state).1 = _ at shape
  change scoping.Judges around
    (declareOuter (state.scope.lookupNonlocal name.name) _ _ _ _ _ state).2.problems _ _ ∧ _
  unfold declareOuter at shape ⊢
  cases among : (state.scope.lookupNonlocal name.name).filter fun binding =>
      [BindingKind.ownVariable, .parameter].contains binding.kind with
  | none =>
      rw [among] at meant shape
      change Heading.outer (report _ info state).1 name = _ at shape
      obtain ⟨rfl, rfl⟩ := Heading.outer.inj shape
      refine ⟨⟨fun _ => ?_, fun meaning found => ?_⟩, fun meaning found => ?_⟩
      · change _ ∧ _ ∈ (report _ info state).2.problems
        rw [report_apply]
        simp [fresh]
      · cases meant.symm.trans found
      · cases meant.symm.trans found
  | some binding =>
      rw [among] at meant shape
      change Heading.outer info (declare name binding.type .nonlocalReference state).1.1 = _
        at shape
      obtain ⟨rfl, rfl⟩ := Heading.outer.inj shape
      refine ⟨⟨fun nothing => ?_, fun _ _ => fresh⟩, fun meaning found unbound => ?_⟩
      · cases meant.symm.trans nothing
      · obtain ⟨_, outside, -⟩ := Option.bind_eq_some_iff.mp found
        rw [named] at unbound outside
        have free := (shows.clash?_eq_none_iff name.name .nonlocalReference).mpr
          ⟨unbound, Scoping.not_mem_classNames outside⟩
        rw [declare_of_free _ free]
        exact freshName

/-- A reference in a checked function has been declared among the declarations before it. -/
theorem exists_of_nonlocal_checked {decls : List Decl} {state after : CheckState}
    (among : .nonlocalDecl node looked ∈
      (checkDecls decls (declareLocals decls state).1 after).1) :
    ∃ before info name later, decls = before ++ .nonlocalDecl info name :: later ∧
      (declareLocal (.nonlocalDecl info name) (declareLocals before state).2).1 =
        .outer node looked ∧
      (declareLocal (.nonlocalDecl info name) (declareLocals before state).2).2.Grown
        (declareLocals decls state).2 := by
  induction decls generalizing state after with
  | nil =>
      unfold checkDecls at among
      cases among
  | cons decl rest ih =>
      have split : (checkDecls (decl :: rest) (declareLocals (decl :: rest) state).1 after).1 =
          (checkDecl decl (declareLocal decl state).1 after).1 ::
            (checkDecls rest (declareLocals rest (declareLocal decl state).2).1
              (checkDecl decl (declareLocal decl state).1 after).2).1 := by
        change (checkDecls (decl :: rest) ((declareLocal decl state).1 ::
          (declareLocals rest (declareLocal decl state).2).1) after).1 = _
        rw [checkDecls]
        rfl
      rw [split, List.mem_cons] at among
      rcases among with here | among
      · have same : (checkDecl decl (declareLocal decl state).1 after).1.bare = decl.bare :=
          checkDecl_bare.1 _ _ (declareLocal_matches decl state) after
        rw [← here] at same
        cases decl with
        | nonlocalDecl info name =>
            refine ⟨[], info, name, rest, rfl, ?_, Has.ran (declareLocals rest) _⟩
            obtain ⟨_, _, shape⟩ := declareOuter_outer (state.scope.lookupNonlocal name.name)
              [.ownVariable, .parameter] .nonlocalReference (.notNonlocal name.name) info name state
            have headed : (declareLocal (.nonlocalDecl info name) state).1 = .outer _ _ := shape
            change (declareLocal (.nonlocalDecl info name) state).1 = _
            rw [headed, checkDecl] at here
            cases here
            exact headed
        | _ => cases same
      · obtain ⟨before, info, name, later, rfl, shape, grown⟩ := ih among
        exact ⟨decl :: before, info, name, later, rfl, shape, grown⟩

end Check

/-- In the function a name is referred to as that of a variable of a function around. -/
structure FunctionDef.Resolves (function : FunctionDef) (scoping : Scoping) (around : List Roles)
    (problems : List (Located CheckError)) (info : NodeInfo) (name : Identifier) : Prop extends
    scoping.Judges around problems info name where
  /-- If nothing else has the name in the function, the name is bound and used as the variable. -/
  used : ∀ meaning, scoping.referred? around name.name = some meaning →
    Roles.Once (function.roles scoping.classNames) name.name → name.info.error = none ∧
      UsedAs name.name meaning.type (Stmt.readsIn function.statements)
        (Stmt.assignedIn function.statements)

/-- The references in a function are judged, given what is known of names around it. -/
def NestedDef.Resolves (nested : NestedDef) (scoping : Scoping)
    (problems : List (Located CheckError)) : Prop :=
  ∀ info name, .nonlocalDecl info name ∈ nested.function.declarations →
    nested.function.Resolves scoping (nested.around.map (FunctionDef.roles scoping.classNames))
      problems info name

theorem NestedDef.Resolves.mono {nested : NestedDef} {scoping : Scoping}
    {problems more : List (Located CheckError)} (resolves : nested.Resolves scoping problems)
    (grown : problems <+: more) : nested.Resolves scoping more := by
  intro info name declared
  obtain ⟨⟨declined, followed⟩, used⟩ := resolves info name declared
  exact ⟨⟨fun nothing => (declined nothing).imp_right (grown.subset ·), followed⟩, used⟩

namespace Check

variable {scoping : Scoping} {around : List Roles} {state : CheckState}

/-- The body of a function is checked where its parameters and declarations are bound. -/
theorem checkBody_parts {heading : FunctionHeading} {signature : Signature}
    (typed : signature.params = heading.params.map (·.written.resolved scoping.classNames))
    {declarations : List Decl} (wellFormed : ∀ decl ∈ declarations, decl.WellFormed .ofFunction)
    (statements : List Stmt) (shows : state.Shows scoping around) :
    ∃ params inside : CheckState,
      params.Shows scoping
        (heading.params.map (TypedVar.role scoping.classNames .parameter) :: around) ∧
      (declareLocals declarations params).2.Grown inside ∧
      inside.Shows scoping (heading.roles scoping.classNames declarations :: around) ∧
      let decls := checkDecls declarations (declareLocals declarations params).1 inside
      let stmts := checkStmts statements decls.2
      let body := checkBody heading signature declarations statements state
      body.1.2 = (decls.1, stmts.1) ∧ body.2.problems = stmts.2.problems := by
  have entered := declareParams_shows (shows.enter heading.name.name) heading.params
  rw [← typed, List.nil_append] at entered
  have bound := declareLocals_shows entered wellFormed
  refine ⟨_, { (declareLocals declarations _).2 with results := signature.result :: _ }, entered,
    List.prefix_rfl, ?_, rfl, rfl⟩
  exact ⟨bound.functions, bound.program, bound.classNames, bound.typeNames⟩

/-- In the body of a function every reference is judged. -/
theorem resolves_of_shows {params inside : CheckState} {roles : Roles} {declarations : List Decl}
    (raw : ∀ decl ∈ declarations, decl.Raw True .ofFunction) (statements : List Stmt)
    (shows : params.Shows scoping (roles :: around))
    (grown : (declareLocals declarations params).2.Grown inside)
    (bound : inside.Shows scoping
      ((roles ++ declarations.map (Decl.role scoping.classNames)) :: around))
    {function : FunctionDef} (declares : function.roles scoping.classNames =
      roles ++ declarations.map (Decl.role scoping.classNames)) :
    let decls := checkDecls declarations (declareLocals declarations params).1 inside
    let stmts := checkStmts statements decls.2
    function.statements = stmts.1 → ∀ info name, .nonlocalDecl info name ∈ decls.1 →
      function.Resolves scoping around stmts.2.problems info name := by
  intro decls stmts checked node looked among
  obtain ⟨before, info, name, later, split, shape, known⟩ := exists_of_nonlocal_checked among
  have fresh : info.error = none ∧ name.info.error = none := by
    have own := (raw (.nonlocalDecl info name) (by simp [split])).fresh
    simp only [Decl.outline, Outline.all_node, Outline.allIn_cons, Identifier.fresh_outline_iff,
      fresh_label_iff] at own
    exact ⟨own.1, own.2.1.1⟩
  have between := declareLocals_shows shows fun decl (among : decl ∈ before) =>
    (raw decl (split ▸ List.mem_append_left _ among)).wellFormed
  obtain ⟨named, judges, free⟩ := declareLocal_judges fresh.1 fresh.2 between shape
  have checkedDecls : inside.Grown decls.2 := Has.ran (checkDecls declarations _) inside
  have checkedStmts : decls.2.Grown stmts.2 := Has.ran (checkStmts statements) decls.2
  have ran := (known.trans grown).trans (List.IsPrefix.trans checkedDecls checkedStmts)
  refine ⟨⟨fun nothing => (judges.declined nothing).imp_right (ran.subset ·),
    judges.followed⟩, fun meaning referred once => ?_⟩
  have listed : function.roles scoping.classNames =
      (roles ++ before.map (Decl.role scoping.classNames)) ++
        (looked.name, .nonlocal) :: later.map (Decl.role scoping.classNames) := by
    rw [declares, split, named]
    simp [Decl.role]
  rw [← declares, listed] at bound
  rw [listed] at once
  refine ⟨free meaning referred once.unbound, ?_⟩
  have offers : inside.Offers looked.name meaning.type :=
    bound.offers (once.bound.trans referred) (Scoping.kind_of_referred? referred ▸ rfl)
  have still : decls.2.Offers looked.name meaning.type :=
    offers.forgot (Has.ran (checkDecls declarations _) inside)
  rw [checked]
  exact (checkStmt_offers.2 statements decls.2 still).1

/-- The signature of a function consists of the types written in its resolved heading. -/
theorem resolveSignature_resolved (heading : FunctionHeading)
    (shows : state.Shows scoping around) :
    (resolveSignature heading state).1.2 =
      (resolveSignature heading state).1.1.resolved scoping.classNames := by
  have same : (resolveSignature heading state).1.1.bare = heading.bare :=
    resolveSignature_bare heading state
  rw [← FunctionHeading.resolved_bare, same, FunctionHeading.resolved_bare,
    resolveSignature_signature, shows.typeNames]

/-- What a function declares is the same in its checked body. -/
theorem checkBody_roles (names : List String) (heading : FunctionHeading) (signature : Signature)
    (declarations : List Decl) (statements : List Stmt) (state : CheckState) (info : NodeInfo)
    (name : Identifier) (recovered : Bool) :
    let body := (checkBody heading signature declarations statements state).1
    (FunctionDef.mk info { heading with name, params := body.1 } body.2.1 body.2.2
      recovered).roles names = heading.roles names declarations := by
  have inner := fun headings => checkDecl_bare.2 declarations headings
  obtain ⟨params, decls, -⟩ : _ ∧ _ ∧ _ :=
    checkBody_bare heading signature declarations statements inner state
  dsimp only [FunctionDef.roles, FunctionHeading.roles]
  rw [params_of_bare names params .parameter, roles_of_bare names decls]

/--
A function is checked where its parameters and declarations are bound, and in its checked body it
declares what it did.
-/
theorem checkDecl_function_parts {info : NodeInfo} {heading looked : FunctionHeading}
    {declarations : List Decl} {statements : List Stmt} {recovered : Bool}
    (wellFormed : ∀ decl ∈ declarations, decl.WellFormed .ofFunction)
    (shows : state.Shows scoping around) :
    ∃ (params inside : CheckState) (roles : Roles),
      params.Shows scoping (roles :: around) ∧
      (declareLocals declarations params).2.Grown inside ∧
      inside.Shows scoping
        ((roles ++ declarations.map (Decl.role scoping.classNames)) :: around) ∧
      let decls := checkDecls declarations (declareLocals declarations params).1 inside
      let stmts := checkStmts statements decls.2
      let checked := checkDecl (.funcDef info heading declarations statements recovered)
        (.function looked) state
      ∃ function : FunctionDef, function.declarations = decls.1 ∧ function.statements = stmts.1 ∧
        function.roles scoping.classNames =
          roles ++ declarations.map (Decl.role scoping.classNames) ∧
        checked.1 = .funcDef function.info function.heading function.declarations
          function.statements function.recovered ∧
        stmts.2.Grown checked.2 := by
  have resolved := shows.reported (Has.ran (resolveSignature looked) state)
  have signature := resolveSignature_resolved looked shows
  rw [checkDecl_function]
  simp only [bind_apply, pure_apply]
  generalize resolveSignature looked state = before at resolved signature ⊢
  obtain ⟨⟨heading, written⟩, before⟩ := before
  dsimp only at resolved signature ⊢
  obtain ⟨params, inside, known, grown, bound, parts, problems⟩ :=
    checkBody_parts (congrArg Signature.params signature) wellFormed statements resolved
  have declares :=
    checkBody_roles scoping.classNames heading written declarations statements before info
  generalize checkBody heading written declarations statements before = body
    at parts problems declares ⊢
  obtain ⟨⟨vars, locals, body⟩, after⟩ := body
  have ended : after.Grown (demandReturn written.result body recovered heading.name after).2 :=
    Has.ran (demandReturn written.result body recovered heading.name) after
  unfold CheckState.Grown at ended
  rw [problems] at ended
  obtain ⟨sameDecls, sameStmts⟩ := Prod.mk.inj parts
  exact ⟨params, inside, _, known, grown, bound, ⟨info, _, locals, body, recovered⟩, sameDecls,
    sameStmts, declares _ recovered, rfl, ended⟩

/-- Checking bodies judges every reference in them. -/
theorem checkDecl_judges :
    (∀ decl heading, (∃ place, decl.Raw True place) → decl.Headed heading →
      ∀ (outer : List FunctionDef) (state : CheckState),
        state.Shows scoping (outer.map (FunctionDef.roles scoping.classNames)) →
          ∀ nested ∈ (checkDecl decl heading state).1.nestedDefs outer,
            nested.Resolves scoping (checkDecl decl heading state).2.problems) ∧
    ∀ decls headings, (∀ decl ∈ decls, ∃ place, decl.Raw True place) →
      HeadedAll decls headings →
        ∀ (outer : List FunctionDef) (state : CheckState),
          state.Shows scoping (outer.map (FunctionDef.roles scoping.classNames)) →
            ∀ nested ∈ nestedDefsIn outer (checkDecls decls headings state).1,
              nested.Resolves scoping (checkDecls decls headings state).2.problems := by
  apply headed_induction
  case varDef | globalDecl | nonlocalDecl =>
    intros
    rename_i among
    unfold checkDecl at among
    cases among
  case funcDef =>
    intro place info heading declarations statements recovered looked ih raw _ outer state shows
      nested among
    have wellFormed : ∀ decl ∈ declarations, decl.WellFormed .ofFunction :=
      fun decl among => (raw.locals decl among).wellFormed
    obtain ⟨params, inside, roles, known, grown, bound, function, decls, stmts, declares, shape,
      ended⟩ := checkDecl_function_parts wellFormed shows
    rw [shape, Decl.nestedDefs, List.mem_cons] at among
    refine NestedDef.Resolves.mono ?_ ended
    rcases among with rfl | among
    · exact fun info name declared => resolves_of_shows raw.locals statements known grown bound
        declares stmts info name (decls ▸ declared)
    · have checked : CheckState.Grown _ _ := Has.ran (checkStmts statements)
        (checkDecls declarations (declareLocals declarations params).1 inside).2
      rw [← declares] at bound
      exact (ih _ (declareLocals_headed wellFormed params) (function :: outer) inside bound nested
        (decls ▸ among)).mono checked
  case classDef =>
    intro place info name superclass members called parent headings ih raw outer state shows
    unfold checkDecl
    exact ih outer state shows
  case nil =>
    intro _ state _ nested among
    unfold checkDecls at among
    cases among
  case cons =>
    intro decl decls heading headings ihDecl ihDecls outer state shows nested among
    unfold checkDecls at among ⊢
    simp only [bind_apply, pure_apply, nestedDefsIn, List.mem_append] at among ⊢
    rcases among with here | later
    · have grown : (checkDecl decl heading state).2.Grown
          (checkDecls decls headings (checkDecl decl heading state).2).2 :=
        Has.ran (checkDecls decls headings) _
      exact (ihDecl outer state shows nested here).mono grown
    · exact ihDecls outer _ (shows.reported (Has.ran (checkDecl decl heading) state)) nested later

end Check

/-! ## Programs -/

/-- In the statements of a function a name is that of a variable of the type. -/
structure FunctionDef.Gives (function : FunctionDef) (name : String) (type : ValueType) : Prop where
  /-- Where the name is read it has the type, unless a condition says that it is absent. -/
  read : ∀ one ∈ Stmt.readsIn function.statements, one.name.name = name →
    one.name.info.type = some type ∨ one.name.info.type = some .none ∧ Justified one.way name
  /-- Where the name is assigned it has the type. -/
  assigned : AssignedAs name type (Stmt.assignedIn function.statements)

namespace Program

/-- The error is recorded at the node, and it is one of the errors of the program. -/
structure ReportsAt (program : Program) (error : CheckError) (info : NodeInfo) : Prop where
  /-- The error is recorded at the node. -/
  recorded : info.error = some error.message
  /-- The error is listed with its code and the place of the node. -/
  listed : (⟨error, info.span⟩ : Located CheckError).toDiagnostic ∈ program.errors

variable {file source : String} {program : Program} {nested : NestedDef}

theorem resolves_check (raw : program.Raw) (among : nested ∈ program.check.nestedDefs) :
    nested.Resolves program.scoping program.checkedStatements.2.problems := by
  have judged := Check.checkDecl_judges.2 program.declarations program.declared.1
    (fun decl among => ⟨_, raw.topLevel decl among⟩) raw.headed [] program.declared.2
    (declared_shows raw) nested among
  have grown : program.checkedDeclarations.2.Grown program.checkedStatements.2 :=
    Check.Has.ran (Check.checkStmts program.statements) _
  exact judged.mono grown

/-- What is used as a variable in a function is a variable there. -/
theorem gives_of_usedAs (raw : program.Raw) (among : nested ∈ program.check.nestedDefs)
    {name : String} {type : ValueType} (used : UsedAs name type
      (Stmt.readsIn nested.function.statements) (Stmt.assignedIn nested.function.statements)) :
    nested.function.Gives name type := by
  refine ⟨fun one within same => ?_, used.2⟩
  have defined : nested.function ∈ program.check.functionDefs := by
    unfold functionDefs
    rw [← map_nestedDefsIn []]
    exact List.mem_map_of_mem among
  have listed : one ∈ program.check.reads :=
    List.mem_append_left _ (readsIn_subset_in _ defined within)
  rcases used.1 one within same with typed | absent
  · exact .inl typed
  · exact .inr ⟨absent, same ▸ allJustified_check raw one listed absent⟩

/-- A reference that is declined is reported. -/
theorem reportsAt_of_declined (checked : Program.checkedOfSource file source = .ok program)
    (among : nested ∈ program.nestedDefs) {info : NodeInfo} {name : Identifier}
    (declared : .nonlocalDecl info name ∈ nested.function.declarations)
    (declined : program.scoping.referred?
      (nested.around.map (FunctionDef.roles program.classNames)) name.name = none) :
    program.ReportsAt (.notNonlocal name.name) info := by
  obtain ⟨parsed, read, rfl⟩ := exists_of_checkedOfSource checked
  have resolves := resolves_check (raw_of_ofSource read) among info name declared
  rw [← scoping_check] at resolves
  obtain ⟨recorded, listed⟩ := resolves.declined declined
  refine ⟨recorded, ?_⟩
  rw [check_eq]
  exact List.mem_append_right _ (List.mem_map_of_mem listed)

/--
A function that declares a name just by a reference to a variable around it hides the variable: in
a function directly inside no reference by the name is followed, whatever the name means.
-/
theorem reportsAt_of_reference_around
    (checked : Program.checkedOfSource file source = .ok program)
    (among : nested ∈ program.nestedDefs) {info : NodeInfo} {name : Identifier}
    (declared : .nonlocalDecl info name ∈ nested.function.declarations) {function : FunctionDef}
    {outer : List FunctionDef} (inside : nested.around = function :: outer)
    (refers : (name.name, .nonlocal) ∈ function.roles program.classNames)
    (once : Roles.Once (function.roles program.classNames) name.name) :
    program.ReportsAt (.notNonlocal name.name) info := by
  refine reportsAt_of_declined checked among declared ?_
  obtain ⟨before, later, split⟩ := List.append_of_mem refers
  rw [split] at once
  rw [inside, List.map_cons, split]
  exact once.referred?_eq_none

/--
A reference to a variable of a function around is reported if and only if the innermost function
around that binds the name does not do so as a variable or parameter of its own.  Otherwise, if the
function declares the name nowhere else, the name is that of the variable in the function.
-/
theorem notNonlocal_iff (checked : Program.checkedOfSource file source = .ok program)
    (among : nested ∈ program.nestedDefs) {info : NodeInfo} {name : Identifier}
    (declared : .nonlocalDecl info name ∈ nested.function.declarations) :
    let found := program.meaningAround? nested name.name
    (program.ReportsAt (.notNonlocal name.name) info ↔
      ∀ meaning ∈ found, meaning.kind ≠ .ownVariable ∧ meaning.kind ≠ .parameter) ∧
    ∀ meaning ∈ found, meaning.kind = .ownVariable ∨ meaning.kind = .parameter →
      info.error = none ∧
        (Roles.Once (nested.function.roles program.classNames) name.name →
          name.info.error = none ∧ nested.function.Gives name.name meaning.type) := by
  obtain ⟨parsed, read, rfl⟩ := exists_of_checkedOfSource checked
  have raw := raw_of_ofSource read
  have resolves := resolves_check raw among info name declared
  rw [← scoping_check] at resolves
  dsimp only
  refine ⟨⟨fun reports => ?_, fun other => ?_⟩, fun meaning found kind => ?_⟩
  · rw [meaningAround?]
    refine Scoping.referred?_eq_none_iff.mp (Option.eq_none_iff_forall_ne_some.mpr ?_)
    intro meaning referred
    cases (resolves.followed meaning referred).symm.trans reports.recorded
  · exact reportsAt_of_declined checked among declared (Scoping.referred?_eq_none_iff.mpr other)
  · have referred := Scoping.referred?_of_kind found kind
    refine ⟨resolves.followed _ referred, fun once => ?_⟩
    exact (resolves.used _ referred once).imp_right (gives_of_usedAs raw among)

/-- A function refers to a name that it declares once, and around it the name has the meaning. -/
def hasReference (program : Program) (meaning : Meaning) : Bool :=
  program.nestedDefs.any fun nested => nested.function.declarations.any fun decl =>
    match decl with
    | .nonlocalDecl _ name =>
      decide (program.meaningAround? nested name.name = some meaning ∧
        Roles.Once (nested.function.roles program.classNames) name.name)
    | _ => false

theorem exists_of_hasReference {meaning : Meaning} (refers : program.hasReference meaning = true) :
    ∃ nested info name, nested ∈ program.nestedDefs ∧
      .nonlocalDecl info name ∈ nested.function.declarations ∧
      program.meaningAround? nested name.name = some meaning ∧
      Roles.Once (nested.function.roles program.classNames) name.name := by
  obtain ⟨nested, among, within⟩ := List.any_eq_true.mp refers
  obtain ⟨decl, declared, told⟩ := List.any_eq_true.mp within
  split at told
  · next info name =>
      obtain ⟨found, once⟩ := of_decide_eq_true told
      exact ⟨nested, info, name, among, declared, found, once⟩
  · cases told

/-- A function in a function in a function refers to the parameter of the outermost one. -/
def deepSource : String :=
  "def f(x: int):\n    def g():\n        def h():\n            nonlocal x\n" ++
    "            x = x + 1\n        h()\n    g()\n"

/-- The reference is followed, and the name is that of the parameter in the function. -/
theorem notNonlocal_iff_deepSource :
    ∃ program nested info name, Program.checkedOfSource "<input>" deepSource = .ok program ∧
      nested ∈ program.nestedDefs ∧ .nonlocalDecl info name ∈ nested.function.declarations ∧
      program.meaningAround? nested name.name = some ⟨.parameter, .int⟩ ∧
      ¬program.ReportsAt (.notNonlocal name.name) info ∧ info.error = none ∧
      name.info.error = none ∧ nested.function.Gives name.name .int := by
  obtain ⟨program, checked, facts⟩ : ∃ program,
      Program.checkedOfSource "<input>" deepSource = .ok program ∧
        program.hasReference ⟨.parameter, .int⟩ = true :=
    exists_ok_of_any (by decide +kernel)
  obtain ⟨nested, info, name, among, declared, found, once⟩ := exists_of_hasReference facts
  obtain ⟨reported, followed⟩ := notNonlocal_iff checked among declared
  obtain ⟨clean, used⟩ := followed _ found (.inr rfl)
  obtain ⟨cleanName, gives⟩ := used once
  exact ⟨program, nested, info, name, checked, among, declared, found,
    fun reports => (reported.mp reports _ found).2 rfl, clean, cleanName, gives⟩

/-- A function refers to the variable of the function around it, and so does a function in it. -/
def hiddenSource : String :=
  "def f():\n    x: int = 1\n    def g():\n        nonlocal x\n        def h():\n" ++
    "            nonlocal x\n            x = 2\n        h()\n    g()\n"

/-- What the name means around the function is a variable, and still the reference is reported. -/
theorem exists_reference_unfollowed :
    ∃ program nested info name, Program.checkedOfSource "<input>" hiddenSource = .ok program ∧
      nested ∈ program.nestedDefs ∧ .nonlocalDecl info name ∈ nested.function.declarations ∧
      Roles.Once (nested.function.roles program.classNames) name.name ∧
      program.meaningAround? nested name.name = some ⟨.nonlocalReference, .int⟩ ∧
      program.ReportsAt (.notNonlocal name.name) info := by
  obtain ⟨program, checked, facts⟩ : ∃ program,
      Program.checkedOfSource "<input>" hiddenSource = .ok program ∧
        program.hasReference ⟨.nonlocalReference, .int⟩ = true :=
    exists_ok_of_any (by decide +kernel)
  obtain ⟨nested, info, name, among, declared, found, once⟩ := exists_of_hasReference facts
  refine ⟨program, nested, info, name, checked, among, declared, once, found, ?_⟩
  refine reportsAt_of_declined checked among declared
    (Scoping.referred?_eq_none_iff.mpr fun meaning meant => ?_)
  obtain rfl : meaning = ⟨.nonlocalReference, .int⟩ := Option.some.inj (meant.symm.trans found)
  decide

end Program
end ChocoLang
