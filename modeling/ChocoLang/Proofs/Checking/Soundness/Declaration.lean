import ChocoLang.Proofs.Checking.Soundness.Statement

/-!
# Soundness of checking declarations

If no problem is found, then declaring a heading returns it unchanged and binds its names to the
types that are written, and checking the body behind it makes the declaration obey its rule.
-/

namespace ChocoLang

/-- The signature that the heading of a function writes. -/
def FunctionHeading.signature (heading : FunctionHeading) : Signature :=
  { params := heading.params.map (·.written.denoted), result := heading.returns.denoted }

theorem FunctionHeading.fresh_parts {heading : FunctionHeading}
    (fresh : Outline.AllIn Label.Fresh heading.outlines) :
    heading.name.info.error = none ∧ ∀ var ∈ heading.params, var.outline.Fresh := by
  simp only [FunctionHeading.outlines, Outline.allIn_cons, Outline.allIn_append,
    Outline.allIn_iff (List.map _ _), List.forall_mem_map, Identifier.fresh_outline_iff] at fresh
  exact ⟨fresh.1.1, fresh.2.1⟩

theorem TypedVar.error_of_fresh {var : TypedVar} (fresh : var.outline.Fresh) :
    var.identifier.info.error = none := by
  simp only [TypedVar.outline, Outline.all_node, Outline.allIn_cons,
    Identifier.fresh_outline_iff] at fresh
  exact fresh.2.1.1

theorem WrittenType.denoted_known (written : WrittenType) : written.denoted.Known := by
  induction written with
  | named info name => exact ValueType.known_classType name
  | list info element ih => exact (ValueType.known_list _).mpr ih

theorem FunctionHeading.params_known (heading : FunctionHeading) :
    ∀ type ∈ heading.signature.params, type.Known := by
  simp only [signature, List.mem_map]
  rintro _ ⟨var, -, rfl⟩
  exact var.written.denoted_known

theorem FunctionHeading.type_known (heading : FunctionHeading) :
    heading.signature.type.Known :=
  (ValueType.known_function _ _).mpr ⟨heading.params_known, heading.returns.denoted_known⟩

theorem Outline.Fresh.known {outline : Outline} (fresh : outline.Fresh) :
    outline.All Label.Known :=
  fresh.mono fun _ => Label.Fresh.known

/-- The declaration has been checked without a problem. -/
structure Decl.Accepted (hierarchy : ClassHierarchy) (decl : Decl) : Prop where
  /-- The declaration obeys its rule. -/
  wellTyped : decl.WellTyped hierarchy
  /-- The types in the declaration are known. -/
  known : decl.outline.All Label.Known

namespace Check

variable {invariant : CheckState → Prop} {hierarchy : ClassHierarchy} {result : Option ValueType}

/-! ## Headings -/

theorem resolve_establishes {written : WrittenType} (fresh : written.outline.Fresh) :
    Establishes invariant (resolve written)
      fun resolved => resolved = (written, written.denoted) := by
  induction written with
  | named info name =>
      simp only [WrittenType.outline, Outline.all_node, fresh_label_iff] at fresh
      unfold resolve
      refine @Establishes.bind _ _ _ _ _ _ _ (fun state => by split <;> infer_instance) .get
        fun state _ => ?_
      split
      · next type found =>
          refine .pure ?_
          unfold CheckState.namedType? at found
          split at found
          · next absent =>
              cases found
              rw [absent]
              rfl
          split at found
          · cases found
            rfl
          · cases found
      · exact (report_establishes fresh.1).bind fun _ impossible => impossible.elim
  | list info element ih =>
      simp only [WrittenType.outline, Outline.all_node, Outline.allIn_cons] at fresh
      refine (ih fresh.2.1).bind ?_
      rintro _ rfl
      exact .pure rfl

theorem resolveVar_establishes {var : TypedVar} (fresh : var.outline.Fresh) :
    Establishes invariant (resolveVar var) fun resolved =>
      resolved = (var, var.written.denoted) := by
  simp only [TypedVar.outline, Outline.all_node, Outline.allIn_cons] at fresh
  refine (resolve_establishes fresh.2.2.1).bind ?_
  rintro _ rfl
  exact .pure rfl

theorem resolveVars_establishes {vars : List TypedVar} (fresh : ∀ var ∈ vars, var.outline.Fresh) :
    Establishes invariant (resolveVars vars) fun resolved =>
      resolved = (vars, vars.map (·.written.denoted)) := by
  induction vars with
  | nil => exact .pure rfl
  | cons var rest ih =>
      obtain ⟨first, others⟩ := List.forall_mem_cons.mp fresh
      refine (resolveVar_establishes first).bind ?_
      rintro _ rfl
      refine (ih others).bind ?_
      rintro _ rfl
      exact .pure rfl

theorem resolveSignature_establishes {heading : FunctionHeading}
    (fresh : Outline.AllIn Label.Fresh heading.outlines) :
    Establishes invariant (resolveSignature heading) fun resolved =>
      resolved = (heading, heading.signature) := by
  simp only [FunctionHeading.outlines, Outline.allIn_cons, Outline.allIn_append,
    Outline.allIn_iff (List.map _ _), List.forall_mem_map] at fresh
  refine (resolveVars_establishes fresh.2.1).bind ?_
  rintro _ rfl
  refine (resolve_establishes fresh.2.2.1).bind ?_
  rintro _ rfl
  exact .pure rfl

/-- A name that is bound without a problem was free before. -/
theorem declare_accepts {before after : CheckState → Prop} {name : Identifier} {type : ValueType}
    {kind : BindingKind} (fresh : name.info.error = none)
    (step : ∀ state, before state → state.scope.current.find? name.name = none →
      ∀ span, after { state with
        scope := state.scope.define { name := name.name, type, kind, span } }) :
    Accepts before (declare name type kind) fun declared state =>
      declared = (name, true) ∧ after state := by
  intro state holds clean
  cases clash : state.clash? name.name kind with
  | some error =>
      rw [declare_of_clash type clash] at clean
      exact (reportName_establishes fresh state holds clean).1.elim
  | none =>
      rw [declare_of_free type clash]
      exact ⟨rfl, step state holds (CheckState.unbound_of_clash? clash) _⟩

theorem declare_establishes {name : Identifier} {type : ValueType} {kind : BindingKind}
    (fresh : name.info.error = none)
    (stable : ∀ state, invariant state → ∀ span, invariant { state with
      scope := state.scope.define { name := name.name, type, kind, span } }) :
    Establishes invariant (declare name type kind) fun declared => declared = (name, true) :=
  declare_accepts fresh fun state holds _ => stable state holds

theorem sound_define {name : String} {type : ValueType} (known : type.Known) {kind : BindingKind}
    (noClass : kind ≠ .classDef) (state : CheckState)
    (sound : CheckState.Sound hierarchy result state) (span : Option Span) :
    CheckState.Sound hierarchy result
      { state with scope := state.scope.define { name, type, kind, span } } :=
  ⟨sound.classes, sound.result, sound.scope.define ⟨known, fun isClass => absurd isClass noClass⟩⟩

theorem declareVar_establishes {var : TypedVar} (fresh : var.outline.Fresh) :
    Establishes (CheckState.Sound hierarchy result) (declareVar var) fun declared =>
      declared = var := by
  refine (resolveVar_establishes fresh).bind ?_
  rintro _ rfl
  refine (declare_establishes (TypedVar.error_of_fresh fresh)
    (sound_define var.written.denoted_known (by decide))).bind ?_
  rintro _ rfl
  exact .pure rfl

theorem declareFunction_establishes {heading : FunctionHeading}
    (fresh : Outline.AllIn Label.Fresh heading.outlines) :
    Establishes (CheckState.Sound hierarchy result) (declareFunction heading) fun declared =>
      declared = heading := by
  refine (resolveSignature_establishes fresh).bind ?_
  rintro _ rfl
  refine (declare_establishes (FunctionHeading.fresh_parts fresh).1
    (sound_define heading.type_known (by decide))).bind ?_
  rintro _ rfl
  exact .pure rfl

theorem declareParams_establishes {vars : List TypedVar} (fresh : ∀ var ∈ vars, var.outline.Fresh)
    {types : List ValueType} (known : ∀ type ∈ types, type.Known) :
    Establishes (CheckState.Sound hierarchy result) (declareParams vars types) fun declared =>
      declared = vars := by
  induction vars generalizing types with
  | nil =>
      unfold declareParams
      exact .pure rfl
  | cons var rest ih =>
      cases types with
      | nil =>
          unfold declareParams
          exact .pure rfl
      | cons type types =>
          obtain ⟨first, others⟩ := List.forall_mem_cons.mp fresh
          obtain ⟨knownFirst, knownOthers⟩ := List.forall_mem_cons.mp known
          unfold declareParams
          refine (declare_establishes (TypedVar.error_of_fresh first)
            (sound_define knownFirst (by decide))).bind ?_
          rintro _ rfl
          refine (ih others knownOthers).bind ?_
          rintro _ rfl
          exact .pure rfl

theorem declareOuter_establishes {found : Option Binding} {allowed : List BindingKind}
    {kind : BindingKind} (noClass : kind ≠ .classDef) {error : CheckError} {info : NodeInfo}
    {name : Identifier} (freshInfo : info.error = none) (freshName : name.info.error = none)
    (known : ∀ binding ∈ found, binding.type.Known) :
    Establishes (CheckState.Sound hierarchy result)
      (declareOuter found allowed kind error info name)
      fun heading => heading = .outer info name := by
  unfold declareOuter
  split
  · exact (report_establishes freshInfo).bind fun _ impossible => impossible.elim
  · next binding shape =>
      have bound := (Option.filter_eq_some_iff.mp shape).1
      refine (declare_establishes freshName (sound_define (known binding bound) noClass)).bind ?_
      rintro _ rfl
      exact .pure rfl

/-- Declaring in the body of a function returns the headings unchanged. -/
theorem declareLocal_establishes {decl : Decl} (fresh : decl.outline.Fresh) :
    Establishes (CheckState.Sound hierarchy result) (declareLocal decl) fun heading =>
      heading = decl.heading := by
  cases decl with
  | varDef info var value =>
      simp only [Decl.outline, Outline.all_node, Outline.allIn_cons] at fresh
      refine (declareVar_establishes fresh.2.1).bind ?_
      rintro _ rfl
      exact .pure rfl
  | funcDef info heading declarations statements recovered =>
      simp only [Decl.outline, Outline.all_node, Outline.allIn_append] at fresh
      refine (declareFunction_establishes fresh.2.1).bind ?_
      rintro _ rfl
      exact .pure rfl
  | classDef info name superclass declarations => exact .pure rfl
  | globalDecl info name =>
      simp only [Decl.outline, Outline.all_node, Outline.allIn_cons, fresh_label_iff,
        Identifier.fresh_outline_iff] at fresh
      refine .bind .view ?_
      rintro _ ⟨state, sound, rfl⟩
      exact declareOuter_establishes (by decide) fresh.1 fresh.2.1.1 fun binding found =>
        (sound.scope.lookupGlobal found).known
  | nonlocalDecl info name =>
      simp only [Decl.outline, Outline.all_node, Outline.allIn_cons, fresh_label_iff,
        Identifier.fresh_outline_iff] at fresh
      refine .bind .view ?_
      rintro _ ⟨state, sound, rfl⟩
      exact declareOuter_establishes (by decide) fresh.1 fresh.2.1.1 fun binding found =>
        (sound.scope.lookupNonlocal found).known

theorem declareLocals_establishes {decls : List Decl}
    (fresh : ∀ decl ∈ decls, decl.outline.Fresh) :
    Establishes (CheckState.Sound hierarchy result) (declareLocals decls) fun headings =>
      headings = decls.map Decl.heading := by
  induction decls with
  | nil => exact .pure rfl
  | cons decl rest ih =>
      obtain ⟨first, others⟩ := List.forall_mem_cons.mp fresh
      refine (declareLocal_establishes first).bind ?_
      rintro _ rfl
      refine (ih others).bind ?_
      rintro _ rfl
      exact .pure rfl

/-! ## Bodies -/

variable {α : Type}

theorem within_establishes {kind : FrameKind} {name : String} {inner : Check α} {good : α → Prop}
    (establishes : Establishes (CheckState.Sound hierarchy result) inner good) :
    Establishes (CheckState.Sound hierarchy result) (within kind name inner) good := by
  intro state sound clean
  rw [within_apply] at clean ⊢
  obtain ⟨holds, after⟩ := establishes { state with scope := state.scope.enter kind name }
    ⟨sound.classes, sound.result, sound.scope.enter kind name⟩ clean
  exact ⟨holds, after.classes, after.result, after.scope.leave⟩

theorem returning_establishes {wanted : ValueType} {inner : Check α} [Has CheckState.Forgot inner]
    {good : α → Prop}
    (establishes : Establishes (CheckState.Sound hierarchy (some wanted)) inner good) :
    Establishes (CheckState.Sound hierarchy result) (returning wanted inner) good := by
  intro state sound clean
  obtain ⟨names, found, after⟩ : CheckState.Forgot _ _ :=
    Has.ran inner { state with results := wanted :: state.results }
  obtain ⟨holds, later⟩ := establishes { state with results := wanted :: state.results }
    ⟨sound.classes, rfl, sound.scope⟩ clean
  refine ⟨holds, later.classes, ?_, later.scope⟩
  change
    List.head? (inner { state with results := wanted :: state.results }).2.results.tail = result
  rw [after]
  exact sound.result

theorem demandReturn_establishes {wanted : ValueType} (known : wanted.Known)
    {statements : List Stmt} {name : Identifier} (fresh : name.info.error = none) :
    Establishes (CheckState.Sound hierarchy result) (demandReturn wanted statements false name)
      fun demanded => demanded = name ∧
        (hierarchy.isAssignable .none wanted ∨ anyReturns statements) := by
  refine .bind .get fun state sound => .ite (fun _ => (reportName_establishes fresh).mono
    fun _ impossible => impossible.elim) fun fine => .pure ⟨rfl, ?_⟩
  rw [sound.classes] at fine
  simp only [ClassHierarchy.needsReturn, known.isUnknown, Bool.not_false, Bool.true_and,
    Bool.and_eq_true, Bool.not_eq_true', not_and] at fine
  by_cases fits : hierarchy.isAssignable .none wanted
  · exact .inl fits
  · exact .inr (by simpa using fine (by simpa using fits))

theorem checkVarDef_establishes (classes : hierarchy.Sound) {info : NodeInfo} {var : TypedVar}
    {value : Expr} (fresh : (Decl.varDef info var value).outline.Fresh) :
    Establishes (CheckState.Sound hierarchy result) (checkVarDef info var value)
      (Decl.Accepted hierarchy) := by
  simp only [Decl.outline, Outline.all_node, Outline.allIn_cons, fresh_label_iff] at fresh
  refine (resolveVar_establishes fresh.2.1).bind ?_
  rintro _ rfl
  refine (infer_establishes classes value fresh.2.2.1).bind fun value accepted =>
    (demandFit_establishes fresh.1).bind ?_
  rintro _ ⟨rfl, fits⟩
  refine .pure ⟨.varDef accepted.typed fits, ?_⟩
  simpa [Decl.outline] using ⟨Outline.Fresh.known fresh.2.1, accepted.known⟩

end Check

/-! ## Declarations -/

/-- The heading of a declaration, for a class with the headings of its members. -/
def Decl.fullHeading : Decl → Heading
  | .classDef _ name superclass members => .ofClass name superclass (members.map Decl.heading)
  | decl => decl.heading

theorem Decl.fullHeading_eq {place : BodyKind} {decl : Decl} (wellFormed : decl.WellFormed place)
    (inner : place ≠ .program) : decl.fullHeading = decl.heading := by
  cases decl with
  | classDef info name superclass members => exact absurd wellFormed.1 inner
  | _ => rfl

theorem map_fullHeading {place : BodyKind} (inner : place ≠ .program) {decls : List Decl}
    (wellFormed : ∀ decl ∈ decls, decl.WellFormed place) :
    decls.map Decl.heading = decls.map Decl.fullHeading :=
  List.map_congr_left fun decl among => (Decl.fullHeading_eq (wellFormed decl among) inner).symm

namespace Check

variable {hierarchy : ClassHierarchy}

/-- In the body of a function its signature is known. -/
theorem checkBody_establishes (classes : hierarchy.Sound) {heading : FunctionHeading}
    {declarations : List Decl} {statements : List Stmt} {result : Option ValueType}
    (freshParams : ∀ var ∈ heading.params, var.outline.Fresh)
    (freshLocals : ∀ decl ∈ declarations, decl.outline.Fresh)
    (raw : ∀ stmt ∈ statements, stmt.Raw)
    (inner : Establishes (CheckState.Sound hierarchy (some heading.signature.result))
      (checkDecls declarations (declarations.map Decl.heading))
      fun checked => ∀ decl ∈ checked, decl.Accepted hierarchy) :
    Establishes (CheckState.Sound hierarchy result)
      (checkBody heading heading.signature declarations statements) fun body =>
        body.1 = heading.params ∧ (∀ decl ∈ body.2.1, decl.Accepted hierarchy) ∧
          ∀ stmt ∈ body.2.2, stmt.Accepted hierarchy (some heading.signature.result) := by
  refine within_establishes ((declareParams_establishes freshParams heading.params_known).bind ?_)
  rintro _ rfl
  refine (declareLocals_establishes freshLocals).bind ?_
  rintro _ rfl
  refine returning_establishes (inner.bind fun declarations accepted => ?_)
  exact ((checkStmt_establishes classes).2 statements raw).bind fun statements typed =>
    .pure ⟨rfl, accepted, typed⟩

/-- Checking bodies without finding a problem types them. -/
theorem checkDecl_establishes (classes : hierarchy.Sound) :
    (∀ (decl : Decl) (heading : Heading), (∃ place, decl.Raw False place) →
      heading = decl.fullHeading → ∀ result, Establishes (CheckState.Sound hierarchy result)
        (checkDecl decl heading) (Decl.Accepted hierarchy)) ∧
    ∀ (decls : List Decl) (headings : List Heading),
      (∀ decl ∈ decls, ∃ place, decl.Raw False place) → headings = decls.map Decl.fullHeading →
        ∀ result, Establishes (CheckState.Sound hierarchy result) (checkDecls decls headings)
          fun checked => ∀ decl ∈ checked, decl.Accepted hierarchy := by
  apply Decl.mutual_induction
  case varDef =>
    rintro info var value _ ⟨place, raw⟩ ⟨⟩ result
    unfold checkDecl
    exact checkVarDef_establishes classes raw.fresh
  case funcDef =>
    rintro info heading declarations statements recovered ih _ ⟨place, raw⟩ ⟨⟩ result
    have fresh := raw.fresh
    simp only [Decl.outline, Outline.all_node, Outline.allIn_append, Decl.allIn_outlines,
      Stmt.allIn_outlines, fresh_label_iff] at fresh
    obtain ⟨freshInfo, freshHeading, freshLocals, freshBody⟩ := fresh
    have kept : recovered = false := by
      cases lost : recovered with
      | false => rfl
      | true =>
        exact (raw.recovered (heading.name.name, recovered) (by simp [Decl.functions]) lost).elim
    obtain ⟨freshName, freshParams⟩ := FunctionHeading.fresh_parts freshHeading
    have headings : declarations.map Decl.heading = declarations.map Decl.fullHeading :=
      map_fullHeading (by decide) fun decl among => (raw.locals decl among).wellFormed
    change Establishes _ (checkDecl _ (.function heading)) _
    rw [checkDecl_function]
    refine (resolveSignature_establishes freshHeading).bind ?_
    rintro _ rfl
    refine (checkBody_establishes classes freshParams freshLocals raw.body
      (ih _ (fun decl among => ⟨_, raw.locals decl among⟩) headings _)).bind ?_
    rintro ⟨_, declarations, statements⟩ ⟨rfl, accepted, typed⟩
    subst kept
    refine (demandReturn_establishes heading.returns.denoted_known freshName).bind ?_
    rintro _ ⟨rfl, ends⟩
    refine .pure ⟨.funcDef (fun decl among => (accepted decl among).wellTyped)
      (fun stmt among => (typed stmt among).wellTyped) ends, ?_⟩
    have knownHeading : Outline.AllIn Label.Known heading.outlines :=
      (Outline.allIn_iff _).mpr fun outline among =>
        Outline.Fresh.known ((Outline.allIn_iff _).mp freshHeading outline among)
    simp only [Decl.outline, Outline.all_node, Outline.allIn_append, known_label_iff, true_and,
      Decl.allIn_outlines, Stmt.allIn_outlines]
    exact ⟨knownHeading, fun decl among => (accepted decl among).known,
      fun stmt among => (typed stmt among).known⟩
  case classDef =>
    rintro info name superclass declarations ih _ ⟨place, raw⟩ ⟨⟩ result
    have fresh := raw.fresh
    simp only [Decl.outline, Outline.all_node, Outline.allIn_cons, fresh_label_iff] at fresh
    have headings : declarations.map Decl.heading = declarations.map Decl.fullHeading :=
      map_fullHeading (by decide) fun decl among => (raw.members decl among).wellFormed
    unfold checkDecl
    refine (ih _ (fun decl among => ⟨_, raw.members decl among⟩) headings result).bind
      fun members accepted =>
        .pure ⟨.classDef fun decl among => (accepted decl among).wellTyped, ?_⟩
    simp only [Decl.outline, Outline.all_node, Outline.allIn_cons, known_label_iff, true_and,
      Decl.allIn_outlines]
    exact ⟨Outline.Fresh.known fresh.2.1, Outline.Fresh.known fresh.2.2.1,
      fun decl among => (accepted decl among).known⟩
  case globalDecl =>
    rintro info name _ ⟨place, raw⟩ ⟨⟩ result
    unfold checkDecl
    exact .pure ⟨.globalDecl, raw.fresh.known⟩
  case nonlocalDecl =>
    rintro info name _ ⟨place, raw⟩ ⟨⟩ result
    unfold checkDecl
    exact .pure ⟨.nonlocalDecl, raw.fresh.known⟩
  case nil =>
    rintro _ - ⟨⟩ result
    unfold checkDecls
    exact .pure (by simp)
  case cons =>
    rintro decl rest ihDecl ihRest _ raw ⟨⟩ result
    obtain ⟨first, others⟩ := List.forall_mem_cons.mp raw
    unfold checkDecls
    exact (ihDecl _ first rfl result).bind fun decl accepted =>
      (ihRest _ others rfl result).bind fun rest more =>
        .pure (List.forall_mem_cons.mpr ⟨accepted, more⟩)

end Check
end ChocoLang
