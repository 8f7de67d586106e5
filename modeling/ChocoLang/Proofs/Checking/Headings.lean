import ChocoLang.Proofs.Checking.FirstPass

/-!
# Declarations and their headings

Whatever is known before, the headings that the first look at declarations returns are those of the
declarations.  So the bodies are always checked with headings that fit, and an induction over
declarations with such headings has one case for each sort of declaration.
-/

namespace ChocoLang

mutual

/-- The heading is one of the declaration, and the types of parameters in it can be written. -/
def Decl.Headed : Decl → Heading → Prop
  | .varDef _ _ _, .variable _ => True
  | .funcDef _ _ _ _ _, .function heading => ∀ var ∈ heading.params, var.written.Writable
  | .classDef _ _ _ members, .ofClass _ _ headings => HeadedAll members headings
  | .globalDecl _ _, .outer _ _ | .nonlocalDecl _ _, .outer _ _ => True
  | _, _ => False

/-- The headings are those of the declarations, one by one. -/
def HeadedAll : List Decl → List Heading → Prop
  | [], [] => True
  | decl :: decls, heading :: headings => decl.Headed heading ∧ HeadedAll decls headings
  | _, _ => False

end

/-- Induction over declarations as they are read, with the headings that were looked at. -/
theorem headed_induction {one : Decl → Heading → Prop} {all : List Decl → List Heading → Prop}
    (varDef : ∀ {place info var value} looked, (Decl.varDef info var value).Raw True place →
      one (.varDef info var value) (.variable looked))
    (funcDef : ∀ {place info heading declarations statements recovered} looked,
      (∀ headings, HeadedAll declarations headings → all declarations headings) →
        (Decl.funcDef info heading declarations statements recovered).Raw True place →
          (∀ var ∈ looked.params, var.written.Writable) →
            one (.funcDef info heading declarations statements recovered) (.function looked))
    (classDef : ∀ {place info name superclass members} called parent {headings},
      all members headings → (Decl.classDef info name superclass members).Raw True place →
        one (.classDef info name superclass members) (.ofClass called parent headings))
    (globalDecl : ∀ info name node looked, one (.globalDecl info name) (.outer node looked))
    (nonlocalDecl : ∀ info name node looked, one (.nonlocalDecl info name) (.outer node looked))
    (nil : all [] [])
    (cons : ∀ {decl decls heading headings}, one decl heading → all decls headings →
      all (decl :: decls) (heading :: headings)) :
    (∀ decl heading, (∃ place, decl.Raw True place) → decl.Headed heading → one decl heading) ∧
      ∀ decls headings, (∀ decl ∈ decls, ∃ place, decl.Raw True place) →
        HeadedAll decls headings → all decls headings := by
  apply Decl.mutual_induction
  case varDef =>
    rintro info var value heading ⟨place, raw⟩ headed
    match heading with
    | .variable looked => exact varDef looked raw
    | .function _ | .ofClass _ _ _ | .outer _ _ => exact headed.elim
  case funcDef =>
    rintro info heading declarations statements recovered inner heading' ⟨place, raw⟩ headed
    match heading' with
    | .function looked =>
        exact funcDef looked (fun headings => inner headings fun decl among =>
          ⟨_, raw.locals decl among⟩) raw headed
    | .variable _ | .ofClass _ _ _ | .outer _ _ => exact headed.elim
  case classDef =>
    rintro info name superclass members inner heading ⟨place, raw⟩ headed
    match heading with
    | .ofClass called parent headings =>
        exact classDef called parent
          (inner headings (fun decl among => ⟨_, raw.members decl among⟩) headed) raw
    | .variable _ | .function _ | .outer _ _ => exact headed.elim
  case globalDecl =>
    intro info name heading _ headed
    match heading with
    | .outer node looked => exact globalDecl info name node looked
    | .variable _ | .function _ | .ofClass _ _ _ => exact headed.elim
  case nonlocalDecl =>
    intro info name heading _ headed
    match heading with
    | .outer node looked => exact nonlocalDecl info name node looked
    | .variable _ | .function _ | .ofClass _ _ _ => exact headed.elim
  case nil =>
    intro headings _ headed
    cases headings with
    | nil => exact nil
    | cons => exact headed.elim
  case cons =>
    intro decl rest ihDecl ihRest headings raw headed
    obtain ⟨first, others⟩ := List.forall_mem_cons.mp raw
    cases headings with
    | nil => exact headed.elim
    | cons heading headings =>
        exact cons (ihDecl heading first headed.1) (ihRest headings others headed.2)

namespace Check

/-! ## Written types -/

theorem resolve_writable {written : WrittenType} (writable : written.Writable)
    (state : CheckState) :
    (resolve written state).1.1.Writable ∧ (resolve written state).1.2 ≠ .none := by
  induction written generalizing state with
  | named info name =>
      simp only [resolve, bind_apply, get_apply]
      have other : name ≠ ValueType.none.display := writable
      cases found : state.namedType? name with
      | none => exact ⟨writable, fun same => by cases same⟩
      | some type =>
          refine ⟨writable, ?_⟩
          unfold CheckState.namedType? at found
          rw [if_neg other] at found
          split at found
          · cases found
            exact fun same => other (ValueType.classType.inj same)
          · cases found
  | list info element ih => exact ⟨(ih writable state).1, fun same => by cases same⟩

theorem resolveVars_cons (var : TypedVar) (rest : List TypedVar) (state : CheckState) :
    (resolveVars (var :: rest) state).1 =
      ((resolveVar var state).1.1 :: (resolveVars rest (resolveVar var state).2).1.1,
        (resolveVar var state).1.2 :: (resolveVars rest (resolveVar var state).2).1.2) := rfl

theorem resolveVars_writable {vars : List TypedVar} (writable : ∀ var ∈ vars, var.written.Writable)
    (state : CheckState) :
    (∀ var ∈ (resolveVars vars state).1.1, var.written.Writable) ∧
      ∀ type ∈ (resolveVars vars state).1.2, type ≠ .none := by
  induction vars generalizing state with
  | nil => exact ⟨List.forall_mem_nil _, List.forall_mem_nil _⟩
  | cons var rest ih =>
      rw [List.forall_mem_cons] at writable
      obtain ⟨first, type⟩ := resolve_writable writable.1 state
      obtain ⟨others, types⟩ := ih writable.2 (resolveVar var state).2
      rw [resolveVars_cons]
      exact ⟨List.forall_mem_cons.mpr ⟨first, others⟩, List.forall_mem_cons.mpr ⟨type, types⟩⟩

theorem resolveSignature_writable {heading : FunctionHeading}
    (writable : ∀ var ∈ heading.params, var.written.Writable) (state : CheckState) :
    (∀ var ∈ (resolveSignature heading state).1.1.params, var.written.Writable) ∧
      ∀ type ∈ (resolveSignature heading state).1.2.params, type ≠ .none :=
  resolveVars_writable writable state

/-! ## The first look -/

theorem declareOuter_outer (found : Option Binding) (allowed : List BindingKind)
    (kind : BindingKind) (error : CheckError) (info : NodeInfo) (name : Identifier)
    (state : CheckState) :
    ∃ node identifier,
      (declareOuter found allowed kind error info name state).1 = .outer node identifier := by
  unfold declareOuter
  cases found.filter fun binding => allowed.contains binding.kind with
  | none => exact ⟨(report error info state).1, name, rfl⟩
  | some binding => exact ⟨info, (declare name binding.type kind state).1.1, rfl⟩

theorem declareLocal_headed {decl : Decl} (wellFormed : decl.WellFormed .ofFunction)
    (state : CheckState) : decl.Headed (declareLocal decl state).1 := by
  cases decl with
  | varDef => exact trivial
  | funcDef _ heading _ _ _ => exact (resolveSignature_writable wellFormed.1.1 state).1
  | classDef => exact absurd wellFormed.1 (by decide)
  | globalDecl info name =>
      obtain ⟨_, _, shape⟩ := declareOuter_outer (state.scope.lookupGlobal name.name)
        [.ownVariable] .globalReference (.notGlobal name.name) info name state
      change (Decl.globalDecl info name).Headed (declareOuter _ _ _ _ _ _ state).1
      rw [shape]
      trivial
  | nonlocalDecl info name =>
      obtain ⟨_, _, shape⟩ := declareOuter_outer (state.scope.lookupNonlocal name.name)
        [.ownVariable, .parameter] .nonlocalReference (.notNonlocal name.name) info name state
      change (Decl.nonlocalDecl info name).Headed (declareOuter _ _ _ _ _ _ state).1
      rw [shape]
      trivial

theorem declareLocals_headed {decls : List Decl}
    (wellFormed : ∀ decl ∈ decls, decl.WellFormed .ofFunction) (state : CheckState) :
    HeadedAll decls (declareLocals decls state).1 := by
  induction decls generalizing state with
  | nil => exact trivial
  | cons decl rest ih =>
      obtain ⟨first, others⟩ := List.forall_mem_cons.mp wellFormed
      exact ⟨declareLocal_headed first state, ih others _⟩

theorem params_declareMethod (info : ClassInfo) (heading : FunctionHeading) (state : CheckState) :
    (declareMethod info heading state).1.2.params =
      (resolveSignature heading state).1.1.params := by
  rw [declareMethod_eq]
  simp only [bind_apply]
  split <;> rfl

theorem declareMembers_headed {decls : List Decl}
    (wellFormed : ∀ decl ∈ decls, decl.WellFormed .ofClass) (info : ClassInfo)
    (state : CheckState) : HeadedAll decls (declareMembers info decls state).1.2 := by
  induction decls generalizing info state with
  | nil => exact trivial
  | cons decl rest ih =>
      obtain ⟨first, others⟩ := List.forall_mem_cons.mp wellFormed
      rw [declareMembers_cons]
      refine ⟨?_, ih others _ _⟩
      cases decl with
      | varDef _ _ _ => exact trivial
      | funcDef _ heading _ _ _ =>
          change ∀ var ∈ (declareMethod info heading state).1.2.params, var.written.Writable
          rw [params_declareMethod]
          exact (resolveSignature_writable first.1.1 state).1
      | classDef _ _ _ _ => exact absurd first.1 (by decide)
      | globalDecl _ _ | nonlocalDecl _ _ => exact trivial

theorem declareGlobal_headed {decl : Decl} (wellFormed : decl.WellFormed .program)
    (state : CheckState) : decl.Headed (declareGlobal decl state).1 := by
  cases decl with
  | varDef => exact trivial
  | funcDef _ heading _ _ _ => exact (resolveSignature_writable wellFormed.1.1 state).1
  | classDef _ name superclass members =>
      change (Decl.classDef _ name superclass members).Headed
        (declareClass name superclass members state).1
      rw [declareClass_apply]
      exact declareMembers_headed ((wellFormedDecls_iff _ _).mp wellFormed.2) _ _
  | globalDecl | nonlocalDecl => exact trivial

theorem declareGlobals_headed {decls : List Decl}
    (wellFormed : ∀ decl ∈ decls, decl.WellFormed .program) (state : CheckState) :
    HeadedAll decls (declareGlobals decls state).1 := by
  induction decls generalizing state with
  | nil => exact trivial
  | cons decl rest ih =>
      obtain ⟨first, others⟩ := List.forall_mem_cons.mp wellFormed
      exact ⟨declareGlobal_headed first state, ih others _⟩

end Check

namespace Program

variable {program : Program}

/-- The declarations of a program that was read are as they stand at the top level. -/
theorem Raw.topLevel (raw : program.Raw) : ∀ decl ∈ program.declarations, decl.Raw True .program :=
  fun decl among => (raw.declarations decl among).mono fun _ => trivial

/-- The first pass over a program that was read returns the headings of its declarations. -/
theorem Raw.headed (raw : program.Raw) : HeadedAll program.declarations program.declared.1 :=
  Check.declareGlobals_headed (fun decl among => (raw.topLevel decl among).wellFormed) _

end Program
end ChocoLang
