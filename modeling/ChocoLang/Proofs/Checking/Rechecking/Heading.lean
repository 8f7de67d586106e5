import ChocoLang.Proofs.Checking.FirstPass
import ChocoLang.Proofs.Checking.Headings
import ChocoLang.Proofs.Checking.Rechecking.Statement
import Mathlib.Data.List.Forall2

/-!
# Declaring again

A name is declared before its body is checked, and the body may add an error to it: to a parameter,
say, or to the name of a function that does not return.  A heading that has such errors besides its
own is declared like the one without them: the same names are bound to the same types, at the same
places in the text, and no problem is found.
-/

namespace ChocoLang

/-! ## Later headings -/

/-- The second written type is the first one, where errors may have been recorded since. -/
inductive WrittenType.Extends : WrittenType → WrittenType → Prop where
  | named {first second : NodeInfo} {name : String} (later : first.Extends second) :
    Extends (.named first name) (.named second name)
  | list {info : NodeInfo} {first second : WrittenType} (later : first.Extends second) :
    Extends (.list info first) (.list info second)

/-- The second variable is the first one, where errors may have been recorded since. -/
structure TypedVar.Extends (first second : TypedVar) : Prop where
  /-- What is recorded at the name. -/
  identifier : first.identifier.Extends second.identifier
  /-- What is recorded at the written type. -/
  written : first.written.Extends second.written

/-- The second heading is the first one, where errors may have been recorded since. -/
structure FunctionHeading.Extends (first second : FunctionHeading) : Prop where
  /-- What is recorded at the name. -/
  name : first.name.Extends second.name
  /-- What is recorded at the parameters. -/
  params : List.Forall₂ TypedVar.Extends first.params second.params
  /-- What is recorded at the written type of the result. -/
  returns : first.returns.Extends second.returns

theorem Identifier.Extends.trans {first second third : Identifier} (later : first.Extends second)
    (last : second.Extends third) : first.Extends third :=
  ⟨later.1.trans last.1, last.2.trans later.2⟩

/-- Where an error is recorded at a name, nothing is recorded later. -/
theorem Identifier.Extends.eq {first second : Identifier} (later : first.Extends second)
    (error : first.info.error.isSome) : second = first := by
  obtain ⟨⟨node, type⟩, name⟩ := first
  obtain ⟨⟨node', type'⟩, name'⟩ := second
  obtain ⟨⟨recorded, rfl⟩, rfl⟩ := later
  obtain rfl := recorded.eq error
  rfl

theorem WrittenType.Extends.refl (written : WrittenType) : written.Extends written := by
  induction written with
  | named info name => exact .named (.refl info)
  | list info element ih => exact .list ih

theorem WrittenType.Extends.trans {first second third : WrittenType} (later : first.Extends second)
    (last : second.Extends third) : first.Extends third := by
  induction later generalizing third with
  | named later => cases last with | named last => exact .named (later.trans last)
  | list later ih => cases last with | list last => exact .list (ih last)

theorem TypedVar.Extends.refl (var : TypedVar) : var.Extends var := ⟨.refl _, .refl _⟩

theorem TypedVar.Extends.trans {first second third : TypedVar} (later : first.Extends second)
    (last : second.Extends third) : first.Extends third :=
  ⟨later.identifier.trans last.identifier, later.written.trans last.written⟩

theorem TypedVar.Extends.refl_all (vars : List TypedVar) :
    List.Forall₂ TypedVar.Extends vars vars :=
  List.forall₂_same.mpr fun var _ => .refl var

theorem TypedVar.Extends.trans_all {first second third : List TypedVar}
    (later : List.Forall₂ TypedVar.Extends first second)
    (last : List.Forall₂ TypedVar.Extends second third) :
    List.Forall₂ TypedVar.Extends first third := by
  induction later generalizing third with
  | nil => cases last; exact .nil
  | cons own _ ih => cases last with | cons own' rest => exact .cons (own.trans own') (ih rest)

theorem FunctionHeading.Extends.trans {first second third : FunctionHeading}
    (later : first.Extends second) (last : second.Extends third) : first.Extends third :=
  ⟨later.name.trans last.name, TypedVar.Extends.trans_all later.params last.params,
    later.returns.trans last.returns⟩

/-! ## Checked declarations -/

mutual

/-- The heading that a checked declaration has, members included. -/
def Decl.wholeHeading : Decl → Heading
  | .varDef _ var _ => .variable var
  | .funcDef _ heading _ _ _ => .function heading
  | .classDef _ name superclass members => .ofClass name superclass (wholeHeadings members)
  | .globalDecl info name | .nonlocalDecl info name => .outer info name

/-- The headings that checked declarations have. -/
def wholeHeadings : List Decl → List Heading
  | [] => []
  | decl :: rest => decl.wholeHeading :: wholeHeadings rest

end

mutual

/--
A declaration whose heading was looked at has become another one: the same sort of declaration with
that heading, where errors may have been recorded since.
-/
inductive Decl.Becomes : Decl → Heading → Decl → Prop where
  | varDef {info info' : NodeInfo} {var looked var' : TypedVar} {value value' : Expr}
    (later : looked.Extends var') :
    Decl.Becomes (.varDef info var value) (.variable looked) (.varDef info' var' value')
  | funcDef {info info' : NodeInfo} {heading looked heading' : FunctionHeading}
    {declarations declarations' : List Decl} {statements statements' : List Stmt}
    {recovered recovered' : Bool} (later : looked.Extends heading') :
    Decl.Becomes (.funcDef info heading declarations statements recovered) (.function looked)
      (.funcDef info' heading' declarations' statements' recovered')
  | classDef {info info' : NodeInfo} {name superclass called parent : Identifier}
    {members members' : List Decl} {headings : List Heading}
    (inside : BecomeAll members headings members') :
    Decl.Becomes (.classDef info name superclass members) (.ofClass called parent headings)
      (.classDef info' called parent members')
  | globalDecl {info node : NodeInfo} {name looked : Identifier} :
    Decl.Becomes (.globalDecl info name) (.outer node looked) (.globalDecl node looked)
  | nonlocalDecl {info node : NodeInfo} {name looked : Identifier} :
    Decl.Becomes (.nonlocalDecl info name) (.outer node looked) (.nonlocalDecl node looked)

/-- Declarations whose headings were looked at have become other ones, one by one. -/
inductive BecomeAll : List Decl → List Heading → List Decl → Prop where
  | nil : BecomeAll [] [] []
  | cons {decl decl' : Decl} {decls decls' : List Decl} {heading : Heading}
    {headings : List Heading} (first : decl.Becomes heading decl')
    (others : BecomeAll decls headings decls') :
    BecomeAll (decl :: decls) (heading :: headings) (decl' :: decls')

end

namespace Check

/-! ## Names -/

/-- Reports a name if something is wrong with it. -/
def reportNameIf (wrong : CheckState → Option CheckError) (name : Identifier) :
    Check Identifier := do
  match wrong (← get) with
  | some error => reportName error name
  | none => return name

theorem reportName_extends (error : CheckError) (name : Identifier) (state : CheckState) :
    name.Extends (reportName error name state).1 :=
  ⟨⟨report_extends error name.info.toNodeInfo state, rfl⟩, rfl⟩

theorem error_reportName (error : CheckError) (name : Identifier) (state : CheckState) :
    (reportName error name state).1.info.error.isSome :=
  error_report error name.info.toNodeInfo state

theorem reportName_of_extends {error : CheckError} {name final : Identifier} {state : CheckState}
    (later : (reportName error name state).1.Extends final) :
    Again (reportName error final) final state (reportName error name state).2 := by
  have known := error_reportName error name state
  rw [later.eq known]
  exact Again.to_reported (fun _ => reportName_again error known _) (Has.ran _ state)

theorem reportNameIf_extends (wrong : CheckState → Option CheckError) (name : Identifier)
    (state : CheckState) : name.Extends (reportNameIf wrong name state).1 := by
  unfold reportNameIf
  rw [bind_apply, get_apply]
  cases wrong state with
  | none => exact .refl name
  | some error => exact reportName_extends error name state

theorem reportNameIf_again {wrong : CheckState → Option CheckError}
    (blind : ∀ state others, wrong (CheckState.withProblems state others) = wrong state)
    {name final : Identifier} {state : CheckState}
    (later : (reportNameIf wrong name state).1.Extends final) :
    Again (reportNameIf wrong final) final state (reportNameIf wrong name state).2 := by
  unfold reportNameIf at later ⊢
  refine Again.get (fun others => by rw [blind]) ?_
  rw [bind_apply, get_apply] at later ⊢
  dsimp only at later ⊢
  cases found : wrong state with
  | none => exact .pure final state
  | some error =>
      rw [found] at later
      exact reportName_of_extends later

theorem declare_extends (name : Identifier) (type : ValueType) (kind : BindingKind)
    (state : CheckState) : name.Extends (declare name type kind state).1.1 := by
  cases found : state.clash? name.name kind with
  | none =>
      rw [declare_of_free type found]
      exact .refl name
  | some error =>
      rw [declare_of_clash type found]
      exact reportName_extends error name state

/-- A name is bound as before, also if an error is recorded at it after it was bound. -/
theorem declare_again {name final : Identifier} {type : ValueType} {kind : BindingKind}
    {state : CheckState} (later : (declare name type kind state).1.1.Extends final) :
    Again (declare final type kind) (final, (declare name type kind state).1.2) state
      (declare name type kind state).2 := by
  have same := ((declare_extends name type kind state).trans later).2
  cases found : state.clash? name.name kind with
  | none =>
      rw [declare_of_free type found] at later ⊢
      -- The binding holds the place of the name, which no error changes.
      have place := later.1.1.span
      intro others
      refine (declare_of_free type (by rw [same]; exact found)).trans ?_
      rw [same, place]
      rfl
  | some error =>
      rw [declare_of_clash type found] at later ⊢
      have known := error_reportName error name state
      obtain rfl := later.eq known
      intro others
      refine (declare_of_clash type (by rw [same]; exact found)).trans ?_
      rw [reportName_again error known]
      have reported : state.Reported _ := Has.ran (reportName error name) state
      rw [reported.withProblems]

/-! ## Written types -/

theorem resolve_extends (written : WrittenType) (state : CheckState) :
    written.Extends (resolve written state).1.1 := by
  induction written with
  | named info name =>
      simp only [resolve, bind_apply, get_apply]
      cases state.namedType? name with
      | none => exact .named (report_extends _ info state)
      | some type => exact .named (.refl info)
  | list info element ih => exact .list ih

theorem resolve_again {written final : WrittenType} {state : CheckState}
    (later : (resolve written state).1.1.Extends final) :
    Again (resolve final) (final, (resolve written state).1.2) state
      (resolve written state).2 := by
  induction written generalizing final with
  | named info name =>
      simp only [resolve, bind_apply, get_apply] at later ⊢
      cases found : state.namedType? name with
      | none =>
          simp only [found, bind_apply, pure_apply] at later ⊢
          cases later with | named recorded =>
          refine Again.get (fun _ => rfl) ?_
          simp only [found]
          exact (report_of_extends recorded).bind (.pure _ _)
      | some type =>
          simp only [found, pure_apply] at later ⊢
          cases later with | named recorded =>
          refine Again.get (fun _ => rfl) ?_
          simp only [found]
          exact .pure _ state
  | list info element ih =>
      simp only [resolve, bind_apply, pure_apply] at later ⊢
      cases later with | list inside =>
      exact (ih inside).bind (.pure _ _)

theorem resolveVar_extends (var : TypedVar) (state : CheckState) :
    var.Extends (resolveVar var state).1.1 :=
  ⟨.refl _, resolve_extends var.written state⟩

theorem resolveVar_again {var final : TypedVar} {state : CheckState}
    (later : (resolveVar var state).1.1.written.Extends final.written) :
    Again (resolveVar final) (final, (resolveVar var state).1.2) state (resolveVar var state).2 :=
  (resolve_again later).bind (.pure _ _)

theorem resolveVars_extends (vars : List TypedVar) (state : CheckState) :
    List.Forall₂ TypedVar.Extends vars (resolveVars vars state).1.1 := by
  induction vars generalizing state with
  | nil => exact .nil
  | cons var rest ih => exact .cons (resolveVar_extends var state) (ih _)

theorem resolveVars_again {vars finals : List TypedVar} {state : CheckState}
    (later : List.Forall₂ TypedVar.Extends (resolveVars vars state).1.1 finals) :
    Again (resolveVars finals) (finals, (resolveVars vars state).1.2) state
      (resolveVars vars state).2 := by
  induction vars generalizing finals state with
  | nil =>
      cases later
      exact .pure ([], []) state
  | cons var rest ih =>
      simp only [resolveVars, bind_apply, pure_apply] at later ⊢
      cases later with | cons own others =>
      exact (resolveVar_again own.written).bind ((ih others).bind (.pure _ _))

theorem resolveSignature_extends (heading : FunctionHeading) (state : CheckState) :
    heading.Extends (resolveSignature heading state).1.1 :=
  ⟨.refl _, resolveVars_extends heading.params state, resolve_extends heading.returns _⟩

theorem resolveSignature_again {heading final : FunctionHeading} {state : CheckState}
    (later : (resolveSignature heading state).1.1.Extends final) :
    Again (resolveSignature final) (final, (resolveSignature heading state).1.2) state
      (resolveSignature heading state).2 :=
  (resolveVars_again later.params).bind ((resolve_again later.returns).bind (.pure _ _))

/-! ## Variables and functions -/

theorem declareVar_again {var final : TypedVar} {state : CheckState}
    (later : (declareVar var state).1.Extends final) :
    Again (declareVar final) final state (declareVar var state).2 :=
  (resolveVar_again later.written).bind ((declare_again later.identifier).bind (.pure _ _))

theorem declareFunction_again {heading final : FunctionHeading} {state : CheckState}
    (later : (declareFunction heading state).1.Extends final) :
    Again (declareFunction final) final state (declareFunction heading state).2 := by
  have named := declare_extends (resolveSignature heading state).1.1.name
    (resolveSignature heading state).1.2.type .function (resolveSignature heading state).2
  refine (resolveSignature_again ⟨named.trans later.name, later.params, later.returns⟩).bind ?_
  exact (declare_again later.name).bind (.pure _ _)

theorem declareParams_extends (vars : List TypedVar) (types : List ValueType)
    (state : CheckState) : List.Forall₂ TypedVar.Extends vars (declareParams vars types state).1 := by
  induction vars generalizing types state with
  | nil =>
      unfold declareParams
      exact .nil
  | cons var rest ih =>
      cases types with
      | nil =>
          unfold declareParams
          exact TypedVar.Extends.refl_all _
      | cons type types =>
          simp only [declareParams, bind_apply, pure_apply]
          exact .cons ⟨declare_extends _ _ _ _, .refl _⟩ (ih _ _)

theorem declareParams_repeats (vars : List TypedVar) (types : List ValueType) :
    Repeats (declareParams vars types) (declareParams · types) := by
  intro state
  induction vars generalizing types state with
  | nil =>
      unfold declareParams
      exact .pure [] state
  | cons var rest ih =>
      cases types with
      | nil =>
          unfold declareParams
          exact .pure (var :: rest) state
      | cons type types =>
          simp only [declareParams, bind_apply, pure_apply]
          exact (declare_again (.refl _)).bind ((ih types _).bind (.pure _ _))

/-! ## Members -/

theorem declareAttribute_again {info : ClassInfo} {var final : TypedVar} {state : CheckState}
    (later : (declareAttribute info var state).1.2.Extends final) :
    Again (declareAttribute info final) ((declareAttribute info var state).1.1, final) state
      (declareAttribute info var state).2 := by
  unfold declareAttribute at later ⊢
  simp only [bind_apply] at later ⊢
  have resolved {final : TypedVar} := @resolveVar_again var final state
  generalize resolveVar var state = ran at resolved later ⊢
  obtain ⟨⟨var, type⟩, between⟩ := ran
  have named {final : Identifier} := @declare_again var.identifier final type .ownVariable between
  dsimp only at later resolved ⊢
  generalize declare var.identifier type .ownVariable between = declared at named later ⊢
  obtain ⟨⟨identifier, bound⟩, after⟩ := declared
  dsimp only at later named ⊢
  cases bound with
  | false => exact (resolved later.written).bind ((named later.identifier).bind (.pure _ _))
  | true =>
      simp only [Bool.not_true, Bool.false_eq_true, if_false] at later ⊢
      by_cases member : info.hasMember identifier.name = true
      · simp only [if_pos member, bind_apply, pure_apply] at later ⊢
        have reported := (reportName_extends _ identifier after).trans later.identifier
        refine (resolved later.written).bind ((named reported).bind ?_)
        simp only [reported.2, if_pos member, Bool.not_true, Bool.false_eq_true, if_false]
        exact (reportName_of_extends later.identifier).bind (.pure _ _)
      · simp only [if_neg member, pure_apply] at later ⊢
        refine (resolved later.written).bind ((named later.identifier).bind ?_)
        simp only [later.identifier.2, if_neg member, Bool.not_true, Bool.false_eq_true, if_false]
        exact .pure _ after

theorem demandMethod_extends (info : ClassInfo) (signature : Signature) (name : Identifier)
    (state : CheckState) : name.Extends (demandMethod info signature name state).1 :=
  reportNameIf_extends (·.hierarchy.methodError? info name.name signature) name state

theorem demandMethod_again {info : ClassInfo} {signature : Signature} {name final : Identifier}
    {state : CheckState} (later : (demandMethod info signature name state).1.Extends final) :
    Again (demandMethod info signature final) final state
      (demandMethod info signature name state).2 := by
  have same := ((demandMethod_extends info signature name state).trans later).2
  have again := reportNameIf_again (fun _ _ => rfl) later
  unfold demandMethod
  rw [same]
  exact again

theorem declareMethod_again {info : ClassInfo} {heading final : FunctionHeading}
    {state : CheckState} (later : (declareMethod info heading state).1.2.Extends final) :
    Again (declareMethod info final) ((declareMethod info heading state).1.1, final) state
      (declareMethod info heading state).2 := by
  simp only [declareMethod_eq, bind_apply] at later ⊢
  have resolved {final : FunctionHeading} := @resolveSignature_again heading final state
  generalize resolveSignature heading state = ran at resolved later ⊢
  obtain ⟨⟨heading, signature⟩, between⟩ := ran
  have named {final : Identifier} :=
    @declare_again heading.name final signature.type .function between
  have bound := declare_extends heading.name signature.type .function between
  dsimp only at later resolved ⊢
  generalize declare heading.name signature.type .function between = declared at named bound later ⊢
  obtain ⟨⟨name, free⟩, after⟩ := declared
  dsimp only at later named bound ⊢
  cases free with
  | false =>
      have whole : heading.Extends final := ⟨bound.trans later.name, later.params, later.returns⟩
      exact (resolved whole).bind ((named later.name).bind (.pure _ _))
  | true =>
      simp only [Bool.not_true, Bool.false_eq_true, if_false, bind_apply, pure_apply] at later ⊢
      -- What is wrong with the method is recorded at the name after it was bound.
      have demanded := (demandMethod_extends info signature name after).trans later.name
      have whole : heading.Extends final :=
        ⟨bound.trans demanded, later.params, later.returns⟩
      have same := (demandMethod_extends info signature name after).2
      refine (resolved whole).bind ((named demanded).bind ?_)
      refine (demandMethod_again later.name).bind ?_
      rw [same, ← demanded.2]
      exact .pure _ _

theorem declareMember_again {info : ClassInfo} {decl final : Decl} {state : CheckState}
    (becomes : decl.Becomes (declareMember info decl state).1.2 final) :
    Again (declareMember info final) ((declareMember info decl state).1.1, final.wholeHeading) state
      (declareMember info decl state).2 := by
  generalize found : (declareMember info decl state).1.2 = looked at becomes
  cases becomes with
  | varDef later =>
      cases found
      exact (declareAttribute_again later).bind (.pure _ _)
  | funcDef later =>
      cases found
      exact (declareMethod_again later).bind (.pure _ _)
  | classDef inside =>
      -- A class among members is not looked into, so it has no members here.
      cases found
      cases inside
      exact .pure _ state
  | globalDecl | nonlocalDecl =>
      cases found
      exact .pure _ state

/-- Members that have become other ones make the same class. -/
theorem declareMembers_again {info : ClassInfo} {decls finals : List Decl} {state : CheckState}
    (become : BecomeAll decls (declareMembers info decls state).1.2 finals) :
    Again (declareMembers info finals)
      ((declareMembers info decls state).1.1, wholeHeadings finals) state
      (declareMembers info decls state).2 := by
  induction decls generalizing info finals state with
  | nil =>
      cases become
      exact .pure (info, []) state
  | cons decl rest ih =>
      rw [declareMembers_cons] at become ⊢
      cases become with | cons first others =>
      rw [declareMembers_cons]
      exact (declareMember_again first).bind ((ih others).bind (.pure _ _))

/-! ## Classes -/

theorem resolveSuperclass_repeats (name : Identifier) :
    Repeats (resolveSuperclass name) fun resolved => resolveSuperclass resolved.1 := by
  intro state
  cases found : state.superclass name.name with
  | ok info =>
      rw [resolveSuperclass_of_ok found]
      intro others
      exact resolveSuperclass_of_ok found
  | error error =>
      rw [resolveSuperclass_of_error found]
      have same := (reportName_extends error name state).2
      have again := reportName_of_extends (.refl (reportName error name state).1)
      intro others
      refine (resolveSuperclass_of_error (by rw [same]; exact found)).trans ?_
      rw [again others]
      rfl

theorem declareClass_again {name superclass : Identifier} {members finals : List Decl}
    {called parent : Identifier} {headings : List Heading} {state : CheckState}
    (looked : (declareClass name superclass members state).1 = .ofClass called parent headings)
    (become : BecomeAll members headings finals) :
    Again (declareClass called parent finals) (.ofClass called parent (wholeHeadings finals)) state
      (declareClass name superclass members state).2 := by
  rw [declareClass_apply] at looked ⊢
  cases looked
  refine (resolveSuperclass_repeats superclass state).bind ?_
  generalize resolveSuperclass superclass state = resolved at become ⊢
  obtain ⟨⟨superclass, parent⟩, resolved⟩ := resolved
  have bound := declare_again
    (.refl (declare name (.classType name.name) .classDef resolved).1.1)
  have same := (declare_extends name (.classType name.name) .classDef resolved).2
  dsimp only at become ⊢
  generalize declare name (.classType name.name) .classDef resolved = declared
    at become bound same ⊢
  obtain ⟨⟨called, free⟩, declared⟩ := declared
  dsimp only at become bound same ⊢
  rw [← same] at bound
  refine bound.bind ((Again.within (declareMembers_again become)).bind ?_)
  cases free with
  | false => exact .pure _ _
  | true => exact (Again.modify fun _ => rfl).bind (.pure _ _)

theorem declareGlobal_again {decl final : Decl} {state : CheckState}
    (becomes : decl.Becomes (declareGlobal decl state).1 final) :
    Again (declareGlobal final) final.wholeHeading state (declareGlobal decl state).2 := by
  generalize found : (declareGlobal decl state).1 = looked at becomes
  cases becomes with
  | varDef later =>
      cases found
      exact (declareVar_again later).bind (.pure _ _)
  | funcDef later =>
      cases found
      exact (declareFunction_again later).bind (.pure _ _)
  | classDef inside => exact declareClass_again found inside
  | globalDecl | nonlocalDecl =>
      cases found
      exact .pure _ state

/-- Checked declarations are declared as they were at first. -/
theorem declareGlobals_again {decls finals : List Decl} {state : CheckState}
    (become : BecomeAll decls (declareGlobals decls state).1 finals) :
    Again (declareGlobals finals) (wholeHeadings finals) state (declareGlobals decls state).2 := by
  induction decls generalizing finals state with
  | nil =>
      cases become
      exact .pure [] state
  | cons decl rest ih =>
      simp only [declareGlobals, bind_apply, pure_apply] at become ⊢
      cases become with | cons first others =>
      exact (declareGlobal_again first).bind ((ih others).bind (.pure _ _))

/-! ## Functions -/

theorem declareOuter_again {found : Option Binding} {allowed : List BindingKind}
    {kind : BindingKind} {error : CheckError} {info node : NodeInfo} {name looked : Identifier}
    {state : CheckState}
    (outer : (declareOuter found allowed kind error info name state).1 = .outer node looked) :
    Again (declareOuter found allowed kind error node looked) (.outer node looked) state
      (declareOuter found allowed kind error info name state).2 := by
  unfold declareOuter at outer ⊢
  cases visible : found.filter fun binding => allowed.contains binding.kind with
  | none =>
      simp only [visible, bind_apply, pure_apply] at outer ⊢
      cases outer
      exact (report_of_extends (.refl _)).bind (.pure _ _)
  | some binding =>
      simp only [visible, bind_apply, pure_apply] at outer ⊢
      cases outer
      exact (declare_again (.refl _)).bind (.pure _ _)

theorem declareOuter_name {found : Option Binding} {allowed : List BindingKind}
    {kind : BindingKind} {error : CheckError} {info node : NodeInfo} {name looked : Identifier}
    {state : CheckState}
    (outer : (declareOuter found allowed kind error info name state).1 = .outer node looked) :
    looked.name = name.name := by
  unfold declareOuter at outer
  cases visible : found.filter fun binding => allowed.contains binding.kind with
  | none =>
      simp only [visible, bind_apply, pure_apply] at outer
      cases outer
      rfl
  | some binding =>
      simp only [visible, bind_apply, pure_apply] at outer
      cases outer
      exact (declare_extends name binding.type kind state).2

theorem declareLocal_again {decl final : Decl} {state : CheckState}
    (becomes : decl.Becomes (declareLocal decl state).1 final) :
    Again (declareLocal final) final.wholeHeading state (declareLocal decl state).2 := by
  generalize found : (declareLocal decl state).1 = looked at becomes
  cases becomes with
  | varDef later =>
      cases found
      exact (declareVar_again later).bind (.pure _ _)
  | funcDef later =>
      cases found
      exact (declareFunction_again later).bind (.pure _ _)
  | classDef inside =>
      cases found
      cases inside
      exact .pure _ state
  | globalDecl | nonlocalDecl =>
      simp only [declareLocal, bind_apply, view_apply] at found ⊢
      rw [declareOuter_name found]
      exact (Again.view fun _ => rfl).bind (declareOuter_again found)

/-- Checked declarations in a function are declared as they were at first. -/
theorem declareLocals_again {decls finals : List Decl} {state : CheckState}
    (become : BecomeAll decls (declareLocals decls state).1 finals) :
    Again (declareLocals finals) (wholeHeadings finals) state (declareLocals decls state).2 := by
  induction decls generalizing finals state with
  | nil =>
      cases become
      exact .pure [] state
  | cons decl rest ih =>
      simp only [declareLocals, bind_apply, pure_apply] at become ⊢
      cases become with | cons first others =>
      exact (declareLocal_again first).bind ((ih others).bind (.pure _ _))

end Check
end ChocoLang
