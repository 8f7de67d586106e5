import ChocoLang.Proofs.Checking.Effects
import ChocoLang.Proofs.Checking.Indifference

/-!
# Exchanging declarations

Two functions or variables of different names that are declared next to each other at the top level
can change places: checking records the same at every node, and finds the same problems in another
order.  Neither looks at the name of the other while the two are declared, and the frame of the
program only remembers in which order its names were bound.
-/

namespace ChocoLang

/-! ## Single names -/

theorem Scope.current_defineAll (scope : Scope) (bindings : List Binding) :
    (bindings.foldl Scope.define scope).current = bindings.foldl Frame.define scope.current := by
  induction bindings generalizing scope with
  | nil => rfl
  | cons binding rest ih => rw [List.foldl_cons, ih, current_define, List.foldl_cons]

/-- At the top level names are bound in the frame of the program. -/
theorem Scope.defineAll_of_top {scope : Scope} (top : scope.inner = []) (bindings : List Binding) :
    bindings.foldl Scope.define scope =
      { inner := [], outermost := bindings.foldl Frame.define scope.outermost } := by
  induction bindings generalizing scope with
  | nil => rw [List.foldl_nil, List.foldl_nil, ← top]
  | cons binding rest ih =>
      obtain ⟨inner, outermost⟩ := scope
      obtain rfl := top
      exact ih rfl

namespace Frame

variable {name : String} {bindings : List Binding}

@[simp]
theorem kind_defineAll (frame : Frame) (bindings : List Binding) :
    (bindings.foldl define frame).kind = frame.kind := by
  induction bindings generalizing frame with
  | nil => rfl
  | cons binding rest ih => rw [List.foldl_cons, ih, kind_define]

/-- Binding other names does nothing about a name. -/
theorem find?_defineAll_of_ne (others : ∀ binding ∈ bindings, binding.name ≠ name)
    (frame : Frame) : (bindings.foldl define frame).find? name = frame.find? name := by
  induction bindings generalizing frame with
  | nil => rfl
  | cons binding rest ih =>
      obtain ⟨other, others⟩ := List.forall_mem_cons.mp others
      rw [List.foldl_cons, ih others, find?_define, if_neg (by simpa using Ne.symm other)]

/-- A name that is bound to the same before is bound to the same behind the same bindings. -/
theorem find?_defineAll_congr {frame other : Frame} (same : frame.find? name = other.find? name)
    (bindings : List Binding) :
    (bindings.foldl define frame).find? name = (bindings.foldl define other).find? name := by
  induction bindings generalizing frame other with
  | nil => exact same
  | cons binding rest ih =>
      refine ih ?_
      rw [find?_define, find?_define, same]

/-- Bindings of two names can be made in either order. -/
theorem alike_defineAll_comm {name other : String} (differ : name ≠ other)
    {bindings others : List Binding} (own : ∀ binding ∈ bindings, binding.name = name)
    (foreign : ∀ binding ∈ others, binding.name = other) (frame : Frame) :
    (others.foldl define (bindings.foldl define frame)).Alike
      (bindings.foldl define (others.foldl define frame)) := by
  refine ⟨by simp, fun target => ?_⟩
  have apart {bindings : List Binding} {bound : String}
      (named : ∀ binding ∈ bindings, binding.name = bound) (other : target ≠ bound) (frame : Frame) :
      (bindings.foldl define frame).find? target = frame.find? target :=
    find?_defineAll_of_ne (fun binding among same => other (same.symm.trans (named binding among)))
      frame
  by_cases first : target = name
  · have second : target ≠ other := first ▸ differ
    rw [apart foreign second]
    exact find?_defineAll_congr (apart foreign second frame).symm bindings
  · rw [apart own first]
    exact find?_defineAll_congr (apart own first frame) others

end Frame

/-- What a declaration of the name looks at is the same in both states. -/
structure CheckState.AgreeOn (name : String) (first second : CheckState) : Prop where
  /-- The name is bound to the same in the innermost frame. -/
  bound : first.scope.current.find? name = second.scope.current.find? name
  /-- The innermost frames belong to the same. -/
  kind : first.scope.current.kind = second.scope.current.kind
  /-- The names of classes are the same. -/
  classNames : first.classNames = second.classNames
  /-- Written types consist of the same names. -/
  typeNames : first.typeNames = second.typeNames

theorem CheckState.AgreeOn.refl (name : String) (state : CheckState) : state.AgreeOn name state :=
  ⟨rfl, rfl, rfl, rfl⟩

/-- The state after some names are bound and some problems are found. -/
def CheckState.binding (state : CheckState) (bindings : List Binding)
    (found : List (Located CheckError)) : CheckState :=
  { state with
    scope := bindings.foldl Scope.define state.scope
    problems := state.problems ++ found }

theorem CheckState.AgreeOn.binding {name : String} {first second : CheckState}
    (agree : first.AgreeOn name second) (bindings : List Binding)
    (found : List (Located CheckError)) :
    (first.binding bindings found).AgreeOn name (second.binding bindings found) := by
  refine ⟨?_, ?_, agree.classNames, agree.typeNames⟩
  · simp only [CheckState.binding, Scope.current_defineAll]
    exact Frame.find?_defineAll_congr agree.bound bindings
  · simp only [CheckState.binding, Scope.current_defineAll, Frame.kind_defineAll]
    exact agree.kind

/-- What is bound to other names is not looked at. -/
theorem CheckState.agreeOn_binding {name : String} {bindings : List Binding}
    (others : ∀ binding ∈ bindings, binding.name ≠ name) (state : CheckState)
    (found : List (Located CheckError)) : state.AgreeOn name (state.binding bindings found) := by
  refine ⟨?_, ?_, rfl, rfl⟩
  · simp only [CheckState.binding, Scope.current_defineAll]
    exact (Frame.find?_defineAll_of_ne others _).symm
  · simp only [CheckState.binding, Scope.current_defineAll, Frame.kind_defineAll]

namespace Check

variable {α β : Type} {name : String}

/--
The action binds no other name, and whatever it returns, binds and finds depends on nothing but what
a declaration of the name looks at.
-/
class Binds (name : String) (action : Check α) : Prop where
  /-- From all states that agree on the name, the action returns, binds and finds the same. -/
  run : ∀ state : CheckState, ∃ value bindings found,
    (∀ binding ∈ bindings, binding.name = name) ∧
      ∀ other, state.AgreeOn name other → action other = (value, other.binding bindings found)

namespace Binds

theorem ran (name : String) (action : Check α) [Binds name action] (state : CheckState) :
    ∃ value bindings found, (∀ binding ∈ bindings, binding.name = name) ∧
      ∀ other, state.AgreeOn name other → action other = (value, other.binding bindings found) :=
  run state

instance (value : α) : Binds name (pure value : Check α) where
  run _ := ⟨value, [], [], by simp, fun _ _ => by simp [CheckState.binding, pure_apply]⟩

instance (priority := low) bind (action : Check α) (next : α → Check β) [Binds name action]
    [∀ value, Binds name (next value)] : Binds name (action >>= next) where
  run state := by
    obtain ⟨value, bindings, found, named, each⟩ := ran name action state
    obtain ⟨value', others, more, named', each'⟩ :=
      ran name (next value) (state.binding bindings found)
    refine ⟨value', bindings ++ others, found ++ more,
      List.forall_mem_append.mpr ⟨named, named'⟩, fun other agree => ?_⟩
    rw [bind_apply, each other agree, each' _ (agree.binding bindings found)]
    simp [CheckState.binding]

instance (error : CheckError) (info : NodeInfo) : Binds name (report error info) where
  run state := by
    refine ⟨(report error info state).1, [], if info.error.isSome then [] else [⟨error, info.span⟩],
      by simp, fun other _ => ?_⟩
    simp only [report_apply]
    split <;> simp [CheckState.binding]

instance (error : CheckError) (other : Identifier) : Binds name (reportName error other) := by
  unfold reportName reportExpr; infer_instance

instance (written : WrittenType) : Binds name (resolve written) := by
  induction written with
  | named info target =>
      refine ⟨fun state => ?_⟩
      have same {other : CheckState} (agree : state.AgreeOn name other) :
          other.namedType? target = state.namedType? target := by
        unfold CheckState.namedType?
        rw [agree.typeNames]
      cases found : state.namedType? target with
      | some type =>
          refine ⟨(.named info target, type), [], [], by simp, fun other agree => ?_⟩
          simp only [resolve, bind_apply, get_apply, same agree, found]
          simp [CheckState.binding, pure_apply]
      | none =>
          have reported : Binds name (do
            return (.named (← report (.unknownClass target) info) target, .unknown) :
              Check (WrittenType × ValueType)) := inferInstance
          obtain ⟨value, bindings, more, named, each⟩ := reported.run state
          refine ⟨value, bindings, more, named, fun other agree => ?_⟩
          simp only [resolve, bind_apply, get_apply, same agree, found]
          exact each other agree
  | list info element ih => unfold resolve; infer_instance

instance (vars : List TypedVar) : Binds name (resolveVars vars) := by
  induction vars with
  | nil => unfold resolveVars; infer_instance
  | cons var rest ih => unfold resolveVars resolveVar; infer_instance

instance (identifier : Identifier) (type : ValueType) (kind : BindingKind) :
    Binds identifier.name (declare identifier type kind) where
  run state := by
    have same {other : CheckState} (agree : state.AgreeOn identifier.name other) :
        other.clash? identifier.name kind = state.clash? identifier.name kind := by
      unfold CheckState.clash?
      dsimp only
      rw [agree.bound, agree.kind, agree.classNames]
    cases clash : state.clash? identifier.name kind with
    | some error =>
        have reported : Binds identifier.name (do
          return (← reportName error identifier, false) : Check (Identifier × Bool)) := inferInstance
        obtain ⟨value, bindings, found, named, each⟩ := reported.run state
        refine ⟨value, bindings, found, named, fun other agree => ?_⟩
        rw [declare_of_clash type ((same agree).trans clash)]
        exact each other agree
    | none =>
        refine ⟨(identifier, true), [{ name := identifier.name, type, kind
                                       span := some identifier.info.span }], [], by simp,
          fun other agree => ?_⟩
        rw [declare_of_free type ((same agree).trans clash)]
        simp [CheckState.binding]

end Binds
end Check

/-- The declaration is one of a function or a variable of the name. -/
def Decl.Declares (name : String) : Decl → Prop
  | .varDef _ var _ => var.identifier.name = name
  | .funcDef _ heading _ _ _ => heading.name.name = name
  | .classDef _ _ _ _ | .globalDecl _ _ | .nonlocalDecl _ _ => False

instance (name : String) : DecidablePred (Decl.Declares name)
  | .varDef _ var _ => inferInstanceAs (Decidable (var.identifier.name = name))
  | .funcDef _ heading _ _ _ => inferInstanceAs (Decidable (heading.name.name = name))
  | .classDef _ _ _ _ | .globalDecl _ _ | .nonlocalDecl _ _ => inferInstanceAs (Decidable False)

namespace Check

variable {name other : String}

/-- A function or variable that is declared binds its own name only. -/
theorem declareGlobal_binds {decl : Decl} (declares : decl.Declares name) :
    Binds name (declareGlobal decl) := by
  cases decl with
  | varDef info var value =>
      have parts : declareGlobal (.varDef info var value) = (do
          let resolved ← resolve var.written
          let declared ← declare var.identifier resolved.2 .ownVariable
          return .variable { var with written := resolved.1, identifier := declared.1 }) := rfl
      obtain rfl : var.identifier.name = name := declares
      rw [parts]
      infer_instance
  | funcDef info heading declarations statements recovered =>
      have parts : declareGlobal (.funcDef info heading declarations statements recovered) = (do
          let params ← resolveVars heading.params
          let returns ← resolve heading.returns
          let declared ← declare heading.name (.function params.2 returns.2) .function
          return .function { name := declared.1, params := params.1, returns := returns.1 }) := rfl
      obtain rfl : heading.name.name = name := declares
      rw [parts]
      infer_instance
  | _ => exact declares.elim

end Check

/-- The states are alike, and the same problems have been found, perhaps in another order. -/
structure CheckState.Reordered (first second : CheckState) : Prop where
  /-- The states are alike. -/
  alike : first.Alike second
  /-- The problems are the same. -/
  problems : first.problems.Perm second.problems

theorem CheckState.Reordered.trans {first second third : CheckState}
    (states : first.Reordered second) (states' : second.Reordered third) : first.Reordered third :=
  ⟨states.alike.trans states'.alike, states.problems.trans states'.problems⟩

/-- If the first state is at the top level, then so is the second one. -/
def CheckState.StaysTop (before after : CheckState) : Prop :=
  before.scope.inner = [] → after.scope.inner = []

instance : Effect CheckState.StaysTop where
  ofReported := by
    rintro _ _ ⟨found, rfl⟩
    exact id
  trans first second := second ∘ first

theorem CheckState.Defined.staysTop {before after : CheckState} (defined : before.Defined after) :
    before.StaysTop after := by
  obtain ⟨bindings, found, rfl⟩ := defined
  exact fun top => by simp only [Scope.defineAll_of_top top]

namespace Check

variable {α : Type} {name other : String}

instance (priority := low) (action : Check α) [Has CheckState.Defined action] :
    Has CheckState.StaysTop action where
  run state := (Has.ran action state : state.Defined (action state).2).staysTop

instance (info : ClassInfo) :
    Has CheckState.StaysTop
      (modify fun state => { state with hierarchy := state.hierarchy.add info } : Check Unit) where
  run _ := id

instance (name superclass : Identifier) (members : List Decl) :
    Has CheckState.StaysTop (declareClass name superclass members) := by
  unfold declareClass
  infer_instance

instance (decl : Decl) : Has CheckState.StaysTop (declareGlobal decl) := by
  unfold declareGlobal
  split <;> infer_instance

instance (decls : List Decl) : Has CheckState.StaysTop (declareGlobals decls) := by
  induction decls with
  | nil => unfold declareGlobals; infer_instance
  | cons decl rest ih => unfold declareGlobals; infer_instance

/-- What is found behind states with the same problems is the same. -/
theorem Indifferent.reordered (action : Check α) [Indifferent action] {first second : CheckState}
    (states : first.Reordered second) :
    (action first).1 = (action second).1 ∧ (action first).2.Reordered (action second).2 := by
  obtain ⟨value, alike, found, before, before'⟩ := runsAlike action states.alike
  exact ⟨value, alike, before ▸ before' ▸ states.problems.append_right found⟩

/-! ## The first pass -/

/-- Two functions or variables of different names can be declared in either order. -/
theorem declareGlobals_exchange {first second : Decl} (declares : first.Declares name)
    (declares' : second.Declares other) (differ : name ≠ other) {state : CheckState}
    (top : state.scope.inner = []) :
    ∃ heading heading', (declareGlobals [first, second] state).1 = [heading, heading'] ∧
      (declareGlobals [second, first] state).1 = [heading', heading] ∧
      (declareGlobals [first, second] state).2.Reordered
        (declareGlobals [second, first] state).2 := by
  obtain ⟨heading, bindings, found, own, each⟩ := (declareGlobal_binds declares).run state
  obtain ⟨heading', others, more, foreign, each'⟩ := (declareGlobal_binds declares').run state
  have behind := each _ (state.agreeOn_binding
    (fun binding among same => differ (same.symm.trans (foreign binding among))) more)
  have behind' := each' _ (state.agreeOn_binding
    (fun binding among same => differ ((own binding among).symm.trans same)) found)
  have alone := each state (.refl name state)
  have alone' := each' state (.refl other state)
  have ran : declareGlobals [first, second] state =
      ([heading, heading'], (state.binding bindings found).binding others more) := by
    simp only [declareGlobals, bind_apply, alone, behind', pure_apply]
  have ran' : declareGlobals [second, first] state =
      ([heading', heading], (state.binding others more).binding bindings found) := by
    simp only [declareGlobals, bind_apply, alone', behind, pure_apply]
  rw [ran, ran']
  refine ⟨heading, heading', rfl, rfl, ⟨⟨?_, ?_⟩, rfl, rfl, rfl, rfl⟩, ?_⟩
  · simp only [CheckState.binding, Scope.defineAll_of_top, top]
  · simp only [CheckState.binding, Scope.defineAll_of_top, top]
    exact Frame.alike_defineAll_comm differ own foreign _
  · simp only [CheckState.binding, List.append_assoc]
    exact (List.perm_append_comm).append_left _

/-- The declarations before some and those behind are declared on their own. -/
theorem declareGlobals_append (front back : List Decl) (state : CheckState) :
    declareGlobals (front ++ back) state =
      let before := declareGlobals front state
      let behind := declareGlobals back before.2
      (before.1 ++ behind.1, behind.2) := by
  induction front generalizing state with
  | nil => rfl
  | cons decl rest ih =>
      simp only [List.cons_append, declareGlobals, bind_apply, pure_apply, ih]

theorem length_declareGlobals (decls : List Decl) (state : CheckState) :
    (declareGlobals decls state).1.length = decls.length := by
  induction decls generalizing state with
  | nil => rfl
  | cons decl rest ih => exact congrArg (· + 1) (ih _)

/-! ## The second pass -/

/-- The declarations before some and those behind are checked on their own. -/
theorem checkDecls_append {front : List Decl} {headings : List Heading}
    (same : headings.length = front.length) (back : List Decl) (others : List Heading)
    (state : CheckState) :
    checkDecls (front ++ back) (headings ++ others) state =
      let before := checkDecls front headings state
      let behind := checkDecls back others before.2
      (before.1 ++ behind.1, behind.2) := by
  induction front generalizing headings state with
  | nil =>
      obtain rfl := List.eq_nil_of_length_eq_zero same
      rfl
  | cons decl rest ih =>
      cases headings with
      | nil => cases same
      | cons heading headings =>
          simp only [List.cons_append, checkDecls, bind_apply, pure_apply,
            ih (Nat.succ.inj same)]

theorem length_checkDecls (decls : List Decl) (headings : List Heading) (state : CheckState) :
    (checkDecls decls headings state).1.length = decls.length := by
  induction decls generalizing headings state with
  | nil => cases headings <;> simp [checkDecls, pure_apply]
  | cons decl rest ih =>
      cases headings with
      | nil => simp [checkDecls, pure_apply]
      | cons heading headings =>
          simp only [checkDecls, bind_apply, pure_apply, List.length_cons, ih]

/-- Checking a declaration finds the same problems whatever problems were found before. -/
theorem checkDecl_found (decl : Decl) (heading : Heading) (state : CheckState) :
    ∃ checked found, ∀ before : List (Located CheckError),
      checkDecl decl heading { state with problems := before } =
        (checked, { state with problems := before ++ found }) := by
  obtain ⟨found, alone⟩ : state.Reported (checkDecl decl heading state).2 := Has.ran _ state
  refine ⟨(checkDecl decl heading state).1, found, fun before => ?_⟩
  obtain ⟨value, -, same, own, others⟩ := Indifferent.runsAlike (checkDecl decl heading)
    ((CheckState.Alike.refl state).withProblems state.problems before)
  obtain ⟨more, after⟩ : CheckState.Reported _
    (checkDecl decl heading { state with problems := before }).2 := Has.ran _ _
  have all : found = more := by
    have first : state.problems ++ found = state.problems ++ same := by
      rw [← own, alone]
    have second : before ++ more = before ++ same := by
      rw [← others, after]
    exact (List.append_cancel_left first).trans (List.append_cancel_left second).symm
  refine Prod.ext value.symm ?_
  rw [after, all]

/-- Two declarations can be checked in either order. -/
theorem checkDecls_exchange (first second : Decl) (heading heading' : Heading)
    (state : CheckState) :
    ∃ checked checked', (checkDecls [first, second] [heading, heading'] state).1 =
        [checked, checked'] ∧
      (checkDecls [second, first] [heading', heading] state).1 = [checked', checked] ∧
      (checkDecls [first, second] [heading, heading'] state).2.Reordered
        (checkDecls [second, first] [heading', heading] state).2 := by
  obtain ⟨checked, found, each⟩ := checkDecl_found first heading state
  obtain ⟨checked', more, each'⟩ := checkDecl_found second heading' state
  have ran : checkDecls [first, second] [heading, heading'] state =
      ([checked, checked'], { state with problems := state.problems ++ found ++ more }) := by
    simp only [checkDecls, bind_apply, pure_apply, each state.problems, each']
  have ran' : checkDecls [second, first] [heading', heading] state =
      ([checked', checked], { state with problems := state.problems ++ more ++ found }) := by
    simp only [checkDecls, bind_apply, pure_apply, each' state.problems, each]
  rw [ran, ran']
  refine ⟨checked, checked', rfl, rfl, (CheckState.Alike.refl state).withProblems _ _, ?_⟩
  simp only [List.append_assoc]
  exact List.perm_append_comm.append_left _

/-! ## Declarations around -/

/-- With other declarations around, two can still be declared in either order. -/
theorem declareGlobals_around {first second : Decl} (declares : first.Declares name)
    (declares' : second.Declares other) (differ : name ≠ other) (front back : List Decl)
    {state : CheckState} (top : state.scope.inner = []) :
    ∃ before heading heading' behind, before.length = front.length ∧
      (declareGlobals (front ++ first :: second :: back) state).1 =
        before ++ heading :: heading' :: behind ∧
      (declareGlobals (front ++ second :: first :: back) state).1 =
        before ++ heading' :: heading :: behind ∧
      (declareGlobals (front ++ first :: second :: back) state).2.Reordered
        (declareGlobals (front ++ second :: first :: back) state).2 := by
  have stays : CheckState.StaysTop state (declareGlobals front state).2 := Has.ran _ state
  obtain ⟨heading, heading', ran, ran', states⟩ :=
    declareGlobals_exchange declares declares' differ (stays top)
  obtain ⟨same, after⟩ := Indifferent.reordered (declareGlobals back) states
  have split (one two : Decl) := declareGlobals_append front ([one, two] ++ back) state
  have splitBack (one two : Decl) :=
    declareGlobals_append [one, two] back (declareGlobals front state).2
  simp only [List.cons_append, List.nil_append] at split splitBack
  refine ⟨(declareGlobals front state).1, heading, heading',
    (declareGlobals back (declareGlobals [first, second] (declareGlobals front state).2).2).1,
    length_declareGlobals _ _, ?_, ?_, ?_⟩
  · rw [split, splitBack, ran]
    rfl
  · rw [split, splitBack, ran', ← same]
    rfl
  · rw [split, split, splitBack, splitBack]
    exact after

/-- With other declarations around, two can still be checked in either order. -/
theorem checkDecls_around (first second : Decl) (heading heading' : Heading) {front : List Decl}
    {before : List Heading} (same : before.length = front.length) (back : List Decl)
    (behind : List Heading) {state other : CheckState} (states : state.Reordered other) :
    ∃ front' first' second' back', front'.length = front.length ∧
      (checkDecls (front ++ first :: second :: back) (before ++ heading :: heading' :: behind)
        state).1 = front' ++ first' :: second' :: back' ∧
      (checkDecls (front ++ second :: first :: back) (before ++ heading' :: heading :: behind)
        other).1 = front' ++ second' :: first' :: back' ∧
      (checkDecls (front ++ first :: second :: back) (before ++ heading :: heading' :: behind)
        state).2.Reordered
      (checkDecls (front ++ second :: first :: back) (before ++ heading' :: heading :: behind)
        other).2 := by
  obtain ⟨frontSame, between⟩ := Indifferent.reordered (checkDecls front before) states
  obtain ⟨first', second', ran, ran', exchanged⟩ :=
    checkDecls_exchange first second heading heading' (checkDecls front before state).2
  obtain ⟨pairSame, pair⟩ :=
    Indifferent.reordered (checkDecls [second, first] [heading', heading]) between
  obtain ⟨backSame, after⟩ :=
    Indifferent.reordered (checkDecls back behind) (exchanged.trans pair)
  have split (one two : Decl) (heading heading' : Heading) (state : CheckState) :=
    checkDecls_append same ([one, two] ++ back) ([heading, heading'] ++ behind) state
  have pairSplit (one two : Decl) (heading heading' : Heading) :
      [heading, heading'].length = [one, two].length := rfl
  have splitBack (one two : Decl) (heading heading' : Heading) (state : CheckState) :=
    checkDecls_append (pairSplit one two heading heading') back behind state
  simp only [List.cons_append, List.nil_append] at split splitBack
  refine ⟨(checkDecls front before state).1, first', second',
    (checkDecls back behind
      (checkDecls [first, second] [heading, heading'] (checkDecls front before state).2).2).1,
    length_checkDecls _ _ _, ?_, ?_, ?_⟩
  · rw [split, splitBack, ran]
    rfl
  · rw [split, splitBack, ← frontSame, ← pairSame, ran', ← backSame]
    rfl
  · rw [split, split, splitBack, splitBack]
    exact after

end Check

/-! ## Programs -/

/-- The classes that declarations define do not depend on where functions and variables stand. -/
theorem definedClasses_exchange {name other : String} {first second : Decl}
    (declares : first.Declares name) (declares' : second.Declares other) (front back : List Decl) :
    definedClasses (front ++ second :: first :: back) =
      definedClasses (front ++ first :: second :: back) := by
  have plain {decl : Decl} {name : String} (declares : decl.Declares name) (rest : List Decl) :
      definedClasses (decl :: rest) = definedClasses rest := by
    cases decl with
    | varDef | funcDef => rfl
    | _ => exact declares.elim
  have around (decls : List Decl) :
      definedClasses (front ++ decls) = definedClasses front ++ definedClasses decls :=
    List.filterMap_append
  rw [around, around, plain declares, plain declares', plain declares', plain declares]

namespace Program

variable {program : Program} {front back : List Decl} {first second : Decl}

/--
If two declarations of functions or variables that stand next to each other, under different names,
change places, then checking records the same at every node of the program, and the diagnostics are
the same, perhaps in another order.
-/
theorem check_exchange {name other : String}
    (parts : program.declarations = front ++ first :: second :: back)
    (declares : first.Declares name) (declares' : second.Declares other) (differ : name ≠ other) :
    let exchanged := { program with declarations := front ++ second :: first :: back }
    ∃ front' first' second' back', front'.length = front.length ∧
      program.check.declarations = front' ++ first' :: second' :: back' ∧
      exchanged.check.declarations = front' ++ second' :: first' :: back' ∧
      exchanged.check.statements = program.check.statements ∧
      exchanged.check.errors.Perm program.check.errors := by
  intro exchanged
  have announced : exchanged.announced = program.announced := by
    rw [announced_eq, announced_eq, parts]
    simp only [exchanged, definedClasses_exchange declares declares' front back]
  have top : program.announced.scope.inner = [] := by
    rw [announced_eq, Scope.defineAll_of_top rfl]
  obtain ⟨before, heading, heading', behind, same, ran, ran', states⟩ :=
    Check.declareGlobals_around declares declares' differ front back top
  obtain ⟨front', first', second', back', same', checked, checked', states'⟩ :=
    Check.checkDecls_around first second heading heading' same back behind states
  obtain ⟨statements, final⟩ :=
    Check.Indifferent.reordered (Check.checkStmts program.statements) states'
  have declared : program.declared =
      Check.declareGlobals (front ++ first :: second :: back) program.announced := by
    rw [declared, parts]
  have declared' : exchanged.declared =
      Check.declareGlobals (front ++ second :: first :: back) program.announced := by
    rw [Program.declared, announced]
  have run : program.checkedDeclarations =
      Check.checkDecls (front ++ first :: second :: back) (before ++ heading :: heading' :: behind)
        (Check.declareGlobals (front ++ first :: second :: back) program.announced).2 := by
    rw [checkedDeclarations, declared, ran, parts]
  have run' : exchanged.checkedDeclarations =
      Check.checkDecls (front ++ second :: first :: back) (before ++ heading' :: heading :: behind)
        (Check.declareGlobals (front ++ second :: first :: back) program.announced).2 := by
    rw [checkedDeclarations, declared', ran']
  refine ⟨front', first', second', back', same', ?_, ?_, ?_, ?_⟩
  · rw [check_eq, run]
    exact checked
  · rw [check_eq, run']
    exact checked'
  · rw [check_eq, check_eq, checkedStatements, checkedStatements, run, run']
    exact statements.symm
  · rw [check_eq, check_eq, checkedStatements, checkedStatements, run, run']
    exact ((final.problems.map Located.toDiagnostic).append_left program.errors).symm

/-- A program whose function and variable are both wrong, with misspelt names all over. -/
def misspeltSource : String :=
  "def total() -> int:\n    return cout\ncount: int = \"one\"\nprint(totl() + conut)\n"

/-- The function and the variable of the misspelt program can change places. -/
theorem check_exchange_misspeltSource : ∃ program first second,
    Program.ofSource "total.choc" misspeltSource = .ok program ∧
      program.declarations = [] ++ first :: second :: [] ∧ first.Declares "total" ∧
      second.Declares "count" ∧ "total" ≠ "count" ∧ program.check.errors.length = 4 ∧
      ∃ front' first' second' back', front'.length = 0 ∧
        program.check.declarations = front' ++ first' :: second' :: back' ∧
        { program with declarations := [second, first] }.check.declarations =
          front' ++ second' :: first' :: back' ∧
        { program with declarations := [second, first] }.check.statements =
          program.check.statements ∧
        { program with declarations := [second, first] }.check.errors.Perm
          program.check.errors := by
  obtain ⟨program, read, shape⟩ : ∃ program,
      Program.ofSource "total.choc" misspeltSource = .ok program ∧
        (program.declarations.length == 2 && program.check.errors.length == 4 &&
          (program.declarations.head?.any fun decl => decl.Declares "total") &&
            program.declarations.getLast?.any fun decl => decl.Declares "count") = true :=
    exists_ok_of_any (by decide +kernel)
  simp only [Bool.and_eq_true, beq_iff_eq] at shape
  obtain ⟨⟨⟨two, four⟩, declares⟩, declares'⟩ := shape
  obtain ⟨first, second, alone⟩ := List.length_eq_two.mp two
  rw [alone] at declares declares'
  have parts : program.declarations = [] ++ first :: second :: [] := alone
  exact ⟨program, first, second, read, parts, of_decide_eq_true declares,
    of_decide_eq_true declares', by decide, four,
    check_exchange parts (of_decide_eq_true declares) (of_decide_eq_true declares') (by decide)⟩

end Program
end ChocoLang
