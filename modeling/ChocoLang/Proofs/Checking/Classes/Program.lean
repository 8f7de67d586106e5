import ChocoLang.Proofs.Checking.Classes.Calls

/-!
# The classes of successive programs

A checker that is given one program after the other keeps the classes of all of them.  After each
program they are well formed and bound under their names, whatever is wrong with the programs; what
is present in every program is bound anew over what the earlier programs have left.
-/

namespace ChocoLang

/-- What one program leaves to the next. -/
structure CheckState.Resumable (state : CheckState) : Prop where
  /-- There is no frame but the outermost one. -/
  inner : state.scope.inner = []
  /-- The classes stand below `object`. -/
  rooted : state.hierarchy.Rooted
  /-- A name is bound to a class only if the class is listed. -/
  bound : ∀ name, state.scope.globalKind? name = some .classDef →
    (state.hierarchy.find? name).isSome
  /-- No class has the name of a function that is present in every program. -/
  functions : ∀ name ∈ builtinNames, state.hierarchy.find? name = none

theorem CheckState.initial_resumable : CheckState.Resumable {} where
  inner := rfl
  rooted := ClassHierarchy.initial_rooted
  bound _ := nofun
  functions := by decide

theorem CheckState.Tabled.resumable {state : CheckState} (tabled : state.Tabled) :
    state.Resumable where
  inner := tabled.inner
  rooted := tabled.rooted
  bound name := (tabled.bound name).mp
  functions name builtin := by
    rw [← Option.not_isSome_iff_eq_none, ← tabled.bound, tabled.functions name builtin]
    decide

/-! ## What is present in every program -/

/-- Bindings of one kind give their names this kind, and leave all others alone. -/
theorem Scope.globalKind?_defineAll {scope : Scope} (inner : scope.inner = []) {kind : BindingKind}
    {bindings : List Binding} (same : ∀ binding ∈ bindings, binding.kind = kind) :
    (bindings.foldl Scope.define scope).inner = [] ∧
      ∀ name, (bindings.foldl Scope.define scope).globalKind? name =
        if name ∈ bindings.map Binding.name then some kind else scope.globalKind? name := by
  induction bindings generalizing scope with
  | nil => exact ⟨inner, fun _ => rfl⟩
  | cons binding rest ih =>
      obtain ⟨first, others⟩ := List.forall_mem_cons.mp same
      obtain ⟨top, kinds⟩ := ih (inner_define inner binding) others
      refine ⟨top, fun name => (kinds name).trans ?_⟩
      rw [globalKind?_define inner, first]
      by_cases own : name = binding.name <;> simp [own]

/-- The classes are listed with the names that are bound to them in every program. -/
theorem ClassHierarchy.Rooted.mem_names_iff {hierarchy : ClassHierarchy}
    (rooted : hierarchy.Rooted) (name : String) :
    name ∈ hierarchy.classes.values.map ClassInfo.name ↔ (hierarchy.find? name).isSome := by
  constructor
  · intro among
    obtain ⟨info, listed, rfl⟩ := List.mem_map.mp among
    obtain ⟨⟨key, info⟩, entered, rfl⟩ := List.mem_map.mp listed
    have found : hierarchy.find? key = some info := Table.find?_of_mem rooted.distinct entered
    simp [rooted.named found, found]
  · intro listed
    obtain ⟨info, found⟩ := Option.isSome_iff_exists.mp listed
    exact List.mem_map.mpr ⟨info, Table.mem_values_of_find? found, rooted.named found⟩

namespace Check

theorem declareBuiltins_tabled {state : CheckState} (resumable : state.Resumable) :
    (declareBuiltins state).2.Tabled := by
  let classes : List Binding := state.hierarchy.classes.values.map fun info =>
    { name := info.name, type := info.type, kind := .classDef }
  let functions : List Binding := builtinFunctions.map fun builtin =>
    { name := builtin.1, type := builtin.2.type, kind := .function }
  have all : (declareBuiltins state).2 =
      { state with
        scope := functions.foldl Scope.define (classes.foldl Scope.define state.scope) } := by
    rw [← List.foldl_append]
    rfl
  have classNames : classes.map Binding.name = state.hierarchy.classes.values.map ClassInfo.name :=
    List.map_map ..
  have functionNames : functions.map Binding.name = builtinNames := rfl
  obtain ⟨inner, classKinds⟩ := Scope.globalKind?_defineAll resumable.inner
    (List.forall_mem_map.mpr fun info _ => rfl : ∀ binding ∈ classes, binding.kind = .classDef)
  obtain ⟨inner, functionKinds⟩ := Scope.globalKind?_defineAll inner
    (List.forall_mem_map.mpr fun entry _ => rfl : ∀ binding ∈ functions, binding.kind = .function)
  rw [all]
  refine ⟨inner, resumable.rooted, fun name => ?_, fun name builtin => ?_⟩
  · rw [functionKinds, functionNames, classKinds, classNames]
    by_cases builtin : name ∈ builtinNames
    · simp [builtin, resumable.functions name builtin]
    · rw [if_neg builtin]
      have among := resumable.rooted.mem_names_iff name
      by_cases listed : (state.hierarchy.find? name).isSome
      · simp [among.mpr listed, listed]
      · rw [if_neg fun entered => listed (among.mp entered)]
        exact ⟨fun ofClass => absurd (resumable.bound name ofClass) listed,
          fun isListed => absurd isListed listed⟩
  · rw [functionKinds, functionNames, if_pos builtin]

/-! ## Programs -/

theorem checkDecls_tabled (decls : List Decl) (headings : List Heading) :
    Maintains CheckState.Tabled (checkDecls decls headings) fun checked =>
      (∀ decl ∈ decls, decl.outline.Decided) → ∀ decl ∈ checked, decl.outline.Decided :=
  fun state tabled =>
    ⟨fun decided => (checkDecl_decided.2 decls headings decided state tabled.constructs).1,
      tabled.reported (Has.ran (checkDecls decls headings) state)⟩

theorem checkStmts_tabled (stmts : List Stmt) :
    Maintains CheckState.Tabled (checkStmts stmts) fun checked =>
      ∀ stmt ∈ checked, stmt.outline.Decided :=
  fun state tabled =>
    ⟨(checkStmt_decided.2 stmts state tabled.constructs).1,
      tabled.forgot (Has.ran (checkStmts stmts) state)⟩

/-- Declares what is present in every program, and then what the program declares. -/
def declareAll (typeNames : Option (List String)) (program : Program) : Check (List Heading) := do
  declareBuiltins
  announceClasses (definedClasses program.declarations)
  settleTypeNames typeNames
  declareGlobals program.declarations

theorem declareAll_tabled (typeNames : Option (List String)) (program : Program)
    {state : CheckState} (resumable : state.Resumable) :
    (declareAll typeNames program state).2.Tabled := by
  have announced : Maintains CheckState.Tabled
      (announceClasses (definedClasses program.declarations)) fun _ => True :=
    fun state tabled => ⟨trivial, tabled.inner, tabled.rooted, tabled.bound, tabled.functions⟩
  have settled : Maintains CheckState.Tabled (settleTypeNames typeNames) fun _ => True :=
    fun state tabled => ⟨trivial, tabled.inner, tabled.rooted, tabled.bound, tabled.functions⟩
  have declared : Maintains CheckState.Tabled
      (do
        announceClasses (definedClasses program.declarations)
        settleTypeNames typeNames
        declareGlobals program.declarations) fun _ => True :=
    announced.bind fun _ _ => settled.bind fun _ _ => declareGlobals_tabled program.declarations
  exact (declared _ (declareBuiltins_tabled resumable)).2

/-- Bodies and statements are checked when everything at the top level is declared. -/
theorem checkProgram_eq (typeNames : Option (List String)) (program : Program) :
    checkProgram typeNames program = (do
      let headings ← declareAll typeNames program
      let declarations ← checkDecls program.declarations headings
      let statements ← checkStmts program.statements
      return (declarations, statements)) := rfl

/-- Checking a program leaves the classes well formed and bound, and no call undecided. -/
theorem checkProgram_tabled (typeNames : Option (List String)) (program : Program)
    {state : CheckState} (resumable : state.Resumable) :
    let checked := checkProgram typeNames program state
    checked.2.Tabled ∧ (∀ stmt ∈ checked.1.2, stmt.outline.Decided) ∧
      ((∀ decl ∈ program.declarations, decl.outline.Decided) →
        ∀ decl ∈ checked.1.1, decl.outline.Decided) := by
  have bodies (headings : List Heading) : Maintains CheckState.Tabled
      (do
        let declarations ← checkDecls program.declarations headings
        let statements ← checkStmts program.statements
        return (declarations, statements))
      fun checked => (∀ stmt ∈ checked.2, stmt.outline.Decided) ∧
        ((∀ decl ∈ program.declarations, decl.outline.Decided) →
          ∀ decl ∈ checked.1, decl.outline.Decided) :=
    (checkDecls_tabled program.declarations headings).bind fun _ inside =>
      (checkStmts_tabled program.statements).bind fun _ after => .pure ⟨after, inside⟩
  rw [checkProgram_eq]
  exact (bodies _ _ (declareAll_tabled typeNames program resumable)).symm

end Check

namespace Outline

mutual

/-- No type is recorded in an outline that was only read, so no call in it is undecided. -/
theorem Fresh.decided : (outline : Outline) → outline.Fresh → outline.Decided
  | node label children, fresh => by
      have inside := ((all_node label children).mp fresh).2
      refine (decided_node label children).mpr ⟨fun _ callee called unknown => ?_,
        AllFresh.decided children inside⟩
      have read := (allIn_iff children).mp inside callee (List.mem_of_mem_head? called)
      rw [read.label.2] at unknown
      cases unknown

theorem AllFresh.decided : (outlines : List Outline) → AllIn Label.Fresh outlines →
    ∀ outline ∈ outlines, outline.Decided
  | [], _ => List.forall_mem_nil _
  | outline :: rest, fresh =>
      have parts := (allIn_cons outline rest).mp fresh
      List.forall_mem_cons.mpr ⟨Fresh.decided outline parts.1, AllFresh.decided rest parts.2⟩

end

end Outline

namespace Program

theorem decided_outline (program : Program) : program.outline.Decided ↔
    (∀ decl ∈ program.declarations, decl.outline.Decided) ∧
      ∀ stmt ∈ program.statements, stmt.outline.Decided := by
  simp [outline, Decl.outlines_eq_map, Stmt.outlines_eq_map, or_imp, forall_and]

theorem decided_of_ofSource {file source : String} {program : Program}
    (read : Program.ofSource file source = .ok program) : program.outline.Decided := by
  have raw := raw_of_ofSource read
  exact program.decided_outline.mpr
    ⟨fun decl among => Outline.Fresh.decided _ (raw.declarations decl among).fresh,
      fun stmt among => Outline.Fresh.decided _ (raw.statements stmt among).2⟩

end Program

namespace Checker

/-- A checker to which programs have been put, one after the other. -/
def after (submissions : List Submission) : Checker :=
  submissions.foldl (fun checker submission => (checker.check submission).2) {}

theorem after_resumable (submissions : List Submission) :
    (after submissions).state.Resumable := by
  suffices ∀ checker : Checker, checker.state.Resumable →
      (submissions.foldl (fun checker submission => (checker.check submission).2)
        checker).state.Resumable from this {} CheckState.initial_resumable
  induction submissions with
  | nil => exact fun _ resumable => resumable
  | cons submission rest ih =>
      intro checker resumable
      exact ih _ (Check.checkProgram_tabled submission.typeNames submission.program
        resumable).1.resumable

/--
After any programs, whatever is wrong with them, the classes are well formed, and a name is bound to
a class at the top level if and only if the class is listed.  So no call of a class fails: in a
program that was read no call is undecided, and checking brings in none.
-/
theorem check_after (earlier : List Submission) (submission : Submission) :
    let step := (after earlier).check submission
    step.2.state.hierarchy.WellFormed ∧
      (∀ name, (∃ binding, step.2.state.scope.lookupGlobal name = some binding ∧
          binding.kind = .classDef) ↔ (step.2.state.hierarchy.find? name).isSome) ∧
      (∀ file source, Program.ofSource file source = .ok submission.program →
        submission.program.outline.Decided) ∧
      (submission.program.outline.Decided → step.1.program.outline.Decided) := by
  obtain ⟨tabled, statements, declarations⟩ := Check.checkProgram_tabled submission.typeNames
    submission.program (after_resumable earlier)
  refine ⟨tabled.rooted.wellFormed, fun name => ?_, fun _ _ => Program.decided_of_ofSource,
    fun decided => ?_⟩
  · rw [← Option.map_eq_some_iff]
    exact tabled.bound name
  · exact (Program.decided_outline _).mpr
      ⟨declarations ((Program.decided_outline _).mp decided).1, statements⟩

/-- A program with four mistakes, each in the declaration of a class. -/
def firstSource : String :=
  "class A(B):\n    __init__: int = 1\n    def x(self: \"A\"):\n        pass\n" ++
    "class print(A):\n    pass\nclass C(str):\n    x: int = 1\n"

/-- A second program, which takes up the classes of the first and makes three mistakes more. -/
def secondSource : String :=
  "class C(object):\n    pass\nclass D(A):\n    x: str = \"\"\nC()\nD(1)\n"

/-- After both programs there are the three classes that could be declared, all well formed. -/
theorem check_after_secondSource : ∃ first second,
    Program.ofSource "first.choc" firstSource = .ok first ∧
      Program.ofSource "second.choc" secondSource = .ok second ∧
      let step := (after [{ program := first }]).check { program := second }
      step.1.program.errors.length = 7 ∧
        step.2.state.hierarchy.names = ["object", "int", "bool", "str", "A", "C", "D"] ∧
        step.2.state.hierarchy.ancestors "D" = ["D", "A", "object"] ∧
        step.2.state.hierarchy.WellFormed ∧
        (∀ name, (∃ binding, step.2.state.scope.lookupGlobal name = some binding ∧
          binding.kind = .classDef) ↔ (step.2.state.hierarchy.find? name).isSome) ∧
        step.1.program.outline.Decided := by
  obtain ⟨first, read, told⟩ : ∃ first, Program.ofSource "first.choc" firstSource = .ok first ∧
      ((Program.ofSource "second.choc" secondSource).toOption.any fun second =>
        let step := (after [{ program := first }]).check { program := second }
        step.1.program.errors.length = 7 ∧
          step.2.state.hierarchy.names = ["object", "int", "bool", "str", "A", "C", "D"] ∧
          step.2.state.hierarchy.ancestors "D" = ["D", "A", "object"]) = true :=
    exists_ok_of_any (by decide +kernel)
  obtain ⟨second, read', told⟩ := exists_ok_of_any told
  obtain ⟨seven, names, ancestors⟩ := of_decide_eq_true told
  obtain ⟨wellFormed, bound, fresh, kept⟩ :=
    check_after [{ program := first }] { program := second }
  exact ⟨first, second, read, read', seven, names, ancestors, wellFormed, bound,
    kept (fresh _ _ read')⟩

end Checker
end ChocoLang
