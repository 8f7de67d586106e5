import ChocoLang.Proofs.Checking.Annotation.Program
import ChocoLang.Proofs.Checking.Effects
import ChocoLang.Proofs.Checking.Rechecking.Heading

/-!
# Checking declarations and programs again

A checked declaration is declared with the heading it has now, and then it comes back as it is.  The
names in its body are bound as they were, so its declarations and statements are checked in the same
states, and those come back as they are, too.

A checked program has the classes it had, so the second check starts from the same state as the
first one.  It finds no problem and leaves the program as it is.
-/

namespace ChocoLang
namespace Check

theorem checkVarDef_again (info : NodeInfo) (var : TypedVar) (value : Expr) (state : CheckState) :
    Again (checkDecl (checkVarDef info var value state).1
        (checkVarDef info var value state).1.wholeHeading)
      (checkVarDef info var value state).1 state (checkVarDef info var value state).2 := by
  simp only [checkVarDef, bind_apply, pure_apply, Decl.wholeHeading, checkDecl]
  refine (resolveVar_again (.refl _)).bind ?_
  exact ((infer_again.1 value).repeats _).bind ((demandFit_again (.refl _)).bind (.pure _ _))

/-! ## Functions -/

theorem demandReturn_eq (result : ValueType) (statements : List Stmt) (recovered : Bool)
    (name : Identifier) :
    demandReturn result statements recovered name =
      reportNameIf (fun state =>
        if !recovered && state.hierarchy.needsReturn result && !anyReturns statements then
          some (.missingReturn name.name)
        else none) name := by
  unfold demandReturn reportNameIf
  congr
  funext state
  dsimp only
  cases !recovered && state.hierarchy.needsReturn result && !anyReturns statements <;> rfl

theorem demandReturn_extends (result : ValueType) (statements : List Stmt) (recovered : Bool)
    (name : Identifier) (state : CheckState) :
    name.Extends (demandReturn result statements recovered name state).1 := by
  rw [demandReturn_eq]
  exact reportNameIf_extends _ name state

theorem demandReturn_repeats (result : ValueType) (statements : List Stmt) (recovered : Bool)
    (name : Identifier) :
    Repeats (demandReturn result statements recovered name)
      (demandReturn result statements recovered) := by
  intro state
  have same := (demandReturn_extends result statements recovered name state).2
  rw [demandReturn_eq] at same ⊢
  rw [demandReturn_eq, same]
  exact reportNameIf_again (fun _ _ => rfl) (.refl _)

/-- Checked bodies come back as they are when their declarations do. -/
def ChecksAgain (decls : List Decl) (headings : List Heading) : Prop :=
  Returns (checkDecls decls headings) (BecomeAll decls headings) ∧
    Repeats (checkDecls decls headings) fun checked => checkDecls checked (wholeHeadings checked)

/-- A body that has been checked is checked again in the frame that it was checked in. -/
theorem checkBody_again {heading final : FunctionHeading} {signature : Signature}
    {declarations : List Decl} {statements : List Stmt} {state : CheckState}
    (wellFormed : ∀ decl ∈ declarations, decl.WellFormed .ofFunction)
    (inner : ∀ headings, HeadedAll declarations headings → ChecksAgain declarations headings)
    (called : final.name.name = heading.name.name)
    (params : final.params = (checkBody heading signature declarations statements state).1.1) :
    Again (checkBody final signature (checkBody heading signature declarations statements state).1.2.1
        (checkBody heading signature declarations statements state).1.2.2)
      (checkBody heading signature declarations statements state).1 state
      (checkBody heading signature declarations statements state).2 := by
  rw [checkBody_apply] at params ⊢
  dsimp only at params ⊢
  unfold checkBody
  rw [called, params]
  refine Again.within ((declareParams_repeats heading.params signature.params _).bind ?_)
  generalize declareParams heading.params signature.params _ = declared
  have headed := declareLocals_headed wellFormed declared.2
  obtain ⟨become, repeats⟩ := inner _ headed
  refine (declareLocals_again (become _)).bind (Again.returning ?_)
  exact (repeats _).bind ((checkStmt_repeats.2 statements _).bind (.pure _ _))

/-- Checking a function adds errors to its parameters and its name. -/
theorem extends_checkedHeading (heading : FunctionHeading) (signature : Signature)
    (declarations : List Decl) (statements : List Stmt) (recovered : Bool) (state : CheckState) :
    let body := checkBody heading signature declarations statements state
    let name := (demandReturn signature.result body.1.2.2 recovered heading.name body.2).1
    heading.Extends { heading with name, params := body.1.1 } :=
  ⟨demandReturn_extends _ _ _ _ _, declareParams_extends _ _ _, .refl _⟩

/-- Checked declarations come back as they are. -/
theorem checkDecl_again :
    (∀ decl heading, (∃ place, decl.Raw True place) → decl.Headed heading →
      Returns (checkDecl decl heading) (decl.Becomes heading) ∧
        Repeats (checkDecl decl heading) fun checked => checkDecl checked checked.wholeHeading) ∧
    ∀ decls headings, (∀ decl ∈ decls, ∃ place, decl.Raw True place) →
      HeadedAll decls headings → ChecksAgain decls headings := by
  apply headed_induction
  case varDef =>
    intro place info var value looked raw
    unfold checkDecl
    exact ⟨fun state => .varDef (resolveVar_extends looked state),
      checkVarDef_again info looked value⟩
  case funcDef =>
    intro place info heading declarations statements recovered looked ih raw _
    have wellFormed : ∀ decl ∈ declarations, decl.WellFormed .ofFunction := fun decl among =>
      (raw.locals decl among).wellFormed
    have resolved (state : CheckState) := resolveSignature_extends looked state
    refine ⟨fun state => ?_, fun state => ?_⟩
    · rw [checkDecl_function]
      simp only [bind_apply, pure_apply]
      exact .funcDef ((resolved state).trans (extends_checkedHeading _ _ _ _ recovered _))
    · have later := extends_checkedHeading (resolveSignature looked state).1.1
        (resolveSignature looked state).1.2 declarations statements recovered
        (resolveSignature looked state).2
      simp only [checkDecl_function, bind_apply, pure_apply, Decl.wholeHeading]
      refine (resolveSignature_again later).bind ?_
      refine (checkBody_again wellFormed ih later.name.2 rfl).bind ?_
      exact (demandReturn_repeats _ _ _ _ _).bind (.pure _ _)
  case classDef =>
    intro place info name superclass members called parent headings ih raw
    refine ⟨fun state => ?_, fun state => ?_⟩
    · unfold checkDecl
      exact .classDef (ih.1 state)
    · simp only [checkDecl, bind_apply, pure_apply, Decl.wholeHeading]
      exact (ih.2 state).bind (.pure _ _)
  case globalDecl =>
    intro info name node looked
    refine ⟨fun state => ?_, fun state => ?_⟩
    · unfold checkDecl
      exact .globalDecl
    · simp only [checkDecl, pure_apply, Decl.wholeHeading]
      exact .pure _ state
  case nonlocalDecl =>
    intro info name node looked
    refine ⟨fun state => ?_, fun state => ?_⟩
    · unfold checkDecl
      exact .nonlocalDecl
    · simp only [checkDecl, pure_apply, Decl.wholeHeading]
      exact .pure _ state
  case nil =>
    refine ⟨fun state => ?_, fun state => ?_⟩
    · unfold checkDecls
      exact .nil
    · simp only [checkDecls, pure_apply]
      exact .pure [] state
  case cons =>
    intro decl decls heading headings ihDecl ihDecls
    refine ⟨fun state => ?_, fun state => ?_⟩
    · unfold checkDecls
      exact .cons (ihDecl.1 state) (ihDecls.1 _)
    · simp only [checkDecls, bind_apply, pure_apply, wholeHeadings]
      exact (ihDecl.2 state).bind ((ihDecls.2 _).bind (.pure _ _))

end Check

/-! ## Programs -/

namespace Check

theorem name_declareClass {name superclass called parent : Identifier} {members : List Decl}
    {headings : List Heading} {state : CheckState}
    (looked : (declareClass name superclass members state).1 = .ofClass called parent headings) :
    called.name = name.name := by
  rw [declareClass_apply] at looked
  cases looked
  exact (declare_extends name _ _ _).2

theorem definedClasses_of_becomeAll {decls checked : List Decl} {state : CheckState}
    (become : BecomeAll decls (declareGlobals decls state).1 checked) :
    definedClasses checked = definedClasses decls := by
  induction decls generalizing checked state with
  | nil =>
      cases become
      rfl
  | cons decl rest ih =>
      simp only [declareGlobals, bind_apply, pure_apply] at become
      cases become with | cons first others =>
      have behind := ih others
      generalize found : (declareGlobal decl state).1 = looked at first
      cases first with
      | classDef inside =>
          simp only [definedClasses, List.filterMap_cons] at behind ⊢
          rw [behind, name_declareClass found]
      | _ => simpa only [definedClasses, List.filterMap_cons] using behind

end Check

namespace Program

/-- The program has been read from a source: it is checked again part by part. -/
theorem checked_again {file source : String} {program : Program}
    (read : Program.ofSource file source = .ok program) :
    program.check.checkedDeclarations =
        (program.checkedDeclarations.1, program.checkedDeclarations.2.withProblems []) ∧
      program.check.checkedStatements =
        (program.checkedStatements.1, program.checkedStatements.2.withProblems []) := by
  have raw := raw_of_ofSource read
  obtain ⟨become, repeats⟩ :=
    Check.checkDecl_again.2 _ _ (fun decl among => ⟨_, raw.topLevel decl among⟩) raw.headed
  have become : BecomeAll program.declarations program.declared.1 program.check.declarations :=
    become program.declared.2
  have start : program.check.announced = program.announced := by
    rw [announced_eq, announced_eq, Check.definedClasses_of_becomeAll become]
  have declared : program.check.declared =
      (wholeHeadings program.check.declarations, program.declared.2.withProblems []) := by
    unfold declared
    rw [start]
    exact Check.declareGlobals_again become []
  have declarations : program.check.checkedDeclarations =
      (program.checkedDeclarations.1, program.checkedDeclarations.2.withProblems []) := by
    unfold checkedDeclarations
    rw [declared]
    exact repeats program.declared.2 []
  refine ⟨declarations, ?_⟩
  unfold checkedStatements
  rw [declarations]
  exact Check.checkStmt_repeats.2 program.statements program.checkedDeclarations.2 []

/-- A program that has been checked is left as it is by another check, which finds no problem. -/
theorem check_check {file source : String} {program : Program}
    (read : Program.ofSource file source = .ok program) :
    (({} : Checker).check { program := program.check }).2.state.problems = [] ∧
      program.check.check = program.check := by
  obtain ⟨declarations, statements⟩ := checked_again read
  have none : program.check.checkedStatements.2.problems = [] := by
    rw [statements]
    rfl
  refine ⟨none, ?_⟩
  rw [check_eq program.check, none, declarations, statements]
  simp only [List.map_nil, List.append_nil]
  rfl

/-- A program with thirteen mistakes, many of them at names and at types that are looked at twice. -/
def stubbornSource : String :=
  "class A(B):\n    x: C = 1\n    x: int = 2\n" ++
    "    def f(self: \"A\", k: int, k: int) -> int:\n        pass\n" ++
    "a: A = None\ndef f(p: int) -> str:\n    global q\n    p = f.x = self[p] = [None]\n" ++
    "for f in a.x:\n    a.x[f] = f(a)\n"

/-- The stubborn program is left as it is, with its thirteen mistakes and no more. -/
theorem check_check_stubbornSource :
    ∃ program, Program.ofSource "stubborn.choc" stubbornSource = .ok program ∧
      program.check.errors.length = 13 ∧
        (({} : Checker).check { program := program.check }).2.state.problems = [] ∧
          program.check.check = program.check := by
  obtain ⟨program, read, thirteen⟩ : ∃ program, Program.ofSource "stubborn.choc" stubbornSource =
      .ok program ∧ (program.check.errors.length == 13) = true :=
    exists_ok_of_any (by decide +kernel)
  exact ⟨program, read, beq_iff_eq.mp thirteen, check_check read⟩

end Program

end ChocoLang
