import ChocoLang.Proofs.Checking.Effects
import ChocoLang.Proofs.Checking.Verdicts

/-!
# Checking under an invariant

An action maintains an invariant if the invariant holds behind it whenever it holds before it,
whatever problems are found on the way.  What the action returns then has a property, too.
-/

namespace ChocoLang
namespace Check

variable {α β : Type}

/-- The action returns something good and keeps the invariant. -/
def Maintains (invariant : CheckState → Prop) (action : Check α) (good : α → Prop) : Prop :=
  ∀ state, invariant state → good (action state).1 ∧ invariant (action state).2

namespace Maintains

variable {invariant : CheckState → Prop} {action : Check α} {next : α → Check β}
  {good good' : α → Prop} {good'' : β → Prop}

theorem pure {value : α} (holds : good value) : Maintains invariant (Pure.pure value) good :=
  fun _ kept => ⟨holds, kept⟩

theorem mono (maintains : Maintains invariant action good)
    (weaker : ∀ value, good value → good' value) : Maintains invariant action good' :=
  fun state kept => (maintains state kept).imp_left (weaker _)

theorem bind (first : Maintains invariant action good)
    (second : ∀ value, good value → Maintains invariant (next value) good'') :
    Maintains invariant (action >>= next) good'' := by
  intro state kept
  obtain ⟨holds, between⟩ := first state kept
  exact second _ holds _ between

theorem view {look : CheckState → α} :
    Maintains invariant (Check.view look)
      fun value => ∃ state, invariant state ∧ value = look state :=
  fun state kept => ⟨⟨state, kept, rfl⟩, kept⟩

theorem get : Maintains invariant (MonadState.get : Check CheckState) invariant :=
  fun _ kept => ⟨kept, kept⟩

/-- What holds of a state in which the invariant holds may be used about the action. -/
theorem of_state (each : ∀ state, invariant state → Maintains invariant action good) :
    Maintains invariant action good :=
  fun state kept => each state kept state kept

theorem ite {condition : Prop} [Decidable condition] {yes no : Check α}
    (ifTrue : condition → Maintains invariant yes good)
    (ifFalse : ¬ condition → Maintains invariant no good) :
    Maintains invariant (if condition then yes else no) good := by
  split
  · next holds => exact ifTrue holds
  · next fails => exact ifFalse fails

theorem modifyScope {change : Scope → Scope}
    (stable : ∀ state, invariant state → invariant { state with scope := change state.scope }) :
    Maintains invariant (Check.modifyScope change) fun _ => True :=
  fun state kept => ⟨trivial, stable state kept⟩

/-- An action that ends narrowings at most maintains what forgetting keeps. -/
theorem of_forgot [Has CheckState.Forgot action]
    (kept : ∀ {before after : CheckState}, invariant before → before.Forgot after → invariant after)
    (holds : ∀ state, invariant state → good (action state).1) :
    Maintains invariant action good :=
  fun state before => ⟨holds state before, kept before (Has.ran action state)⟩

/-- What is done under a condition is done with the invariant if a branch keeps it. -/
theorem assuming [Has CheckState.Forgot action] {condition : Expr}
    (kept : ∀ {before after : CheckState}, invariant before → before.Forgot after → invariant after)
    (inside : ∀ (state : CheckState) name, invariant state →
      invariant { state with scope := state.scope.assumeAbsent name })
    (maintains : Maintains invariant action good) :
    Maintains invariant (Check.assuming condition action) good := by
  refine of_forgot kept fun state before => ?_
  cases absent : state.absentVariable? condition with
  | none =>
      rw [assuming_of_none action absent]
      exact (maintains state before).1
  | some name =>
      rw [assuming_of_some action absent]
      exact (maintains _ (inside state name before)).1

end Maintains
end Check
end ChocoLang

/-!
## Checking without problems

A step of checking establishes a property of what it returns if, whenever it starts under an
invariant and no problem is known at its end, it returns something with the property, and the
invariant holds again.  As problems are never forgotten, none is known on the way either.
-/

namespace ChocoLang

namespace Check

variable {α β : Type}

/-- If no problem is found, then the action leads from the one condition to the other. -/
def Accepts (before : CheckState → Prop) (action : Check α) (after : α → CheckState → Prop) :
    Prop :=
  ∀ state, before state → (action state).2.problems = [] → after (action state).1 (action state).2

/-- If no problem is found, then the action returns something good and keeps the invariant. -/
def Establishes (invariant : CheckState → Prop) (action : Check α) (good : α → Prop) : Prop :=
  Accepts invariant action fun value state => good value ∧ invariant state

theorem Accepts.bind {before : CheckState → Prop} {action : Check α} {next : α → Check β}
    {between : α → CheckState → Prop} {after : β → CheckState → Prop}
    [∀ value, Has CheckState.Grown (next value)] (first : Accepts before action between)
    (second : ∀ value, Accepts (between value) (next value) after) :
    Accepts before (action >>= next) after := by
  intro state holds clean
  have later : (action state).2.problems <+: ((action >>= next) state).2.problems :=
    @Has.ran _ CheckState.Grown (next (action state).1) _ (action state).2
  have cleanBefore : (action state).2.problems = [] := List.prefix_nil.mp (clean ▸ later)
  exact second _ _ (first state holds cleanBefore) clean

theorem Accepts.of_fact {fact : Prop} {before : CheckState → Prop} {action : Check α}
    {after : α → CheckState → Prop} (accepts : fact → Accepts before action after) :
    Accepts (fun state => fact ∧ before state) action after :=
  fun state holds clean => accepts holds.1 state holds.2 clean

namespace Establishes

variable {invariant : CheckState → Prop} {action : Check α} {next : α → Check β}
  {good : α → Prop} {good' : β → Prop}

theorem pure {value : α} (holds : good value) : Establishes invariant (Pure.pure value) good :=
  fun _ kept _ => ⟨holds, kept⟩

theorem mono {good' : α → Prop} (establishes : Establishes invariant action good)
    (weaker : ∀ value, good value → good' value) : Establishes invariant action good' :=
  fun state kept clean => (establishes state kept clean).imp_left (weaker _)

theorem and {good' : α → Prop} (establishes : Establishes invariant action good)
    (others : Establishes invariant action good') :
    Establishes invariant action fun value => good value ∧ good' value :=
  fun state kept clean =>
    ⟨⟨(establishes state kept clean).1, (others state kept clean).1⟩,
      (establishes state kept clean).2⟩

theorem bind [∀ value, Has CheckState.Grown (next value)]
    (first : Establishes invariant action good)
    (second : ∀ value, good value → Establishes invariant (next value) good') :
    Establishes invariant (action >>= next) good' :=
  Accepts.bind first fun value => .of_fact (second value)

theorem pure_bind {value : α} (rest : Establishes invariant (next value) good') :
    Establishes invariant (Pure.pure value >>= next) good' := rest

theorem view {look : CheckState → α} :
    Establishes invariant (Check.view look)
      fun value => ∃ state, invariant state ∧ value = look state :=
  fun state kept _ => ⟨⟨state, kept, rfl⟩, kept⟩

theorem get : Establishes invariant (MonadState.get : Check CheckState) invariant :=
  fun _ kept _ => ⟨kept, kept⟩

theorem ite {condition : Prop} [Decidable condition] {yes no : Check α}
    (ifTrue : condition → Establishes invariant yes good)
    (ifFalse : ¬ condition → Establishes invariant no good) :
    Establishes invariant (if condition then yes else no) good := by
  split
  · next holds => exact ifTrue holds
  · next fails => exact ifFalse fails

end Establishes

theorem modifyScope_establishes {invariant : CheckState → Prop} {change : Scope → Scope}
    (stable : ∀ state, invariant state →
      invariant { state with scope := change state.scope }) :
    Establishes invariant (modifyScope change) fun _ => True :=
  fun state kept _ => ⟨trivial, stable state kept⟩

/-! ## Reports -/

variable {invariant : CheckState → Prop}

theorem report_establishes {error : CheckError} {info : NodeInfo} (fresh : info.error = none) :
    Establishes invariant (report error info) fun _ => False := by
  intro state _ clean
  rw [report_apply] at clean
  simp [fresh] at clean

theorem reportExpr_establishes {error : CheckError} {info : ExprInfo} (fresh : info.error = none) :
    Establishes invariant (reportExpr error info) fun _ => False :=
  (report_establishes fresh).bind fun _ impossible => impossible.elim

theorem reportName_establishes {error : CheckError} {name : Identifier}
    (fresh : name.info.error = none) :
    Establishes invariant (reportName error name) fun _ => False :=
  (reportExpr_establishes fresh).bind fun _ impossible => impossible.elim

theorem settle_establishes {verdict : Verdict} {info : ExprInfo} (fresh : info.error = none) :
    Establishes invariant (settle verdict info) fun recorded =>
      verdict.error = none ∧ recorded = { info with type := some verdict.type } := by
  unfold settle
  split
  · exact (reportExpr_establishes fresh).bind fun _ impossible => impossible.elim
  · next clean => exact .pure_bind (.pure ⟨clean, rfl⟩)

theorem settleExpr_establishes {verdict : Verdict} {expr : Expr} (fresh : expr.info.error = none) :
    Establishes invariant (settleExpr verdict expr) fun settled =>
      verdict.error = none ∧
        settled = expr.withInfo { expr.info with type := some verdict.type } :=
  (settle_establishes fresh).bind fun _ ⟨clean, same⟩ => .pure ⟨clean, by rw [same]⟩

end Check

/-! ## The invariant -/

namespace Scope.Sound

variable {hierarchy : ClassHierarchy} {scope : Scope}

theorem define (sound : scope.Sound hierarchy) {binding : Binding}
    (new : binding.Sound hierarchy binding.name) : (scope.define binding).Sound hierarchy :=
  Scope.All.define sound new

theorem enter (sound : scope.Sound hierarchy) (kind : FrameKind) (name : String) :
    (scope.enter kind name).Sound hierarchy :=
  Scope.All.enter sound kind name

theorem leave (sound : scope.Sound hierarchy) : scope.leave.Sound hierarchy :=
  Scope.All.leave sound

theorem forget (sound : scope.Sound hierarchy) (name : String) :
    (scope.forget name).Sound hierarchy :=
  Scope.All.forget sound name

theorem assumeAbsent (sound : scope.Sound hierarchy) (name : String) :
    (scope.assumeAbsent name).Sound hierarchy :=
  (sound.enter .branch _).define ⟨ValueType.known_none, nofun⟩

end Scope.Sound

/-- The classes are those of the hierarchy, the bindings are sound, and the result is wanted. -/
structure CheckState.Sound (hierarchy : ClassHierarchy) (result : Option ValueType)
    (state : CheckState) : Prop where
  /-- The classes are those of the hierarchy. -/
  classes : state.hierarchy = hierarchy
  /-- The function at hand has the result. -/
  result : state.results.head? = result
  /-- The bindings in scope are sound. -/
  scope : state.scope.Sound hierarchy

namespace Check

variable {α : Type} {hierarchy : ClassHierarchy} {result : Option ValueType}

theorem assuming_establishes {condition : Expr} {inner : Check α} {good : α → Prop}
    (establishes : Establishes (CheckState.Sound hierarchy result) inner good) :
    Establishes (CheckState.Sound hierarchy result) (assuming condition inner) good := by
  intro state sound clean
  cases absent : state.absentVariable? condition with
  | none =>
      rw [assuming_of_none inner absent] at clean ⊢
      exact establishes state sound clean
  | some name =>
      rw [assuming_of_some inner absent] at clean ⊢
      obtain ⟨holds, after⟩ := establishes { state with scope := state.scope.assumeAbsent name }
        ⟨sound.classes, sound.result, sound.scope.assumeAbsent name⟩ clean
      exact ⟨holds, after.classes, after.result, after.scope.leave⟩

end Check
end ChocoLang
