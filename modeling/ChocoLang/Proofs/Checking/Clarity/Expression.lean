import ChocoLang.Proofs.Checking.Annotation.Statement
import ChocoLang.Proofs.Checking.Reports.Statement
import ChocoLang.Proofs.Syntax.Portable

/-!
# Recorded types are told by their records

All types that checking comes across are of certain classes.  As long as none of these has the name
that the unknown type is shown by, the types recorded in an expression are told by their records: the
types of values, and the types of the functions and methods that are called.
-/

namespace ChocoLang

theorem ValueType.Among.clear {classes : List String}
    (named : ∀ name ∈ classes, name ≠ unknown.display) :
    {type : ValueType} → type.Among classes → type.Clear
  | classType name, among => by
      rcases among with listed | special
      · exact named name listed
      · simp only [none, empty, display, List.mem_cons, List.not_mem_nil, or_false] at special
        rcases special with rfl | rfl <;> simp [Clear, display]
  | list element, among =>
      have inner : element.Among classes := among_list.mp among
      inner.clear named
  | function _ _, among => by cases among
  | unknown, _ => trivial

theorem Signature.Among.clear {classes : List String}
    (named : ∀ name ∈ classes, name ≠ ValueType.unknown.display) {signature : Signature}
    (among : signature.Among classes) : signature.type.Clear :=
  ValueType.clear_function.mpr
    ⟨fun param inside => (among.params param inside).clear named, among.result.clear named⟩

/-- The type of a bound name is told by its record, whatever the name is bound to. -/
theorem Binding.Among.clear {classes : List String}
    (named : ∀ name ∈ classes, name ≠ ValueType.unknown.display) {binding : Binding}
    (among : binding.Among classes) (noClass : binding.kind ≠ .classDef) :
    binding.type.Clear := by
  cases shape : binding.type with
  | function params result => exact (among.function params result shape).clear named
  | classType | list | unknown =>
      exact shape ▸ (among.other noClass (by rw [shape]; rfl)).clear named

namespace ClassHierarchy

variable {classes : List String} {hierarchy : ClassHierarchy}

/-- The type recorded at a name that is called is told by its record. -/
theorem Among.clear_nameCall (known : hierarchy.Among classes)
    (named : ∀ name ∈ classes, name ≠ ValueType.unknown.display) {scope : Scope}
    (bound : scope.Among classes) (name : String) (args : List ValueType) :
    (hierarchy.nameCallVerdict scope name args).callee.type.Clear := by
  unfold ClassHierarchy.nameCallVerdict
  split
  · trivial
  · next binding found =>
      have among := Scope.All.lookup bound found
      split
      · unfold constructionVerdict
        split
        · trivial
        · next info listed =>
            have members := known.listed _ info listed
            split
            · trivial
            · next constructor own =>
                have signature := (members.methods _ _ own).params
                exact ValueType.clear_function.mpr
                  ⟨fun param inside => (signature param (List.mem_of_mem_tail inside)).clear named,
                    named _ members.name⟩
      · next params result kind type =>
          exact type ▸ (among.function params result type).clear named
      · next noClass noFunction =>
          exact among.clear named noClass

/-- The type recorded at a method that is called is told by its record. -/
theorem Among.clear_methodCall (known : hierarchy.Among classes)
    (named : ∀ name ∈ classes, name ≠ ValueType.unknown.display) (object : ValueType)
    (name : String) (args : List ValueType) :
    (hierarchy.methodCallVerdict object name args).callee.type.Clear := by
  unfold ClassHierarchy.methodCallVerdict
  split
  · trivial
  · split
    · trivial
    · next info found =>
        split
        · trivial
        · next method own =>
            exact ((known.classOf found).methods _ _ own).clear named

end ClassHierarchy

/-- With another type that is told by its record the expression is told by its record. -/
theorem Expr.clear_withInfo {expr : Expr} (clear : expr.outline.Clear) {info : ExprInfo}
    (told : ∀ type ∈ info.type, type.Clear) : (expr.withInfo info).outline.Clear := by
  cases expr <;> simp_all [withInfo, outline, Identifier.outline, Label.Clear, ExprInfo.label]

theorem Expr.clear_info {expr : Expr} (clear : expr.outline.Clear) :
    ∀ type ∈ expr.info.type, type.Clear := by
  have top := clear.label
  cases expr <;> exact top

namespace Check

variable {α : Type} {classes : List String}

/-- Two properties of what an action returns are shown separately. -/
theorem Maintains.and {invariant : CheckState → Prop} {action : Check α} {good good' : α → Prop}
    (first : Maintains invariant action good) (second : Maintains invariant action good') :
    Maintains invariant action fun value => good value ∧ good' value :=
  fun state kept => ⟨⟨(first state kept).1, (second state kept).1⟩, (first state kept).2⟩

/-- What an action returns in any case, it also returns under an invariant. -/
theorem Maintains.andReturns {invariant : CheckState → Prop} {action : Check α}
    {good good' : α → Prop} (maintains : Maintains invariant action good)
    (returns : Returns action good') :
    Maintains invariant action fun value => good value ∧ good' value :=
  fun state kept => ⟨⟨(maintains state kept).1, returns state⟩, (maintains state kept).2⟩

theorem demand_clear (wanted : ValueType) (error : ValueType → CheckError) {expr : Expr}
    (clear : expr.outline.Clear) :
    Returns (demand wanted error expr) fun demanded => demanded.outline.Clear :=
  .ite (fun _ => .pure clear) fun _ => (reportExpr_type _ expr.info).bind fun _ same =>
    .pure (Expr.clear_withInfo clear (same ▸ Expr.clear_info clear))

theorem settle_clear {verdict : Verdict} (definite : ∀ error ∈ verdict.error, error.Definite classes)
    (clear : verdict.type.Clear) (info : ExprInfo) :
    Maintains (CheckState.Among classes) (settle verdict info)
      fun recorded => ∀ type ∈ recorded.type, type.Clear :=
  (settle_maintains definite info).mono fun recorded same => by simpa [same] using clear

section

variable (named : ∀ name ∈ classes, name ≠ ValueType.unknown.display)
include named

theorem settleExpr_clear {verdict : Verdict} (among : verdict.Among classes) {expr : Expr}
    (clear : expr.outline.Clear) :
    Maintains (CheckState.Among classes) (settleExpr verdict expr) fun expr => expr.outline.Clear :=
  (settle_clear among.error (among.type.clear named) expr.info).bind fun _ told =>
    .pure (Expr.clear_withInfo clear told)

attribute [local simp] Expr.outline Identifier.clear_outline_iff in
/-- Checking expressions records types that are told by their records. -/
theorem infer_clear :
    (∀ expr : Expr, expr.outline.Clear →
      Maintains (CheckState.Among classes) (infer expr) fun checked => checked.outline.Clear) ∧
    ∀ exprs : List Expr, (∀ expr ∈ exprs, expr.outline.Clear) →
      Maintains (CheckState.Among classes) (inferAll exprs)
        fun checked => ∀ expr ∈ checked, expr.outline.Clear := by
  apply Expr.mutual_induction
  case name =>
    intro identifier clear
    unfold infer
    refine Maintains.view.bind ?_
    rintro verdict ⟨state, kept, rfl⟩
    exact settleExpr_clear named (kept.scope.readVerdict _) clear
  case integer | boolean | string | none =>
    intros
    unfold infer
    refine .of_state fun state kept => settleExpr_clear named (Verdict.among_plain ?_) ‹_›
    first
      | exact kept.hierarchy.among_int
      | exact kept.hierarchy.among_bool
      | exact kept.hierarchy.among_str
      | exact ValueType.among_none classes
  case list =>
    intro info elements each clear
    simp at clear
    unfold infer
    refine (Maintains.and (infer_maintains.2 elements) (each clear.2)).bind ?_
    rintro elements ⟨among, inside⟩
    have types : ∀ type ∈ elements.map Expr.type, type.Among classes := by simpa using among
    refine Maintains.view.bind ?_
    rintro type ⟨state, kept, rfl⟩
    exact settleExpr_clear named (Verdict.among_plain (kept.hierarchy.among_displayType types))
      (by simpa using ⟨clear.1, inside⟩)
  case binary =>
    intro info left operator right first second clear
    simp at clear
    unfold infer
    refine (Maintains.and (infer_maintains.1 left) (first clear.2.1)).bind ?_
    rintro left ⟨among, first⟩
    refine (Maintains.and (infer_maintains.1 right) (second clear.2.2)).bind ?_
    rintro right ⟨among', second⟩
    refine Maintains.view.bind ?_
    rintro verdict ⟨state, kept, rfl⟩
    exact settleExpr_clear named (kept.hierarchy.operationVerdict operator among among')
      (by simpa using ⟨clear.1, first, second⟩)
  case unary =>
    intro info operator operand within clear
    simp at clear
    unfold infer
    refine (Maintains.and (infer_maintains.1 operand) (within clear.2)).bind ?_
    rintro operand ⟨among, inside⟩
    refine .of_state fun state kept =>
      settleExpr_clear named (kept.hierarchy.unaryVerdict operator among) ?_
    simpa using ⟨clear.1, inside⟩
  case conditional =>
    intro info condition thenExpr elseExpr asked first second clear
    simp at clear
    unfold infer
    refine (Maintains.and (infer_maintains.1 condition) (asked clear.2.1)).bind ?_
    rintro condition ⟨among, asked⟩
    refine (Maintains.andReturns (demandCondition_maintains among) (demand_clear _ _ asked)).bind ?_
    rintro condition ⟨-, asked⟩
    refine (assuming_maintains condition
      (Maintains.and (infer_maintains.1 thenExpr) (first clear.2.2.1))).bind ?_
    rintro thenExpr ⟨among, first⟩
    refine (Maintains.and (infer_maintains.1 elseExpr) (second clear.2.2.2)).bind ?_
    rintro elseExpr ⟨among', second⟩
    refine Maintains.view.bind ?_
    rintro type ⟨state, kept, rfl⟩
    exact settleExpr_clear named (Verdict.among_plain (kept.hierarchy.among_join among among'))
      (by simpa using ⟨clear.1, asked, first, second⟩)
  case member =>
    intro info object field within clear
    simp at clear
    unfold infer
    refine (Maintains.and (infer_maintains.1 object) (within clear.2.1)).bind ?_
    rintro object ⟨among, inside⟩
    refine Maintains.view.bind ?_
    rintro verdict ⟨state, kept, rfl⟩
    exact settleExpr_clear named (kept.hierarchy.attributeVerdict among field.name)
      (by simpa using ⟨clear.1, inside, clear.2.2⟩)
  case index =>
    intro info container position outer inner clear
    simp at clear
    unfold infer
    refine (Maintains.and (infer_maintains.1 container) (outer clear.2.1)).bind ?_
    rintro container ⟨among, first⟩
    refine (Maintains.and (infer_maintains.1 position) (inner clear.2.2)).bind ?_
    rintro position ⟨among', second⟩
    refine (Maintains.andReturns (demandPosition_maintains among') (demand_clear _ _ second)).bind ?_
    rintro position ⟨-, second⟩
    refine .of_state fun state kept =>
      settleExpr_clear named (kept.hierarchy.indexVerdict among) ?_
    simpa using ⟨clear.1, first, second⟩
  case call =>
    intro info function args each clear
    simp at clear
    unfold infer
    refine (Maintains.and (infer_maintains.2 args) (each clear.2.2)).bind ?_
    rintro args ⟨among, inside⟩
    refine Maintains.get.bind fun state kept => ?_
    have types : ∀ type ∈ args.map Expr.type, type.Among classes := by simpa using among
    have verdict := kept.hierarchy.nameCallVerdict kept.scope function.name types
    have callee := kept.hierarchy.clear_nameCall named kept.scope function.name
      (args.map Expr.type)
    exact (settle_clear verdict.callee callee function.info).bind fun callee told =>
      settleExpr_clear named verdict.call (by simpa using ⟨clear.1, told, inside⟩)
  case methodCall =>
    intro info access object method args within each clear
    simp [Label.Clear, ExprInfo.label] at clear
    unfold infer
    refine (Maintains.and (infer_maintains.1 object) (within clear.2.1.2.1)).bind ?_
    rintro object ⟨among, first⟩
    refine (Maintains.and (infer_maintains.2 args) (each clear.2.2)).bind ?_
    rintro args ⟨given, second⟩
    refine Maintains.view.bind ?_
    rintro verdict ⟨state, kept, rfl⟩
    have types : ∀ type ∈ args.map Expr.type, type.Among classes := by simpa using given
    have verdict := kept.hierarchy.methodCallVerdict among method.name types
    have callee := kept.hierarchy.clear_methodCall named object.type method.name
      (args.map Expr.type)
    exact (settle_clear verdict.callee callee access).bind fun access told =>
      settleExpr_clear named verdict.call
        (by simpa using ⟨clear.1, ⟨told, first, clear.2.1.2.2⟩, second⟩)
  case nil =>
    intro _
    unfold inferAll
    exact .pure (List.forall_mem_nil _)
  case cons =>
    intro expr rest first others clear
    obtain ⟨here, there⟩ := List.forall_mem_cons.mp clear
    unfold inferAll
    exact (first here).bind fun expr told => (others there).bind fun rest more =>
      .pure (List.forall_mem_cons.mpr ⟨told, more⟩)

/-- The type of an expression is of the classes, and all that is recorded in it is told. -/
theorem infer_told {expr : Expr} (clear : expr.outline.Clear) :
    Maintains (CheckState.Among classes) (infer expr)
      fun checked => checked.type.Among classes ∧ checked.outline.Clear :=
  Maintains.and (infer_maintains.1 expr) ((infer_clear named).1 expr clear)

end

end Check
end ChocoLang
