import ChocoLang.Proofs.Syntax.Labels

/-!
# Heights of trees

The height of a node is the number of nodes on the longest way down from it.  A tree is shallow if
no expression in it is higher than a limit; below an expression there are expressions only, so
this bounds every chain from an expression through its parts.
-/

namespace ChocoLang

namespace Outline

mutual

/-- The number of nodes on the longest way down from the topmost node. -/
def height : Outline → Nat
  | node _ children => heightAll children + 1

/-- The greatest height of several outlines, zero if there are none. -/
def heightAll : List Outline → Nat
  | [] => 0
  | outline :: rest => max outline.height (heightAll rest)

end

@[simp]
theorem height_node (label : Label) (children : List Outline) :
    (node label children).height = heightAll children + 1 := by
  rw [height]

@[simp]
theorem heightAll_nil : heightAll [] = 0 := by rw [heightAll]

@[simp]
theorem heightAll_cons (outline : Outline) (rest : List Outline) :
    heightAll (outline :: rest) = max outline.height (heightAll rest) := by
  rw [heightAll]

theorem height_pos (outline : Outline) : 0 < outline.height := by
  cases outline
  simp

theorem heightAll_le_iff {outlines : List Outline} {bound : Nat} :
    heightAll outlines ≤ bound ↔ ∀ outline ∈ outlines, outline.height ≤ bound := by
  induction outlines with
  | nil => simp
  | cons outline rest ih => rw [heightAll_cons, Nat.max_le, ih, List.forall_mem_cons]

theorem mem_preorderAll {one : Outline} {outlines : List Outline} :
    one ∈ preorderAll outlines ↔ ∃ outline ∈ outlines, one ∈ outline.preorder := by
  induction outlines with
  | nil => simp [preorderAll]
  | cons outline rest ih => simp [preorderAll, ih]

theorem mem_preorder_self (outline : Outline) : outline ∈ outline.preorder := by
  cases outline
  simp [preorder]

/-- What holds of all nodes holds of the topmost one and of those below each of its children. -/
theorem forall_preorder_node {property : Outline → Prop} {label : Label}
    {children : List Outline} :
    (∀ one ∈ (node label children).preorder, property one) ↔
      property (node label children) ∧
        ∀ child ∈ children, ∀ one ∈ child.preorder, property one := by
  simp only [preorder, List.forall_mem_cons, mem_preorderAll]
  grind

mutual

/-- No node of a tree is higher than the tree. -/
theorem height_le_of_mem_preorder : (outline : Outline) → ∀ one ∈ outline.preorder,
    one.height ≤ outline.height
  | node label children => by
      intro one among
      rw [preorder] at among
      rcases List.mem_cons.mp among with rfl | below
      · exact Nat.le_refl _
      · have low := height_le_of_mem_preorderAll children one below
        rw [height_node]
        omega

theorem height_le_of_mem_preorderAll : (outlines : List Outline) → ∀ one ∈ preorderAll outlines,
    one.height ≤ heightAll outlines
  | [] => by simp [preorderAll]
  | outline :: rest => by
      intro one among
      rw [preorderAll] at among
      rw [heightAll_cons]
      rcases List.mem_append.mp among with first | later
      · exact Nat.le_trans (height_le_of_mem_preorder outline one first) (Nat.le_max_left _ _)
      · exact Nat.le_trans (height_le_of_mem_preorderAll rest one later) (Nat.le_max_right _ _)

end

/-! ## Shallow trees -/

/-- No expression in the outline is higher than the limit. -/
def Shallow (limit : Nat) (outline : Outline) : Prop :=
  ∀ one ∈ outline.preorder, one.label.kind.isExpression = true → one.height ≤ limit

variable {limit : Nat}

theorem shallow_of_height_le {outline : Outline} (low : outline.height ≤ limit) :
    outline.Shallow limit :=
  fun one among _ => Nat.le_trans (height_le_of_mem_preorder outline one among) low

@[simp]
theorem shallow_node_iff (label : Label) (children : List Outline) :
    (node label children).Shallow limit ↔
      (label.kind.isExpression = true → heightAll children + 1 ≤ limit) ∧
        ∀ child ∈ children, child.Shallow limit := by
  simp only [Shallow, forall_preorder_node, Outline.label, height_node]

end Outline

/-! ## The parts of a tree -/

theorem Expr.outlines_eq_map (exprs : List Expr) : Expr.outlines exprs = exprs.map outline := by
  induction exprs with
  | nil => rw [Expr.outlines, List.map_nil]
  | cons expr rest ih => rw [Expr.outlines, ih, List.map_cons]

theorem Stmt.outlines_eq_map (stmts : List Stmt) : Stmt.outlines stmts = stmts.map outline := by
  induction stmts with
  | nil => rw [Stmt.outlines, List.map_nil]
  | cons stmt rest ih => rw [Stmt.outlines, ih, List.map_cons]

theorem Decl.outlines_eq_map (decls : List Decl) : Decl.outlines decls = decls.map outline := by
  induction decls with
  | nil => rw [Decl.outlines, List.map_nil]
  | cons decl rest ih => rw [Decl.outlines, ih, List.map_cons]

@[simp]
theorem NodeInfo.kind_label (kind : NodeKind) (info : NodeInfo) : (info.label kind).kind = kind :=
  rfl

@[simp]
theorem ExprInfo.kind_label (kind : NodeKind) (info : ExprInfo) : (info.label kind).kind = kind :=
  rfl

section Expressions

attribute [local simp] Expr.outline Identifier.outline NodeKind.isExpression

mutual

/-- Below an expression there are expressions only. -/
theorem Expr.all_isExpression : (expr : Expr) →
    expr.outline.All fun label => label.kind.isExpression = true
  | .name _ | .integer _ _ | .boolean _ _ | .string _ _ | .none _ => by simp
  | .list _ elements => by simpa using allIn_isExpression elements
  | .binary _ left _ right => by simpa using ⟨left.all_isExpression, right.all_isExpression⟩
  | .unary _ _ operand => by simpa using operand.all_isExpression
  | .conditional _ condition chosen alternative => by
      simpa using ⟨condition.all_isExpression, chosen.all_isExpression,
        alternative.all_isExpression⟩
  | .member _ object _ => by simpa using object.all_isExpression
  | .index _ container position => by
      simpa using ⟨container.all_isExpression, position.all_isExpression⟩
  | .call _ _ args => by simpa using allIn_isExpression args
  | .methodCall _ _ object _ args => by
      simpa using ⟨object.all_isExpression, allIn_isExpression args⟩

theorem Expr.allIn_isExpression : (exprs : List Expr) →
    ∀ expr ∈ exprs, expr.outline.All fun label => label.kind.isExpression = true
  | [] => nofun
  | expr :: rest => List.forall_mem_cons.mpr ⟨expr.all_isExpression, allIn_isExpression rest⟩

end

end Expressions

theorem Expr.isExpression_outline (expr : Expr) : expr.outline.label.kind.isExpression = true :=
  (Outline.all_iff_preorder _).mp expr.all_isExpression _ (Outline.mem_preorder_self _)

variable {limit : Nat}

@[simp]
theorem Identifier.height_outline (identifier : Identifier) : identifier.outline.height = 1 := by
  simp [Identifier.outline]

/-- A name is an expression of its own. -/
theorem Identifier.shallow_outline (positive : 0 < limit) (identifier : Identifier) :
    identifier.outline.Shallow limit :=
  Outline.shallow_of_height_le (by rwa [height_outline])

theorem WrittenType.shallow_outline : (written : WrittenType) → written.outline.Shallow limit
  | named info text => by simp [WrittenType.outline, NodeKind.isExpression]
  | list info element => by
      simpa [WrittenType.outline, NodeKind.isExpression] using element.shallow_outline

theorem TypedVar.shallow_outline (positive : 0 < limit) (var : TypedVar) :
    var.outline.Shallow limit := by
  simpa [TypedVar.outline, NodeKind.isExpression] using
    ⟨var.identifier.shallow_outline positive, var.written.shallow_outline⟩

theorem FunctionHeading.shallow_outlines (positive : 0 < limit) (heading : FunctionHeading) :
    ∀ outline ∈ heading.outlines, outline.Shallow limit := by
  simpa [FunctionHeading.outlines, or_imp, forall_and] using
    ⟨heading.name.shallow_outline positive, fun var _ => var.shallow_outline positive,
      heading.returns.shallow_outline⟩

end ChocoLang
