import ChocoLang.Proofs.Syntax.Nesting

/-!
# Traversals

A tree is traversed by a loop that empties a stack, by recursion, and by a visitor.  The loop meets
the nodes in the order of the recursion whatever the tree is.  The visitor passes over the children
of some sorts of nodes, and in a tree that has a program, a declaration, a statement, an expression
or a written type at its top the nodes of these sorts have none.
-/

namespace ChocoLang

/-- The numbers of children that nodes of a sort have. -/
def NodeKind.Takes (count : Nat) : NodeKind → Prop
  | classType | identifier | integerLiteral | booleanLiteral | stringLiteral | noneLiteral =>
    count = 0
  | listType | unaryExpr | exprStmt | globalDecl | nonlocalDecl => count = 1
  | typedVar | varDef | binaryExpr | memberExpr | indexExpr => count = 2
  | ifExpr => count = 3
  | returnStmt => count ≤ 1
  | assignStmt | ifStmt | whileStmt | callExpr | methodCallExpr => 1 ≤ count
  | forStmt | funcDef | classDef => 2 ≤ count
  | program | listExpr => True

/-- The visitor passes over the children of no node that can have one. -/
theorem NodeKind.Takes.eq_zero {kind : NodeKind} {count : Nat} (takes : kind.Takes count)
    (passed : kind.descends = false) : count = 0 := by
  cases kind <;> simp_all [Takes, descends]

namespace Outline

/-- Every node has as many children as nodes of its sort have. -/
def Proportioned (outline : Outline) : Prop :=
  ∀ one ∈ outline.preorder, one.label.kind.Takes one.children.length

@[simp]
theorem proportioned_node {label : Label} {children : List Outline} :
    (node label children).Proportioned ↔
      label.kind.Takes children.length ∧ ∀ child ∈ children, child.Proportioned :=
  forall_preorder_node

/-! ## The nodes a visitor visits -/

mutual

theorem Proportioned.visited_eq_preorder : (outline : Outline) → outline.Proportioned →
    outline.visited = outline.preorder
  | node label children, proportioned => by
      obtain ⟨takes, below⟩ := proportioned_node.mp proportioned
      rw [visited, preorder]
      split
      · rw [visitedAll_eq_preorderAll children below]
      · next passed =>
          have none := List.length_eq_zero_iff.mp (takes.eq_zero (Bool.eq_false_iff.mpr passed))
          rw [none, preorderAll]

theorem Proportioned.visitedAll_eq_preorderAll : (outlines : List Outline) →
    (∀ outline ∈ outlines, outline.Proportioned) → visitedAll outlines = preorderAll outlines
  | [], _ => by rw [visitedAll, preorderAll]
  | outline :: rest, proportioned => by
      obtain ⟨first, others⟩ := List.forall_mem_cons.mp proportioned
      rw [visitedAll, preorderAll, visited_eq_preorder outline first,
        visitedAll_eq_preorderAll rest others]

end

/-! ## The loop -/

/-- The loop pops the last node of a stack, meets it and pushes its children in reverse, until the
stack is empty. -/
inductive Emptied : List Outline → List Outline → Prop
  | done : Emptied [] []
  | pop {stack : List Outline} {top : Outline} {met : List Outline}
      (emptied : Emptied (stack ++ top.children.reverse) met) :
      Emptied (stack ++ [top]) (top :: met)

/-- The loop ends, and it meets what a walk does whose stack has its top in front. -/
theorem emptied_iff {stack met : List Outline} : Emptied stack met ↔ met = walk stack.reverse := by
  constructor
  · intro emptied
    induction emptied with
    | done => rw [List.reverse_nil, walk]
    | pop _ ih => rw [ih, List.reverse_append, List.reverse_reverse, List.reverse_append,
        List.reverse_singleton, List.singleton_append, walk]
  · rintro rfl
    generalize shape : stack.reverse = pending
    fun_induction walk pending generalizing stack with
    | case1 =>
        rw [List.reverse_eq_nil_iff.mp shape]
        exact .done
    | case2 top pending ih =>
        obtain rfl : stack = pending.reverse ++ [top] := by
          rw [← List.reverse_reverse stack, shape, List.reverse_cons]
        exact .pop (ih (by simp))

/-! ## Each node once -/

/-- The nodes of an outline are met one by one: no place in it twice and every place once. -/
def MeetsEach (outline : Outline) (met : List Outline) : Prop :=
  ∃ places : List (List Nat), places.Nodup ∧ (∀ place, place ∈ places ↔ outline.at? place ≠ none) ∧
    places.map outline.at? = met.map some

theorem meetsEach_preorder (outline : Outline) : outline.MeetsEach outline.preorder := by
  refine ⟨outline.addressed.map Prod.fst, ?_, fun place => ?_, ?_⟩
  · refine List.pairwise_map.mpr ((pairwise_addressed outline).imp ?_)
    intro earlier later apart same
    exact apart (same ▸ List.prefix_rfl)
  · simp [mem_addressed, Option.ne_none_iff_exists']
  · rw [← map_snd_addressed, List.map_map, List.map_map]
    exact List.map_congr_left fun _ among => (mem_addressed outline).mp among

end Outline

/-! ## Syntax trees -/

attribute [local simp] NodeKind.Takes

theorem Identifier.proportioned (identifier : Identifier) : identifier.outline.Proportioned := by
  simp [outline]

theorem WrittenType.proportioned : (written : WrittenType) → written.outline.Proportioned
  | named info text => by simp [outline]
  | list info element => by simpa [outline] using element.proportioned

theorem TypedVar.proportioned (var : TypedVar) : var.outline.Proportioned := by
  simp [outline, var.identifier.proportioned, var.written.proportioned]

mutual

theorem Expr.proportioned : (expr : Expr) → expr.outline.Proportioned
  | .name identifier => by simpa [Expr.outline] using identifier.proportioned
  | .integer _ _ | .boolean _ _ | .string _ _ | .none _ => by simp [Expr.outline]
  | .list _ elements => by simpa [Expr.outline] using proportioned_outlines elements
  | .binary _ left _ right => by simp [Expr.outline, left.proportioned, right.proportioned]
  | .unary _ _ operand => by simp [Expr.outline, operand.proportioned]
  | .conditional _ condition chosen alternative => by
      simp [Expr.outline, condition.proportioned, chosen.proportioned, alternative.proportioned]
  | .member _ object field => by simp [Expr.outline, object.proportioned, field.proportioned]
  | .index _ container position => by
      simp [Expr.outline, container.proportioned, position.proportioned]
  | .call _ function args => by
      simpa [Expr.outline, function.proportioned] using proportioned_outlines args
  | .methodCall _ _ object method args => by
      simpa [Expr.outline, object.proportioned, method.proportioned] using
        proportioned_outlines args

theorem Expr.proportioned_outlines : (exprs : List Expr) →
    ∀ outline ∈ Expr.outlines exprs, outline.Proportioned
  | [] => by simp [Expr.outlines]
  | expr :: rest => by
      simpa [Expr.outlines, expr.proportioned] using proportioned_outlines rest

end

mutual

theorem Stmt.proportioned : (stmt : Stmt) → stmt.outline.Proportioned
  | .expr _ value => by simp [Stmt.outline, value.proportioned]
  | .assign _ targets value => by
      simpa [Stmt.outline, or_imp, forall_and, value.proportioned] using
        Expr.proportioned_outlines targets
  | .ifElse _ condition thenBody elseBody => by
      simpa [Stmt.outline, or_imp, forall_and, condition.proportioned] using
        ⟨proportioned_outlines thenBody, proportioned_outlines elseBody⟩
  | .whileLoop _ condition body => by
      simpa [Stmt.outline, condition.proportioned] using proportioned_outlines body
  | .forLoop _ element iterable body => by
      simpa [Stmt.outline, element.proportioned, iterable.proportioned] using
        proportioned_outlines body
  | .ret _ none => by simp [Stmt.outline]
  | .ret _ (some value) => by simp [Stmt.outline, value.proportioned]

theorem Stmt.proportioned_outlines : (stmts : List Stmt) →
    ∀ outline ∈ Stmt.outlines stmts, outline.Proportioned
  | [] => by simp [Stmt.outlines]
  | stmt :: rest => by
      simpa [Stmt.outlines, stmt.proportioned] using proportioned_outlines rest

end

mutual

theorem Decl.proportioned : (decl : Decl) → decl.outline.Proportioned
  | .varDef _ var value => by simp [Decl.outline, var.proportioned, value.proportioned]
  | .funcDef _ heading declarations statements _ => by
      have parts := proportioned_outlines declarations
      have body := Stmt.proportioned_outlines statements
      simp only [Decl.outline, FunctionHeading.outlines, Outline.proportioned_node]
      refine ⟨by simp; omega, ?_⟩
      simpa [or_imp, forall_and, heading.name.proportioned, heading.returns.proportioned,
        TypedVar.proportioned] using ⟨parts, body⟩
  | .classDef _ name superclass declarations => by
      simpa [Decl.outline, name.proportioned, superclass.proportioned] using
        proportioned_outlines declarations
  | .globalDecl _ name | .nonlocalDecl _ name => by simp [Decl.outline, name.proportioned]

theorem Decl.proportioned_outlines : (decls : List Decl) →
    ∀ outline ∈ Decl.outlines decls, outline.Proportioned
  | [] => by simp [Decl.outlines]
  | decl :: rest => by
      simpa [Decl.outlines, decl.proportioned] using proportioned_outlines rest

end

theorem Program.proportioned (program : Program) : program.outline.Proportioned := by
  simpa [outline, or_imp, forall_and] using
    ⟨Decl.proportioned_outlines program.declarations,
      Stmt.proportioned_outlines program.statements⟩

/-- A node of a syntax tree. -/
inductive Node where
  | program (tree : Program)
  | declaration (tree : Decl)
  | statement (tree : Stmt)
  | expression (tree : Expr)
  | typedVar (tree : TypedVar)
  | written (tree : WrittenType)

namespace Node

/-- The outline of the tree below a node. -/
def outline : Node → Outline
  | program tree => tree.outline
  | declaration tree => tree.outline
  | statement tree => tree.outline
  | expression tree => tree.outline
  | typedVar tree => tree.outline
  | written tree => tree.outline

theorem proportioned : (node : Node) → node.outline.Proportioned
  | program tree => tree.proportioned
  | declaration tree => tree.proportioned
  | statement tree => tree.proportioned
  | expression tree => tree.proportioned
  | typedVar tree => tree.proportioned
  | written tree => tree.proportioned

/-- The loop over a stack ends and meets each node below a node once, in the order of the recursion,
and the visitor visits the nodes in this order. -/
theorem traversals_agree (node : Node) :
    (∀ met, Outline.Emptied [node.outline] met ↔ met = Outline.walk [node.outline]) ∧
      node.outline.MeetsEach (Outline.walk [node.outline]) ∧
      Outline.walk [node.outline] = node.outline.preorder ∧
      node.outline.visited = node.outline.preorder := by
  have walked : Outline.walk [node.outline] = node.outline.preorder := by
    rw [Outline.walk_eq_preorderAll, Outline.preorderAll, Outline.preorderAll, List.append_nil]
  refine ⟨fun met => Outline.emptied_iff, ?_, walked, ?_⟩
  · rw [walked]
    exact Outline.meetsEach_preorder node.outline
  · exact Outline.Proportioned.visited_eq_preorder _ node.proportioned

end Node
end ChocoLang
