import ChocoLang.Proofs.Syntax.WellFormed
import ChocoLang.Syntax.Outline

/-!
# Labels of outlines

A property of labels holds throughout an outline if it holds of the label of every node.  For the
outlines of trees this comes apart into the same property of the parts.
-/

namespace ChocoLang

namespace Outline

mutual

/-- Every label of the outline has the property. -/
def All (property : Label → Prop) : Outline → Prop
  | node label children => property label ∧ AllIn property children

/-- Every label of the outlines has the property. -/
def AllIn (property : Label → Prop) : List Outline → Prop
  | [] => True
  | outline :: rest => outline.All property ∧ AllIn property rest

end

variable {property : Label → Prop}

@[simp]
theorem all_node (label : Label) (children : List Outline) :
    (node label children).All property ↔ property label ∧ AllIn property children := by
  rw [All]

theorem All.label {outline : Outline} (all : outline.All property) : property outline.label := by
  cases outline
  exact ((all_node _ _).mp all).1

@[simp]
theorem allIn_nil : AllIn property [] ↔ True := by rw [AllIn]

@[simp]
theorem allIn_cons (outline : Outline) (rest : List Outline) :
    AllIn property (outline :: rest) ↔ outline.All property ∧ AllIn property rest := by
  rw [AllIn]

@[simp]
theorem allIn_append (first second : List Outline) :
    AllIn property (first ++ second) ↔ AllIn property first ∧ AllIn property second := by
  induction first with
  | nil => simp
  | cons outline rest ih => simp [ih, and_assoc]

theorem allIn_iff (outlines : List Outline) :
    AllIn property outlines ↔ ∀ outline ∈ outlines, outline.All property := by
  induction outlines with
  | nil => simp
  | cons outline rest ih => simp [ih]

mutual

/-- The property of all labels is that of the label of each node in the walk over the outline. -/
theorem all_iff_preorder : (outline : Outline) →
    (outline.All property ↔ ∀ one ∈ outline.preorder, property one.label)
  | node label children => by
      simp [preorder, Outline.label, allIn_iff_preorderAll children]

theorem allIn_iff_preorderAll : (outlines : List Outline) →
    (AllIn property outlines ↔ ∀ one ∈ preorderAll outlines, property one.label)
  | [] => by simp [preorderAll]
  | outline :: rest => by
      simp [preorderAll, all_iff_preorder outline, allIn_iff_preorderAll rest, or_imp, forall_and]

end

end Outline

open Outline

variable {property : Label → Prop}

@[simp]
theorem Expr.allIn_outlines (exprs : List Expr) :
    AllIn property (Expr.outlines exprs) ↔ ∀ expr ∈ exprs, expr.outline.All property := by
  induction exprs with
  | nil => simp [Expr.outlines]
  | cons expr rest ih => simp [Expr.outlines, ih]

@[simp]
theorem Stmt.allIn_outlines (stmts : List Stmt) :
    AllIn property (Stmt.outlines stmts) ↔ ∀ stmt ∈ stmts, stmt.outline.All property := by
  induction stmts with
  | nil => simp [Stmt.outlines]
  | cons stmt rest ih => simp [Stmt.outlines, ih]

@[simp]
theorem Decl.allIn_outlines (decls : List Decl) :
    AllIn property (Decl.outlines decls) ↔ ∀ decl ∈ decls, decl.outline.All property := by
  induction decls with
  | nil => simp [Decl.outlines]
  | cons decl rest ih => simp [Decl.outlines, ih]

/-! ## Fresh trees -/

/-- No error and no type is recorded. -/
def Label.Fresh (label : Label) : Prop := label.error = none ∧ label.type = none

/-- Neither an error nor a type is recorded at any node of the outline. -/
abbrev Outline.Fresh (outline : Outline) : Prop := outline.All Label.Fresh

@[simp]
theorem NodeInfo.error_ofSpan (span : Span) : (NodeInfo.ofSpan span).error = none := rfl

@[simp]
theorem ExprInfo.error_ofSpan (span : Span) : (ExprInfo.ofSpan span).error = none := rfl

@[simp]
theorem ExprInfo.type_ofSpan (span : Span) : (ExprInfo.ofSpan span).type = none := rfl

@[simp]
theorem fresh_label_iff (kind : NodeKind) (info : NodeInfo) :
    (info.label kind).Fresh ↔ info.error = none := by
  simp [Label.Fresh, NodeInfo.label]

@[simp]
theorem fresh_label_iff_expr (kind : NodeKind) (info : ExprInfo) :
    (info.label kind).Fresh ↔ info.error = none ∧ info.type = none :=
  Iff.rfl

theorem Identifier.fresh_outline_iff (identifier : Identifier) :
    identifier.outline.Fresh ↔ identifier.info.error = none ∧ identifier.info.type = none := by
  simp [Identifier.outline, Label.Fresh, ExprInfo.label]

end ChocoLang

/-!
## Marked nodes

A node at which an error is recorded bears a mark: the message and the text it is about.  The nodes
of an outline that bear a certain mark are counted by a recursion over the outline, and the count
comes apart into those of the parts.
-/

namespace ChocoLang

/-- A message and the text it is about, if it is about one. -/
abbrev Mark := String × Option Span

/-- The mark that a label bears: the message of its error and its text. -/
def Label.mark? (label : Label) : Option Mark := label.error.map fun message =>
  (message, some label.span)

/-- What a diagnostic says, and about which text. -/
def Diagnostic.mark (diagnostic : Diagnostic) : Mark := (diagnostic.message, diagnostic.span)

/-- One if the mark is recorded, and none otherwise. -/
def NodeInfo.tally (mark : Mark) (info : NodeInfo) : Nat :=
  if (info.error.map fun message => (message, some info.span)) = some mark then 1 else 0

/-- One if the label bears the mark, and none otherwise. -/
def Label.tally (mark : Mark) (label : Label) : Nat := if label.mark? = some mark then 1 else 0

namespace Outline

mutual

/-- How many nodes of the outline bear the mark. -/
def tally (mark : Mark) : Outline → Nat
  | node label children => label.tally mark + tallyAll mark children

/-- How many nodes of the outlines bear the mark. -/
def tallyAll (mark : Mark) : List Outline → Nat
  | [] => 0
  | outline :: rest => outline.tally mark + tallyAll mark rest

end

variable {mark : Mark}

@[simp]
theorem tally_node (label : Label) (children : List Outline) :
    (node label children).tally mark = label.tally mark + tallyAll mark children := by
  rw [tally]

@[simp]
theorem tallyAll_nil : tallyAll mark [] = 0 := by rw [tallyAll]

@[simp]
theorem tallyAll_cons (outline : Outline) (rest : List Outline) :
    tallyAll mark (outline :: rest) = outline.tally mark + tallyAll mark rest := by
  rw [tallyAll]

@[simp]
theorem tallyAll_append (first second : List Outline) :
    tallyAll mark (first ++ second) = tallyAll mark first + tallyAll mark second := by
  induction first with
  | nil => simp
  | cons outline rest ih => simp [ih, Nat.add_assoc]

/-- The marks that the nodes of outlines bear, in the order of the walk. -/
def marks (outlines : List Outline) : List Mark :=
  (walk outlines).filterMap fun node => node.label.mark?

mutual

theorem count_preorder : (outline : Outline) →
    (outline.preorder.filterMap fun node => node.label.mark?).count mark = outline.tally mark
  | node label children => by
      have below := count_preorderAll children
      rw [preorder, tally_node, Label.tally, ← below]
      cases found : label.mark? with
      | none => simp [Outline.label, found]
      | some own =>
          simp [Outline.label, found, List.count_cons, Nat.add_comm]

theorem count_preorderAll : (outlines : List Outline) →
    ((preorderAll outlines).filterMap fun node => node.label.mark?).count mark =
      tallyAll mark outlines
  | [] => by simp [preorderAll]
  | outline :: rest => by
      rw [preorderAll, List.filterMap_append, List.count_append, count_preorder outline,
        count_preorderAll rest, tallyAll_cons]

end

/-- A mark is borne by as many nodes as the walk meets with it. -/
theorem count_marks (outlines : List Outline) :
    (marks outlines).count mark = tallyAll mark outlines := by
  rw [marks, walk_eq_preorderAll, count_preorderAll]

mutual

/-- No node of a fresh outline bears a mark. -/
theorem tally_of_fresh : (outline : Outline) → outline.Fresh → outline.tally mark = 0
  | node label children => fun fresh => by
      obtain ⟨⟨clean, -⟩, below⟩ := (all_node label children).mp fresh
      rw [tally_node, tallyAll_of_fresh children below, Label.tally, Label.mark?, clean]
      rfl

theorem tallyAll_of_fresh : (outlines : List Outline) → AllIn Label.Fresh outlines →
    tallyAll mark outlines = 0
  | [] => fun _ => tallyAll_nil
  | outline :: rest => fun fresh => by
      obtain ⟨first, others⟩ := (allIn_cons outline rest).mp fresh
      rw [tallyAll_cons, tally_of_fresh outline first, tallyAll_of_fresh rest others]

end

end Outline

variable {mark : Mark}

@[simp]
theorem NodeInfo.tally_label (kind : NodeKind) (info : NodeInfo) :
    (info.label kind).tally mark = info.tally mark := rfl

@[simp]
theorem ExprInfo.tally_label (kind : NodeKind) (info : ExprInfo) :
    (info.label kind).tally mark = info.toNodeInfo.tally mark := rfl

@[simp]
theorem Identifier.tally_outline (name : Identifier) :
    name.outline.tally mark = name.info.toNodeInfo.tally mark := rfl

theorem NodeInfo.tally_of_clean {info : NodeInfo} (clean : info.error = none) :
    info.tally mark = 0 := by
  rw [tally, clean]
  rfl

/-- The marks below an expression stay when something else is recorded at the expression. -/
theorem Expr.tally_withInfo (expr : Expr) (mark : Mark) (info : ExprInfo) :
    (expr.withInfo info).outline.tally mark + expr.info.toNodeInfo.tally mark =
      expr.outline.tally mark + info.toNodeInfo.tally mark := by
  cases expr <;> simp [withInfo, outline, Expr.info] <;> omega

/-!
## The functions of a tree

A function may be defined at the top level, in a class or in the body of another function.  The
functions of a tree are all of them, outer before inner.
-/

/-- A function as it is defined. -/
structure FunctionDef where
  /-- What is recorded at the definition. -/
  info : NodeInfo
  /-- The part of the function that others see. -/
  heading : FunctionHeading
  /-- What the function declares. -/
  declarations : List Decl
  /-- What the function does. -/
  statements : List Stmt
  /-- An error was found while the body was read. -/
  recovered : Bool

/-- The name of the function. -/
def FunctionDef.name (function : FunctionDef) : String := function.heading.name.name

mutual

/-- The functions that a declaration defines, at any depth. -/
def Decl.functionDefs : Decl → List FunctionDef
  | .funcDef info heading declarations statements recovered =>
    ⟨info, heading, declarations, statements, recovered⟩ :: functionDefsIn declarations
  | .classDef _ _ _ declarations => functionDefsIn declarations
  | .varDef _ _ _ | .globalDecl _ _ | .nonlocalDecl _ _ => []

/-- The functions that declarations define, at any depth. -/
def functionDefsIn : List Decl → List FunctionDef
  | [] => []
  | decl :: rest => decl.functionDefs ++ functionDefsIn rest

end

/-- The functions of a program. -/
def Program.functionDefs (program : Program) : List FunctionDef :=
  functionDefsIn program.declarations

theorem mem_functionDefsIn {function : FunctionDef} {decls : List Decl} :
    function ∈ functionDefsIn decls ↔ ∃ decl ∈ decls, function ∈ decl.functionDefs := by
  induction decls with
  | nil => simp [functionDefsIn]
  | cons decl rest ih => simp [functionDefsIn, ih]

/-! ## Marks at the names of functions -/

namespace FunctionDef

variable {mark : Mark}

mutual

/-- A mark at the name of a function is one of the marks of the declaration. -/
theorem tally_name_le {function : FunctionDef} : (decl : Decl) → function ∈ decl.functionDefs →
    function.heading.name.outline.tally mark ≤ decl.outline.tally mark
  | .funcDef info heading declarations statements recovered => by
      intro among
      simp only [Decl.functionDefs, List.mem_cons] at among
      simp only [Decl.outline, FunctionHeading.outlines, Outline.tally_node, List.cons_append,
        Outline.tallyAll_cons, Outline.tallyAll_append]
      rcases among with rfl | inside
      · dsimp only
        omega
      · have inner := tally_name_le_in declarations inside
        omega
  | .classDef info name superclass declarations => by
      intro inside
      have inner := tally_name_le_in declarations inside
      simp only [Decl.outline, Outline.tally_node, Outline.tallyAll_cons]
      omega
  | .varDef _ _ _ | .globalDecl _ _ | .nonlocalDecl _ _ => nofun

theorem tally_name_le_in {function : FunctionDef} : (decls : List Decl) →
    function ∈ functionDefsIn decls →
      function.heading.name.outline.tally mark ≤ Outline.tallyAll mark (Decl.outlines decls)
  | [] => nofun
  | decl :: rest => by
      intro among
      rw [functionDefsIn, List.mem_append] at among
      rw [Decl.outlines, Outline.tallyAll_cons]
      rcases among with first | later
      · have own := tally_name_le decl first
        omega
      · have others := tally_name_le_in rest later
        omega

end

end FunctionDef
end ChocoLang
