import ChocoLang.Proofs.Source.Within
import ChocoLang.Proofs.Syntax.Height

/-!
# Nested outlines

The spans in an outline are nested if those of the children of each node stand one behind the other
within the span of the node.  The children of a node are listed in the order of the text, except
that the condition of a choice between expressions is listed before the expression in front of it.
-/

namespace ChocoLang

/-- The children of a node of a sort, in the order of the text. -/
def NodeKind.inText {α : Type} : NodeKind → List α → List α
  | .ifExpr, condition :: chosen :: rest => chosen :: condition :: rest
  | _, children => children

theorem NodeKind.inText_perm {α : Type} (kind : NodeKind) (children : List α) :
    (kind.inText children).Perm children := by
  unfold inText
  split
  · exact .swap ..
  · exact .refl _

namespace Outline

/-- The text of the topmost node. -/
def span (outline : Outline) : Span := outline.label.span

@[simp]
theorem span_node (label : Label) (children : List Outline) :
    (node label children).span = label.span := rfl

/-- The children of the topmost node, in the order of the text. -/
def inText (outline : Outline) : List Outline := outline.label.kind.inText outline.children

@[simp]
theorem inText_node (label : Label) (children : List Outline) :
    (node label children).inText = label.kind.inText children := rfl

theorem mem_inText {outline child : Outline} :
    child ∈ outline.inText ↔ child ∈ outline.children :=
  (outline.label.kind.inText_perm outline.children).mem_iff

/-- The children of the topmost node stand one behind the other within its text. -/
def Encloses (outline : Outline) : Prop :=
  Successive outline.span.start (outline.inText.map span) outline.span.stop

/-- Every node of the outline has its children one behind the other within its text. -/
def Nested (outline : Outline) : Prop := ∀ one ∈ outline.preorder, one.Encloses

theorem nested_node {label : Label} {children : List Outline} :
    (node label children).Nested ↔
      (node label children).Encloses ∧ ∀ child ∈ children, child.Nested :=
  forall_preorder_node

/-- Every node of the outline takes up some text. -/
def Wide (outline : Outline) : Prop := ∀ one ∈ outline.preorder, one.span.start < one.span.stop

theorem wide_node {label : Label} {children : List Outline} :
    (node label children).Wide ↔
      label.span.start < label.span.stop ∧ ∀ child ∈ children, child.Wide :=
  forall_preorder_node

mutual

/-- The nodes below a node of an outline are nodes of the outline. -/
theorem preorder_subset : (outline : Outline) → ∀ one ∈ outline.preorder,
    one.preorder ⊆ outline.preorder
  | node label children => by
      intro one among
      rw [preorder] at among ⊢
      rcases List.mem_cons.mp among with rfl | below
      · rw [preorder]
        exact List.Subset.refl _
      · exact List.Subset.trans (preorderAll_subset children one below) (List.subset_cons_self _ _)

theorem preorderAll_subset : (outlines : List Outline) → ∀ one ∈ preorderAll outlines,
    one.preorder ⊆ preorderAll outlines
  | [] => by simp [preorderAll]
  | outline :: rest => by
      intro one among
      rw [preorderAll] at among ⊢
      rcases List.mem_append.mp among with first | later
      · exact List.Subset.trans (preorder_subset outline one first) (List.subset_append_left _ _)
      · exact List.Subset.trans (preorderAll_subset rest one later) (List.subset_append_right _ _)

end

theorem Wide.of_mem_preorder {outline one : Outline} (wide : outline.Wide)
    (among : one ∈ outline.preorder) : one.Wide :=
  fun other below => wide other (preorder_subset outline one among below)

/-- The spans of a node and its children nest: no span is reversed, the text of the node contains
that of each child, and the texts of different children do not overlap. -/
structure SpansNest (outline : Outline) : Prop where
  /-- The node does not stop before it starts. -/
  forward : outline.span.start ≤ outline.span.stop
  /-- The text of the node contains that of each child. -/
  contains : ∀ child ∈ outline.children, outline.span.Contains child.span
  /-- The texts of the children do not overlap. -/
  apart : outline.children.Pairwise fun one other => one.span.Apart other.span

theorem Encloses.spansNest {outline : Outline} (encloses : outline.Encloses) :
    outline.SpansNest where
  forward := encloses.le
  contains child among := by
    have within := encloses.within child.span (List.mem_map_of_mem (mem_inText.mpr among))
    exact ⟨within.1, within.2.2⟩
  apart := by
    have apart : outline.inText.Pairwise fun one other => one.span.Apart other.span :=
      (List.pairwise_map.mp encloses.pairwise).imp .inl
    exact (outline.label.kind.inText_perm outline.children).pairwise_iff
      (fun order => Span.apart_comm.mp order) |>.mp apart

end Outline
end ChocoLang

/-!
## Addresses in outlines

The address of a node tells which child to take at each step from the topmost node down to it.  One
address is the beginning of another if and only if the one node lies on the way to the other.  In
the preorder no node comes after one that lies below it; and if the spans nest, the nodes whose text
covers one position lie on one way.
-/

namespace ChocoLang
namespace Outline

/-- The node at an address. -/
def at? (outline : Outline) : List Nat → Option Outline
  | [] => some outline
  | index :: address => outline.children[index]?.bind fun child => child.at? address

@[simp]
theorem at?_nil (outline : Outline) : outline.at? [] = some outline := rfl

theorem at?_cons_eq_some_iff {outline one : Outline} {index : Nat} {address : List Nat} :
    outline.at? (index :: address) = some one ↔
      ∃ child, outline.children[index]? = some child ∧ child.at? address = some one := by
  simp [at?, Option.bind_eq_some_iff]

/-! ## The nodes with their addresses -/

mutual

/-- The nodes of an outline with their addresses, in preorder. -/
def addressed : Outline → List (List Nat × Outline)
  | node label children => ([], node label children) :: addressedFrom 0 children

/-- The nodes below a node with their addresses, from a certain child on. -/
def addressedFrom (index : Nat) : List Outline → List (List Nat × Outline)
  | [] => []
  | outline :: rest =>
    outline.addressed.map (fun (address, one) => (index :: address, one)) ++
      addressedFrom (index + 1) rest

end

mutual

theorem map_snd_addressed : (outline : Outline) → outline.addressed.map Prod.snd = outline.preorder
  | node label children => by
      rw [addressed, preorder, List.map_cons, map_snd_addressedFrom 0 children]

theorem map_snd_addressedFrom (index : Nat) : (outlines : List Outline) →
    (addressedFrom index outlines).map Prod.snd = preorderAll outlines
  | [] => by simp [addressedFrom, preorderAll]
  | outline :: rest => by
      rw [addressedFrom, preorderAll, List.map_append, map_snd_addressedFrom (index + 1) rest,
        ← map_snd_addressed outline, List.map_map]
      rfl

end

mutual

theorem mem_addressed {address : List Nat} {one : Outline} : (outline : Outline) →
    ((address, one) ∈ outline.addressed ↔ outline.at? address = some one)
  | node label children => by
      rw [addressed, List.mem_cons, mem_addressedFrom 0 children]
      cases address with
      | nil => simp [eq_comm]
      | cons index address =>
          simp only [at?_cons_eq_some_iff, Nat.zero_add, List.cons.injEq, Prod.mk.injEq,
            reduceCtorEq, false_and, false_or]
          constructor
          · rintro ⟨_, _, ⟨rfl, rfl⟩, below⟩
            exact below
          · exact fun below => ⟨index, address, ⟨rfl, rfl⟩, below⟩

theorem mem_addressedFrom (first : Nat) {address : List Nat} {one : Outline} :
    (outlines : List Outline) → ((address, one) ∈ addressedFrom first outlines ↔
      ∃ index below, address = (first + index) :: below ∧
        ∃ child, outlines[index]? = some child ∧ child.at? below = some one)
  | [] => by simp [addressedFrom]
  | outline :: rest => by
      rw [addressedFrom, List.mem_append, mem_addressedFrom (first + 1) rest]
      constructor
      · rintro (inside | ⟨index, below, rfl, child, found, leads⟩)
        · obtain ⟨⟨below, other⟩, among, same⟩ := List.mem_map.mp inside
          cases same
          exact ⟨0, below, rfl, outline, rfl, (mem_addressed outline).mp among⟩
        · exact ⟨index + 1, below, by rw [Nat.add_right_comm, Nat.add_assoc], child, found, leads⟩
      · rintro ⟨index, below, rfl, child, found, leads⟩
        cases index with
        | zero =>
            cases found
            exact .inl (List.mem_map.mpr ⟨(below, one), (mem_addressed outline).mpr leads, rfl⟩)
        | succ index =>
            exact .inr ⟨index, below, by rw [Nat.add_right_comm, Nat.add_assoc], child, found,
              leads⟩

end

mutual

/-- No node comes after one that lies below it. -/
theorem pairwise_addressed : (outline : Outline) →
    outline.addressed.Pairwise fun earlier later => ¬later.1 <+: earlier.1
  | node label children => by
      rw [addressed]
      refine .cons ?_ (pairwise_addressedFrom 0 children)
      rintro ⟨address, one⟩ among before
      obtain ⟨index, below, rfl, -⟩ := (mem_addressedFrom 0 children).mp among
      simp at before

theorem pairwise_addressedFrom (index : Nat) : (outlines : List Outline) →
    (addressedFrom index outlines).Pairwise fun earlier later => ¬later.1 <+: earlier.1
  | [] => by simp [addressedFrom]
  | outline :: rest => by
      rw [addressedFrom]
      refine List.pairwise_append.mpr ⟨?_, pairwise_addressedFrom (index + 1) rest, ?_⟩
      · exact List.pairwise_map.mpr ((pairwise_addressed outline).imp fun after before =>
          after (List.prefix_cons_inj _ |>.mp before))
      · rintro ⟨address, one⟩ inside ⟨other, two⟩ beside before
        obtain ⟨⟨below, _⟩, -, same⟩ := List.mem_map.mp inside
        cases same
        obtain ⟨step, way, rfl, -⟩ := (mem_addressedFrom (index + 1) rest).mp beside
        have equal := (List.cons_prefix_cons.mp before).1
        omega

end

/-! ## The nodes that cover a position -/

variable {outline one other : Outline} {address way : List Nat} {position : Position}

/-- The text of a node contains that of every node below it. -/
theorem Nested.contains (nested : outline.Nested) (leads : outline.at? address = some one) :
    outline.span.Contains one.span := by
  induction address generalizing outline with
  | nil =>
      cases leads
      exact Span.contains_refl _
  | cons index address ih =>
      obtain ⟨label, children⟩ := outline
      obtain ⟨encloses, inside⟩ := nested_node.mp nested
      obtain ⟨child, found, below⟩ := at?_cons_eq_some_iff.mp leads
      have among : child ∈ children := List.mem_of_getElem? found
      exact Span.contains_trans (encloses.spansNest.contains child among)
        (ih (inside child among) below)

/-- If the texts of two children of a node cover one position, they are one child. -/
theorem Encloses.eq_of_covers (encloses : outline.Encloses) {first second : Nat}
    (found : outline.children[first]? = some one) (covers : one.span.Covers position)
    (found' : outline.children[second]? = some other) (covers' : other.span.Covers position) :
    first = second := by
  have apart := List.pairwise_iff_getElem.mp encloses.spansNest.apart
  obtain ⟨_, rfl⟩ := List.getElem?_eq_some_iff.mp found
  obtain ⟨_, rfl⟩ := List.getElem?_eq_some_iff.mp found'
  rcases Nat.lt_trichotomy first second with before | same | behind
  · exact absurd covers' ((apart _ _ _ _ before).not_covers covers)
  · exact same
  · exact absurd covers ((apart _ _ _ _ behind).not_covers covers')

/-- If the spans nest, of two nodes that cover a position one lies on the way to the other. -/
theorem Nested.prefix_or_prefix (nested : outline.Nested) (leads : outline.at? address = some one)
    (covers : one.span.Covers position) (leads' : outline.at? way = some other)
    (covers' : other.span.Covers position) : address <+: way ∨ way <+: address := by
  induction address generalizing outline way with
  | nil => exact .inl List.nil_prefix
  | cons index address ih =>
      cases way with
      | nil => exact .inr List.nil_prefix
      | cons index' way =>
          obtain ⟨label, children⟩ := outline
          obtain ⟨encloses, inside⟩ := nested_node.mp nested
          obtain ⟨child, found, below⟩ := at?_cons_eq_some_iff.mp leads
          obtain ⟨child', found', below'⟩ := at?_cons_eq_some_iff.mp leads'
          have nestedOne := inside child (List.mem_of_getElem? found)
          have nestedOther := inside child' (List.mem_of_getElem? found')
          obtain rfl : index = index' := encloses.eq_of_covers
            found ((nestedOne.contains below).covers covers)
            found' ((nestedOther.contains below').covers covers')
          obtain rfl : child = child' := Option.some.inj (found.symm.trans found')
          simpa [List.cons_prefix_cons] using ih nestedOne below below'

end Outline
end ChocoLang
