import ChocoLang.Token

/-!
# Nesting of blocks

Among the tokens of a program the beginnings and ends of blocks are brackets.  Some tokens are
balanced when every block that begins among them ends among them, and no other one ends there.
-/

namespace ChocoLang
namespace TokenKind

/-- The token neither begins nor ends a block. -/
def isLevel (kind : TokenKind) : Bool := kind != .indent && kind != .dedent

/--
How many blocks are open behind a token, if `depth` of them are open before it; nothing, if it ends
a block and none is open.
-/
def depthAfter (depth : Nat) : TokenKind → Option Nat
  | .indent => some (depth + 1)
  | .dedent => if depth = 0 then none else some (depth - 1)
  | _ => some depth

theorem depthAfter_of_isLevel {kind : TokenKind} (level : kind.isLevel = true) (depth : Nat) :
    kind.depthAfter depth = some depth := by
  cases kind <;> first | rfl | cases level

/-- Blocks open around a token stay open. -/
theorem depthAfter_add {kind : TokenKind} {depth after : Nat}
    (found : kind.depthAfter depth = some after) (around : Nat) :
    kind.depthAfter (depth + around) = some (after + around) := by
  by_cases level : kind.isLevel = true
  · rw [depthAfter_of_isLevel level] at found ⊢
    simpa using found
  · cases kind with
    | indent =>
        cases found
        simp [depthAfter, Nat.add_right_comm]
    | dedent =>
        simp only [depthAfter, Option.ite_none_left_eq_some, Option.some.injEq] at found ⊢
        omega
    | _ => exact absurd rfl level

theorem eq_of_not_isLevel {kind : TokenKind} (noLevel : ¬ kind.isLevel = true) :
    kind = .indent ∨ kind = .dedent := by
  cases kind <;> first | exact .inl rfl | exact .inr rfl | exact absurd rfl noLevel

theorem isLevel_of_isLayout {kind : TokenKind} (text : kind.isLayout = false) :
    kind.isLevel = true := by
  cases kind <;> first | rfl | cases text

end TokenKind

/--
How many blocks are open behind some tokens, if `depth` of them are open before these; nothing, if
more blocks end than are open.
-/
def nesting (depth : Nat) : List TokenKind → Option Nat
  | [] => some depth
  | kind :: rest => (kind.depthAfter depth).bind (nesting · rest)

/-- Every block that begins among the tokens ends among them, and no other one ends there. -/
def Balanced (kinds : List TokenKind) : Prop := nesting 0 kinds = some 0

@[simp]
theorem nesting_nil (depth : Nat) : nesting depth [] = some depth := rfl

@[simp]
theorem nesting_indent (depth : Nat) (rest : List TokenKind) :
    nesting depth (.indent :: rest) = nesting (depth + 1) rest := rfl

@[simp]
theorem nesting_zero_dedent (rest : List TokenKind) : nesting 0 (.dedent :: rest) = none := rfl

@[simp]
theorem nesting_succ_dedent (depth : Nat) (rest : List TokenKind) :
    nesting (depth + 1) (.dedent :: rest) = nesting depth rest := rfl

theorem nesting_of_isLevel {kind : TokenKind} (level : kind.isLevel = true) (depth : Nat)
    (rest : List TokenKind) : nesting depth (kind :: rest) = nesting depth rest := by
  rw [nesting, TokenKind.depthAfter_of_isLevel level, Option.bind_some]

/-- The blocks open behind the one part are those open before the other. -/
theorem nesting_append (depth : Nat) (front back : List TokenKind) :
    nesting depth (front ++ back) = (nesting depth front).bind (nesting · back) := by
  induction front generalizing depth with
  | nil => rfl
  | cons kind front ih =>
      rw [List.cons_append, nesting, nesting, Option.bind_assoc]
      exact congrArg _ (funext ih)

/-- Blocks open around the tokens stay open. -/
theorem nesting_add {depth after : Nat} {kinds : List TokenKind}
    (nested : nesting depth kinds = some after) (around : Nat) :
    nesting (depth + around) kinds = some (after + around) := by
  induction kinds generalizing depth with
  | nil =>
      cases nested
      rfl
  | cons kind rest ih =>
      obtain ⟨between, first, later⟩ := Option.bind_eq_some_iff.mp nested
      rw [nesting, TokenKind.depthAfter_add first, Option.bind_some]
      exact ih later

theorem forall_prefix_cons {α : Type} {first : α} {rest : List α} {holds : List α → Prop} :
    (∀ front, front <+: first :: rest → holds front) ↔
      holds [] ∧ ∀ front, front <+: rest → holds (first :: front) := by
  constructor
  · intro all
    exact ⟨all [] List.nil_prefix,
      fun front within => all _ (List.cons_prefix_cons.mpr ⟨rfl, within⟩)⟩
  · rintro ⟨none, some⟩ front within
    cases front with
    | nil => exact none
    | cons token front =>
        obtain ⟨rfl, inner⟩ := List.cons_prefix_cons.mp within
        exact some front inner

/-- No more blocks end than were begun, and the rest of them are open behind the tokens. -/
theorem nesting_eq_some_iff {depth after : Nat} {kinds : List TokenKind} :
    nesting depth kinds = some after ↔
      (∀ front, front <+: kinds → front.count .dedent ≤ depth + front.count .indent) ∧
        after + kinds.count .dedent = depth + kinds.count .indent := by
  induction kinds generalizing depth with
  | nil => simp [List.prefix_nil, eq_comm]
  | cons kind rest ih =>
      rw [forall_prefix_cons]
      by_cases level : kind.isLevel = true
      · have noIndent : kind ≠ .indent := fun same => by simp [same, TokenKind.isLevel] at level
        have noDedent : kind ≠ .dedent := fun same => by simp [same, TokenKind.isLevel] at level
        rw [nesting_of_isLevel level, ih]
        simp [List.count_cons_of_ne, noIndent, noDedent]
      rcases TokenKind.eq_of_not_isLevel level with rfl | rfl
      · rw [nesting_indent, ih]
        simp [Nat.add_assoc, Nat.add_comm 1]
      · cases depth with
        | zero =>
            -- The end of a block is itself a beginning in which one block too many ends.
            simp only [nesting_zero_dedent, reduceCtorEq, false_iff, not_and]
            intro ⟨_, fits⟩
            simpa using fits [] List.nil_prefix
        | succ depth =>
            rw [nesting_succ_dedent, ih]
            simp [Nat.add_right_comm depth 1, ← Nat.add_assoc]

/-- The tokens are balanced if no more blocks end than were begun and all end that begin. -/
theorem balanced_iff {kinds : List TokenKind} :
    Balanced kinds ↔ (∀ front, front <+: kinds → front.count .dedent ≤ front.count .indent) ∧
      kinds.count .dedent = kinds.count .indent := by
  rw [Balanced, nesting_eq_some_iff]
  simp only [Nat.zero_add]

/-- Where nothing is layout, no block begins or ends. -/
theorem balanced_of_isLayout {kinds : List TokenKind}
    (text : ∀ kind ∈ kinds, kind.isLayout = false) : Balanced kinds := by
  induction kinds with
  | nil => rfl
  | cons kind rest ih =>
      have level := TokenKind.isLevel_of_isLayout (text kind List.mem_cons_self)
      rw [Balanced, nesting_of_isLevel level]
      exact ih fun other among => text other (List.mem_cons_of_mem kind among)

namespace Balanced

variable {front back inner : List TokenKind}

theorem nesting_eq (balanced : Balanced front) (depth : Nat) :
    nesting depth front = some depth := by
  simpa using nesting_add balanced depth

theorem append (first : Balanced front) (second : Balanced back) : Balanced (front ++ back) := by
  rw [Balanced, nesting_append, first.nesting_eq]
  exact second

theorem cons {kind : TokenKind} (level : kind.isLevel = true) (balanced : Balanced back) :
    Balanced (kind :: back) := by
  rw [Balanced, nesting_of_isLevel level]
  exact balanced

/-- Balanced tokens between the beginning and the end of a block are balanced with them. -/
theorem block (balanced : Balanced inner) : Balanced (.indent :: inner ++ [.dedent]) := by
  simp [Balanced, nesting_append, balanced.nesting_eq]

end Balanced
end ChocoLang
