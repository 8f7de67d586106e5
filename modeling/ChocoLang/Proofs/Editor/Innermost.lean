import ChocoLang.Editor.Analysis
import ChocoLang.Proofs.Checking.Bare.Declaration
import ChocoLang.Proofs.Parsing.Nesting.Program
import ChocoLang.Proofs.Syntax.Nesting

/-!
# The innermost expression at a place

The expression that an editor is told about at a place is the last one in the preorder that has a
type and covers the place.  As the spans of a program nest, and checking moves none, it is the
innermost one: all others lie on the way to it.
-/

namespace ChocoLang

theorem NodeKind.inText_map {α β : Type} (kind : NodeKind) (change : α → β) (children : List α) :
    kind.inText (children.map change) = (kind.inText children).map change := by
  rcases children with _ | ⟨first, _ | ⟨second, rest⟩⟩ <;> cases kind <;> rfl

namespace Outline

mutual

/-- Whether the spans of an outline nest does not depend on the errors and types in it. -/
theorem nested_bare : (outline : Outline) → (outline.bare.Nested ↔ outline.Nested)
  | node label children => by
      have encloses : (node label.bare (children.map bare)).Encloses ↔
          (node label children).Encloses := by
        have spans : (span ∘ bare : Outline → Span) = span := by
          funext ⟨_, _⟩
          simp [Label.bare]
        simp [Encloses, NodeKind.inText_map, Label.bare, spans]
      rw [bare_node, nested_node, nested_node, encloses, List.forall_mem_map,
        nested_bareAll children]

theorem nested_bareAll : (outlines : List Outline) →
    ((∀ outline ∈ outlines, outline.bare.Nested) ↔ ∀ outline ∈ outlines, outline.Nested)
  | [] => by simp
  | outline :: rest => by
      rw [List.forall_mem_cons, List.forall_mem_cons, nested_bare outline, nested_bareAll rest]

end

/-! ## The last node of a kind -/

variable {outline : Outline} {wanted : Label → Bool}

/-- The wanted labels in preorder are those of the wanted nodes with their addresses. -/
theorem filter_labels (outline : Outline) (wanted : Label → Bool) :
    (outline.preorder.map label).filter wanted =
      (outline.addressed.filter fun entry => wanted entry.2.label).map
        fun entry => entry.2.label := by
  rw [← map_snd_addressed, List.map_map, List.filter_map]
  rfl

/-- If there is no last wanted label, no node is wanted. -/
theorem unwanted_of_getLast?_eq_none
    (nothing : ((outline.preorder.map label).filter wanted).getLast? = none) :
    ∀ address one, outline.at? address = some one → ¬wanted one.label := by
  intro address one leads
  rw [filter_labels, List.getLast?_eq_none_iff, List.map_eq_nil_iff,
    List.filter_eq_nil_iff] at nothing
  exact nothing (address, one) ((mem_addressed outline).mpr leads)

/-- If the wanted nodes lie on one way, the last of them in preorder lies farthest down. -/
theorem farthest_of_getLast?_eq_some {found : Label}
    (chain : ∀ {address way one other}, outline.at? address = some one → wanted one.label →
      outline.at? way = some other → wanted other.label → address <+: way ∨ way <+: address)
    (last : ((outline.preorder.map label).filter wanted).getLast? = some found) :
    ∃ address one, outline.at? address = some one ∧ one.label = found ∧ wanted found ∧
      ∀ way other, outline.at? way = some other → wanted other.label → way <+: address := by
  rw [filter_labels, List.getLast?_map, Option.map_eq_some_iff] at last
  obtain ⟨⟨address, one⟩, last, rfl⟩ := last
  obtain ⟨before, split⟩ := List.getLast?_eq_some_iff.mp last
  have among : (address, one) ∈ outline.addressed.filter fun entry => wanted entry.2.label := by
    simp [split]
  obtain ⟨listed, isWanted⟩ := List.mem_filter.mp among
  have leads := (mem_addressed outline).mp listed
  refine ⟨address, one, leads, rfl, isWanted, fun way other leads' isWanted' => ?_⟩
  have among' : (way, other) ∈ before ++ [(address, one)] :=
    split ▸ List.mem_filter.mpr ⟨(mem_addressed outline).mpr leads', isWanted'⟩
  rcases List.mem_append.mp among' with earlier | same
  · -- Of two nodes on one way, the one that comes first in preorder is the upper one.
    have sorted := (pairwise_addressed outline).filter fun entry => wanted entry.2.label
    rw [split] at sorted
    have notBelow := (List.pairwise_append.mp sorted).2.2 _ earlier _ List.mem_cons_self
    exact (chain leads isWanted leads' isWanted').resolve_left notBelow
  · cases List.mem_singleton.mp same
    exact List.prefix_rfl

/-- A node is an expression with a type and covers a position. -/
structure TypedAt (position : Position) (one : Outline) : Prop where
  /-- The node is an expression. -/
  expression : one.label.kind.isExpression
  /-- The expression has a type. -/
  typed : one.label.type.isSome
  /-- The text of the expression covers the position. -/
  covers : one.span.Covers position

theorem typedAt_iff {position : Position} {one : Outline} :
    one.label.typedAt position = true ↔ one.TypedAt position := by
  simp only [Label.typedAt, Bool.and_eq_true, decide_eq_true_eq]
  exact ⟨fun ⟨⟨expression, typed⟩, covers⟩ => ⟨expression, typed, covers⟩,
    fun typed => ⟨⟨typed.expression, typed.typed⟩, typed.covers⟩⟩

end Outline

/-- The spans of a checked program nest like those of the program that was read. -/
theorem Program.nested_check {file source : String} {program : Program}
    (read : Program.ofSource file source = .ok program) : program.check.outline.Nested := by
  rw [← Outline.nested_bare, ← outline_bare, bare_check, outline_bare, Outline.nested_bare]
  exact nested_of_ofSource read

namespace Analysis

variable {uri text : String} {analysis : Analysis}

/-- The program of an analysis is that of its text, checked. -/
theorem exists_of_ofText (analysed : ofText uri text = .ok analysis) :
    ∃ program, Program.ofSource uri text = .ok program ∧ analysis.program = program.check := by
  obtain ⟨checked, found, rfl⟩ := exists_ok_of_map analysed
  exact Program.exists_of_checkedOfSource found

/--
At every place, counted from zero, the expression found has a type and covers the place, and every
other expression that does lies on the way to it.  If none is found, there is none.
-/
theorem expressionAt?_innermost (analysed : ofText uri text = .ok analysis) (line character : Int) :
    match analysis.expressionAt? line character with
    | some found =>
      ∃ address one, analysis.program.outline.at? address = some one ∧ one.label = found ∧
        one.TypedAt ⟨line + 1, character + 1⟩ ∧
          ∀ way other, analysis.program.outline.at? way = some other →
            other.TypedAt ⟨line + 1, character + 1⟩ → way <+: address
    | none =>
      ∀ address one, analysis.program.outline.at? address = some one →
        ¬one.TypedAt ⟨line + 1, character + 1⟩ := by
  obtain ⟨program, read, same⟩ := exists_of_ofText analysed
  have nested : analysis.program.outline.Nested := same ▸ Program.nested_check read
  cases last : analysis.expressionAt? line character with
  | none =>
      intro address one leads typed
      exact Outline.unwanted_of_getLast?_eq_none last address one leads
        (Outline.typedAt_iff.mpr typed)
  | some found =>
      obtain ⟨address, one, leads, rfl, isWanted, farthest⟩ :=
        Outline.farthest_of_getLast?_eq_some (fun leads wanted leads' wanted' =>
          nested.prefix_or_prefix leads (Outline.typedAt_iff.mp wanted).covers leads'
            (Outline.typedAt_iff.mp wanted').covers) last
      exact ⟨address, one, leads, rfl, Outline.typedAt_iff.mp isWanted,
        fun way other leads' typed => farthest way other leads' (Outline.typedAt_iff.mpr typed)⟩

/-- A text with four mistakes, one of them in a place where an expression cannot be read. -/
def unfinishedText : String :=
  "x: [int] = None\ndef f(y: int) -> int:\n    return y +\n    return y + 1\n" ++
    "print(f(x)[2 if x is None else y])\n"

/-- In the unfinished text, too, the innermost expression is found: the condition `x is None`, which
is checked before the `2` in front of it, and nothing behind the last line. -/
theorem expressionAt?_unfinishedText :
    ∃ analysis, ofText "unfinished.choc" unfinishedText = .ok analysis ∧
      analysis.program.errors.length = 4 ∧
      (analysis.expressionAt? 4 18).map Label.kind = some .binaryExpr ∧
      analysis.expressionAt? 4 34 = none ∧
      ∀ line character : Int,
        match analysis.expressionAt? line character with
        | some found =>
          ∃ address one, analysis.program.outline.at? address = some one ∧ one.label = found ∧
            one.TypedAt ⟨line + 1, character + 1⟩ ∧
              ∀ way other, analysis.program.outline.at? way = some other →
                other.TypedAt ⟨line + 1, character + 1⟩ → way <+: address
        | none =>
          ∀ address one, analysis.program.outline.at? address = some one →
            ¬one.TypedAt ⟨line + 1, character + 1⟩ := by
  obtain ⟨analysis, analysed, told⟩ : ∃ analysis,
      ofText "unfinished.choc" unfinishedText = .ok analysis ∧
        (analysis.program.errors.length = 4 ∧
          (analysis.expressionAt? 4 18).map Label.kind = some .binaryExpr ∧
          analysis.expressionAt? 4 34 = none : Bool) = true :=
    exists_ok_of_any (by decide +kernel)
  obtain ⟨four, condition, nothing⟩ := of_decide_eq_true told
  exact ⟨analysis, analysed, four, condition, nothing, expressionAt?_innermost analysed⟩

end Analysis
end ChocoLang
