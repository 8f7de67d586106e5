import ChocoLang.Proofs.Checking.Marking.Program
import ChocoLang.Proofs.Compilation.Stages
import ChocoLang.Proofs.Parsing.Nesting.Program
import ChocoLang.Proofs.Parsing.PlacedTrees
import ChocoLang.Proofs.Token.Within

/-!
# Diagnostics are placed in the text

Every diagnostic of a program tells a place in the text of the program.  Scanning reports characters
of a line, reading reports tokens and what was read from one token up to another, and checking
reports the nodes that were read.
-/

namespace ChocoLang

/-- The span lies in the text, or it is that of the end of a line among the tokens. -/
def Span.Placed (text : List Char) (tokens : List Token) (span : Span) : Prop :=
  span.Within text ∨
    span.PassesEnd text ∧ ∃ token ∈ tokens, token.kind = .newline ∧ token.span = span

/-- The places in a text, of which all but those of the ends of lines lie in the text. -/
def Region.ofTokens (text : List Char) (tokens : List Token) : Region where
  has := Span.Placed text tokens
  text := Span.Within text
  through starts ends ordered :=
    .inl (.through (starts.elim (·.start) (·.1.start)) ends ordered)

theorem Span.Placed.forward {text : List Char} {tokens : List Token} {span : Span}
    (placed : span.Placed text tokens) : span.start ≤ span.stop :=
  placed.elim (·.forward) (·.1.forward)

namespace Outline

variable {property : Label → Prop}

mutual

/-- A property of all bare labels is one of the labels without what is recorded in them. -/
theorem all_bare : (outline : Outline) →
    (outline.bare.All property ↔ outline.All fun label => property label.bare)
  | node label children => by
      rw [bare_node, all_node, all_node, ← bareAll_eq_map, allIn_bareAll children]

theorem allIn_bareAll : (outlines : List Outline) →
    (AllIn property (bareAll outlines) ↔ AllIn (fun label => property label.bare) outlines)
  | [] => by simp [bareAll]
  | outline :: rest => by
      rw [bareAll, allIn_cons, allIn_cons, all_bare outline, allIn_bareAll rest]

end

/-- Where nodes are placed does not depend on the errors and types recorded at them. -/
theorem placedIn_bare {region : Region} (outline : Outline) :
    outline.bare.PlacedIn region ↔ outline.PlacedIn region :=
  all_bare outline

/-- A mark that is counted is borne by a node. -/
theorem exists_of_tally_pos {mark : Mark} {outline : Outline} (counted : 0 < outline.tally mark) :
    ∃ node ∈ outline.preorder, node.label.mark? = some mark := by
  rw [← count_preorder, List.count_pos_iff] at counted
  exact List.mem_filterMap.mp counted

end Outline

namespace Lexing

variable {file source : String} {lexing : Lexing}

/-- The region of the tokens of a text. -/
abbrev region (lexing : Lexing) (source : String) : Region :=
  .ofTokens (Text.normalizeBreaks source.toList) lexing.tokens

/-- Before the first token of a text the cursor is in the region of the tokens. -/
theorem placedIn_cursor (read : ofSource file source = .ok lexing) :
    (Cursor.ofTokens lexing.tokens lexing.tokens_ne_nil).PlacedIn (lexing.region source) := by
  have each : ∀ token ∈ lexing.tokens, (lexing.region source).has token.span ∧
      (token.kind ≠ .newline → (lexing.region source).text token.span) := by
    intro token among
    rcases within_of_mem_tokens read token among with within | ⟨newline, passes⟩
    · exact ⟨.inl within, fun _ => within⟩
    · exact ⟨.inr ⟨passes, token, among, newline, rfl⟩, fun other => absurd newline other⟩
  refine .ofTokens (fun token among => ⟨(each token among).1, fun kind => ?_⟩) ?_
  · exact (each token among).2 fun newline => by simp [newline, TokenKind.isLayout] at kind
  · exact (each _ (List.head_mem lexing.tokens_ne_nil)).2 (kind_head_ne_newline read)

/-- The beginning of a text lies in it. -/
theorem has_origin (file source : String) (lexing : Lexing) :
    (lexing.region source).has (.point file 1 1) := by
  have here : (⟨1, 1⟩ : Position).Within (Text.normalizeBreaks source.toList) := by
    constructor <;> simp only <;> omega
  exact .inl ⟨Position.le_refl _, here, here⟩

end Lexing

namespace Program

variable {file source : String} {lexing : Lexing} {program : Program}

/-- All nodes that are read of a text are placed in it. -/
theorem placedIn_ofLexing (lexed : Lexing.ofSource file source = .ok lexing) :
    (ofLexing file lexing).outline.PlacedIn (lexing.region source) := by
  have start := Lexing.placedIn_cursor lexed
  obtain ⟨body, after⟩ := Parse.programBody_places _ start
  refine (Cursor.outline_readProgram _ file lexing.diagnostics).symm ▸ ?_
  simp only [Outline.all_node, Region.holds_label, NodeInfo.span_ofSpan, ProgramBody.parts,
    Outline.allIn_iff, List.forall_mem_append, List.forall_mem_map]
  refine ⟨?_, body.declarations, body.statements⟩
  unfold Cursor.programSpan
  split
  · exact Lexing.has_origin file source lexing
  · exact after.spanFrom start.current

/-- All problems that are found in reading a text are placed in it. -/
theorem placed_errors_ofLexing (lexed : Lexing.ofSource file source = .ok lexing) :
    ∀ diagnostic ∈ (ofLexing file lexing).errors, ∃ span, diagnostic.span = some span ∧
      span.Placed (Text.normalizeBreaks source.toList) lexing.tokens := by
  have problems := (Parse.programBody_places _ (Lexing.placedIn_cursor lexed)).2.problems
  refine List.forall_mem_append.mpr ⟨List.forall_mem_map.mpr fun problem among => ?_,
    List.forall_mem_map.mpr fun problem among => ⟨_, rfl, problems problem among⟩⟩
  exact ⟨_, rfl, .inl (Lexing.within_of_mem_problems lexed problem among)⟩

/-- All problems that are found in checking a program are at its nodes. -/
theorem exists_mem_preorder_of_mem_problems (read : ofSource file source = .ok program) :
    ∀ problem ∈ program.problems, ∃ node ∈ program.check.outline.preorder,
      node.label.span = problem.span := by
  intro problem among
  have counted : 0 < program.check.outline.tally problem.toDiagnostic.mark := by
    rw [tally_check _ read]
    exact List.count_pos_iff.mpr (List.mem_map_of_mem among)
  obtain ⟨node, inside, mark⟩ := Outline.exists_of_tally_pos counted
  obtain ⟨message, -, same⟩ := Option.map_eq_some_iff.mp mark
  exact ⟨node, inside, Option.some.inj (congrArg Prod.snd same)⟩

/-- All problems that are found in a text, in reading or in checking it, are placed in it. -/
theorem placed_errors_check (lexed : Lexing.ofSource file source = .ok lexing)
    (read : ofSource file source = .ok (ofLexing file lexing)) :
    ∀ diagnostic ∈ (ofLexing file lexing).check.errors, ∃ span, diagnostic.span = some span ∧
      span.Placed (Text.normalizeBreaks source.toList) lexing.tokens := by
  have nodes : (ofLexing file lexing).check.outline.PlacedIn (lexing.region source) := by
    rw [← Outline.placedIn_bare, ← outline_bare, bare_check, outline_bare, Outline.placedIn_bare]
    exact placedIn_ofLexing lexed
  have each := (Outline.all_iff_preorder _).mp nodes
  rw [errors_check, List.forall_mem_append]
  refine ⟨placed_errors_ofLexing lexed, List.forall_mem_map.mpr fun problem among => ?_⟩
  obtain ⟨node, inside, same⟩ := exists_mem_preorder_of_mem_problems read problem among
  have placed : node.label.span.Placed _ _ := each node inside
  exact ⟨problem.span, rfl, same ▸ placed⟩

/--
Every diagnostic of a checked text has a span that does not stop before it starts and lies in the
text; only that of the end of a line goes one place beyond the line.
-/
theorem placed_of_checkedOfSource (checked : checkedOfSource file source = .ok program) :
    ∃ lexing, Lexing.ofSource file source = .ok lexing ∧
      ∀ diagnostic ∈ program.errors, ∃ span, diagnostic.span = some span ∧
        span.start ≤ span.stop ∧
        span.Placed (Text.normalizeBreaks source.toList) lexing.tokens := by
  obtain ⟨raw, read, rfl⟩ := exists_of_checkedOfSource checked
  obtain ⟨lexing, lexed, rfl⟩ := exists_of_ofSource read
  refine ⟨lexing, lexed, fun diagnostic among => ?_⟩
  obtain ⟨span, told, placed⟩ := placed_errors_check lexed read diagnostic among
  exact ⟨span, told, placed.forward, placed⟩

/-- A text with mistakes at its edges: behind a line, in front of one, and where the text ends. -/
def edgedSource : String := "x: int =\nif True:\n        x\n    $\nx = \"\\q"

/-- The end of the first line is reported, one place beyond the line, and all else is in the text. -/
theorem placed_edgedSource :
    ∃ program lexing, checkedOfSource "edged.choc" edgedSource = .ok program ∧
      Lexing.ofSource "edged.choc" edgedSource = .ok lexing ∧
      [1, 9, 1, 10] ∈ program.errors.filterMap (fun diagnostic =>
        diagnostic.span.map Span.coordinates) ∧
      program.errors.length = 7 ∧
      ∀ diagnostic ∈ program.errors, ∃ span, diagnostic.span = some span ∧
        span.start ≤ span.stop ∧
        span.Placed (Text.normalizeBreaks edgedSource.toList) lexing.tokens := by
  obtain ⟨program, checked, told⟩ : ∃ program,
      checkedOfSource "edged.choc" edgedSource = .ok program ∧
        decide ([1, 9, 1, 10] ∈ program.errors.filterMap (fun diagnostic =>
          diagnostic.span.map Span.coordinates) ∧ program.errors.length = 7) = true :=
    exists_ok_of_any (by decide +kernel)
  obtain ⟨reported, seven⟩ := of_decide_eq_true told
  obtain ⟨lexing, lexed, placed⟩ := placed_of_checkedOfSource checked
  exact ⟨program, lexing, checked, lexed, reported, seven, placed⟩

end Program
end ChocoLang
