import ChocoLang.Artifact
import ChocoLang.Proofs.Checking.Clarity.Program
import ChocoLang.Proofs.Diagnostic.Placement
import ChocoLang.Proofs.Json.Reading
import ChocoLang.Proofs.Syntax.Recovery

/-!
# The texts of programs tell the programs

A program that was read or checked is told by the text of its record, on one line or with any
indentation: the text tells the record, the record tells the tree, as no class of a program is named
like the unknown type, and it tells the places of diagnostics, as none of them is at line zero.
-/

namespace ChocoLang

/-- The program whose record a text shows. -/
def Program.decode? (text : String) : Option Program :=
  (Json.read? text.toList).bind fun json => (Decoding.decode json).bind Decoding.Part.program?

/-- A place in a text is told by its coordinates. -/
theorem Span.Placed.coordinates_ne {text : List Char} {tokens : List Token} {span : Span}
    (placed : span.Placed text tokens) : span.coordinates ≠ [0, 0, 0, 0] := by
  have line : 1 ≤ span.start.line :=
    placed.elim (fun within => within.start.line.1) fun passes => passes.1.start.line.1
  intro same
  rw [coordinates, List.cons.injEq] at same
  omega

namespace Program

variable {file source : String} {program : Program}

theorem exists_render_of_clear (clear : program.outline.Clear)
    (placed : ∀ diagnostic ∈ program.errors, ∃ span, diagnostic.span = some span ∧
      span.coordinates ≠ [0, 0, 0, 0]) (indent : Option Int) :
    ∃ text, (Artifact.program program).render indent = .ok text ∧
      decode? text = some program.portable ∧
      (Artifact.program program.portable).render indent = .ok text := by
  refine ⟨program.toJson.render indent, rfl, ?_, ?_⟩
  · rw [decode?, Json.read?_render, Option.bind_some, decode_toJson clear placed]
    rfl
  · rw [Artifact.render, Artifact.toJson, toJson_portable]
    rfl

/--
A program that is obtained from a text by reading or by checking it has a record, and the text of the
record, with every indentation, decodes to the program.  Only the names of files, the marks of
functions and the remarks of diagnostics are lost: without them the program has the same text.
-/
theorem exists_render_of_ofSource
    (obtained : ofSource file source = .ok program ∨ checkedOfSource file source = .ok program)
    (indent : Option Int) :
    ∃ text, (Artifact.program program).render indent = .ok text ∧
      decode? text = some program.portable ∧
      (Artifact.program program.portable).render indent = .ok text := by
  rcases obtained with read | checked
  · obtain ⟨lexing, lexed, rfl⟩ := exists_of_ofSource read
    refine exists_render_of_clear (Outline.Fresh.clear (fresh_of_ofSource read)) ?_ indent
    intro diagnostic among
    obtain ⟨span, told, placed⟩ := placed_errors_ofLexing lexed diagnostic among
    exact ⟨span, told, placed.coordinates_ne⟩
  · obtain ⟨raw, read, rfl⟩ := exists_of_checkedOfSource checked
    obtain ⟨lexing, lexed, rfl⟩ := exists_of_ofSource read
    refine exists_render_of_clear (clear_check read) ?_ indent
    intro diagnostic among
    obtain ⟨span, told, placed⟩ := placed_errors_check lexed read diagnostic among
    exact ⟨span, told, placed.coordinates_ne⟩

/-- A text with a character beyond the basic plane, an index, an absent object and four mistakes. -/
def assortedSource : String :=
  "class A(object):\n x: [int] = None\n def f(self: \"A\") -> object:\n  return self.x[0]\n" ++
    "a: A = None\na.f()\na = \"😀\" \nb = not 1\n"

/-- Its checked program, in which types are unknown, is decoded from its text over several lines. -/
theorem exists_render_assortedSource :
    ∃ program text, checkedOfSource "assorted.choc" assortedSource = .ok program ∧
      program.errors.length = 4 ∧
      (Artifact.program program).render (some 2) = .ok text ∧
      decode? text = some program.portable := by
  obtain ⟨program, checked, mistakes⟩ : ∃ program,
      checkedOfSource "assorted.choc" assortedSource = .ok program ∧
        decide (program.errors.length = 4) = true :=
    exists_ok_of_any (by decide +kernel)
  obtain ⟨text, shown, decoded, -⟩ := exists_render_of_ofSource (.inr checked) (some 2)
  exact ⟨program, text, checked, of_decide_eq_true mistakes, shown, decoded⟩

end Program
end ChocoLang
