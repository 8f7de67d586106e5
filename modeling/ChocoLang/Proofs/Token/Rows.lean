import ChocoLang.Proofs.Token.Levels
import Mathlib.Data.List.Induction

/-!
# Rows of tokens

Among the tokens of a program those that are text stand in rows, each on one line of the program and
closed by the end of that line; between the rows blocks begin and end, and the end of the file comes
last.
-/

namespace ChocoLang

/-- The order in which tokens stand. -/
structure LaidOut (tokens : List Token) : Prop where
  /-- The end of the file is the last token and no other one. -/
  ended : ∃ front place, tokens = front ++ [⟨.endOfFile, .absent, place⟩] ∧
    ∀ token ∈ front, token.kind ≠ .endOfFile
  /-- No more blocks have ended anywhere than have begun. -/
  opened : ∀ front, front <+: tokens →
    (front.map Token.kind).count .dedent ≤ (front.map Token.kind).count .indent
  /-- All blocks end that begin. -/
  closed : (tokens.map Token.kind).count .dedent = (tokens.map Token.kind).count .indent
  /-- The end of a line stands directly behind text. -/
  filled : ∀ front ending back, tokens = front ++ ending :: back → ending.kind = .newline →
    ∃ text ∈ front.getLast?, text.kind.isLayout = false
  /-- Directly behind text stands more text of the same line or the end of the line. -/
  followed : ∀ front text back, tokens = front ++ text :: back → text.kind.isLayout = false →
    ∃ next ∈ back.head?, next.kind = .newline ∨
      next.kind.isLayout = false ∧ next.span.start.line = text.span.start.line

/--
The tokens are rows up to the end of the file, behind text on a line or, without a line, behind
none.
-/
inductive Rows : (line : Option Int) → List Token → Prop where
  | last (place : Span) : Rows none [⟨.endOfFile, .absent, place⟩]
  | block {token : Token} {rest : List Token} (kind : token.kind = .indent ∨ token.kind = .dedent)
      (tail : Rows none rest) : Rows none (token :: rest)
  | text {token : Token} {rest : List Token} {line : Option Int}
      (kind : token.kind.isLayout = false) (same : ∀ number ∈ line, token.span.start.line = number)
      (tail : Rows (some token.span.start.line) rest) : Rows line (token :: rest)
  | ending {token : Token} {rest : List Token} {number : Int} (kind : token.kind = .newline)
      (tail : Rows none rest) : Rows (some number) (token :: rest)

/-- The line on which text follows a token, if it does. -/
def Token.textLine? (token : Token) : Option Int :=
  if token.kind.isLayout then none else some token.span.start.line

namespace Rows

variable {line : Option Int} {tokens front back : List Token} {token : Token}

theorem tail (rows : Rows line (token :: back)) (nonempty : back ≠ []) :
    Rows token.textLine? back := by
  cases rows with
  | last => contradiction
  | block kind tail =>
      rcases kind with kind | kind <;> simpa [Token.textLine?, kind, TokenKind.isLayout] using tail
  | text kind _ tail => simpa [Token.textLine?, kind] using tail
  | ending kind tail => simpa [Token.textLine?, kind, TokenKind.isLayout] using tail

/-- What stands behind some tokens depends on the last of them only. -/
theorem drop (rows : Rows none (front ++ back)) (nonempty : back ≠ []) :
    Rows (front.getLast?.bind Token.textLine?) back := by
  induction front using List.reverseRecOn generalizing back with
  | nil => exact rows
  | append_singleton front token ih =>
      rw [List.append_assoc] at rows
      rw [List.getLast?_concat]
      exact (ih rows (List.cons_ne_nil _ _)).tail nonempty

/-- The end of the file comes last. -/
theorem eq_append (rows : Rows line tokens) :
    ∃ front place, tokens = front ++ [⟨.endOfFile, .absent, place⟩] := by
  induction rows with
  | last place => exact ⟨[], place, rfl⟩
  | @block token _ _ _ ih | @text token _ _ _ _ _ ih | @ending token _ _ _ _ ih =>
      obtain ⟨front, place, rfl⟩ := ih
      exact ⟨token :: front, place, rfl⟩

/-- Nothing comes behind the end of the file. -/
theorem eq_nil_of_endOfFile (rows : Rows line (token :: back)) (kind : token.kind = .endOfFile) :
    back = [] := by
  cases rows with
  | last => rfl
  | block other => simp [kind] at other
  | text other => simp [kind, TokenKind.isLayout] at other
  | ending other => simp [kind] at other

theorem isSome_of_newline (rows : Rows line (token :: back)) (kind : token.kind = .newline) :
    line.isSome = true := by
  cases rows with
  | last => cases kind
  | block other => simp [kind] at other
  | text other => simp [kind, TokenKind.isLayout] at other
  | ending => rfl

theorem tail_text (rows : Rows line (token :: back)) (kind : token.kind.isLayout = false) :
    Rows (some token.span.start.line) back := by
  cases rows with
  | last => cases kind
  | block other => rcases other with other | other <;> simp [other, TokenKind.isLayout] at kind
  | text _ _ tail => exact tail
  | ending other => simp [other, TokenKind.isLayout] at kind

/-- Behind text stands more text of the line or its end. -/
theorem head {number : Int} (rows : Rows (some number) tokens) :
    ∃ next ∈ tokens.head?, next.kind = .newline ∨
      next.kind.isLayout = false ∧ next.span.start.line = number := by
  cases rows with
  | text kind same => exact ⟨_, rfl, .inr ⟨kind, same number rfl⟩⟩
  | ending kind => exact ⟨_, rfl, .inl kind⟩

/-- Rows of tokens whose blocks are balanced are laid out as they should be. -/
theorem laidOut (rows : Rows none tokens) (balanced : Balanced (tokens.map Token.kind)) :
    LaidOut tokens := by
  obtain ⟨opened, closed⟩ := balanced_iff.mp balanced
  refine ⟨?_, fun front within => opened _ (within.map _), closed, ?_, ?_⟩
  · obtain ⟨front, place, rfl⟩ := rows.eq_append
    refine ⟨front, place, rfl, fun token among kind => ?_⟩
    obtain ⟨before, after, rfl⟩ := List.append_of_mem among
    rw [List.append_assoc] at rows
    have none := (rows.drop (List.cons_ne_nil _ _)).eq_nil_of_endOfFile kind
    simp at none
  · rintro front ending back rfl kind
    have some := (rows.drop (List.cons_ne_nil _ _)).isSome_of_newline kind
    obtain ⟨number, found⟩ := Option.isSome_iff_exists.mp some
    obtain ⟨text, last, same⟩ := Option.bind_eq_some_iff.mp found
    refine ⟨text, last, ?_⟩
    simpa [Token.textLine?] using (Option.ite_none_left_eq_some.mp same).1
  · rintro front text back rfl kind
    exact ((rows.drop (List.cons_ne_nil _ _)).tail_text kind).head

end Rows

/-! ## The rows of a program -/

namespace Rows

variable {rest : List Token}

/-- Text of one line stands in front of the rest of its row. -/
theorem row {number : Int} {row : List Token} {line : Option Int} (nonempty : row ≠ [])
    (text : ∀ token ∈ row, token.kind.isLayout = false ∧ token.span.start.line = number)
    (same : ∀ other ∈ line, number = other) (rows : Rows (some number) rest) :
    Rows line (row ++ rest) := by
  induction row generalizing line with
  | nil => contradiction
  | cons token row ih =>
      obtain ⟨⟨kind, rfl⟩, others⟩ := List.forall_mem_cons.mp text
      refine .text kind same ?_
      cases row with
      | nil => exact rows
      | cons next row => exact ih (List.cons_ne_nil _ _) others (by simp)

theorem blocks {blocks : List Token}
    (kinds : ∀ token ∈ blocks, token.kind = .indent ∨ token.kind = .dedent)
    (rows : Rows none rest) : Rows none (blocks ++ rest) := by
  induction blocks with
  | nil => exact rows
  | cons token blocks ih =>
      obtain ⟨kind, others⟩ := List.forall_mem_cons.mp kinds
      exact .block kind (ih others)

end Rows

open Reading

/-- The token of a segment begins on the line of the segment. -/
theorem Segment.line_of_mem_read (line : Line) (column : Nat) (segment : Segment) :
    ∀ token ∈ (segment.read line column).filterMap token?, token.span.start.line = line.number := by
  have noProblem (problems : List (Located LexicalError)) :
      (problems.map Reading.problem).filterMap token? = [] := by
    simp [List.filterMap_map, Function.comp_def, token?]
  cases segment with
  | literal body =>
      simp only [read, readLiteral]
      split
      · simp [noProblem, token?, Line.span, Span.onLine]
      · simp [noProblem, token?, Line.span, Span.onLine]
  | digits chars =>
      simp only [read]
      cases digitsError? chars <;> simp [token?, Line.span, Span.onLine]
  | _ => simp [read, token?, Line.span, Span.onLine]

/-- The tokens of a line's segments are text of that line. -/
theorem text_of_mem_readSegments (line : Line) (column : Nat) (found : List Segment) :
    ∀ token ∈ (readSegments line column found).filterMap token?,
      token.kind.isLayout = false ∧ token.span.start.line = line.number := by
  intro token among
  refine ⟨readSegments_inline line column found token.content (List.mem_map_of_mem among), ?_⟩
  induction found generalizing column with
  | nil => simp [readSegments] at among
  | cons segment found ih =>
      rw [readSegments, List.filterMap_append, List.mem_append] at among
      rcases among with first | later
      · exact segment.line_of_mem_read line column token first
      · exact ih _ later

theorem kind_of_mem_indentLine (line : Line) (width column : Nat) (levels : List Level) :
    ∀ token ∈ (indentLine line width column levels).1.filterMap token?,
      token.kind = .indent ∨ token.kind = .dedent := by
  intro token among
  have content := contents_indentLine line width column levels token.content
    (List.mem_map_of_mem among)
  exact content.imp (congrArg TokenContent.kind) (congrArg TokenContent.kind)

namespace Rows

variable {rest : List Token}

theorem readLine {line : Line} {terminated : Bool} {levels remaining : List Level}
    {chars : List Char} {readings : List Reading}
    (shape : ChocoLang.readLine line terminated levels chars = (readings, remaining))
    (rows : Rows none rest) : Rows none (readings.filterMap token? ++ rest) := by
  unfold ChocoLang.readLine at shape
  dsimp only at shape
  split at shape
  · cases shape
    exact rows
  · cases shape
    rw [List.filterMap_append, List.filterMap_append, List.append_assoc, List.append_assoc]
    refine blocks (kind_of_mem_indentLine line _ _ levels) ?_
    have text := text_of_mem_readSegments line ((chars.takeWhile isBlank).length + 1)
      (segments (chars.dropWhile isBlank))
    have empty := any_token?_eq_false_iff
      (readSegments line ((chars.takeWhile isBlank).length + 1)
        (segments (chars.dropWhile isBlank)))
    rw [contents, List.map_eq_nil_iff] at empty
    split
    · next some =>
        have nonempty := mt empty.mpr (by simp [some])
        exact row nonempty text (by simp) (.ending rfl rows)
    · next none =>
        rw [empty.mp (by simpa using none)]
        exact rows

theorem readEnd (line : Line) (length : Nat) (levels : List Level) :
    Rows none ((ChocoLang.readEnd line length levels).filterMap token?) := by
  rw [ChocoLang.readEnd, List.filterMap_append]
  refine blocks (fun token among => ?_) (.last _)
  simp only [dedents, List.filterMap_replicate, token?] at among
  rw [List.eq_of_mem_replicate among]
  exact .inr rfl

theorem readLines (file : String) (number : Nat) (levels : List Level) {lines : List (List Char)}
    (nonempty : lines ≠ []) :
    Rows none ((ChocoLang.readLines file number levels lines).filterMap token?) := by
  fun_induction ChocoLang.readLines file number levels lines with
  | case1 => contradiction
  | case2 number levels last line readings remaining shape =>
      rw [List.filterMap_append]
      exact readLine shape (readEnd line last.length remaining)
  | case3 number levels chars rest long readings remaining shape ih =>
      rw [List.filterMap_append]
      exact readLine shape (ih (by simpa using long))

end Rows

/-- The blocks of a program are balanced. -/
theorem balanced_readProgram (file source : String) :
    Balanced (((readProgram file source).filterMap token?).map Token.kind) := by
  obtain ⟨front, place, shape, lined, -⟩ :=
    readLines_lined file 1 [] (programLines source) (Text.lines_ne_nil _)
  have balanced : Balanced ((contents front).map TokenContent.kind) :=
    (lined False False.elim).nesting_eq
  have kinds : (contents front).map TokenContent.kind =
      (front.filterMap token?).map Token.kind := by
    rw [contents, List.map_map]
    rfl
  rw [readProgram, shape, List.filterMap_append, List.map_append, ← kinds]
  exact balanced.append rfl

/--
The tokens of a program are laid out in rows and blocks; and they are yielded by moves that start
and end with the outermost level alone and between which the open levels are always sound.
-/
theorem Lexing.laidOut_of_ofSource {file source : String} {lexing : Lexing}
    (read : Lexing.ofSource file source = .ok lexing) :
    LaidOut lexing.tokens ∧
      (Moment.start.run (programMoves file source)).yielded.filterMap token? = lexing.tokens ∧
      (Moment.start.run (programMoves file source)).levels = [.outermost] ∧
      ∀ front, front <+: programMoves file source → (Moment.start.run front).Sound := by
  have leads := Leads.readProgram file source
  unfold Lexing.ofSource at read
  split at read
  · cases read
  · cases read
    refine ⟨?_, ?_, ?_, fun front within => Moment.sound_start.run leads within⟩
    · exact (Rows.readLines file 1 [] (Text.lines_ne_nil _)).laidOut
        (balanced_readProgram file source)
    · rw [leads.run_eq]
    · rw [leads.run_eq]

/-- A program with lines that fit no level, a line without tokens and an open block at its end. -/
def stairsSource : String := "if a:\n        b\n    c  # note\n   $\n\n  d\n\te = \"x"

/-- The tokens of the program are laid out, and two levels besides the outermost one are open. -/
theorem Lexing.laidOut_stairsSource :
    ∃ lexing, Lexing.ofSource "stairs.choc" stairsSource = .ok lexing ∧
      lexing.tokens.map Token.kind =
        [.keyword .kwIf, .identifier, .symbol .colon, .newline, .indent, .identifier, .newline,
          .dedent, .identifier, .newline, .identifier, .newline, .indent, .identifier,
          .symbol .assign, .string, .newline, .dedent, .endOfFile] ∧
      LaidOut lexing.tokens ∧
      (Moment.start.run (programMoves "stairs.choc" stairsSource)).yielded.filterMap token? =
        lexing.tokens ∧
      (Moment.start.run (programMoves "stairs.choc" stairsSource)).levels = [.outermost] ∧
      (∀ front, front <+: programMoves "stairs.choc" stairsSource →
        (Moment.start.run front).Sound) ∧
      ∃ front, front <+: programMoves "stairs.choc" stairsSource ∧
        (Moment.start.run front).levels = [⟨8, true⟩, ⟨2, false⟩, .outermost] := by
  obtain ⟨lexing, read, kinds⟩ : ∃ lexing, Lexing.ofSource "stairs.choc" stairsSource =
      .ok lexing ∧ decide (lexing.tokens.map Token.kind =
        [.keyword .kwIf, .identifier, .symbol .colon, .newline, .indent, .identifier, .newline,
          .dedent, .identifier, .newline, .identifier, .newline, .indent, .identifier,
          .symbol .assign, .string, .newline, .dedent, .endOfFile]) = true :=
    exists_ok_of_any (by decide +kernel)
  obtain ⟨laidOut, yielded, levels, sound⟩ := Lexing.laidOut_of_ofSource read
  refine ⟨lexing, read, of_decide_eq_true kinds, laidOut, yielded, levels, sound, _,
    List.take_prefix 22 (programMoves "stairs.choc" stairsSource), ?_⟩
  decide +kernel

end ChocoLang
