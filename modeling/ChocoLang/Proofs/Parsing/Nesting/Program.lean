import ChocoLang.Proofs.Parsing.Nesting.Statement
import ChocoLang.Proofs.Parsing.Running
import ChocoLang.Proofs.Syntax.Traversal
import ChocoLang.Proofs.Token.Accounting

/-!
# Declarations and programs are read nested

A declaration leaves behind itself from the token on that begins it.  A function without a written
result has its result annotated at the parenthesis that closes its parameters, which stands behind
all of them.

Whatever is wrong with a program, the declarations and statements that are kept stand one behind the
other.  So in the tree that is read the span of every node contains those of its children, and the
spans of different children do not overlap.

The children of a node are listed in the order of the text, but for those of a choice between
expressions.
-/

namespace ChocoLang
namespace Parse

attribute [local simp] Decl.outline FunctionHeading.outlines Decl.outlines_eq_map
  Stmt.outlines_eq_map NodeKind.inText

variable {first : Position} {outlines : List Outline}

/-! ## Variables -/

theorem initializer_leaves : Leaves initializer fun value => [value.outline] := by
  intro token
  unfold initializer
  refine .current ?_
  split
  · next value found =>
      split at found
      · obtain ⟨spans, single⟩ := outline_of_atom found
        exact .leaf (isLayout_of_atom found) spans single (.pure fun _ behind => behind)
      · cases found
  · exact .fail

theorem variableDefinition_leaves (room : Nat) :
    Leaves (variableDefinition room) fun decl => [decl.outline] := by
  intro token
  unfold variableDefinition
  refine .span ((typedVar_leaves room token).bind fun var => .skip fun _ =>
    .part initializer_leaves fun value => ?_)
  exact .close (fun span => (Decl.varDef (.ofSpan span) var value).outline) (fun _ => rfl)
    (fun _ => by simp) fun _ => .skip fun _ => .pure fun _ behind => behind

theorem outerVariable_leaves : LeavesFromText outerVariable fun decl => [decl.outline] := by
  intro token text
  unfold outerVariable
  refine .advance text (.part (identifier_leaves _) fun name => ?_)
  let decl (span : Span) : Decl := if token.kind == .keyword .kwGlobal then
    .globalDecl (.ofSpan span) name else .nonlocalDecl (.ofSpan span) name
  have spans (span : Span) : (decl span).outline.span = span := by
    dsimp only [decl]
    split <;> rfl
  have parts (span : Span) : (decl span).outline.inText = [name.outline] := by
    dsimp only [decl]
    split <;> rfl
  refine .close (fun span => (decl span).outline) spans parts fun span => .skip fun _ => ?_
  refine .ite (fun declares => .pure fun _ behind => ?_) fun other => .pure fun _ behind => ?_
  · simpa only [decl, if_pos declares] using behind
  · simpa only [decl, if_neg other] using behind

/-! ## Classes -/

theorem classHeader_carries {token : Token} (text : token.kind.isLayout = false) :
    Carries (Cursor.At token) classHeader fun header cursor =>
      header.1 = token.span ∧
        cursor.Behind token.span.start [header.2.1.outline, header.2.2.outline] := by
  unfold classHeader
  refine .advance text (.part (identifier_leaves _) fun name => .skip fun _ =>
    .part (identifier_leaves _) fun superclass => .skip fun _ => .skip fun _ => .skip fun _ => ?_)
  exact .pure fun _ behind => ⟨rfl, behind⟩

theorem classMember_carries {declaration : Parse (Option Decl)}
    (each : Leaves declaration fun read => read.toList.map Decl.outline) :
    Carries (Cursor.Behind first outlines) (classMember declaration)
      fun read => Cursor.Behind first (outlines ++ read.toList.map Decl.outline) :=
  .skip fun _ => .ite (fun _ => .skip fun _ => .pure (by simp)) fun _ => .look fun _ =>
    .ite (fun _ => each.behind) fun _ => .fail

/-- A class below the top level is left out. -/
theorem rejectNested_carries (decl : Decl) :
    Carries (Cursor.Behind first [decl.outline]) (rejectNested decl)
      fun read => Cursor.Behind first (read.toList.map Decl.outline) :=
  .skip fun _ => .pure fun _ behind => .of_append behind

section Declarations

theorem classBody_carries {declaration : Parse (Option Decl)} [Forward declaration]
    (each : Leaves declaration fun read => read.toList.map Decl.outline) :
    Carries (Cursor.Behind first outlines) (ofRecovering (body (classStep declaration) []))
      fun members => Cursor.Behind first (outlines ++ members.map Decl.outline) := by
  have step (members : List Decl) : Recovering.Carries
      (Cursor.Behind first (outlines ++ members.map Decl.outline)) (classStep declaration members)
      fun members => Cursor.Behind first (outlines ++ members.map Decl.outline) := by
    refine recovering_behind (fun members : List Decl => outlines ++ members.map Decl.outline) ?_
    exact (classMember_carries each).bind fun read => .pure (by simp)
  exact .of_imp (.ofRecovering (body_carries step [])) (by simp)

variable {function : Parse Decl} (inner : LeavesFromText function fun decl => [decl.outline])
include inner

theorem memberReader_leaves (room bound : Nat)
    (nested : LeavesFromText (classDefinition room function bound) fun decl => [decl.outline]) :
    Leaves (memberReader room function bound) fun read => read.toList.map Decl.outline := by
  intro token
  unfold memberReader
  refine .kind ?_
  split
  · next kind =>
      exact (inner token (by rw [kind]; rfl)).bind fun decl => .pure fun _ behind => behind
  · next kind => exact (nested token (by rw [kind]; rfl)).bind fun decl => rejectNested_carries decl
  · exact (variableDefinition_leaves room token).bind fun decl => .pure fun _ behind => behind

theorem classDefinition_leaves [Forward function] (room bound : Nat) :
    LeavesFromText (classDefinition room function bound) fun decl => [decl.outline] := by
  induction bound with
  | zero => exact fun _ _ => .fail
  | succ bound ih =>
      intro token text
      rw [classDefinition_succ]
      refine (classHeader_carries text).bind fun (start, name, superclass) => .of_and ?_
      rintro rfl
      refine (classBody_carries (memberReader_leaves inner room bound ih)).bind fun members =>
        .skip fun _ => ?_
      exact .closed (fun _ => rfl) (fun _ => by simp)

theorem classDeclaration_leaves [Forward function] (room : Nat) :
    LeavesFromText (classDeclaration room function) fun decl => [decl.outline] :=
  fun token text => .look fun bound => classDefinition_leaves inner room bound token text

theorem innerDeclaration_leaves [Forward function] (room : Nat) :
    Leaves (innerDeclaration room function) fun read => read.toList.map Decl.outline := by
  intro token
  unfold innerDeclaration
  refine .kind ?_
  split
  · next kind =>
      exact (inner token (by rw [kind]; rfl)).bind fun decl => .pure fun _ behind => behind
  · next kind =>
      exact (classDeclaration_leaves inner room token (by rw [kind]; rfl)).bind fun decl =>
        rejectNested_carries decl
  · exact (variableDefinition_leaves room token).bind fun decl => .pure fun _ behind => behind

end Declarations

/-! ## Functions -/

/-- A written result takes the place of the one annotated at the parenthesis. -/
theorem resultType_carries (room : Nat) (paren : Span) :
    Carries (Cursor.Behind first
        (outlines ++ [(WrittenType.named (.ofSpan paren) noResult).outline]))
      (resultType room paren)
      fun written => Cursor.Behind first (outlines ++ [written.outline]) := by
  unfold resultType
  refine .skip fun _ => .ite (fun _ => ?_) fun _ => .pure fun _ behind => behind
  exact (writtenType_leaves room).behind.of_imp fun _ behind => behind.of_append

theorem functionHeading_carries (room : Nat) :
    Carries (Cursor.Behind first outlines) (functionHeading room)
      fun heading => Cursor.Behind first (outlines ++ heading.outlines) := by
  unfold functionHeading
  refine .part (identifier_leaves _) fun name => .skip fun _ => ?_
  refine (commaList_carries (typedVar_leaves room) _).bind fun params => ?_
  let absent (paren : Token) : WrittenType := .named (.ofSpan paren.span) noResult
  have paren : Leaves (expect (.symbol .rightParen) .closeParameters)
      fun paren => [(absent paren).outline] := fun token =>
    (expect_carries rfl _ (fun paren => (absent paren).outline) (fun _ => rfl) (fun _ => rfl)
      token).mono fun _ _ behind => behind.1 ▸ behind.2
  refine .part paren fun paren => (resultType_carries room paren.span).bind fun returns =>
    .skip fun _ => .skip fun _ => .pure (by simp)

/-- The parts that have been read of the body of a function. -/
def FunctionBody.parts (body : FunctionBody) : List Outline :=
  body.declarations.map Decl.outline ++ body.statements.map Stmt.outline

/-- What has been read of a body stands behind other things, statements only if one was begun. -/
structure FunctionBody.Behind (first : Position) (outlines : List Outline) (body : FunctionBody)
    (cursor : Cursor) : Prop where
  /-- The parts stand behind the others. -/
  parts : cursor.Behind first (outlines ++ body.parts)
  /-- Without a statement begun there is none. -/
  begun : body.hasStatement = false → body.statements = []

theorem declare_carries (body : FunctionBody)
    (begun : body.hasStatement = false → body.statements = []) (decl : Decl) :
    Carries (Cursor.Behind first (outlines ++ body.parts ++ [decl.outline])) (body.declare decl)
      (FunctionBody.Behind first outlines) := by
  unfold FunctionBody.declare
  refine .ite (fun late => .skip fun _ => .pure fun _ behind => ⟨behind.of_append, begun⟩)
    fun early => .pure fun _ behind => ⟨?_, fun _ => begun (by simpa using early)⟩
  simpa [FunctionBody.parts, begun (by simpa using early)] using behind

section Bodies

variable {inner : Parse (Option Decl)} {reader : Parse (Option Stmt)} [Forward inner]
  [Forward reader] (declares : Leaves inner fun read => read.toList.map Decl.outline)
  (states : Leaves reader fun read => read.toList.map Stmt.outline)

include declares in
omit [Forward inner] in
theorem functionDeclaration_leaves :
    Leaves (functionDeclaration inner) fun read => read.toList.map Decl.outline := by
  intro token
  unfold functionDeclaration
  refine .kind ?_
  split
  · next kind =>
      exact (outerVariable_leaves token (by rw [kind]; rfl)).bind fun decl =>
        .pure fun _ behind => behind
  · next kind =>
      exact (outerVariable_leaves token (by rw [kind]; rfl)).bind fun decl =>
        .pure fun _ behind => behind
  · exact declares token

include declares states in
theorem functionStep_carries (body : FunctionBody) :
    Recovering.Carries (body.Behind first outlines) (functionStep inner reader body)
      (FunctionBody.Behind first outlines) := by
  intro cursor stands
  rw [functionStep_apply]
  have stays (body : FunctionBody) {cursor after : Cursor}
      (behind : body.Behind first outlines cursor) (moves : cursor.Moves after) :
      body.Behind first outlines after :=
    ⟨behind.parts.moves moves, behind.begun⟩
  split
  · refine recovering_carries (FunctionBody.Behind first outlines) (stays _) ?_ cursor stands
    intro cursor value final behind
    refine Carries.part (functionDeclaration_leaves declares) (fun read => ?_) cursor value final
      behind.parts
    cases read with
    | none => exact .pure fun _ parts => ⟨by simpa using parts, behind.begun⟩
    | some decl => exact declare_carries body behind.begun decl
  · refine recovering_carries (FunctionBody.Behind first outlines) (stays _) ?_ cursor
      ⟨stands.parts, nofun⟩
    intro cursor value final behind
    refine Carries.part states (fun read => .pure fun _ parts => ⟨?_, nofun⟩) cursor value final
      behind.parts
    simpa [FunctionBody.parts] using parts

end Bodies

theorem functionDefinition_leaves (room : Nat) :
    LeavesFromText (functionDefinition room) fun decl => [decl.outline] := by
  induction room with
  | zero => exact fun _ _ => .fail
  | succ room ih =>
      intro token text
      unfold functionDefinition
      refine .advance text ((functionHeading_carries room).bind fun heading => .look fun _ => ?_)
      have step (body : FunctionBody) : Recovering.Carries
          (body.Behind token.span.start heading.outlines)
          (functionStep (innerDeclaration room (functionDefinition room))
            (statement (expression room) (block room)) body)
          (FunctionBody.Behind token.span.start heading.outlines) :=
        functionStep_carries (innerDeclaration_leaves ih room)
          (statement_leaves (expression_leaves room) (block_carries room)) body
      have none (cursor : Cursor) (behind : cursor.Behind token.span.start heading.outlines) :
          FunctionBody.Behind token.span.start heading.outlines {} cursor :=
        ⟨by simpa [FunctionBody.parts] using behind, fun _ => rfl⟩
      refine .bind (.of_imp (.ofRecovering (body_carries step {})) none) fun read => ?_
      refine .of_imp ?_ fun _ behind => behind.parts
      refine .skip fun _ => .look fun recovered => ?_
      have whole : Carries (Cursor.Behind token.span.start (heading.outlines ++ read.parts))
          (do
            let span ← look (Cursor.spanFrom token.span)
            return Decl.funcDef (.ofSpan span) heading read.declarations read.statements recovered)
          fun decl : Decl => Cursor.Behind token.span.start [decl.outline] :=
        .closed (fun _ => rfl) (fun _ => by simp [FunctionBody.parts])
      exact .ite (fun _ => whole) fun _ => .skip fun _ => whole

end Parse

/-! ## The body of a program -/

/-- The parts that have been read of a program. -/
def ProgramBody.parts (body : ProgramBody) : List Outline :=
  body.declarations.map Decl.outline ++ body.statements.map Stmt.outline

/-- Outlines stand behind the cursor from a position on, or nothing has been read yet. -/
def Cursor.Since (first : Position) (outlines : List Outline) (cursor : Cursor) : Prop :=
  cursor.Behind first outlines ∨
    outlines = [] ∧ cursor.Ordered ∧ first ≤ cursor.current.span.start

namespace Cursor

variable {first : Position} {outlines others : List Outline} {cursor after : Cursor}

theorem Behind.of_le {middle : Position} (behind : cursor.Behind middle outlines)
    (earlier : first ≤ middle) : cursor.Behind first outlines :=
  { behind with
    row := behind.row.of_le earlier
    past := Position.lt_of_le_of_lt earlier behind.past }

theorem Since.ordered (since : cursor.Since first outlines) : cursor.Ordered :=
  since.elim (·.ordered) (·.2.1)

theorem Since.moves (since : cursor.Since first outlines) (moves : cursor.Moves after) :
    after.Since first outlines := by
  rcases since with behind | ⟨none, ordered, begun⟩
  · exact .inl (behind.moves moves)
  · have later : after.Ordered ∧ first ≤ after.current.span.start := by
      induction moves with
      | refl => exact ⟨ordered, begun⟩
      | advance _ ih =>
          exact ⟨ih.1.advance, Position.le_trans ih.2 ih.1.start_le_advance⟩
      | record _ problem ih => exact ⟨⟨ih.1.closed, ih.1.row, ih.1.wide⟩, ih.2⟩
    exact .inr ⟨none, later⟩

/-- What is read from the cursor on stands behind what had been read, if anything had. -/
theorem Since.append (since : cursor.Since first outlines)
    (behind : after.Behind cursor.current.span.start others) :
    after.Since first (outlines ++ others) := by
  rcases since with before | ⟨rfl, -, begun⟩
  · exact .inl (before.append behind)
  · exact .inl (behind.of_le begun)

theorem Since.of_append (since : cursor.Since first (outlines ++ others)) :
    cursor.Since first outlines := by
  rcases since with behind | ⟨none, ordered, begun⟩
  · exact .inl behind.of_append
  · exact .inr ⟨(List.append_eq_nil_iff.mp none).1, ordered, begun⟩

end Cursor

namespace Parse

variable {first : Position}

theorem Leaves.since {α : Type} {reader : Parse α} {read : α → List Outline}
    {outlines : List Outline} (leaves : Leaves reader read) :
    Carries (Cursor.Since first outlines) reader
      fun value => Cursor.Since first (outlines ++ read value) :=
  fun cursor value final since ok =>
    since.append (leaves cursor.current cursor value final ⟨since.ordered, rfl⟩ ok)

theorem topDeclaration_leaves : Leaves topDeclaration fun decl => [decl.outline] := by
  intro token
  unfold topDeclaration
  refine .kind ?_
  split
  · next kind => exact functionDefinition_leaves _ token (by rw [kind]; rfl)
  · next kind =>
      exact classDeclaration_leaves (functionDefinition_leaves _) _ token (by rw [kind]; rfl)
  · exact variableDefinition_leaves _ token

theorem declareIn_carries (body : ProgramBody) (decl : Decl) :
    Carries (Cursor.Since first (body.parts ++ [decl.outline])) (declareIn body decl)
      fun body => Cursor.Since first body.parts := by
  unfold declareIn
  refine .ite (fun early => .pure fun _ since => ?_) fun late => ?_
  · simpa [ProgramBody.parts, List.isEmpty_iff.mp early] using since
  · exact .keeps (fun since moves => since.moves moves) fun _ =>
      .pure fun _ since => since.of_append

theorem programStep_carries (body : ProgramBody) :
    Recovering.Carries (Cursor.Since first body.parts) (programStep body)
      fun body => Cursor.Since first body.parts := by
  intro cursor since
  have stays {cursor after : Cursor} (since : cursor.Since first body.parts)
      (moves : cursor.Moves after) : after.Since first body.parts := since.moves moves
  rw [programStep_apply]
  split
  · exact stays since (.advance .refl)
  split
  · refine recovering_carries (fun body : ProgramBody => Cursor.Since first body.parts) stays ?_
      cursor since
    exact topDeclaration_leaves.since.bind fun decl => declareIn_carries body decl
  · refine recovering_carries (fun body : ProgramBody => Cursor.Since first body.parts) stays ?_
      cursor since
    refine (statement_leaves (expression_leaves _) (block_carries _)).since.bind fun read => ?_
    exact .pure (by simp [ProgramBody.parts])

theorem programBody_carries :
    Recovering.Carries (Cursor.Since first []) programBody
      fun body => Cursor.Since first body.parts :=
  fun cursor => repeatUntil_carries programStep_carries cursor.ahead.length {} cursor

end Parse

/-! ## Programs -/

/-- A span up to the last text is not reversed if it starts where a span does that is not. -/
theorem Cursor.spanFrom_forward {start : Span} (forward : start.start ≤ start.stop)
    (cursor : Cursor) : (cursor.spanFrom start).start ≤ (cursor.spanFrom start).stop := by
  unfold Cursor.spanFrom
  split
  · exact forward
  · next ordered => exact Position.not_lt.mp ordered

/-- The text of a program that is read: nothing, if no token has been passed. -/
def Cursor.programSpan (file : String) (start after : Cursor) : Span :=
  if after.position = 0 then .point file 1 1 else after.spanFrom start.current.span

theorem Cursor.outline_readProgram (cursor : Cursor) (file : String) (known : List Diagnostic) :
    (cursor.readProgram file known).1.outline =
      .node ((NodeInfo.ofSpan (cursor.programSpan file (Parse.programBody cursor).2)).label
          .program)
        (Parse.programBody cursor).1.parts := by
  rw [ProgramBody.parts, ← Decl.outlines_eq_map, ← Stmt.outlines_eq_map]
  rfl

/-- From a cursor before tokens that stand one behind the other, a nested program is read. -/
theorem Cursor.nested_readProgram {cursor : Cursor} (ordered : cursor.Ordered) (file : String)
    (known : List Diagnostic) : (cursor.readProgram file known).1.outline.Nested := by
  have since := Parse.programBody_carries cursor
    (.inr ⟨rfl, ordered, Position.le_refl cursor.current.span.start⟩)
  rw [outline_readProgram]
  rcases since with behind | ⟨none, -, -⟩
  · have spans : programSpan file cursor (Parse.programBody cursor).2 =
        (Parse.programBody cursor).2.spanFrom cursor.current.span :=
      if_neg (Nat.pos_iff_ne_zero.mp behind.moved)
    rw [spans]
    exact (behind.close rfl rfl).nested _ List.mem_cons_self
  · rw [none]
    refine Outline.nested_node.mpr ⟨.nil ?_, by simp⟩
    change (programSpan file cursor _).start ≤ (programSpan file cursor _).stop
    unfold programSpan
    split
    · exact Position.le_refl _
    · exact spanFrom_forward ordered.forward _

/-- The nodes below a program that is read from there take up some text. -/
theorem Cursor.wide_readProgram {cursor : Cursor} (ordered : cursor.Ordered) (file : String)
    (known : List Diagnostic) :
    ∀ part ∈ (cursor.readProgram file known).1.outline.children, part.Wide := by
  have since := Parse.programBody_carries cursor
    (.inr ⟨rfl, ordered, Position.le_refl cursor.current.span.start⟩)
  rw [outline_readProgram]
  rcases since with behind | ⟨none, -, -⟩
  · exact behind.wide
  · rw [none]
    exact nofun

/-- Before the first of the tokens of a program, the tokens ahead stand one behind the other. -/
theorem Cursor.ordered_ofTokens {tokens : List Token} {nonempty : tokens ≠ []}
    (ends : (tokens.getLast nonempty).kind = .endOfFile) {first last : Position}
    (row : Successive first (tokens.map Token.span) last)
    (wide : ∀ token ∈ tokens, token.kind.isLayout = false → token.span.start < token.span.stop) :
    (Cursor.ofTokens tokens nonempty).Ordered := by
  refine ⟨closed_ofTokens ends, ⟨first, last, ?_⟩, fun token among =>
    wide token ((List.takeWhile_sublist _).subset among)⟩
  have ahead : (ofTokens tokens nonempty).ahead ++ [(ofTokens tokens nonempty).ending] =
      tokens.take (firstEnd tokens + 1) := by
    rw [List.take_add_one, getElem?_firstEnd ends, ahead_ofTokens_eq_take]
    rfl
  rw [ahead]
  rw [← List.take_append_drop (firstEnd tokens + 1) tokens, List.map_append] at row
  exact row.of_append

theorem Lexing.ordered_of_ofSource {file source : String} {lexing : Lexing}
    (lexed : Lexing.ofSource file source = .ok lexing) :
    (Cursor.ofTokens lexing.tokens lexing.tokens_ne_nil).Ordered := by
  obtain ⟨first, last, row⟩ := Lexing.successive_of_ofSource lexed
  exact Cursor.ordered_ofTokens (Lexing.ends_of_ofSource lexed) row (Lexing.wide_of_ofSource lexed)

/-- The program that a text is read as is nested. -/
theorem Program.nested_of_ofSource {file source : String} {program : Program}
    (read : Program.ofSource file source = .ok program) : program.outline.Nested := by
  obtain ⟨lexing, lexed, rfl⟩ := exists_of_ofSource read
  exact Cursor.nested_readProgram (Lexing.ordered_of_ofSource lexed) file lexing.diagnostics

/-- The nodes below the program that a text is read as take up some text. -/
theorem Program.wide_of_mem_preorder {file source : String} {program : Program}
    (read : Program.ofSource file source = .ok program) {node : Outline}
    (among : node ∈ program.outline.preorder) (below : node.label.kind ≠ .program) :
    node.Wide := by
  obtain ⟨lexing, lexed, rfl⟩ := exists_of_ofSource read
  have wide := Cursor.wide_readProgram (Lexing.ordered_of_ofSource lexed) file lexing.diagnostics
  rw [Program.outline, Outline.preorder] at among
  rcases List.mem_cons.mp among with rfl | inside
  · exact absurd rfl below
  · obtain ⟨part, listed, lies⟩ := Outline.mem_preorderAll.mp inside
    exact (wide part listed).of_mem_preorder lies

/--
The spans of the tree that a text is read as nest, whatever errors are found in the text: the span
of every node contains those of its children, and those of different children do not overlap.
-/
theorem Program.spansNest_of_ofSource {file source : String} {program : Program}
    (read : Program.ofSource file source = .ok program) :
    ∀ node ∈ program.outline.preorder, node.SpansNest :=
  fun node among => (Program.nested_of_ofSource read node among).spansNest

/-- A program with operands in parentheses, a chain of choices and statements in error. -/
def brokenSource : String :=
  "def f(x: int):\n    return )\n    if (x)[0].g(1 if x else 2):\n        pass\n" ++
    "    elif not -x:\n        x = [\n    y: int = 1\nclass A(B):\n" ++
    "    def g(self: \"A\"):\n        pass\n(z).w = a = 3\n"

/-- Three errors are found in the program, and the spans of all nodes that are left nest. -/
theorem Program.spansNest_brokenSource :
    ∃ program, Program.ofSource "broken.choc" brokenSource = .ok program ∧
      program.errors.length = 3 ∧ program.outline.preorder.length = 37 ∧
      ∀ node ∈ program.outline.preorder, node.SpansNest := by
  obtain ⟨program, read, counted⟩ : ∃ program,
      Program.ofSource "broken.choc" brokenSource = .ok program ∧
        decide (program.errors.length = 3 ∧ program.outline.preorder.length = 37) = true :=
    exists_ok_of_any (by decide +kernel)
  obtain ⟨errors, nodes⟩ := of_decide_eq_true counted
  exact ⟨program, read, errors, nodes, Program.spansNest_of_ofSource read⟩

/-! ## The order of the children -/

/-- Each of the outlines stops before the next one starts. -/
def Outline.InOrder (outlines : List Outline) : Prop :=
  outlines.IsChain fun one next => one.span.stop ≤ next.span.start

instance (outlines : List Outline) : Decidable (Outline.InOrder outlines) :=
  inferInstanceAs (Decidable (outlines.IsChain _))

theorem Outline.Encloses.inOrder {outline : Outline} (encloses : outline.Encloses) :
    Outline.InOrder outline.inText :=
  (List.pairwise_map.mp encloses.pairwise).isChain

/-- Two outlines that take up some text are in order in one of the two ways only. -/
theorem Outline.InOrder.not_swapped {first second : Outline} {rest others : List Outline}
    (inOrder : InOrder (first :: second :: rest)) (wide : first.Wide) (wide' : second.Wide) :
    ¬InOrder (second :: first :: others) := by
  intro swapped
  have before := (List.isChain_cons_cons.mp inOrder).1
  have behind := (List.isChain_cons_cons.mp swapped).1
  have past := Position.lt_of_lt_of_le (wide first (mem_preorder_self first)) before
  have past' := Position.lt_of_lt_of_le (wide' second (mem_preorder_self second)) behind
  simp only [Position.lt_iff] at past past'
  omega

/--
In the program that a text is read as, the children of each node are listed in the order of the text
but for those of a choice between expressions, whose condition is listed before the expression in
front of it.
-/
theorem Program.inOrder_iff_of_ofSource {file source : String} {program : Program}
    (read : Program.ofSource file source = .ok program) :
    ∀ node ∈ program.outline.preorder, Outline.InOrder node.inText ∧
      (Outline.InOrder node.children ↔ node.label.kind ≠ .ifExpr) := by
  intro node among
  have encloses := Program.nested_of_ofSource read node among
  have takes := program.proportioned node among
  refine ⟨encloses.inOrder, fun listed choice => ?_, fun other => ?_⟩
  · obtain ⟨label, children⟩ := node
    obtain ⟨kind, span, error, type, name⟩ := label
    obtain rfl : kind = .ifExpr := choice
    obtain ⟨condition, chosen, alternative, rfl⟩ := List.length_eq_three.mp takes
    have wide := Program.wide_of_mem_preorder read among nofun
    obtain ⟨-, below⟩ := Outline.wide_node.mp wide
    exact encloses.inOrder.not_swapped (below chosen (by simp)) (below condition (by simp)) listed
  · have same : node.inText = node.children := by
      unfold Outline.inText NodeKind.inText
      split
      · next choice _ => exact absurd choice other
      · rfl
    exact same ▸ encloses.inOrder

/-- A choice between two numbers. -/
def choiceSource : String := "1 if True else 2\n"

/-- Nothing is wrong with the choice, and the children of all other nodes are listed in order. -/
theorem Program.inOrder_iff_choiceSource :
    ∃ program, Program.ofSource "choice.choc" choiceSource = .ok program ∧ program.errors = [] ∧
      (∃ node ∈ program.outline.preorder, node.label.kind = .ifExpr) ∧
      ∀ node ∈ program.outline.preorder, Outline.InOrder node.inText ∧
        (Outline.InOrder node.children ↔ node.label.kind ≠ .ifExpr) := by
  obtain ⟨program, read, facts⟩ : ∃ program,
      Program.ofSource "choice.choc" choiceSource = .ok program ∧
        (program.errors.isEmpty &&
          program.outline.preorder.any fun node => node.label.kind = .ifExpr) = true :=
    exists_ok_of_any (by decide +kernel)
  obtain ⟨clean, choice⟩ := Bool.and_eq_true_iff.mp facts
  exact ⟨program, read, List.isEmpty_iff.mp clean, by simpa using choice,
    Program.inOrder_iff_of_ofSource read⟩

/-- In the program of the choice the children of a node are not in the order of the text. -/
theorem Program.exists_not_inOrder :
    ∃ program, Program.ofSource "choice.choc" choiceSource = .ok program ∧ program.errors = [] ∧
      ∃ node ∈ program.outline.preorder, ¬Outline.InOrder node.children := by
  obtain ⟨program, read, facts⟩ : ∃ program,
      Program.ofSource "choice.choc" choiceSource = .ok program ∧
        (program.errors.isEmpty &&
          program.outline.preorder.any fun node => !decide (Outline.InOrder node.children)) =
            true :=
    exists_ok_of_any (by decide +kernel)
  obtain ⟨clean, wrong⟩ := Bool.and_eq_true_iff.mp facts
  exact ⟨program, read, List.isEmpty_iff.mp clean, by simpa using wrong⟩

end ChocoLang
