import ChocoLang.Proofs.Parsing.Opening
import ChocoLang.Proofs.Syntax.Labels

/-!
# Where nodes and problems are placed

Every span that reading comes up with is that of a token, or leads from the start of a token to the
end of a text behind it.  So what is true of the spans of tokens, and goes over to a span that leads
from one to the end of a text, is true of the places of all nodes that are read and of all problems
that are found, also where reading fails.
-/

namespace ChocoLang

/-- Some spans, and the texts among them, that are closed under leading from one to a text. -/
structure Region where
  /-- The span is one of them. -/
  has : Span → Prop
  /-- The span is one of the texts. -/
  text : Span → Prop
  /-- A span that leads from one of them to the end of a text is one of them. -/
  through : ∀ {start last : Span}, has start → text last → start.start ≤ last.stop →
    has (start.through last)

/-- The node is placed in the region. -/
def Region.Holds (region : Region) (label : Label) : Prop := region.has label.span

/-- All nodes of the outline are placed in the region. -/
abbrev Outline.PlacedIn (region : Region) (outline : Outline) : Prop := outline.All region.Holds

section Labels

variable {region : Region}

@[simp]
theorem Region.holds_label (kind : NodeKind) (info : NodeInfo) :
    region.Holds (info.label kind) ↔ region.has info.span := Iff.rfl

@[simp]
theorem Region.holds_label_expr (kind : NodeKind) (info : ExprInfo) :
    region.Holds (info.label kind) ↔ region.has info.span := Iff.rfl

@[simp]
theorem NodeInfo.span_ofSpan (span : Span) : (NodeInfo.ofSpan span).span = span := rfl

@[simp]
theorem ExprInfo.span_ofSpan (span : Span) : (ExprInfo.ofSpan span).span = span := rfl

@[simp]
theorem Identifier.placedIn_iff (name : Identifier) :
    name.outline.PlacedIn region ↔ region.has name.info.span := by
  simp [Identifier.outline, Region.Holds, ExprInfo.label]

theorem Expr.has_span {expr : Expr} (placed : expr.outline.PlacedIn region) :
    region.has expr.span := by
  have label := placed.label
  cases expr <;> exact label

theorem Decl.has_span {decl : Decl} (placed : decl.outline.PlacedIn region) :
    region.has decl.info.span := by
  have label := placed.label
  cases decl <;> exact label

end Labels

/-- From the cursor on all tokens, behind it the last text, and all problems are in the region. -/
structure Cursor.PlacedIn (region : Region) (cursor : Cursor) : Prop where
  /-- The tokens ahead are in the region, and what is no layout is text there. -/
  ahead : ∀ token ∈ cursor.ahead,
    region.has token.span ∧ (token.kind.isLayout = false → region.text token.span)
  /-- The end of the file is in the region. -/
  ending : region.has cursor.ending.span
  /-- The last text behind is text there. -/
  last : region.text cursor.last
  /-- The problems are in the region. -/
  problems : ∀ problem ∈ cursor.problems, region.has problem.span

namespace Cursor.PlacedIn

variable {region : Region} {cursor : Cursor}

theorem current (placed : cursor.PlacedIn region) : region.has cursor.current.span := by
  unfold Cursor.current
  cases shape : cursor.ahead with
  | nil => exact placed.ending
  | cons token rest => exact (placed.ahead token (by simp [shape])).1

theorem advance (placed : cursor.PlacedIn region) : cursor.advance.PlacedIn region := by
  unfold Cursor.advance
  split
  · exact placed
  · next token rest shape =>
      have each := placed.ahead
      rw [shape, List.forall_mem_cons] at each
      refine ⟨each.2, placed.ending, ?_, placed.problems⟩
      dsimp only
      split
      · exact placed.last
      · next text => exact each.1.2 (by simpa using text)

theorem advanceBy (placed : cursor.PlacedIn region) (count : Nat) :
    (cursor.advanceBy count).PlacedIn region := by
  induction count generalizing cursor with
  | zero => exact placed
  | succ count ih => exact ih placed.advance

theorem record (placed : cursor.PlacedIn region) {problem : Located SyntaxError}
    (inside : region.has problem.span) : (cursor.record problem).PlacedIn region where
  ahead := placed.ahead
  ending := placed.ending
  last := placed.last
  problems := by
    simpa [Cursor.record, or_imp, forall_and] using ⟨placed.problems, inside⟩

theorem recover (placed : cursor.PlacedIn region) (start : Nat) {problem : Located SyntaxError}
    (inside : region.has problem.span) : (cursor.recover start problem).PlacedIn region := by
  have skipped := (placed.record inside).advanceBy (Cursor.skipLength 0 cursor.ahead)
  unfold Cursor.recover
  dsimp only
  split
  · exact skipped.advance
  · exact skipped

theorem spanFrom (placed : cursor.PlacedIn region) {start : Span} (inside : region.has start) :
    region.has (cursor.spanFrom start) := by
  unfold Cursor.spanFrom
  split
  · exact inside
  · next ordered => exact region.through inside placed.last (Position.not_lt.mp ordered)

/-- If all tokens are in the region, so is the cursor before the first of them, which is text. -/
theorem ofTokens {tokens : List Token} {nonempty : tokens ≠ []}
    (each : ∀ token ∈ tokens,
      region.has token.span ∧ (token.kind.isLayout = false → region.text token.span))
    (first : region.text (tokens.head nonempty).span) :
    (Cursor.ofTokens tokens nonempty).PlacedIn region where
  ahead token among := each token ((List.takeWhile_sublist _).subset among)
  ending := by
    simp only [Cursor.ofTokens]
    cases found : tokens.find? (·.kind == .endOfFile) with
    | none => exact (each _ (List.getLast_mem nonempty)).1
    | some token => exact (each token (List.mem_of_find?_eq_some found)).1
  last := first
  problems _ among := absurd among List.not_mem_nil

end Cursor.PlacedIn

namespace Parse

variable {α β σ : Type} {region : Region}

/--
From a cursor in the region the reader stays in the region: what it returns is good there, and so is
the place of the problem with which it fails.
-/
def Places (region : Region) (reader : Parse α) (good : α → Prop) : Prop :=
  ∀ cursor : Cursor, cursor.PlacedIn region →
    match reader cursor with
    | .ok value after => good value ∧ after.PlacedIn region
    | .error problem after => region.has problem.span ∧ after.PlacedIn region

/-- The same of a reader that deals with its failures itself. -/
def Recovering.Places (region : Region) (reader : Recovering α) (good : α → Prop) : Prop :=
  ∀ cursor : Cursor, cursor.PlacedIn region →
    good (reader cursor).1 ∧ (reader cursor).2.PlacedIn region

namespace Places

variable {reader : Parse α} {next : α → Parse β} {good good' : α → Prop} {holds : β → Prop}

theorem pure {value : α} (holds : good value) : Places region (Pure.pure value) good :=
  fun _ placed => ⟨holds, placed⟩

theorem mono (places : Places region reader good) (weaker : ∀ value, good value → good' value) :
    Places region reader good' := by
  intro cursor placed
  have here := places cursor placed
  cases read : reader cursor with
  | ok value after =>
      simp only [read] at here ⊢
      exact ⟨weaker value here.1, here.2⟩
  | error problem after => simpa only [read] using here

theorem bind (first : Places region reader good)
    (second : ∀ value, good value → Places region (next value) holds) :
    Places region (reader >>= next) holds := by
  intro cursor placed
  have here := first cursor placed
  cases read : reader cursor with
  | ok value after =>
      rw [bind_of_ok read]
      simp only [read] at here
      exact second value here.1 after here.2
  | error problem after =>
      rw [bind_of_error read]
      simpa only [read] using here

/-- What is read first does not matter. -/
theorem skip (first : Places region reader good)
    (second : ∀ value, Places region (next value) holds) :
    Places region (reader >>= next) holds :=
  first.bind fun value _ => second value

theorem look {view : Cursor → α} (places : ∀ value, Places region (next value) holds) :
    Places region (Parse.look view >>= next) holds :=
  fun cursor placed => places (view cursor) cursor placed

/-- The token that is looked at is in the region. -/
theorem current {next : Token → Parse β}
    (places : ∀ token : Token, region.has token.span → Places region (next token) holds) :
    Places region (Parse.look Cursor.current >>= next) holds :=
  fun cursor placed => places cursor.current placed.current cursor placed

/-- The place of the token that is looked at is in the region. -/
theorem start {next : Span → Parse β}
    (places : ∀ start, region.has start → Places region (next start) holds) :
    Places region (Parse.look (·.current.span) >>= next) holds :=
  fun cursor placed => places cursor.current.span placed.current cursor placed

/-- What leads from a place in the region to the last text is in the region. -/
theorem span {start : Span} (inside : region.has start) {next : Span → Parse β}
    (places : ∀ span, region.has span → Places region (next span) holds) :
    Places region (Parse.look (Cursor.spanFrom start) >>= next) holds :=
  fun cursor placed => places _ (placed.spanFrom inside) cursor placed

theorem fail {error : SyntaxError} : Places region (Parse.fail error : Parse α) good :=
  fun _ placed => ⟨placed.current, placed⟩

theorem throw {problem : Located SyntaxError} (inside : region.has problem.span) :
    Places region (MonadExcept.throw problem : Parse α) good :=
  fun _ placed => ⟨inside, placed⟩

theorem record {error : SyntaxError} {span : Span} (inside : region.has span) :
    Places region (Parse.record error span) fun _ => True :=
  fun _ placed => ⟨trivial, placed.record inside⟩

theorem pass : Places region (modify Cursor.advance) fun _ => True :=
  fun _ placed => ⟨trivial, placed.advance⟩

theorem ite {condition : Prop} [Decidable condition] {yes no : Parse α}
    (ifTrue : Places region yes good) (ifFalse : Places region no good) :
    Places region (if condition then yes else no) good := by
  split
  · exact ifTrue
  · exact ifFalse

theorem ofRecovering {reader : Recovering α} (places : Recovering.Places region reader good) :
    Places region (Parse.ofRecovering reader) good :=
  places

end Places

/-! ## Tokens and lists -/

section Tokens

variable {good : α → Prop} {item : Parse α}

theorem advance_places : Places region advance fun token => region.has token.span :=
  .current fun _ inside => .skip .pass fun _ => .pure inside

theorem accept_places (kind : TokenKind) : Places region (accept kind) fun _ => True :=
  .look fun _ => .ite (.skip .pass fun _ => .pure trivial) (.pure trivial)

theorem expect_places (kind : TokenKind) (wanted : Expectation) :
    Places region (expect kind wanted) fun token => region.has token.span :=
  .look fun _ => .ite advance_places (.look fun _ => .fail)

theorem expectSymbol_places (symbol : Symbol) (wanted : Expectation) :
    Places region (expectSymbol symbol wanted) fun _ => True :=
  .skip (expect_places _ _) fun _ => .pure trivial

theorem identifier_places (wanted : Expectation) :
    Places region (identifier wanted) fun name => region.has name.info.span :=
  (expect_places _ _).bind fun _ inside => .pure inside

theorem lineEnd_places : Places region lineEnd fun _ => True :=
  .skip (accept_places _) fun _ => .ite (.pure trivial)
    (.look fun _ => .ite (.pure trivial) (.look fun _ => .fail))

theorem furtherItems_places (separator : TokenKind) (each : Places region item good)
    (bound : Nat) :
    Places region (furtherItems separator item bound) fun items => ∀ one ∈ items, good one := by
  induction bound with
  | zero => exact .pure (by simp)
  | succ bound ih =>
      refine .skip (accept_places _) fun accepted => .ite ?_ (.pure (by simp))
      exact each.bind fun first holds => ih.bind fun rest others =>
        .pure (List.forall_mem_cons.mpr ⟨holds, others⟩)

theorem itemsAfter_places (separator : TokenKind) (each : Places region item good) :
    Places region (itemsAfter separator item) fun items => ∀ one ∈ items, good one :=
  .look fun _ => .ite (.look fun bound => furtherItems_places separator each bound)
    (.pure (by simp))

theorem commaList_places (close : Symbol) (each : Places region item good) :
    Places region (commaList close item) fun items => ∀ one ∈ items, good one :=
  .look fun _ => .ite (.pure (by simp)) (each.bind fun _ holds =>
    (itemsAfter_places _ each).bind fun _ others =>
      .pure (List.forall_mem_cons.mpr ⟨holds, others⟩))

end Tokens

/-! ## Recovery -/

section Recovery

variable {good : σ → Prop}

theorem recovering_places {fallback : σ} {reader : Parse σ} (holds : good fallback)
    (places : Places region reader good) :
    Recovering.Places region (recovering fallback reader) good := by
  intro cursor placed
  have here := places cursor placed
  simp only [recovering, EStateM.run]
  cases read : reader cursor with
  | ok value after => simpa only [read] using here
  | error problem after =>
      simp only [read] at here ⊢
      exact ⟨holds, here.2.recover _ here.1⟩

theorem repeatUntil_places {halt : Cursor → Bool} {step : σ → Recovering σ}
    (each : ∀ state, good state → Recovering.Places region (step state) good) (bound : Nat)
    {state : σ} (holds : good state) :
    Recovering.Places region (repeatUntil halt step bound state) good := by
  induction bound generalizing state with
  | zero => exact fun _ placed => ⟨holds, placed⟩
  | succ bound ih =>
      intro cursor placed
      simp only [repeatUntil, Bind.bind, StateT.bind, get, getThe, MonadStateOf.get, StateT.get,
        Pure.pure]
      split
      · exact ⟨holds, placed⟩
      · obtain ⟨held, stays⟩ := each state holds cursor placed
        exact ih held _ stays

theorem body_places {step : σ → Recovering σ}
    (each : ∀ state, good state → Recovering.Places region (step state) good) {state : σ}
    (holds : good state) : Recovering.Places region (body step state) good :=
  fun cursor => repeatUntil_places each cursor.ahead.length holds cursor

end Recovery
end Parse
end ChocoLang
