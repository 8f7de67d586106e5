import ChocoLang.Proofs.Parsing.Opening
import ChocoLang.Proofs.Syntax.Nesting

/-!
# What has been read lies behind

A phrase is read from the token at the cursor on.  What is read of it stands behind the cursor, one
part after the other, and stops with the last text there: this is why a node that spans the text
from the first token of the phrase to the last text behind the cursor encloses its parts.  As some
text has been passed, such a node takes up some text itself.  The rules below say how a reader
carries a cursor behind some parts to a cursor behind others.
-/

namespace ChocoLang

/-! ## Cursors behind what was read -/

/-- The tokens ahead stand one behind the other, and the end of the file comes last. -/
structure Cursor.Ordered (cursor : Cursor) : Prop where
  /-- The last token marks the end of the file. -/
  closed : cursor.Closed
  /-- The tokens stand one behind the other. -/
  row : ∃ first last,
    Successive first ((cursor.ahead ++ [cursor.ending]).map Token.span) last
  /-- Text takes up some room. -/
  wide : ∀ token ∈ cursor.ahead, token.kind.isLayout = false → token.span.start < token.span.stop

/-- From a position on, the outlines stand one behind the other up to the last text behind. -/
structure Cursor.Behind (first : Position) (outlines : List Outline) (cursor : Cursor) : Prop where
  /-- The tokens ahead stand one behind the other. -/
  ordered : cursor.Ordered
  /-- The outlines stand one behind the other. -/
  row : Successive first (outlines.map Outline.span) cursor.last.stop
  /-- The text behind stops before the token at the cursor. -/
  settled : cursor.last.stop ≤ cursor.current.span.start
  /-- Behind the position is some text. -/
  past : first < cursor.last.stop
  /-- The outlines are nested in themselves. -/
  nested : ∀ outline ∈ outlines, outline.Nested
  /-- The nodes of the outlines take up some text. -/
  wide : ∀ outline ∈ outlines, outline.Wide
  /-- Some token is behind. -/
  moved : 0 < cursor.position

/-- A token stands at the cursor, and the others stand behind it. -/
structure Cursor.At (token : Token) (cursor : Cursor) : Prop where
  /-- The tokens ahead stand one behind the other. -/
  ordered : cursor.Ordered
  /-- The token stands at the cursor. -/
  current : cursor.current = token

namespace Cursor

variable {first : Position} {outlines others : List Outline} {cursor after : Cursor}
  {token : Token}

namespace Ordered

theorem advance (ordered : cursor.Ordered) : cursor.advance.Ordered := by
  suffices further : (∃ first last, Successive first
      ((cursor.advance.ahead ++ [cursor.advance.ending]).map Token.span) last) ∧
        ∀ token ∈ cursor.advance.ahead, token.kind.isLayout = false →
          token.span.start < token.span.stop from
    ⟨(Onward.advance cursor).closed ordered.closed, further.1, further.2⟩
  unfold Cursor.advance
  split
  · exact ⟨ordered.row, ordered.wide⟩
  · next token rest shape =>
      obtain ⟨first, last, row⟩ := ordered.row
      have wide := ordered.wide
      rw [shape] at row wide
      exact ⟨⟨_, last, row.tail⟩, fun other among => wide other (List.mem_cons_of_mem _ among)⟩

/-- The token at the cursor does not stop before it starts. -/
theorem forward (ordered : cursor.Ordered) :
    cursor.current.span.start ≤ cursor.current.span.stop := by
  obtain ⟨first, last, row⟩ := ordered.row
  unfold Cursor.current
  cases shape : cursor.ahead with
  | nil =>
      rw [shape] at row
      exact row.forward
  | cons token rest =>
      rw [shape] at row
      exact row.forward

theorem wide_current (ordered : cursor.Ordered) (text : cursor.current.kind.isLayout = false) :
    cursor.current.span.start < cursor.current.span.stop := by
  have more := ordered.closed.ahead_ne_nil fun ends => by simp [ends, TokenKind.isLayout] at text
  obtain ⟨token, rest, shape⟩ := List.exists_cons_of_ne_nil more
  have current : cursor.current = token := by unfold Cursor.current; rw [shape, List.headD_cons]
  rw [current] at text ⊢
  exact ordered.wide token (shape ▸ List.mem_cons_self) text

/-- The next token starts behind the one at the cursor. -/
theorem stop_le_advance (ordered : cursor.Ordered) (more : cursor.ahead ≠ []) :
    cursor.current.span.stop ≤ cursor.advance.current.span.start := by
  obtain ⟨first, last, row⟩ := ordered.row
  obtain ⟨token, rest, shape⟩ := List.exists_cons_of_ne_nil more
  unfold Cursor.advance Cursor.current
  rw [shape] at row ⊢
  cases rest with
  | nil => exact (row.tail.within _ List.mem_cons_self).1
  | cons next rest => exact (row.tail.within _ List.mem_cons_self).1

theorem start_le_advance (ordered : cursor.Ordered) :
    cursor.current.span.start ≤ cursor.advance.current.span.start := by
  by_cases more : cursor.ahead = []
  · have same : cursor.advance = cursor := by unfold Cursor.advance; rw [more]
    rw [same]
    exact Position.le_refl _
  · exact Position.le_trans ordered.forward (ordered.stop_le_advance more)

end Ordered

theorem last_advance (more : cursor.ahead ≠ []) :
    cursor.advance.last =
      if cursor.current.kind.isLayout then cursor.last else cursor.current.span := by
  obtain ⟨token, rest, shape⟩ := List.exists_cons_of_ne_nil more
  unfold Cursor.advance Cursor.current
  simp only [shape, List.headD_cons]

namespace Behind

theorem advance (behind : cursor.Behind first outlines) :
    cursor.advance.Behind first outlines := by
  obtain ⟨ordered, row, settled, past, nested, wide, moved⟩ := behind
  by_cases more : cursor.ahead = []
  · have same : cursor.advance = cursor := by unfold Cursor.advance; rw [more]
    rw [same]
    exact ⟨ordered, row, settled, past, nested, wide, moved⟩
  have behind := ordered.stop_le_advance more
  have start := Position.le_trans settled ordered.forward
  have further := (Onward.advance cursor).position_le
  have stops : cursor.last.stop ≤ cursor.advance.last.stop ∧
      cursor.advance.last.stop ≤ cursor.advance.current.span.start := by
    rw [last_advance more]
    split
    · exact ⟨Position.le_refl _, Position.le_trans start behind⟩
    · exact ⟨start, behind⟩
  exact ⟨ordered.advance, row.le_of stops.1, stops.2, Position.lt_of_lt_of_le past stops.1, nested,
    wide, by omega⟩

/-- What is behind stays behind. -/
theorem moves (behind : cursor.Behind first outlines) (moves : cursor.Moves after) :
    after.Behind first outlines :=
  moves.keeps (fun _ behind => behind.advance)
    (fun _ _ behind => ⟨⟨behind.ordered.closed, behind.ordered.row, behind.ordered.wide⟩,
      behind.row, behind.settled, behind.past, behind.nested, behind.wide, behind.moved⟩) behind

/-- The last of what was read may be left out. -/
theorem of_append (behind : cursor.Behind first (outlines ++ others)) :
    cursor.Behind first outlines where
  ordered := behind.ordered
  row := by
    have row := behind.row
    rw [List.map_append] at row
    exact row.of_append
  settled := behind.settled
  past := behind.past
  nested outline among := behind.nested outline (List.mem_append_left _ among)
  wide outline among := behind.wide outline (List.mem_append_left _ among)
  moved := behind.moved

/-- What is read from the cursor on stands behind what had been read there. -/
theorem append (before : cursor.Behind first outlines)
    (behind : after.Behind cursor.current.span.start others) :
    after.Behind first (outlines ++ others) where
  ordered := behind.ordered
  row := by
    rw [List.map_append]
    exact (before.row.le_of before.settled).append behind.row
  settled := behind.settled
  past := Position.lt_of_le_of_lt (Position.le_trans before.row.le before.settled) behind.past
  nested outline among := by
    rcases List.mem_append.mp among with one | other
    · exact before.nested outline one
    · exact behind.nested outline other
  wide outline among := by
    rcases List.mem_append.mp among with one | other
    · exact before.wide outline one
    · exact behind.wide outline other
  moved := behind.moved

/-- From the start of what was read on, the text behind spans up to its end. -/
theorem spanFrom {start : Span} (behind : cursor.Behind start.start outlines) :
    (cursor.spanFrom start).start = start.start ∧
      (cursor.spanFrom start).stop = cursor.last.stop := by
  have ordered := Position.not_lt.mpr behind.row.le
  unfold Cursor.spanFrom
  rw [if_neg ordered]
  exact ⟨rfl, rfl⟩

/-- A node over the text from the start of what was read encloses its parts. -/
theorem close {start : Span} {node : Outline} (behind : cursor.Behind start.start outlines)
    (spans : node.span = cursor.spanFrom start) (parts : node.inText = outlines) :
    cursor.Behind start.start [node] := by
  obtain ⟨starts, stops⟩ := behind.spanFrom
  have encloses : node.Encloses := by
    rw [Outline.Encloses, parts, spans, starts, stops]
    exact behind.row
  have past : node.span.start < node.span.stop := by
    rw [spans, starts, stops]
    exact behind.past
  have whole : node.Nested ∧ node.Wide := by
    cases node with
    | node label children =>
        have among {child : Outline} (below : child ∈ children) : child ∈ outlines :=
          parts ▸ Outline.mem_inText.mpr below
        exact ⟨Outline.nested_node.mpr ⟨encloses, fun child below => behind.nested child
          (among below)⟩, Outline.wide_node.mpr ⟨past, fun child below => behind.wide child
          (among below)⟩⟩
  refine ⟨behind.ordered, ?_, behind.settled, behind.past, by simpa using whole.1,
    by simpa using whole.2, behind.moved⟩
  rw [List.map_singleton, spans]
  refine .singleton ?_ ?_ ?_
  · rw [starts]; exact Position.le_refl _
  · rw [starts, stops]; exact behind.row.le
  · rw [stops]; exact Position.le_refl _

end Behind

namespace At

/-- The kind of the token is the kind at the cursor. -/
theorem kind (stands : cursor.At token) : cursor.kind = token.kind := by
  rw [← stands.ordered.closed.kind_current, stands.current]

/-- Text that is a phrase of its own is read by passing it. -/
theorem leaf (stands : cursor.At token) (text : token.kind.isLayout = false) {node : Outline}
    (spans : node.span = token.span) (single : node.children = []) :
    cursor.advance.Behind token.span.start [node] := by
  obtain ⟨ordered, rfl⟩ := stands
  have more := ordered.closed.ahead_ne_nil fun ends => by simp [ends, TokenKind.isLayout] at text
  have last : cursor.advance.last = cursor.current.span := by
    rw [last_advance more, if_neg (by simp [text])]
  have past : node.span.start < node.span.stop := by
    rw [spans]
    exact ordered.wide_current text
  have whole : node.Nested ∧ node.Wide := by
    obtain ⟨label, children⟩ := node
    obtain rfl : children = [] := single
    refine ⟨Outline.nested_node.mpr ⟨?_, by simp⟩, Outline.wide_node.mpr ⟨past, by simp⟩⟩
    have empty : (Outline.node label []).inText = [] := by
      rw [List.eq_nil_iff_forall_not_mem]
      intro child among
      exact List.not_mem_nil (Outline.mem_inText.mp among)
    rw [Outline.Encloses, empty, spans]
    exact .nil ordered.forward
  refine ⟨ordered.advance, ?_, ?_, last ▸ ordered.wide_current text, by simpa using whole.1,
    by simpa using whole.2, ?_⟩
  · rw [List.map_singleton, spans, last]
    exact .singleton (Position.le_refl _) ordered.forward (Position.le_refl _)
  · rw [last]
    exact ordered.stop_le_advance more
  · have counted := (Onward.advance cursor).position
    have shorter := length_advance_lt more
    omega

/-- Behind text at the cursor nothing has been read yet. -/
theorem behind (stands : cursor.At token) (text : token.kind.isLayout = false) :
    cursor.advance.Behind token.span.start [] := by
  let leaf : Outline := .node { kind := .identifier, span := token.span, error := none } []
  have behind : cursor.advance.Behind token.span.start ([] ++ [leaf]) := stands.leaf text rfl rfl
  exact behind.of_append

end At
end Cursor

namespace Parse

variable {α β σ : Type}

/-! ## From cursor to cursor -/

/-- The reader carries a cursor with one property to one with another, if it does not fail. -/
def Carries (before : Cursor → Prop) (reader : Parse α) (after : α → Cursor → Prop) : Prop :=
  ∀ (cursor : Cursor) (value : α) (final : Cursor), before cursor →
    reader cursor = .ok value final → after value final

/-- The same of a reader that deals with its failures itself. -/
def Recovering.Carries (before : Cursor → Prop) (reader : Recovering α)
    (after : α → Cursor → Prop) : Prop :=
  ∀ cursor : Cursor, before cursor → after (reader cursor).1 (reader cursor).2

theorem moves_of_ok {reader : Parse α} [Forward reader] {cursor after : Cursor} {value : α}
    (ok : reader cursor = .ok value after) : cursor.Moves after := by
  have moved := moves_stop reader cursor
  simpa only [stop, ok] using moved

theorem moves_of_error {reader : Parse α} [Forward reader] {cursor after : Cursor}
    {problem : Located SyntaxError} (failed : reader cursor = .error problem after) :
    cursor.Moves after := by
  have moved := moves_stop reader cursor
  simpa only [stop, failed] using moved

namespace Carries

variable {reader : Parse α} {next : α → Parse β} {before middle : Cursor → Prop}
  {after : β → Cursor → Prop} {between : α → Cursor → Prop}

theorem bind (first : Carries before reader between)
    (second : ∀ value, Carries (between value) (next value) after) :
    Carries before (reader >>= next) after := by
  intro cursor value final holds ok
  obtain ⟨value', middle, read, ok⟩ := exists_of_bind ok
  exact second value' middle value final (first cursor value' middle holds read) ok

theorem pure {value : β} (holds : ∀ cursor, before cursor → after value cursor) :
    Carries before (Pure.pure value) after := by
  rintro cursor _ _ stands ⟨⟩
  exact holds cursor stands

theorem of_imp (carries : Carries middle reader between)
    (holds : ∀ cursor, before cursor → middle cursor) : Carries before reader between :=
  fun cursor value final stands => carries cursor value final (holds cursor stands)

theorem mono {between' : α → Cursor → Prop} (carries : Carries before reader between)
    (weaker : ∀ value cursor, between value cursor → between' value cursor) :
    Carries before reader between' :=
  fun cursor value final stands ok => weaker value final (carries cursor value final stands ok)

/-- A fact about what was read first can be used afterwards. -/
theorem of_and {fact : Prop} (carries : fact → Carries before reader between) :
    Carries (fun cursor => fact ∧ before cursor) reader between :=
  fun cursor value final stands => carries stands.1 cursor value final stands.2

theorem look {view : Cursor → α} (carries : ∀ value, Carries before (next value) after) :
    Carries before (Parse.look view >>= next) after :=
  fun cursor value final stands ok => carries (view cursor) cursor value final stands ok

theorem fail {error : SyntaxError} : Carries before (Parse.fail error : Parse α) between := by
  rintro cursor _ _ _ ⟨⟩

theorem throw {problem : Located SyntaxError} :
    Carries before (MonadExcept.throw problem : Parse α) between := by
  rintro cursor _ _ _ ⟨⟩

theorem ite {condition : Prop} [Decidable condition] {yes no : Parse α}
    (ifTrue : condition → Carries before yes between)
    (ifFalse : ¬condition → Carries before no between) :
    Carries before (if condition then yes else no) between := by
  split
  · next holds => exact ifTrue holds
  · next fails => exact ifFalse fails

/-- What no moves undo is true behind every reader. -/
theorem keeps [Forward reader] (stays : ∀ {cursor final : Cursor}, before cursor →
    cursor.Moves final → before final) (later : ∀ value, Carries before (next value) after) :
    Carries before (reader >>= next) after := by
  intro cursor value final holds ok
  obtain ⟨value', middle, read, ok⟩ := exists_of_bind ok
  exact later value' middle value final (stays holds (moves_of_ok read)) ok

theorem ofRecovering {reader : Recovering α} (carries : Recovering.Carries before reader between) :
    Carries before (Parse.ofRecovering reader) between := by
  rintro cursor _ _ stands ⟨⟩
  exact carries cursor stands

end Carries

/-! ## What readers leave behind -/

/-- What the reader returns is all it leaves behind from the token at the cursor on. -/
def Leaves (reader : Parse α) (outlines : α → List Outline) : Prop :=
  ∀ token, Carries (Cursor.At token) reader
    fun value => Cursor.Behind token.span.start (outlines value)

/-- The same of a reader that is used only where text stands. -/
def LeavesFromText (reader : Parse α) (outlines : α → List Outline) : Prop :=
  ∀ token : Token, token.kind.isLayout = false →
    Carries (Cursor.At token) reader fun value => Cursor.Behind token.span.start (outlines value)

section Rules

variable {reader : Parse α} {next : α → Parse β} {first : Position} {start : Span}
  {outlines : List Outline} {read : α → List Outline} {after : β → Cursor → Prop} {token : Token}

/-- What is left behind from the token at the cursor on is left behind other things, too. -/
theorem Carries.framed {parts : α → Cursor → List Outline}
    (carries : ∀ token, Carries (Cursor.At token) reader
      fun value cursor => cursor.Behind token.span.start (parts value cursor)) :
    Carries (Cursor.Behind first outlines) reader
      fun value cursor => cursor.Behind first (outlines ++ parts value cursor) :=
  fun cursor value final before ok =>
    before.append (carries cursor.current cursor value final ⟨before.ordered, rfl⟩ ok)

/-- Behind what was read already, a reader leaves behind what it returns. -/
theorem Leaves.behind (leaves : Leaves reader read) :
    Carries (Cursor.Behind first outlines) reader
      fun value => Cursor.Behind first (outlines ++ read value) :=
  .framed leaves

namespace Carries

/-- A part of a phrase is read. -/
theorem part (leaves : Leaves reader read)
    (later : ∀ value, Carries (Cursor.Behind first (outlines ++ read value)) (next value) after) :
    Carries (Cursor.Behind first outlines) (reader >>= next) after :=
  leaves.behind.bind later

/-- What a reader returns need not be kept. -/
theorem skip [Forward reader]
    (later : ∀ value, Carries (Cursor.Behind first outlines) (next value) after) :
    Carries (Cursor.Behind first outlines) (reader >>= next) after :=
  keeps (fun behind moves => behind.moves moves) later

/-- A phrase is closed by a node over all of it. -/
theorem close {next : Span → Parse β} (node : Span → Outline)
    (spans : ∀ span, (node span).span = span) (parts : ∀ span, (node span).inText = outlines)
    (later : ∀ span, Carries (Cursor.Behind start.start [node span]) (next span) after) :
    Carries (Cursor.Behind start.start outlines)
      (Parse.look (Cursor.spanFrom start) >>= next) after :=
  fun cursor value final behind ok =>
    later (cursor.spanFrom start) cursor value final (behind.close (spans _) (parts _)) ok

/-- A phrase that is closed by what is returned. -/
theorem closed {value : Span → β} {outline : β → Outline}
    (spans : ∀ span, (outline (value span)).span = span)
    (parts : ∀ span, (outline (value span)).inText = outlines) :
    Carries (Cursor.Behind start.start outlines)
      (Parse.look (Cursor.spanFrom start) >>= fun span => Pure.pure (value span))
      fun result => Cursor.Behind start.start [outline result] :=
  close (fun span => outline (value span)) spans parts fun _ => pure fun _ behind => behind

/-- What is seen of the token at the cursor is known. -/
theorem seen {view : Cursor → α} {value : α}
    (same : ∀ cursor, cursor.At token → view cursor = value)
    (later : Carries (Cursor.At token) (next value) after) :
    Carries (Cursor.At token) (Parse.look view >>= next) after := by
  intro cursor result final stands ok
  refine later cursor result final stands ?_
  rw [← same cursor stands]
  exact ok

theorem current {next : Token → Parse β} (later : Carries (Cursor.At token) (next token) after) :
    Carries (Cursor.At token) (Parse.look Cursor.current >>= next) after :=
  seen (fun _ stands => stands.current) later

theorem span {next : Span → Parse β} (later : Carries (Cursor.At token) (next token.span) after) :
    Carries (Cursor.At token) (Parse.look (·.current.span) >>= next) after :=
  seen (fun _ stands => by rw [stands.current]) later

theorem kind {next : TokenKind → Parse β}
    (later : Carries (Cursor.At token) (next token.kind) after) :
    Carries (Cursor.At token) (Parse.look Cursor.kind >>= next) after :=
  seen (fun _ stands => stands.kind) later

/-- Text at the cursor is read as a phrase of its own. -/
theorem leaf {next : Unit → Parse β} (text : token.kind.isLayout = false) {node : Outline}
    (spans : node.span = token.span) (single : node.children = [])
    (later : Carries (Cursor.Behind token.span.start [node]) (next ()) after) :
    Carries (Cursor.At token) (modify Cursor.advance >>= next) after :=
  fun cursor value final stands ok =>
    later cursor.advance value final (stands.leaf text spans single) ok

/-- Text at the cursor begins a phrase. -/
theorem take {next : Unit → Parse β} (text : token.kind.isLayout = false)
    (later : Carries (Cursor.Behind token.span.start []) (next ()) after) :
    Carries (Cursor.At token) (modify Cursor.advance >>= next) after :=
  fun cursor value final stands ok => later cursor.advance value final (stands.behind text) ok

theorem advance {next : Token → Parse β} (text : token.kind.isLayout = false)
    (later : Carries (Cursor.Behind token.span.start []) (next token) after) :
    Carries (Cursor.At token) (Parse.advance >>= next) after := by
  intro cursor value final stands ok
  refine later cursor.advance value final (stands.behind text) ?_
  rw [← stands.current]
  exact ok

/-- Either a phrase begins with a token of a kind, or it is left out. -/
theorem check {kind : TokenKind} {next : Bool → Parse β} {parts : β → Cursor → List Outline}
    (yes : ∀ token : Token, token.kind = kind → Carries (Cursor.At token) (next true)
      fun value cursor => cursor.Behind token.span.start (parts value cursor))
    (no : Carries (Cursor.Behind first outlines) (next false)
      fun value cursor => cursor.Behind first (outlines ++ parts value cursor)) :
    Carries (Cursor.Behind first outlines) (Parse.check kind >>= next)
      fun value cursor => cursor.Behind first (outlines ++ parts value cursor) := by
  intro cursor value final before ok
  change next (cursor.kind == kind) cursor = _ at ok
  by_cases stands : cursor.kind = kind
  · rw [beq_iff_eq.mpr stands] at ok
    have current : cursor.current.kind = kind := before.ordered.closed.kind_current.trans stands
    exact before.append (yes cursor.current current cursor value final ⟨before.ordered, rfl⟩ ok)
  · rw [beq_eq_false_iff_ne.mpr stands] at ok
    exact no cursor value final before ok

end Carries

theorem Leaves.mono {read' : α → List Outline} (leaves : Leaves reader read)
    (same : ∀ value, read value = read' value) : Leaves reader read' :=
  funext same ▸ leaves

end Rules

/-! ## Tokens and lists -/

/-- The token that is expected is the one at the cursor. -/
theorem expect_carries {kind : TokenKind} (text : kind.isLayout = false) (wanted : Expectation)
    (node : Token → Outline) (spans : ∀ token, (node token).span = token.span)
    (single : ∀ token, (node token).children = []) (token : Token) :
    Carries (Cursor.At token) (expect kind wanted) fun found cursor =>
      found = token ∧ cursor.Behind token.span.start [node token] := by
  intro cursor value final stands ok
  by_cases kinds : cursor.kind = kind
  · rw [expect_of_kind kinds] at ok
    cases ok
    refine ⟨stands.current, stands.leaf ?_ (spans _) (single _)⟩
    rw [← stands.kind, kinds]
    exact text
  · rw [expect_of_ne kinds] at ok
    cases ok

theorem identifier_carries (wanted : Expectation) (token : Token) :
    Carries (Cursor.At token) (identifier wanted) fun name cursor =>
      name.info.span = token.span ∧ cursor.Behind token.span.start [name.outline] :=
  let name (token : Token) : Identifier := ⟨.ofSpan token.span, token.value.display⟩
  (expect_carries rfl wanted (fun token => (name token).outline) (fun _ => rfl) (fun _ => rfl)
    token).bind fun found => Carries.of_and fun same => .pure fun cursor behind => by
      subst same
      exact ⟨rfl, behind⟩

theorem identifier_leaves (wanted : Expectation) :
    Leaves (identifier wanted) fun name => [name.outline] :=
  fun token => (identifier_carries wanted token).mono fun _ _ behind => behind.2

section Lists

variable {item : Parse α} {outline : α → Outline} {first : Position}
  {outlines : List Outline} (each : Leaves item fun value => [outline value])
include each

theorem furtherItems_carries (separator : TokenKind) (bound : Nat) :
    Carries (Cursor.Behind first outlines) (furtherItems separator item bound)
      fun items => Cursor.Behind first (outlines ++ items.map outline) := by
  induction bound generalizing outlines with
  | zero => exact .pure (by simp)
  | succ bound ih =>
      refine .skip fun accepted => .ite (fun _ => ?_) fun _ => .pure (by simp)
      exact .part each fun value => ih.bind fun rest => .pure (by simp)

theorem itemsAfter_carries (separator : TokenKind) :
    Carries (Cursor.Behind first outlines) (itemsAfter separator item)
      fun items => Cursor.Behind first (outlines ++ items.map outline) :=
  .look fun _ => .ite (fun _ => .look fun bound => furtherItems_carries each separator bound)
    fun _ => .pure (by simp)

theorem commaList_carries (close : Symbol) :
    Carries (Cursor.Behind first outlines) (commaList close item)
      fun items => Cursor.Behind first (outlines ++ items.map outline) :=
  .look fun _ => .ite (fun _ => .pure (by simp)) fun _ => .part each fun value =>
    (itemsAfter_carries each _).bind fun rest => .pure (by simp)

end Lists

/-! ## Recovery -/

section Recovery

variable (holds : σ → Cursor → Prop)

theorem recovering_carries {fallback : σ} {reader : Parse σ} [Forward reader]
    (stays : ∀ {cursor after}, holds fallback cursor → cursor.Moves after → holds fallback after)
    (carries : Carries (holds fallback) reader holds) :
    Recovering.Carries (holds fallback) (recovering fallback reader) holds := by
  intro cursor stands
  simp only [recovering, EStateM.run]
  split
  · next value after ok => exact carries cursor value after stands ok
  · next problem after failed =>
      exact stays (stays stands (moves_of_error failed)) (.recover _ problem after)

/-- What is behind before a statement in error is behind after it. -/
theorem recovering_behind {fallback : σ} {reader : Parse σ} [Forward reader] {first : Position}
    (parts : σ → List Outline)
    (carries : Carries (Cursor.Behind first (parts fallback)) reader
      fun state => Cursor.Behind first (parts state)) :
    Recovering.Carries (Cursor.Behind first (parts fallback)) (recovering fallback reader)
      fun state => Cursor.Behind first (parts state) :=
  recovering_carries (fun state => Cursor.Behind first (parts state))
    (fun behind moves => behind.moves moves) carries

variable {holds}

theorem repeatUntil_carries {halt : Cursor → Bool} {step : σ → Recovering σ}
    (each : ∀ state, Recovering.Carries (holds state) (step state) holds) (bound : Nat)
    (state : σ) : Recovering.Carries (holds state) (repeatUntil halt step bound state) holds := by
  induction bound generalizing state with
  | zero => exact fun _ stands => stands
  | succ bound ih =>
      intro cursor stands
      simp only [repeatUntil, Bind.bind, StateT.bind, get, getThe, MonadStateOf.get, StateT.get,
        Pure.pure]
      split
      · exact stands
      · exact ih _ _ (each state cursor stands)

theorem body_carries {step : σ → Recovering σ}
    (each : ∀ state, Recovering.Carries (holds state) (step state) holds) (state : σ) :
    Recovering.Carries (holds state) (body step state) holds :=
  fun cursor => repeatUntil_carries each cursor.ahead.length state cursor

end Recovery
end Parse
end ChocoLang
