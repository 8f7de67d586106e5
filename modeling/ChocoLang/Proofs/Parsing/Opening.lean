import ChocoLang.Proofs.Parsing.Skipping

/-!
# How phrases begin

A reader of a phrase either fails at the token at the cursor or passes this token first, which is
text.  So it takes a token if it returns something, and in either case it does not matter to the
reader what stands behind the cursor.
-/

namespace ChocoLang

namespace Cursor

variable {before after : Cursor}

theorem Onward.position_le (onward : before.Onward after) : before.position ≤ after.position := by
  have moved := onward.position
  have shorter := onward.ahead.length_le
  omega

/-- The file ends with the token that marks its end. -/
def Closed (cursor : Cursor) : Prop := cursor.ending.kind = .endOfFile

theorem Onward.closed (onward : before.Onward after) (closed : before.Closed) : after.Closed := by
  rw [Closed, onward.ending]
  exact closed

/-- Past the last token only the end of the file is at the cursor. -/
theorem Closed.kind_current {cursor : Cursor} (closed : cursor.Closed) :
    cursor.current.kind = cursor.kind := by
  unfold current kind
  cases cursor.ahead with
  | nil => exact closed
  | cons token rest => rfl

/-- Unless the file ends, a token of the kind at the cursor is ahead. -/
theorem ahead_of_kind {cursor : Cursor} {kind : TokenKind} (stands : cursor.kind = kind)
    (more : kind ≠ .endOfFile) :
    ∃ token rest, cursor.ahead = token :: rest ∧ token.kind = kind := by
  unfold Cursor.kind at stands
  cases shape : cursor.ahead with
  | nil =>
      rw [shape] at stands
      exact absurd stands.symm more
  | cons token rest =>
      rw [shape] at stands
      exact ⟨token, rest, rfl, stands⟩

theorem ahead_ne_nil_of_kind {cursor : Cursor} {kind : TokenKind} (stands : cursor.kind = kind)
    (more : kind ≠ .endOfFile) : cursor.ahead ≠ [] := by
  obtain ⟨token, rest, ahead, -⟩ := ahead_of_kind stands more
  simp [ahead]

theorem Closed.ahead_ne_nil {cursor : Cursor} (closed : cursor.Closed)
    (more : cursor.current.kind ≠ .endOfFile) : cursor.ahead ≠ [] :=
  ahead_ne_nil_of_kind closed.kind_current.symm more

theorem length_advance_lt {cursor : Cursor} (more : cursor.ahead ≠ []) :
    cursor.advance.ahead.length < cursor.ahead.length := by
  rw [ahead_advance, List.length_tail]
  have := List.length_pos_iff.mpr more
  omega

theorem ahead_ne_nil_of_text {cursor : Cursor} (text : cursor.kind.isLayout = false) :
    cursor.ahead ≠ [] := by
  intro none
  unfold Cursor.kind at text
  rw [none] at text
  cases text

/-- Behind a text it is forgotten what stands before it. -/
theorem advance_of_text {cursor : Cursor} (text : cursor.kind.isLayout = false) (last : Span) :
    advance { cursor with last } = cursor.advance := by
  unfold Cursor.kind at text
  unfold advance
  cases shape : cursor.ahead with
  | nil => simp [shape, TokenKind.isLayout] at text
  | cons token rest =>
      rw [shape] at text
      change token.kind.isLayout = false at text
      simp [text]

end Cursor

namespace Parse

variable {α β σ : Type}

/-! ## What is run of a reader -/

theorem bind_of_ok {reader : Parse α} {next : α → Parse β} {cursor after : Cursor} {value : α}
    (first : reader cursor = .ok value after) : (reader >>= next) cursor = next value after := by
  simp only [bind, EStateM.bind, first]

theorem bind_of_error {reader : Parse α} {next : α → Parse β} {cursor after : Cursor}
    {problem : Located SyntaxError} (first : reader cursor = .error problem after) :
    (reader >>= next) cursor = .error problem after := by
  simp only [bind, EStateM.bind, first]

/-- What is returned behind a reader is returned from where the reader stops. -/
theorem exists_of_bind {reader : Parse α} {next : α → Parse β} {cursor after : Cursor} {value : β}
    (ok : (reader >>= next) cursor = .ok value after) :
    ∃ read middle, reader cursor = .ok read middle ∧ next read middle = .ok value after := by
  cases first : reader cursor with
  | ok read middle => exact ⟨read, middle, rfl, by rwa [bind_of_ok first] at ok⟩
  | error problem middle => cases ok.symm.trans (bind_of_error first)

/-- What comes behind a reader matters only where the reader stops. -/
theorem bind_congr_behind {reader : Parse α} {next other : α → Parse β} {cursor : Cursor}
    (same : ∀ value after, reader cursor = .ok value after → next value after = other value after) :
    (reader >>= next) cursor = (reader >>= other) cursor := by
  cases first : reader cursor with
  | ok value after => rw [bind_of_ok first, bind_of_ok first, same value after first]
  | error problem after => rw [bind_of_error first, bind_of_error first]

theorem onward_of_ok {reader : Parse α} [Forward reader] {cursor after : Cursor} {value : α}
    (ok : reader cursor = .ok value after) : cursor.Onward after := by
  have moved := onward_stop reader cursor
  simpa only [stop, ok] using moved

theorem onward_of_error {reader : Parse α} [Forward reader] {cursor after : Cursor}
    {problem : Located SyntaxError} (failed : reader cursor = .error problem after) :
    cursor.Onward after := by
  have moved := onward_stop reader cursor
  simpa only [stop, failed] using moved

/-! ## Beginnings -/

/-- Started at the cursor, whatever stands behind it, the reader fails there or passes the text. -/
inductive Opens (reader : Parse α) (cursor : Cursor) : Prop where
  /-- The reader fails at once. -/
  | fails (problem : Located SyntaxError)
      (same : ∀ last, reader { cursor with last } = .error problem { cursor with last })
  /-- The text at the cursor is passed at once. -/
  | passes (next : Parse α) [forward : Forward next] (text : cursor.kind.isLayout = false)
      (same : ∀ last, reader { cursor with last } = next cursor.advance)

namespace Opens

variable {reader : Parse α} {next : α → Parse β} {cursor : Cursor}

theorem bind [∀ value, Forward (next value)] (opens : Opens reader cursor) :
    Opens (reader >>= next) cursor := by
  cases opens with
  | fails problem same => exact .fails problem fun last => bind_of_error (same last)
  | passes rest text same =>
      refine .passes (rest >>= next) text fun last => ?_
      simp only [Bind.bind, EStateM.bind, same last]

theorem look {view : Cursor → α} (blind : ∀ last, view { cursor with last } = view cursor)
    (opens : Opens (next (view cursor)) cursor) : Opens (Parse.look view >>= next) cursor := by
  have shape (last : Span) : (Parse.look view >>= next) { cursor with last } =
      next (view cursor) { cursor with last } := by
    rw [look_bind, blind]
  cases opens with
  | fails problem same => exact .fails problem fun last => (shape last).trans (same last)
  | passes rest text same => exact .passes rest text fun last => (shape last).trans (same last)

theorem fail {error : SyntaxError} : Opens (Parse.fail error : Parse α) cursor :=
  .fails ⟨error, cursor.current.span⟩ fun _ => rfl

theorem ite {condition : Prop} [Decidable condition] {yes no : Parse α}
    (ifTrue : condition → Opens yes cursor) (ifFalse : ¬ condition → Opens no cursor) :
    Opens (if condition then yes else no) cursor := by
  split
  · next holds => exact ifTrue holds
  · next fails => exact ifFalse fails

theorem advance (text : cursor.kind.isLayout = false) : Opens Parse.advance cursor := by
  refine .passes (pure cursor.current) text fun last => ?_
  rw [← Cursor.advance_of_text text last]
  rfl

theorem skip (text : cursor.kind.isLayout = false) :
    Opens (modify Cursor.advance : Parse Unit) cursor := by
  refine .passes (pure ()) text fun last => ?_
  rw [← Cursor.advance_of_text text last]
  rfl

/-- The reader takes a token if it returns something. -/
theorem shortens (opens : Opens reader cursor) {value : α} {after : Cursor}
    (ok : reader cursor = .ok value after) : after.ahead.length < cursor.ahead.length := by
  cases opens with
  | fails problem same =>
      rw [show reader cursor = _ from same cursor.last] at ok
      cases ok
  | passes rest text same =>
      rw [show reader cursor = _ from same cursor.last] at ok
      have fewer := Cursor.length_advance_lt (Cursor.ahead_ne_nil_of_text text)
      exact Nat.lt_of_le_of_lt (onward_of_ok ok).ahead.length_le fewer

end Opens

/-- A token is taken behind a reader, wherever it stops. -/
theorem shortens_behind {reader : Parse α} [Forward reader] {next : α → Parse β}
    {cursor after : Cursor} {result : β}
    (opens : ∀ value later, reader cursor = .ok value later → Opens (next value) later)
    (ok : (reader >>= next) cursor = .ok result after) :
    after.ahead.length < cursor.ahead.length := by
  obtain ⟨value, later, read, ok⟩ := exists_of_bind ok
  exact Nat.lt_of_lt_of_le ((opens value later read).shortens ok)
    (onward_of_ok read).ahead.length_le

/-! ## Tokens -/

section Tokens

variable {cursor : Cursor}

theorem accept_of_kind {kind : TokenKind} (stands : cursor.kind = kind) :
    accept kind cursor = .ok true cursor.advance := by
  change (if cursor.kind == kind then _ else _ : Parse Bool) cursor = _
  rw [if_pos (beq_iff_eq.mpr stands)]
  rfl

theorem accept_of_ne {kind : TokenKind} (other : cursor.kind ≠ kind) :
    accept kind cursor = .ok false cursor := by
  change (if cursor.kind == kind then _ else _ : Parse Bool) cursor = _
  rw [if_neg (by simpa using other)]
  rfl

theorem expect_of_kind {kind : TokenKind} (stands : cursor.kind = kind) (wanted : Expectation) :
    expect kind wanted cursor = .ok cursor.current cursor.advance := by
  change (if cursor.kind == kind then _ else _ : Parse Token) cursor = _
  rw [if_pos (beq_iff_eq.mpr stands)]
  rfl

theorem expect_of_ne {kind : TokenKind} (other : cursor.kind ≠ kind) (wanted : Expectation) :
    expect kind wanted cursor =
      .error ⟨.missing wanted cursor.current, cursor.current.span⟩ cursor := by
  change (if cursor.kind == kind then _ else _ : Parse Token) cursor = _
  rw [if_neg (by simpa using other)]
  rfl

/-- If no token is accepted, then the rest begins at the cursor. -/
theorem Opens.accept {kind : TokenKind} {next : Bool → Parse β} [∀ value, Forward (next value)]
    (text : kind.isLayout = false) (refused : Opens (next false) cursor) :
    Opens (Parse.accept kind >>= next) cursor := by
  by_cases stands : cursor.kind = kind
  · have plain : cursor.kind.isLayout = false := stands ▸ text
    refine .passes (next true) plain fun last => ?_
    rw [← Cursor.advance_of_text plain last]
    exact bind_of_ok (accept_of_kind stands)
  · have shape (last : Span) : (Parse.accept kind >>= next) { cursor with last } =
        next false { cursor with last } := bind_of_ok (accept_of_ne stands)
    cases refused with
    | fails problem same => exact .fails problem fun last => (shape last).trans (same last)
    | passes rest text same => exact .passes rest text fun last => (shape last).trans (same last)

theorem expect_opens {kind : TokenKind} (text : kind.isLayout = false) (wanted : Expectation)
    (cursor : Cursor) : Opens (expect kind wanted) cursor := by
  refine .look (fun _ => rfl) (.ite (fun stands => .advance ?_) fun _ => .look (fun _ => rfl) .fail)
  exact beq_iff_eq.mp stands ▸ text

theorem identifier_opens (wanted : Expectation) (cursor : Cursor) :
    Opens (identifier wanted) cursor :=
  Opens.bind (expect_opens rfl wanted cursor)

end Tokens

/-! ## Types and expressions -/

theorem typedVar_opens (room : Nat) (cursor : Cursor) : Opens (typedVar room) cursor :=
  (identifier_opens _ cursor).bind

theorem isLayout_of_atom {token : Token} {atom : Expr} (found : atom? token = some atom) :
    token.kind.isLayout = false := by
  unfold atom? at found
  dsimp only at found
  split at found
  all_goals first | (next kind => rw [kind]; rfl) | cases found

section Expressions

variable {cursor : Cursor} (closed : cursor.Closed)
include closed

/-- The token that is looked at is the one that is passed. -/
theorem skip_opens {kind : TokenKind} (stands : cursor.current.kind = kind)
    (text : kind.isLayout = false) : Opens (modify Cursor.advance : Parse Unit) cursor :=
  .skip (closed.kind_current ▸ stands ▸ text)

theorem primary_opens (expression : Parse Expr) [Forward expression] :
    Opens (primary expression) cursor := by
  refine .look (fun _ => rfl) ?_
  split
  · next atom found => exact (skip_opens closed rfl (isLayout_of_atom found)).bind
  · split
    · next kind => exact (skip_opens closed kind rfl).bind
    · next kind => exact (skip_opens closed kind rfl).bind
    · exact .fail
    · exact .fail

theorem operand_opens (expression : Precedence → Parse Expr) [∀ floor, Forward (expression floor)]
    (floor : Precedence) : Opens (operand expression floor) cursor := by
  refine .look (fun _ => rfl) ?_
  split
  · next kind => exact (skip_opens closed kind rfl).bind
  · next kind => exact .ite (fun _ => .fail) fun _ => (skip_opens closed kind rfl).bind
  · exact primary_opens closed _

theorem expressionAbove_opens (room : Nat) (floor : Precedence) :
    Opens (expressionAbove room floor) cursor := by
  cases room with
  | zero =>
      unfold expressionAbove
      exact .fail
  | succ room =>
      unfold expressionAbove
      exact .look (fun _ => rfl) (operand_opens closed _ _).bind

theorem expression_opens (room : Nat) : Opens (expression room) cursor :=
  expressionAbove_opens closed room .lowest

end Expressions

/-! ## Statements -/

section Statements

variable {expression : Parse Expr} {block : Parse (List Stmt)} [Forward expression] [Forward block]
  {cursor : Cursor} (opens : Opens expression cursor)
include opens

theorem expressionStatement_opens : Opens (expressionStatement expression) cursor := by
  rw [expressionStatement_eq]
  exact .look (fun _ => rfl) opens.bind

theorem simpleStatement_opens : Opens (simpleStatement expression) cursor := by
  refine .look (fun _ => rfl) ?_
  split
  · next kind => exact (Opens.skip (by rw [kind]; rfl)).bind
  · next kind => exact Opens.bind (Opens.bind (.advance (by rw [kind]; rfl)))
  · exact (expressionStatement_opens opens).bind

theorem statement_opens : Opens (statement expression block) cursor := by
  refine .look (fun _ => rfl) ?_
  split
  · exact .fail
  · next kind => exact Opens.bind (Opens.bind (Opens.bind (.advance (by rw [kind]; rfl))))
  · next kind => exact Opens.bind (Opens.bind (Opens.bind (.advance (by rw [kind]; rfl))))
  · next kind => exact Opens.bind (Opens.bind (.advance (by rw [kind]; rfl)))
  · exact .look (fun _ => rfl) (.ite (fun _ => .fail) fun _ => (simpleStatement_opens opens).bind)

end Statements

/-! ## Declarations -/

section Declarations

variable (room : Nat) {cursor : Cursor}

theorem variableDefinition_opens (cursor : Cursor) : Opens (variableDefinition room) cursor :=
  .look (fun _ => rfl) (typedVar_opens room cursor).bind

theorem functionDefinition_opens (stands : cursor.kind = .keyword .kwDef) :
    Opens (functionDefinition room) cursor := by
  cases room with
  | zero => exact .fail
  | succ room =>
      unfold functionDefinition
      exact (Opens.advance (by rw [stands]; rfl)).bind

theorem outerVariable_opens (text : cursor.kind.isLayout = false) : Opens outerVariable cursor :=
  (Opens.advance text).bind

theorem classHeader_opens (text : cursor.kind.isLayout = false) : Opens classHeader cursor :=
  (Opens.advance text).bind

variable {function : Parse Decl} [Forward function]

theorem classDefinition_opens (bound : Nat) (stands : cursor.kind = .keyword .kwClass) :
    Opens (classDefinition room function bound) cursor := by
  cases bound with
  | zero => exact .fail
  | succ bound =>
      rw [classDefinition_succ]
      exact (classHeader_opens (by rw [stands]; rfl)).bind

variable (opens : cursor.kind = .keyword .kwDef → Opens function cursor)
include opens

theorem memberReader_opens (bound : Nat) : Opens (memberReader room function bound) cursor := by
  refine .look (fun _ => rfl) ?_
  split
  · next kind => exact (opens kind).bind
  · next kind => exact (classDefinition_opens room bound kind).bind
  · exact (variableDefinition_opens room cursor).bind

theorem innerDeclaration_opens : Opens (innerDeclaration room function) cursor := by
  refine .look (fun _ => rfl) ?_
  split
  · next kind => exact (opens kind).bind
  · next kind =>
      exact Opens.bind (.look (fun _ => rfl) (classDefinition_opens room _ kind))
  · exact (variableDefinition_opens room cursor).bind

end Declarations

theorem functionDeclaration_opens {inner : Parse (Option Decl)} [Forward inner] {cursor : Cursor}
    (opens : Opens inner cursor) : Opens (functionDeclaration inner) cursor := by
  refine .look (fun _ => rfl) ?_
  split
  · next kind => exact (outerVariable_opens (by rw [kind]; rfl)).bind
  · next kind => exact (outerVariable_opens (by rw [kind]; rfl)).bind
  · exact opens

theorem classMember_opens {declaration : Parse (Option Decl)} [Forward declaration]
    {cursor : Cursor} (opens : Opens declaration cursor) : Opens (classMember declaration) cursor :=
  .accept rfl (.look (fun _ => rfl) (.ite (fun _ => opens) fun _ => .fail))

theorem topDeclaration_opens (cursor : Cursor) : Opens topDeclaration cursor := by
  refine .look (fun _ => rfl) ?_
  split
  · next kind => exact functionDefinition_opens _ kind
  · next kind => exact .look (fun _ => rfl) (classDefinition_opens _ _ kind)
  · exact variableDefinition_opens _ cursor

end Parse
end ChocoLang
