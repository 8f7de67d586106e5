import ChocoLang.Proofs.Parsing.Reads
import ChocoLang.Proofs.Syntax.Relabelling

/-!
# Spelled expressions are read back

The tokens of an expression are read from left to right: first its leftmost operand, then, one after
the other, the operators that take what has been read so far to their left.  `Expr.Continues` says
that reading on after the operand arrives at the whole expression; it is proved along the tree, and
that the expression is read follows where no further operator binds tightly enough.
-/

namespace ChocoLang

/-- A token of the kind takes nothing that is read above the floor as its left operand. -/
def TokenKind.Closes (floor : Precedence) (kind : TokenKind) : Prop :=
  kind ≠ .symbol .leftParen ∧
    (Continuation.ofKind? kind).all (fun next => decide (next.precedence ≤ floor)) = true

instance (floor : Precedence) (kind : TokenKind) : Decidable (kind.Closes floor) :=
  inferInstanceAs (Decidable (_ ∧ _))

/-- The tightest operator that can stand behind an expression without taking a part of it. -/
def Expr.ceiling : Expr → Precedence
  | conditional _ _ _ _ => .lowest
  | binary _ _ operator _ => if operator.isComparison then .negation else operator.precedence
  | unary _ .not _ => .negation
  | unary _ .neg _ => .multiplicative
  | _ => .access

theorem TokenKind.Closes.mono {kind : TokenKind} {low high : Precedence} (closes : kind.Closes low)
    (le : low ≤ high) : kind.Closes high := by
  refine ⟨closes.1, ?_⟩
  have bounded := closes.2
  cases next : Continuation.ofKind? kind with
  | none => rfl
  | some next =>
      simp only [next, Option.all_some, decide_eq_true_eq] at bounded ⊢
      exact Nat.le_trans bounded le

/-- Only a choice, a comparison and a sign bind more tightly than what may stand behind them. -/
theorem Expr.ceiling_cases (expr : Expr) :
    expr.ceiling = expr.level ∨ expr.ceiling + 1 = expr.level ∧
      (expr.level = .conditional ∨ expr.level = .comparison ∨ expr.level = .sign) := by
  cases expr with
  | binary info left operator right => cases operator <;> simp [level, ceiling,
      BinaryOperator.precedence, BinaryOperator.isComparison, Precedence.comparison,
      Precedence.negation]
  | unary info operator operand => cases operator <;> simp [level, ceiling, Precedence.sign,
      Precedence.multiplicative]
  | _ => simp [level, ceiling, Precedence.lowest, Precedence.conditional]

theorem Expr.le_ceiling {expr : Expr} {floor : Precedence} (above : floor < expr.level) :
    floor ≤ expr.ceiling := by
  obtain same | ⟨less, -⟩ := expr.ceiling_cases
  · exact same ▸ Nat.le_of_lt above
  · rw [← less] at above
    exact Nat.le_of_lt_succ above

theorem Expr.access_le_ceiling {expr : Expr} (tight : .access ≤ expr.level) :
    .access ≤ expr.ceiling := by
  obtain same | ⟨-, level | level | level⟩ := expr.ceiling_cases
  · exact same ▸ tight
  all_goals exact absurd (level ▸ tight) (by decide)

/-- An operator stands behind each left operand that binds tightly enough for it. -/
theorem Expr.precedence_le_ceiling {left : Expr} {operator : BinaryOperator}
    (tight : operator.leftLevel ≤ left.level) : operator.precedence ≤ left.ceiling := by
  obtain same | ⟨less, levels⟩ := left.ceiling_cases
  · rw [same]
    exact Nat.le_trans (by cases operator <;> decide) tight
  · rw [← less] at tight
    rcases levels with level | level | level <;> rw [level] at less <;>
    · cases operator <;> simp_all [BinaryOperator.leftLevel, BinaryOperator.precedence,
        BinaryOperator.isComparison, Precedence.conditional, Precedence.comparison,
        Precedence.sign, Precedence.additive, Precedence.multiplicative, Precedence.conjunction,
        Precedence.disjunction]

theorem Expr.level_pos (expr : Expr) : Precedence.lowest < expr.level := by
  cases expr with
  | binary info left operator right => cases operator <;> exact Nat.succ_pos _
  | unary info operator operand => cases operator <;> exact Nat.succ_pos _
  | _ => exact Nat.succ_pos _

/-- The kinds of token with which an expression can begin. -/
def TokenKind.beginsExpr : TokenKind → Bool
  | integer | string | nameString | identifier => true
  | keyword .kwTrue | keyword .kwFalse | keyword .kwNone | keyword .kwNot => true
  | symbol .minus | symbol .leftParen | symbol .leftBracket => true
  | _ => false

theorem enclosed_begins {required level : Precedence} {tokens : List TokenContent}
    (begins : ∃ content contents, tokens = content :: contents ∧ content.kind.beginsExpr = true)
    (behind : List TokenContent) : ∃ content contents,
      enclosed required level tokens ++ behind = content :: contents ∧
        content.kind.beginsExpr = true := by
  obtain ⟨content, contents, rfl, sort⟩ := begins
  unfold enclosed
  split
  · exact ⟨_, _, rfl, rfl⟩
  · exact ⟨content, _, rfl, sort⟩

/-- Every expression begins with a token of one of those kinds. -/
theorem Expr.begins : (expr : Expr) →
    ∃ content contents, expr.spelling = content :: contents ∧ content.kind.beginsExpr = true
  | .name _ => ⟨_, _, by rw [spelling], rfl⟩
  | .integer _ _ => ⟨_, _, by rw [spelling], rfl⟩
  | .boolean _ value => ⟨_, _, by rw [spelling], by cases value <;> rfl⟩
  | .string _ text => ⟨_, _, by rw [spelling], by
      unfold TokenContent.string
      dsimp only
      split <;> rfl⟩
  | .none _ => ⟨_, _, by rw [spelling], rfl⟩
  | .list _ _ => ⟨_, _, by rw [spelling]; rfl, rfl⟩
  | .binary _ left _ _ => by
      rw [spelling]
      exact enclosed_begins left.begins _
  | .unary _ .neg _ => ⟨_, _, by rw [spelling], rfl⟩
  | .unary _ .not _ => ⟨_, _, by rw [spelling], rfl⟩
  | .conditional _ _ thenExpr _ => by
      rw [spelling]
      exact enclosed_begins thenExpr.begins _
  | .member _ object _ => by
      rw [spelling]
      exact enclosed_begins object.begins _
  | .index _ container _ => by
      rw [spelling]
      exact enclosed_begins container.begins _
  | .call _ _ _ => ⟨_, _, by rw [spelling]; rfl, rfl⟩
  | .methodCall _ _ object _ _ => by
      rw [spelling]
      exact enclosed_begins object.begins _

open Parse

/--
Reading the tokens of the expression, without parentheses around it, leads to where the expression
has been read and whatever binds more tightly than the floor is still to come.
-/
def Expr.Continues (expr : Expr) : Prop :=
  ∀ (room : Nat) (floor : Precedence) (start : Span) (cursor : Cursor) (rest final : List Token)
    (accepts : Expr → Prop),
    Spelled cursor.ahead expr.spelling rest → floor < expr.level →
    (kindAt rest).Closes expr.ceiling →
    (∀ (room : Nat) (left : Expr) (after : Cursor), left.shape = expr.shape → after.ahead = rest →
      Reads (continued room floor start left) after final accepts) →
    Reads (operand (expressionAbove room) floor >>= continued room floor start) cursor final accepts

section

variable {expr : Expr} {room : Nat} {floor : Precedence} {start : Span} {cursor : Cursor}
  {rest final : List Token}

/-- Nothing is read on where nothing binds more tightly than the floor. -/
theorem continued_stops {left : Expr} {accepts : Expr → Prop}
    (closes : (kindAt cursor.ahead).Closes floor) (accepted : accepts left)
    (ahead : cursor.ahead = rest) :
    Reads (continued room floor start left) cursor rest accepts := by
  have nothing : continuationAbove? floor cursor = none := by
    have bounded := closes.2
    simp only [continuationAbove?, Cursor.kind_eq_kindAt]
    cases next : Continuation.ofKind? (kindAt cursor.ahead) with
    | none => rfl
    | some next => simpa [next, Option.filter] using bounded
  cases room <;>
  · unfold continued
    refine Reads.look ?_
    rw [nothing]
    exact Reads.pure accepted ahead

/-- What binds more tightly than the floor is read on, as long as there is room. -/
theorem continued_step {left : Expr} (next : Continuation) {accepts : Expr → Prop}
    (begins : Continuation.ofKind? (kindAt cursor.ahead) = some next)
    (above : floor < next.precedence)
    (reads : ∀ room, Reads (continuation (expressionAbove room) start left next >>=
      continued room floor start) cursor rest accepts) :
    Reads (continued room floor start left) cursor rest accepts := by
  have found : continuationAbove? floor cursor = some next := by
    simp [continuationAbove?, Cursor.kind_eq_kindAt, begins, above]
  cases room with
  | zero =>
      unfold continued
      refine Reads.look ?_
      rw [found]
      exact Reads.fail
  | succ room =>
      unfold continued
      refine Reads.look ?_
      rw [found]
      exact reads room

/-! ## Operands -/

/-- An operand that begins with no operator is a primary one. -/
theorem operand_eq_primary {expression : Precedence → Parse Expr}
    (noSign : cursor.current.kind ≠ .symbol .minus)
    (noWord : cursor.current.kind ≠ .keyword .kwNot) :
    operand expression floor cursor = primary (expression .lowest) cursor := by
  rw [operand, look_bind]
  refine congrFun ?_ cursor
  split
  · next kind => exact absurd kind noSign
  · next kind => exact absurd kind noWord
  · rfl

/-- A token that is an operand by itself is read as that operand. -/
theorem operand_of_atom {expression : Precedence → Parse Expr} {atom : Expr}
    (found : atom? cursor.current = some atom) :
    operand expression floor cursor =
      (do modify Cursor.advance; return atom : Parse Expr) cursor := by
  rw [operand_eq_primary, primary, look_bind, found]
  all_goals
    intro kind
    simp [atom?, kind] at found

/-- A symbol is no operand by itself. -/
theorem primary_of_symbol {expression : Parse Expr} {symbol : Symbol}
    (kind : cursor.current.kind = .symbol symbol) :
    primary expression cursor =
      (match symbol with
      | .leftParen => do
        modify Cursor.advance
        let inner ← expression
        expectSymbol .rightParen .closeParenthesized
        return inner
      | .leftBracket => do
        modify Cursor.advance
        let elements ← commaList .rightBracket expression
        expectSymbol .rightBracket .closeList
        return .list (.ofSpan (← look (Cursor.spanFrom cursor.current.span))) elements
      | _ => fail (.noExpression cursor.current)) cursor := by
  have nothing : atom? cursor.current = none := by simp [atom?, kind]
  rw [primary, look_bind, nothing]
  refine congrFun ?_ cursor
  simp only [kind]
  cases symbol <;> rfl

/-- An expression of one token is read on from behind that token. -/
theorem Expr.Continues.of_atom {expr : Expr} {content : TokenContent}
    (single : expr.spelling = [content])
    (stands : ∀ token : Token, token.content = content →
      ∃ atom, atom? token = some atom ∧ atom.shape = expr.shape) : expr.Continues := by
  intro room floor start cursor rest final accepts spelled above closes next
  rw [single] at spelled
  obtain ⟨atom, found, same⟩ := stands cursor.current (content_current spelled)
  refine Reads.bind_congr (operand_of_atom found) ?_
  simp only [bind_assoc, pure_bind]
  exact Reads.skip spelled fun after tail => next room atom after same tail.eq_of_nil

/-- An expression is read from its first operand on, as long as there is room. -/
theorem expressionAbove_reads {accepts : Expr → Prop}
    (reads : ∀ room start,
      Reads (operand (expressionAbove room) floor >>= continued room floor start)
      cursor rest accepts) : Reads (expressionAbove room floor) cursor rest accepts := by
  cases room with
  | zero =>
      unfold expressionAbove
      exact Reads.fail
  | succ room =>
      unfold expressionAbove
      exact Reads.look (reads room _)

/-- A whole expression without parentheses around it is read. -/
theorem Expr.Continues.reads_bare {expr : Expr} (continues : expr.Continues)
    (spelled : Spelled cursor.ahead expr.spelling rest) (above : floor < expr.level)
    (closes : (kindAt rest).Closes floor) :
    Reads (expressionAbove room floor) cursor rest fun read => read.shape = expr.shape :=
  expressionAbove_reads fun room start =>
    continues room floor start cursor rest rest _ spelled above
      (closes.mono (Expr.le_ceiling above))
      fun _ _ _ same ahead => continued_stops (ahead ▸ closes) same ahead

/-- A literal is one token, and that token is by itself a literal of its shape. -/
theorem Expr.literal_token (expr : Expr) (literal : expr.isLiteral = true) :
    ∃ content, expr.spelling = [content] ∧ content.kind.isLiteral = true ∧
      ∀ token : Token, token.content = content →
        ∃ atom, atom? token = some atom ∧ atom.shape = expr.shape := by
  cases expr with
  | integer info number =>
      refine ⟨_, by rw [spelling], rfl, fun token same => ?_⟩
      obtain ⟨kind, value⟩ := TokenContent.mk.inj same
      exact ⟨_, by simp [atom?, kind]; rfl, by simp [relabel, value, TokenValue.number?]⟩
  | boolean info value =>
      refine ⟨_, by rw [spelling], by cases value <;> rfl, fun token same => ?_⟩
      obtain ⟨kind, -⟩ := TokenContent.mk.inj same
      cases value <;> exact ⟨_, by simp [atom?, kind]; rfl, by simp [relabel]⟩
  | string info text =>
      refine ⟨_, by rw [spelling], ?_, fun token same => ?_⟩
      · unfold TokenContent.string
        dsimp only
        split <;> rfl
      · obtain ⟨kind, value⟩ := TokenContent.mk.inj same
        refine ⟨.string (.ofSpan token.span) text, ?_, by simp [relabel]⟩
        split at kind <;> simp [atom?, kind, value, TokenValue.display]
  | none info =>
      refine ⟨_, by rw [spelling], rfl, fun token same => ?_⟩
      obtain ⟨kind, -⟩ := TokenContent.mk.inj same
      exact ⟨_, by simp [atom?, kind]; rfl, by simp [relabel]⟩
  | _ => cases literal

theorem Expr.Continues.of_literal (expr : Expr) (literal : expr.isLiteral = true) :
    expr.Continues := by
  obtain ⟨content, single, -, stands⟩ := expr.literal_token literal
  exact .of_atom single stands

/-- Reading goes on behind an expression also where it stands in parentheses. -/
theorem Expr.Continues.enclosed {expr : Expr} {required : Precedence} {accepts : Expr → Prop}
    (continues : expr.Continues)
    (spelled : Spelled cursor.ahead (enclosed required expr.level expr.spelling) rest)
    (above : floor < required)
    (closes : required ≤ expr.level → (kindAt rest).Closes expr.ceiling)
    (next : ∀ (room : Nat) (left : Expr) (after : Cursor), left.shape = expr.shape →
      after.ahead = rest → Reads (continued room floor start left) after final accepts) :
    Reads (operand (expressionAbove room) floor >>= continued room floor start) cursor final
      accepts := by
  unfold ChocoLang.enclosed at spelled
  split at spelled
  · have kind : cursor.current.kind = .symbol .leftParen := kind_current spelled
    refine Reads.bind_congr (operand_eq_primary (by simp [kind]) (by simp [kind])) ?_
    refine Reads.bind_congr (primary_of_symbol kind) ?_
    simp only [bind_assoc, pure_bind]
    refine Reads.skip spelled fun after tail => ?_
    obtain ⟨middle, inner, paren⟩ := tail.split
    refine (continues.reads_bare inner expr.level_pos (by rw [paren.kindAt_eq]; decide)).bind
      fun value behind same ahead _ => ?_
    subst ahead
    exact Reads.expectSymbol paren fun last tail => next room value last same tail.eq_of_nil
  · next tight =>
      have tight := Nat.le_of_not_lt tight
      exact continues room floor start cursor rest final accepts spelled
        (Nat.lt_of_lt_of_le above tight) (closes tight) next

/-- A whole expression is read, in parentheses if the place asks for it. -/
theorem Expr.Continues.reads {expr : Expr} (continues : expr.Continues)
    (spelled : Spelled cursor.ahead (ChocoLang.enclosed (floor + 1) expr.level expr.spelling) rest)
    (closes : (kindAt rest).Closes floor) :
    Reads (expressionAbove room floor) cursor rest fun read => read.shape = expr.shape :=
  expressionAbove_reads fun _ _ =>
    continues.enclosed spelled (Nat.lt_succ_self floor)
      (fun tight => closes.mono (Expr.le_ceiling tight))
      fun _ _ _ same ahead => continued_stops (ahead ▸ closes) same ahead

/-! ## Operators -/

@[simp]
theorem ofKind?_content (operator : BinaryOperator) :
    Continuation.ofKind? operator.content.kind = some (.operator operator) := by
  cases operator <;> rfl

theorem BinaryOperator.precedence_le_leftLevel (operator : BinaryOperator) :
    operator.precedence ≤ operator.leftLevel := by
  cases operator <;> decide

theorem Expr.ceiling_binary_le {info : ExprInfo} {left right : Expr} {operator : BinaryOperator} :
    (Expr.binary info left operator right).ceiling ≤ operator.precedence := by
  cases operator <;> exact Nat.le_of_ble_eq_true rfl

theorem Expr.ceiling_comparison_le {info : ExprInfo} {left right : Expr}
    {operator : BinaryOperator} (comparison : operator.precedence = .comparison) :
    (Expr.binary info left operator right).ceiling ≤ .negation := by
  cases operator <;> first
    | exact Nat.le_of_ble_eq_true rfl
    | exact absurd comparison (by decide)

/-- Behind its left operand, an operator takes it and reads on. -/
theorem Expr.Continues.followed {left : Expr} {required : Precedence} {content : TokenContent}
    {contents : List TokenContent} {accepts : Expr → Prop}
    (operation : Continuation) (before : left.Continues)
    (spelled : Spelled cursor.ahead
      (ChocoLang.enclosed required left.level left.spelling ++ content :: contents) rest)
    (begins : Continuation.ofKind? content.kind = some operation)
    (noCall : content.kind ≠ .symbol .leftParen) (above : floor < operation.precedence)
    (within : operation.precedence ≤ required)
    (fits : required ≤ left.level → operation.precedence ≤ left.ceiling)
    (reads : ∀ (room : Nat) (value : Expr) (after : Cursor), value.shape = left.shape →
      Spelled after.ahead (content :: contents) rest →
      Reads (continuation (expressionAbove room) start value operation >>=
        continued room floor start) after final accepts) :
    Reads (operand (expressionAbove room) floor >>= continued room floor start) cursor final
      accepts := by
  obtain ⟨middle, first, others⟩ := spelled.split
  have kind : kindAt middle = content.kind := others.kindAt_eq
  refine before.enclosed first (Nat.lt_of_lt_of_le above within)
    (fun tight => ⟨kind ▸ noCall, by simpa [kind, begins] using fits tight⟩)
    fun room value after same ahead => ?_
  subst ahead
  exact continued_step operation (kind ▸ begins) above
    fun room => reads room value after same others

/-- No comparison begins at a token behind a comparison. -/
theorem atComparison_eq_false (closes : (kindAt cursor.ahead).Closes .negation) :
    atComparison cursor = false := by
  have bounded := closes.2
  simp only [atComparison, Cursor.kind_eq_kindAt]
  cases next : Continuation.ofKind? (kindAt cursor.ahead) with
  | none => rfl
  | some next =>
      simp only [next, Option.all_some, decide_eq_true_eq] at bounded
      exact beq_eq_false_iff_ne.mpr (Nat.ne_of_lt (Nat.lt_succ_of_le bounded))

theorem Expr.Continues.binary {info : ExprInfo} {left right : Expr} {operator : BinaryOperator}
    (before : left.Continues) (behind : right.Continues) :
    (Expr.binary info left operator right).Continues := by
  intro room floor start cursor rest final accepts spelled above closes next
  rw [Expr.spelling] at spelled
  refine before.followed (.operator operator) spelled (ofKind?_content operator)
    (by cases operator <;> decide) above
    operator.precedence_le_leftLevel Expr.precedence_le_ceiling
    fun room value after same others => ?_
  simp only [continuation, bind_assoc]
  refine Reads.advance others fun token after _ second => ?_
  simp only [operationOf, bind_assoc]
  refine (behind.reads second (closes.mono Expr.ceiling_binary_le)).bind
    fun value' last same' ahead _ => ?_
  · refine Reads.look ?_
    have read := next room
      (.binary (.ofSpan (Cursor.spanFrom start last)) value operator value') last
      (by simp [Expr.relabel, same, same']) ahead
    by_cases comparison : operator.precedence = .comparison
    · have single : atComparison last = false :=
        atComparison_eq_false (ahead ▸ closes.mono (Expr.ceiling_comparison_le comparison))
      simp only [comparison, beq_self_eq_true, if_true, bind_assoc]
      refine Reads.look ?_
      simpa [single] using read
    · simpa [beq_eq_false_iff_ne.mpr comparison] using read

theorem Expr.Continues.negative {info : ExprInfo} {operand : Expr} (behind : operand.Continues) :
    (Expr.unary info .neg operand).Continues := by
  intro room floor start cursor rest final accepts spelled above closes next
  rw [Expr.spelling] at spelled
  have kind : cursor.current.kind = .symbol .minus := kind_current spelled
  have same : Parse.operand (expressionAbove room) floor cursor =
      (do
        modify Cursor.advance
        let inner ← expressionAbove room .multiplicative
        return .unary (.ofSpan (← look (Cursor.spanFrom cursor.current.span))) .neg inner :
        Parse Expr) cursor := by
    rw [Parse.operand, look_bind, kind]
  refine Reads.bind_congr same ?_
  simp only [bind_assoc, pure_bind]
  refine Reads.skip spelled fun after tail => ?_
  refine (behind.reads tail closes).bind fun value last same ahead _ => ?_
  exact Reads.look (next room _ last (by simp [Expr.relabel, same]) ahead)

theorem Expr.Continues.negation {info : ExprInfo} {operand : Expr} (behind : operand.Continues) :
    (Expr.unary info .not operand).Continues := by
  intro room floor start cursor rest final accepts spelled above closes next
  rw [Expr.spelling] at spelled
  have kind : cursor.current.kind = .keyword .kwNot := kind_current spelled
  have same : Parse.operand (expressionAbove room) floor cursor =
      (do
        modify Cursor.advance
        let inner ← expressionAbove room .negation
        return .unary (.ofSpan (← look (Cursor.spanFrom cursor.current.span))) .not inner :
        Parse Expr) cursor := by
    rw [Parse.operand, look_bind, kind]
    exact congrFun (if_neg (Nat.not_le.mpr above)) cursor
  refine Reads.bind_congr same ?_
  simp only [bind_assoc, pure_bind]
  refine Reads.skip spelled fun after tail => ?_
  refine (behind.reads tail closes).bind fun value last same ahead _ => ?_
  exact Reads.look (next room _ last (by simp [Expr.relabel, same]) ahead)

theorem Expr.Continues.conditional {info : ExprInfo} {condition chosen alternative : Expr}
    (before : chosen.Continues) (between : condition.Continues) (behind : alternative.Continues) :
    (Expr.conditional info condition chosen alternative).Continues := by
  intro room floor start cursor rest final accepts spelled above closes next
  rw [Expr.spelling] at spelled
  refine before.followed .conditional spelled rfl (by decide) above
    (Nat.le_succ _) Expr.le_ceiling fun room value after same others => ?_
  simp only [continuation, choiceOf, bind_assoc]
  refine Reads.advance others fun token after _ tail => ?_
  obtain ⟨middle, second, others⟩ := tail.split
  refine (between.reads second (by rw [others.kindAt_eq]; decide)).bind
    fun value' behindCondition same' ahead _ => ?_
  subst ahead
  refine Reads.expect others rfl fun token after _ tail => ?_
  refine (behind.reads tail closes).bind fun value'' last same'' ahead _ => ?_
  simp only [pure_bind]
  exact Reads.look (next room _ last (by simp [Expr.relabel, same, same', same'']) ahead)

/-! ## Brackets -/

theorem Expr.listSpelling_eq (exprs : List Expr) :
    Expr.listSpelling exprs = separatedSpelling (.sign .comma) Expr.spelling exprs := by
  have tail : ∀ exprs : List Expr,
      Expr.tailSpelling exprs = furtherSpelling (.sign .comma) Expr.spelling exprs := by
    intro exprs
    induction exprs with
    | nil => rfl
    | cons expr exprs ih => rw [Expr.tailSpelling, furtherSpelling, ih]
  cases exprs with
  | nil => rfl
  | cons expr exprs => rw [Expr.listSpelling, separatedSpelling, tail]

/-- Expressions between commas are read up to the symbol that closes the list. -/
theorem elements_read {exprs : List Expr} {close : Symbol} {contents : List TokenContent}
    (continues : ∀ expr ∈ exprs, expr.Continues)
    (closing : close = .rightParen ∨ close = .rightBracket)
    (spelled : Spelled cursor.ahead (Expr.listSpelling exprs ++ .sign close :: contents) rest) :
    ∃ middle, Spelled middle (.sign close :: contents) rest ∧
      Reads (commaList close (expressionAbove room .lowest)) cursor middle
        fun values => values.map Expr.shape = exprs.map Expr.shape := by
  obtain ⟨middle, inner, others⟩ := spelled.split
  refine ⟨middle, others, ?_⟩
  rw [Expr.listSpelling_eq] at inner
  have kind : kindAt middle = .symbol close := others.kindAt_eq
  refine (Reads.commaList (TokenKind.Closes .lowest)
    (fun expr value => value.shape = expr.shape) ?_ ?_ (by decide) ?_ ?_ kind inner).mono
      fun values => map_shape_eq
  · intro expr member cursor rest spelled closes
    exact (continues expr member).reads_bare spelled expr.level_pos closes
  · intro expr member
    obtain ⟨content, contents, shape, begins⟩ := expr.begins
    refine ⟨content, contents, shape, fun same => ?_⟩
    rw [same] at begins
    rcases closing with rfl | rfl <;> exact absurd begins (by decide)
  · rcases closing with rfl | rfl <;> decide
  · rcases closing with rfl | rfl <;> decide

/-- Arguments are read with the parenthesis behind them. -/
theorem arguments_read {args : List Expr} (continues : ∀ expr ∈ args, expr.Continues)
    (spelled : Spelled cursor.ahead (Expr.listSpelling args ++ [.sign .rightParen]) rest) :
    Reads (arguments (expressionAbove room .lowest)) cursor rest
      fun values => values.map Expr.shape = args.map Expr.shape := by
  obtain ⟨middle, paren, reads⟩ := elements_read continues (.inl rfl) spelled
  refine reads.bind fun values after same ahead _ => ?_
  subst ahead
  exact Reads.expectSymbol paren fun last tail => Reads.pure same tail.eq_of_nil

theorem Expr.Continues.list {info : ExprInfo} {elements : List Expr}
    (continues : ∀ expr ∈ elements, expr.Continues) : (Expr.list info elements).Continues := by
  intro room floor start cursor rest final accepts spelled above closes next
  rw [Expr.spelling] at spelled
  have kind : cursor.current.kind = .symbol .leftBracket := kind_current spelled
  refine Reads.bind_congr (operand_eq_primary (by simp [kind]) (by simp [kind])) ?_
  refine Reads.bind_congr (primary_of_symbol kind) ?_
  simp only [bind_assoc, pure_bind]
  refine Reads.skip spelled fun after tail => ?_
  obtain ⟨middle, bracket, reads⟩ := elements_read continues (.inr rfl) tail
  refine reads.bind fun values behind same ahead _ => ?_
  subst ahead
  refine Reads.expectSymbol bracket fun last tail => ?_
  exact Reads.look (next room _ last (by simpa [Expr.relabel] using same) tail.eq_of_nil)

theorem Expr.Continues.member {info : ExprInfo} {object : Expr} {field : Identifier}
    (before : object.Continues) : (Expr.member info object field).Continues := by
  intro room floor start cursor rest final accepts spelled above closes next
  rw [Expr.spelling] at spelled
  refine before.followed .field spelled rfl (by decide) above (Nat.le_refl _)
    Expr.access_le_ceiling fun room value after same others => ?_
  simp only [continuation, fieldOf, bind_assoc]
  refine Reads.advance others fun token after _ tail => ?_
  refine Reads.identifier tail fun name after text tail => ?_
  refine Reads.look ?_
  refine Reads.accept_of_ne (by rw [tail.eq_of_nil]; exact closes.1) ?_
  simp only [Bool.false_eq_true, if_false, pure_bind]
  exact next room _ after (by simp [Expr.relabel, Identifier.relabel, same, text]) tail.eq_of_nil

theorem Expr.Continues.methodCall {info access : ExprInfo} {object : Expr} {method : Identifier}
    {args : List Expr} (before : object.Continues) (continues : ∀ arg ∈ args, arg.Continues) :
    (Expr.methodCall info access object method args).Continues := by
  intro room floor start cursor rest final accepts spelled above closes next
  rw [Expr.spelling] at spelled
  refine before.followed .field spelled rfl (by decide) above (Nat.le_refl _)
    Expr.access_le_ceiling fun room value after same others => ?_
  simp only [continuation, fieldOf, bind_assoc]
  refine Reads.advance others fun token after _ tail => ?_
  refine Reads.identifier tail fun name after text tail => ?_
  refine Reads.look ?_
  refine Reads.accept tail rfl fun after tail => ?_
  simp only [if_true, bind_assoc]
  refine (arguments_read continues tail).bind fun values last read ahead _ => ?_
  exact Reads.look (next room _ last
    (by simpa [Expr.relabel, Identifier.relabel, same, text] using read) ahead)

theorem Expr.Continues.index {info : ExprInfo} {container position : Expr}
    (before : container.Continues) (inside : position.Continues) :
    (Expr.index info container position).Continues := by
  intro room floor start cursor rest final accepts spelled above closes next
  rw [Expr.spelling] at spelled
  refine before.followed .element spelled rfl (by decide) above (Nat.le_refl _)
    Expr.access_le_ceiling fun room value after same others => ?_
  simp only [continuation, elementOf, bind_assoc]
  refine Reads.advance others fun token after _ tail => ?_
  obtain ⟨middle, inner, bracket⟩ := tail.split
  refine (inside.reads_bare inner position.level_pos (by rw [bracket.kindAt_eq]; decide)).bind
    fun value' behind same' ahead _ => ?_
  subst ahead
  refine Reads.expectSymbol bracket fun last tail => ?_
  exact Reads.look (next room _ last (by simp [Expr.relabel, same, same']) tail.eq_of_nil)

theorem Expr.Continues.call {info : ExprInfo} {function : Identifier} {args : List Expr}
    (continues : ∀ arg ∈ args, arg.Continues) : (Expr.call info function args).Continues := by
  intro room floor start cursor rest final accepts spelled above closes next
  rw [Expr.spelling] at spelled
  have text : cursor.current.value.display = function.name := by
    rw [← Token.value_content, content_current spelled]
    rfl
  have found : atom? cursor.current = some (.name
      { info := .ofSpan cursor.current.span, name := cursor.current.value.display }) := by
    simp [atom?, show cursor.current.kind = .identifier from kind_current spelled]
  refine Reads.bind_congr (operand_of_atom found) ?_
  simp only [bind_assoc, pure_bind]
  refine Reads.skip spelled fun after tail => ?_
  refine continued_step .call (by rw [tail.kindAt_eq]; rfl) above fun room => ?_
  simp only [continuation, callOf, bind_assoc]
  refine Reads.advance tail fun token after _ tail => ?_
  refine (arguments_read continues tail).bind fun values last read ahead _ => ?_
  simp only [pure_bind]
  exact Reads.look (next room _ last
    (by simpa [Expr.relabel, Identifier.relabel, text] using read) ahead)

end

/-! ## All expressions -/

mutual

/-- Reading the tokens of an expression leads to where it has been read. -/
theorem Expr.continues : (expr : Expr) → expr.Continues
  | .name _ => .of_atom (by rw [spelling]) fun token same => by
      obtain ⟨kind, value⟩ := TokenContent.mk.inj same
      exact ⟨_, by simp [atom?, kind]; rfl, by simp [relabel, Identifier.relabel, value,
        TokenValue.display]⟩
  | .integer info value => .of_literal (.integer info value) rfl
  | .boolean info value => .of_literal (.boolean info value) rfl
  | .string info value => .of_literal (.string info value) rfl
  | .none info => .of_literal (.none info) rfl
  | .list _ elements => .list (Expr.all_continue elements)
  | .binary _ left _ right => .binary left.continues right.continues
  | .unary _ .neg operand => .negative operand.continues
  | .unary _ .not operand => .negation operand.continues
  | .conditional _ condition thenExpr elseExpr =>
    .conditional thenExpr.continues condition.continues elseExpr.continues
  | .member _ object _ => .member object.continues
  | .index _ container position => .index container.continues position.continues
  | .call _ _ args => .call (Expr.all_continue args)
  | .methodCall _ _ object _ args => .methodCall object.continues (Expr.all_continue args)

/-- So it is for each of several expressions. -/
theorem Expr.all_continue : (exprs : List Expr) → ∀ expr ∈ exprs, expr.Continues
  | [] => by simp
  | first :: rest => List.forall_mem_cons.mpr ⟨first.continues, Expr.all_continue rest⟩

end

/-- The tokens of an expression are read as that expression where nothing that takes it follows. -/
theorem expression_reads {expr : Expr} {room : Nat} {cursor : Cursor} {rest : List Token}
    (spelled : Spelled cursor.ahead expr.spelling rest)
    (closes : (kindAt rest).Closes .lowest) :
    Reads (expression room) cursor rest fun read => read.shape = expr.shape :=
  expr.continues.reads_bare spelled expr.level_pos closes

end ChocoLang
