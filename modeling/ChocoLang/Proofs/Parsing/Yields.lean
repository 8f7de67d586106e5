import ChocoLang.Parsing.Program
import ChocoLang.Proofs.Parsing.Progress
import ChocoLang.Proofs.Syntax.Labels
import ChocoLang.Proofs.Syntax.WellFormed

/-!
# What is true of everything returned

A property of what a reader returns, wherever it starts and whatever the tokens are.  Failures say
nothing: a reader that always fails returns only good things.
-/

namespace ChocoLang
namespace Parse

variable {α β σ : Type}

/-- Whatever the reader returns is good. -/
def Returns (reader : Parse α) (good : α → Prop) : Prop :=
  ∀ (cursor : Cursor) (value : α) (after : Cursor), reader cursor = .ok value after → good value

/-- The same of a reader that deals with its failures itself. -/
def Recovering.Returns (reader : Recovering α) (good : α → Prop) : Prop :=
  ∀ cursor : Cursor, good (reader cursor).1

namespace Returns

variable {reader : Parse α} {next : α → Parse β} {good : α → Prop} {good' : β → Prop}

theorem pure {value : α} (holds : good value) : Returns (Pure.pure value) good := by
  rintro cursor _ _ ⟨⟩
  exact holds

theorem any : Returns reader fun _ => True := fun _ _ _ _ => trivial

theorem mono {good' : α → Prop} (returns : Returns reader good)
    (weaker : ∀ value, good value → good' value) : Returns reader good' :=
  fun cursor value after ok => weaker value (returns cursor value after ok)

theorem bind (first : Returns reader good)
    (second : ∀ value, good value → Returns (next value) good') :
    Returns (reader >>= next) good' := by
  intro cursor value after ok
  simp only [Bind.bind, EStateM.bind] at ok
  split at ok
  · next value' middle shape =>
      exact second value' (first cursor value' middle shape) middle value after ok
  · cases ok

/-- If nothing is asked of what is read first, only what follows it matters. -/
theorem after (second : ∀ value, Returns (next value) good') : Returns (reader >>= next) good' :=
  any.bind fun value _ => second value

theorem fail {error : SyntaxError} : Returns (Parse.fail error : Parse α) good := by
  rintro cursor _ _ ⟨⟩

theorem throw {problem : Located SyntaxError} :
    Returns (MonadExcept.throw problem : Parse α) good := by
  rintro cursor _ _ ⟨⟩

theorem ite {condition : Prop} [Decidable condition] {yes no : Parse α}
    (ifTrue : Returns yes good) (ifFalse : Returns no good) :
    Returns (if condition then yes else no) good := by
  split
  · exact ifTrue
  · exact ifFalse

theorem ofRecovering {reader : Recovering α} (returns : Recovering.Returns reader good) :
    Returns (Parse.ofRecovering reader) good := by
  rintro cursor _ _ ⟨⟩
  exact returns cursor

end Returns

/-! ## Lists -/

section Lists

variable {good : α → Prop} {item : Parse α} (each : Returns item good)
include each

theorem furtherItems_returns (separator : TokenKind) (bound : Nat) :
    Returns (furtherItems separator item bound) fun items => ∀ one ∈ items, good one := by
  induction bound with
  | zero => exact .pure (by simp)
  | succ bound ih =>
      refine .after fun accepted => .ite ?_ (.pure (by simp))
      exact each.bind fun first holds => ih.bind fun rest others =>
        .pure (List.forall_mem_cons.mpr ⟨holds, others⟩)

theorem itemsAfter_returns (separator : TokenKind) :
    Returns (itemsAfter separator item) fun items => ∀ one ∈ items, good one :=
  .after fun _ => .ite (.after fun bound => furtherItems_returns each separator bound)
    (.pure (by simp))

theorem commaList_returns (close : Symbol) :
    Returns (commaList close item) fun items => ∀ one ∈ items, good one :=
  .after fun _ => .ite (.pure (by simp)) (each.bind fun _ holds =>
    (itemsAfter_returns each _).bind fun _ others =>
      .pure (List.forall_mem_cons.mpr ⟨holds, others⟩))

end Lists

/-! ## Recovery -/

section Recovery

variable {good : σ → Prop}

theorem recovering_returns {fallback : σ} {reader : Parse σ} (holds : good fallback)
    (returns : Returns reader good) : Recovering.Returns (recovering fallback reader) good := by
  intro cursor
  simp only [recovering, EStateM.run]
  split
  · next value after shape => exact returns cursor value after shape
  · exact holds

theorem repeatUntil_returns {halt : Cursor → Bool} {step : σ → Recovering σ}
    (each : ∀ state, good state → Recovering.Returns (step state) good) (bound : Nat) {state : σ}
    (holds : good state) : Recovering.Returns (repeatUntil halt step bound state) good := by
  induction bound generalizing state with
  | zero => exact fun _ => holds
  | succ bound ih =>
      intro cursor
      simp only [repeatUntil, Bind.bind, StateT.bind, get, getThe, MonadStateOf.get, StateT.get,
        Pure.pure]
      split
      · exact holds
      · exact ih (each state holds cursor) _

theorem body_returns {step : σ → Recovering σ}
    (each : ∀ state, good state → Recovering.Returns (step state) good) {state : σ}
    (holds : good state) : Recovering.Returns (body step state) good :=
  fun cursor => repeatUntil_returns each cursor.ahead.length holds cursor

end Recovery
end Parse
end ChocoLang

/-!
## What is returned from certain tokens

A property of what a reader returns wherever it starts in tokens that have a trait.  A problem that
is recorded spoils the reading, and how good what is returned must be may depend on that.  A
property of all declarations follows from rules, one for each form of a declaration.
-/

namespace ChocoLang

/-- All tokens from the cursor on have a trait. -/
structure Cursor.Throughout (trait : Token → Prop) (cursor : Cursor) : Prop where
  /-- The tokens ahead have the trait. -/
  ahead : ∀ token ∈ cursor.ahead, trait token
  /-- The end of the file has the trait. -/
  ending : trait cursor.ending

namespace Cursor.Throughout

variable {trait : Token → Prop} {cursor after : Cursor}

theorem onward (throughout : cursor.Throughout trait) (onward : cursor.Onward after) :
    after.Throughout trait :=
  ⟨fun token among => throughout.ahead token (onward.ahead.subset among),
    onward.ending ▸ throughout.ending⟩

theorem current (throughout : cursor.Throughout trait) : trait cursor.current := by
  unfold Cursor.current
  cases shape : cursor.ahead with
  | nil => exact throughout.ending
  | cons token rest => exact throughout.ahead token (by simp [shape])

/-- At the cursor is the end of the file or a token that has the trait. -/
theorem kind (throughout : cursor.Throughout trait) :
    cursor.kind = .endOfFile ∨ ∃ token, trait token ∧ cursor.kind = token.kind := by
  unfold Cursor.kind
  cases shape : cursor.ahead with
  | nil => exact .inl rfl
  | cons token rest => exact .inr ⟨token, throughout.ahead token (by simp [shape]), rfl⟩

theorem ofTokens {tokens : List Token} (nonempty : tokens ≠ [])
    (all : ∀ token ∈ tokens, trait token) : (Cursor.ofTokens tokens nonempty).Throughout trait := by
  refine ⟨fun token among => all token ((List.takeWhile_sublist _).subset among), ?_⟩
  simp only [Cursor.ofTokens]
  cases found : tokens.find? (·.kind == .endOfFile) with
  | none => exact all _ (List.getLast_mem nonempty)
  | some token => exact all token (List.mem_of_find?_eq_some found)

end Cursor.Throughout

namespace Parse

variable {α β σ : Type} {trait : Token → Prop} {spoiled : Prop}

/--
The reader returns something good wherever it starts in tokens that have a trait; if problems are
known afterwards, then the reading is spoiled.
-/
def Yields (trait : Token → Prop) (spoiled : Prop) (reader : Parse α) (good : α → Prop) : Prop :=
  ∀ (cursor : Cursor) (value : α) (after : Cursor), cursor.Throughout trait →
    reader cursor = .ok value after → (after.problems ≠ [] → spoiled) → good value

/-- The same of a reader that deals with its failures itself. -/
def Recovering.Yields (trait : Token → Prop) (spoiled : Prop) (reader : Recovering α)
    (good : α → Prop) : Prop :=
  ∀ cursor : Cursor, cursor.Throughout trait → ((reader cursor).2.problems ≠ [] → spoiled) →
    good (reader cursor).1

namespace Yields

variable {reader : Parse α} {next : α → Parse β} {good : α → Prop} {good' : β → Prop}

theorem pure {value : α} (holds : good value) : Yields trait spoiled (Pure.pure value) good := by
  rintro cursor _ _ _ ⟨⟩ _
  exact holds

theorem any : Yields trait spoiled reader fun _ => True :=
  fun _ _ _ _ _ _ => trivial

theorem mono {good' : α → Prop} (yields : Yields trait spoiled reader good)
    (weaker : ∀ value, good value → good' value) : Yields trait spoiled reader good' :=
  fun cursor value after all ok dirty => weaker value (yields cursor value after all ok dirty)

/-- What is good whatever the tokens are is good in these tokens. -/
theorem of_returns (returns : Returns reader good) : Yields trait spoiled reader good :=
  fun cursor value after _ ok _ => returns cursor value after ok

theorem and {good' : α → Prop} (yields : Yields trait spoiled reader good)
    (others : Yields trait spoiled reader good') :
    Yields trait spoiled reader fun value => good value ∧ good' value :=
  fun cursor value after all ok dirty =>
    ⟨yields cursor value after all ok dirty, others cursor value after all ok dirty⟩

theorem bind [Forward reader] [∀ value, Forward (next value)]
    (first : Yields trait spoiled reader good)
    (second : ∀ value, good value → Yields trait spoiled (next value) good') :
    Yields trait spoiled (reader >>= next) good' := by
  intro cursor value after all ok dirty
  have moved := onward_stop reader cursor
  simp only [Bind.bind, EStateM.bind] at ok
  unfold stop at moved
  split at ok
  · next value' middle shape =>
      simp only [shape] at moved
      have later := onward_stop (next value') middle
      simp only [stop, ok] at later
      refine second value'
        (first cursor value' middle all shape fun some => dirty fun none => ?_)
        middle value after (all.onward moved) ok dirty
      exact some (List.prefix_nil.mp (none ▸ later.problems))
  · cases ok

/-- What is looked at does not matter. -/
theorem look {view : Cursor → α} (yields : ∀ value, Yields trait spoiled (next value) good') :
    Yields trait spoiled (Parse.look view >>= next) good' :=
  fun cursor value after all ok dirty => yields (view cursor) cursor value after all ok dirty

/-- The token that is looked at has the trait. -/
theorem current {next : Token → Parse β}
    (yields : ∀ token, trait token → Yields trait spoiled (next token) good') :
    Yields trait spoiled (Parse.look Cursor.current >>= next) good' :=
  fun cursor value after all ok dirty =>
    yields cursor.current all.current cursor value after all ok dirty

/-- At the cursor is the end of the file or a token that has the trait. -/
theorem kind {next : TokenKind → Parse β}
    (yields : ∀ kind, (kind = .endOfFile ∨ ∃ token, trait token ∧ kind = token.kind) →
      Yields trait spoiled (next kind) good') :
    Yields trait spoiled (Parse.look Cursor.kind >>= next) good' :=
  fun cursor value after all ok dirty =>
    yields cursor.kind all.kind cursor value after all ok dirty

/-- Behind a problem that is recorded the reading is spoiled. -/
theorem record {error : SyntaxError} {span : Span} {next : Unit → Parse β} [Forward (next ())]
    (yields : spoiled → Yields trait spoiled (next ()) good') :
    Yields trait spoiled (Parse.record error span >>= next) good' := by
  intro cursor value after all ok dirty
  have same : next () (cursor.record ⟨error, span⟩) = .ok value after := ok
  have later := onward_stop (next ()) (cursor.record ⟨error, span⟩)
  simp only [stop, same] at later
  refine yields (dirty fun none => ?_) (cursor.record ⟨error, span⟩) value after
    ⟨all.ahead, all.ending⟩ same dirty
  have recorded := List.prefix_nil.mp (none ▸ later.problems)
  simp [Cursor.record] at recorded

/-- If problems were recorded in between, then the reading is spoiled. -/
theorem recovered {next : Bool → Parse β} (before : Nat) [∀ value, Forward (next value)]
    (yields : ∀ recovered, (recovered = true → spoiled) →
      Yields trait spoiled (next recovered) good') :
    Yields trait spoiled
      (Parse.look (fun cursor => decide (before < cursor.problems.length)) >>= next)
      good' := by
  intro cursor value after all ok dirty
  refine yields _ (fun more => dirty fun none => ?_) cursor value after all ok dirty
  have later := onward_stop (next (decide (before < cursor.problems.length))) cursor
  have same : next (decide (before < cursor.problems.length)) cursor = .ok value after := ok
  simp only [stop, same] at later
  have empty : cursor.problems = [] := List.prefix_nil.mp (none ▸ later.problems)
  simp [empty] at more

theorem fail {error : SyntaxError} : Yields trait spoiled (Parse.fail error : Parse α) good := by
  rintro cursor _ _ _ ⟨⟩

theorem throw {problem : Located SyntaxError} :
    Yields trait spoiled (MonadExcept.throw problem : Parse α) good := by
  rintro cursor _ _ _ ⟨⟩

theorem ite {condition : Prop} [Decidable condition] {yes no : Parse α}
    (ifTrue : Yields trait spoiled yes good) (ifFalse : Yields trait spoiled no good) :
    Yields trait spoiled (if condition then yes else no) good := by
  split
  · exact ifTrue
  · exact ifFalse

theorem ofRecovering {reader : Recovering α}
    (yields : Recovering.Yields trait spoiled reader good) :
    Yields trait spoiled (Parse.ofRecovering reader) good := by
  rintro cursor _ _ all ⟨⟩ dirty
  exact yields cursor all dirty

end Yields

/-! ## Tokens and lists -/

section Tokens

variable {good : α → Prop} {item : Parse α} [Forward item]

theorem identifier_yields (wanted : Expectation) :
    Yields trait spoiled (identifier wanted) fun name => name.outline.Fresh :=
  .bind .any fun _ _ => .pure (by simp [Identifier.fresh_outline_iff])

theorem furtherItems_yields (separator : TokenKind) (each : Yields trait spoiled item good)
    (bound : Nat) :
    Yields trait spoiled (furtherItems separator item bound)
      fun items => ∀ one ∈ items, good one := by
  induction bound with
  | zero => exact .pure (by simp)
  | succ bound ih =>
      refine .bind .any fun accepted _ => .ite ?_ (.pure (by simp))
      exact each.bind fun first holds => ih.bind fun rest others =>
        .pure (List.forall_mem_cons.mpr ⟨holds, others⟩)

theorem itemsAfter_yields (separator : TokenKind) (each : Yields trait spoiled item good) :
    Yields trait spoiled (itemsAfter separator item) fun items => ∀ one ∈ items, good one :=
  .look fun _ => .ite (.look fun bound => furtherItems_yields separator each bound)
    (.pure (by simp))

theorem commaList_yields (close : Symbol) (each : Yields trait spoiled item good) :
    Yields trait spoiled (commaList close item) fun items => ∀ one ∈ items, good one :=
  .look fun _ => .ite (.pure (by simp)) (each.bind fun _ holds =>
    (itemsAfter_yields _ each).bind fun _ others =>
      .pure (List.forall_mem_cons.mpr ⟨holds, others⟩))

end Tokens

/-! ## Recovery -/

section Recovery

variable {good : σ → Prop}

/-- Recovery records a problem, so what is kept after a failure is kept in a spoiled reading. -/
theorem recovering_yields_of_spoiled {fallback : σ} {reader : Parse σ}
    (holds : spoiled → good fallback) (yields : Yields trait spoiled reader good) :
    Recovering.Yields trait spoiled (recovering fallback reader) good := by
  intro cursor all dirty
  simp only [recovering, EStateM.run] at dirty ⊢
  cases shape : reader cursor with
  | ok value after =>
      exact yields cursor value after all shape (by simpa only [shape] using dirty)
  | error problem after =>
      simp only [shape] at dirty
      refine holds (dirty fun none => ?_)
      have recorded := (Cursor.Onward.recovered cursor.position problem after).problems
      rw [none] at recorded
      simp [Cursor.record] at recorded

theorem recovering_yields {fallback : σ} {reader : Parse σ} (holds : good fallback)
    (yields : Yields trait spoiled reader good) :
    Recovering.Yields trait spoiled (recovering fallback reader) good :=
  recovering_yields_of_spoiled (fun _ => holds) yields

theorem repeatUntil_yields {halt : Cursor → Bool} {step : σ → Recovering σ}
    [∀ state, Recovering.Forward (step state)]
    (each : ∀ state, good state → Recovering.Yields trait spoiled (step state) good) (bound : Nat)
    {state : σ} (holds : good state) :
    Recovering.Yields trait spoiled (repeatUntil halt step bound state) good := by
  induction bound generalizing state with
  | zero => exact fun _ _ _ => holds
  | succ bound ih =>
      intro cursor all dirty
      simp only [repeatUntil, Bind.bind, StateT.bind, get, getThe, MonadStateOf.get, StateT.get,
        Pure.pure] at dirty ⊢
      split
      · exact holds
      · next goesOn =>
          simp only [goesOn] at dirty
          have moved := Recovering.onward_snd (step state) cursor
          have later := Recovering.onward_snd
            (repeatUntil halt step bound (step state cursor).1) (step state cursor).2
          have held := each state holds cursor all fun some => dirty fun none =>
            some (List.prefix_nil.mp (none ▸ later.problems))
          exact ih held (step state cursor).2 (all.onward moved) dirty

theorem body_yields {step : σ → Recovering σ} [∀ state, Recovering.Forward (step state)]
    (each : ∀ state, good state → Recovering.Yields trait spoiled (step state) good) {state : σ}
    (holds : good state) : Recovering.Yields trait spoiled (body step state) good :=
  fun cursor => repeatUntil_yields each cursor.ahead.length holds cursor

end Recovery

/-! ## Declarations -/

/--
What has been read of the body of a function is made up of good declarations and sound statements.
That a statement was begun and none was read has an excuse.
-/
structure FunctionBody.MadeOf (good : Decl → Prop) (sound : Stmt → Prop) (excused : Prop)
    (body : FunctionBody) : Prop where
  /-- The declarations are good. -/
  declarations : ∀ decl ∈ body.declarations, good decl
  /-- The statements are sound. -/
  statements : ∀ stmt ∈ body.statements, sound stmt
  /-- A statement was read, or there is an excuse. -/
  begun : body.hasStatement = true → body.statements = [] → excused

/--
Rules by which all declarations that are read are good and all statements in them sound, one for
each form of a declaration.  A function without a statement needs an excuse, and a spoiled reading
is one.
-/
structure Rules (trait : Token → Prop) (spoiled excused : Prop) (good : BodyKind → Decl → Prop)
    (sound : Stmt → Prop) : Prop where
  /-- A spoiled reading is an excuse. -/
  lost : spoiled → excused
  /-- Variables are good everywhere. -/
  definitions (room : Nat) :
    Yields trait spoiled (variableDefinition room) fun decl => ∀ place, good place decl
  /-- Variables from outside are good in functions. -/
  outer : Yields trait spoiled outerVariable (good .ofFunction)
  /-- Statements are sound, and a line without one is an excuse. -/
  statements (room : Nat) (inside : room ≤ nestingLimit) :
    Yields trait spoiled (statement (expression room) (block room))
      fun read => (∀ stmt ∈ read, sound stmt) ∧ (read = none → excused)
  /-- Classes are good in programs, if their members are good. -/
  classes : Yields trait spoiled classHeader fun header => ∀ span members,
    (∀ decl ∈ members, good .ofClass decl) →
      good .program (.classDef (.ofSpan span) header.2.1 header.2.2 members)
  /-- Functions are good everywhere, if their declarations are good and their statements sound. -/
  functions (room : Nat) : Yields trait spoiled (functionHeading room) fun heading =>
    ∀ span declarations statements recovered, (∀ decl ∈ declarations, good .ofFunction decl) →
      (∀ stmt ∈ statements, sound stmt) → (recovered = true → spoiled) →
      (statements = [] → excused) → ∀ place,
        good place (.funcDef (.ofSpan span) heading declarations statements recovered)

/-- What is true of all items and of the one read behind them is true of all together. -/
theorem forall_mem_append_toList {good : α → Prop} {items : List α} {read : Option α}
    (before : ∀ item ∈ items, good item) (new : ∀ item ∈ read, good item) :
    ∀ item ∈ items ++ read.toList, good item := by
  simpa [or_imp, forall_and] using ⟨before, new⟩

section Members

variable {good : Decl → Prop}

theorem rejectNested_yields (decl : Decl) :
    Yields trait spoiled (rejectNested decl) fun read => ∀ decl ∈ read, good decl :=
  .bind .any fun _ _ => .pure nofun

variable {declaration : Parse (Option Decl)} [Forward declaration]
  (each : Yields trait spoiled declaration fun read => ∀ decl ∈ read, good decl)
include each

theorem classMember_yields :
    Yields trait spoiled (classMember declaration) fun read => ∀ decl ∈ read, good decl :=
  .bind .any fun _ _ => .ite (.bind .any fun _ _ => .pure nofun) (.look fun _ => .ite each .fail)

theorem classBody_yields :
    Recovering.Yields trait spoiled (body (classStep declaration) [])
      fun members => ∀ decl ∈ members, good decl :=
  body_yields (fun _ all => recovering_yields all ((classMember_yields each).bind
    fun _ new => .pure (forall_mem_append_toList all new))) nofun

end Members

theorem take_yields {good : Decl → Prop} {sound : Stmt → Prop} {excused : Prop}
    {body : FunctionBody} (made : body.MadeOf good sound excused) (read : Option Decl)
    (new : ∀ decl ∈ read, good decl) :
    Yields trait spoiled (body.take read) (FunctionBody.MadeOf good sound excused) := by
  cases read with
  | none => exact .pure made
  | some decl =>
      refine .ite (.bind .any fun _ _ => .pure made) (.pure ⟨?_, made.statements, made.begun⟩)
      exact forall_mem_append_toList made.declarations new

namespace Rules

variable {excused : Prop} {good : BodyKind → Decl → Prop} {sound : Stmt → Prop}
  (rules : Rules trait spoiled excused good sound)
include rules

section Declarations

variable {function : Parse Decl}
  (inner : Yields trait spoiled function fun decl => ∀ place, good place decl)

include inner in
theorem memberReader_yields [Forward function] (room bound : Nat) :
    Yields trait spoiled (memberReader room function bound)
      fun read => ∀ decl ∈ read, good .ofClass decl := by
  unfold memberReader
  refine .look fun kind => ?_
  split
  · exact inner.bind fun decl holds => .pure (by simpa using holds .ofClass)
  · exact Yields.any.bind fun decl _ => rejectNested_yields decl
  · exact (rules.definitions room).bind fun decl holds => .pure (by simpa using holds .ofClass)

variable [Forward function]
include inner

theorem classDefinition_yields (room bound : Nat) :
    Yields trait spoiled (classDefinition room function bound) (good .program) := by
  cases bound with
  | zero => exact .fail
  | succ bound =>
      rw [classDefinition_succ]
      have members := classBody_yields (rules.memberReader_yields inner room bound)
      exact rules.classes.bind fun header whole => (Yields.ofRecovering members).bind
        fun read all => .bind .any fun _ _ => .look fun span => .pure (whole span read all)

theorem classDeclaration_yields (room : Nat) :
    Yields trait spoiled (classDeclaration room function) (good .program) :=
  .look fun _ => rules.classDefinition_yields inner room _

theorem innerDeclaration_yields (room : Nat) :
    Yields trait spoiled (innerDeclaration room function)
      fun read => ∀ decl ∈ read, good .ofFunction decl := by
  unfold innerDeclaration
  refine .look fun kind => ?_
  split
  · exact inner.bind fun decl holds => .pure (by simpa using holds .ofFunction)
  · exact Yields.any.bind fun decl _ => rejectNested_yields decl
  · exact (rules.definitions room).bind fun decl holds => .pure (by simpa using holds .ofFunction)

end Declarations

theorem functionDeclaration_yields {inner : Parse (Option Decl)}
    (each : Yields trait spoiled inner fun read => ∀ decl ∈ read, good .ofFunction decl) :
    Yields trait spoiled (functionDeclaration inner)
      fun read => ∀ decl ∈ read, good .ofFunction decl := by
  unfold functionDeclaration
  refine .look fun kind => ?_
  split
  · exact rules.outer.bind fun decl holds => .pure (by simpa using holds)
  · exact rules.outer.bind fun decl holds => .pure (by simpa using holds)
  · exact each

theorem functionStep_yields {inner : Parse (Option Decl)} [Forward inner]
    (each : Yields trait spoiled inner fun read => ∀ decl ∈ read, good .ofFunction decl)
    {room : Nat} (inside : room ≤ nestingLimit) {body : FunctionBody}
    (made : body.MadeOf (good .ofFunction) sound excused) :
    Recovering.Yields trait spoiled
      (functionStep inner (statement (expression room) (block room)) body)
      (FunctionBody.MadeOf (good .ofFunction) sound excused) := by
  intro cursor
  rw [functionStep_apply]
  split
  · exact recovering_yields made ((rules.functionDeclaration_yields each).bind fun read new =>
      take_yields made read new) cursor
  · -- A statement in error leaves the body without it, but it leaves a problem, too.
    refine recovering_yields_of_spoiled
      (fun spoils => ⟨made.declarations, made.statements, fun _ _ => rules.lost spoils⟩)
      ((rules.statements room inside).bind fun read new => .pure ⟨made.declarations,
        forall_mem_append_toList made.statements new.1, fun _ none => new.2 ?_⟩) cursor
    simpa using (List.append_eq_nil_iff.mp none).2

/-- A function is good wherever it stands. -/
theorem functionDefinition_yields {room : Nat} (inside : room ≤ nestingLimit) :
    Yields trait spoiled (functionDefinition room) fun decl => ∀ place, good place decl := by
  induction room with
  | zero => exact .fail
  | succ room ih =>
      have inside := Nat.le_of_succ_le inside
      have inner := rules.innerDeclaration_yields (ih inside) room
      unfold functionDefinition
      have whole : Recovering.Yields trait spoiled
          (body (functionStep (innerDeclaration room (functionDefinition room))
            (statement (expression room) (block room))) {})
          (FunctionBody.MadeOf (good .ofFunction) sound excused) :=
        body_yields (fun _ made => rules.functionStep_yields inner inside made)
          ⟨nofun, nofun, nofun⟩
      refine .bind .any fun start _ => (rules.functions room).bind fun heading build =>
        .look fun before => (Yields.ofRecovering whole).bind fun read made => .bind .any fun _ _ =>
          .recovered before fun recovered lost => ?_
      have ending (excuse : read.statements = [] → excused) : Yields trait spoiled
          (do
            let span ← look (Cursor.spanFrom start.span)
            return Decl.funcDef (.ofSpan span) heading read.declarations read.statements recovered)
          fun decl => ∀ place, good place decl :=
        .look fun span =>
          .pure (build span _ _ _ made.declarations made.statements lost excuse)
      split
      · next known =>
          refine ending fun none => ?_
          rcases Bool.or_eq_true_iff.mp known with begun | problems
          · exact made.begun begun none
          · exact rules.lost (lost problems)
      · exact .record fun spoils => ending fun _ => rules.lost spoils

theorem topDeclaration_yields : Yields trait spoiled topDeclaration (good .program) := by
  have function := rules.functionDefinition_yields (Nat.le_refl nestingLimit)
  unfold topDeclaration
  refine .look fun kind => ?_
  split
  · exact function.mono fun decl holds => holds .program
  · exact rules.classDeclaration_yields function _
  · exact (rules.definitions _).mono fun decl holds => holds .program

end Rules
end Parse

/-! ## Programs -/

/-- What has been read of a program is made up of good declarations and sound statements. -/
structure ProgramBody.MadeOf (good : Decl → Prop) (sound : Stmt → Prop) (body : ProgramBody) :
    Prop where
  /-- The declarations are good. -/
  declarations : ∀ decl ∈ body.declarations, good decl
  /-- The statements are sound. -/
  statements : ∀ stmt ∈ body.statements, sound stmt

namespace Parse

variable {trait : Token → Prop} {spoiled excused : Prop} {good : BodyKind → Decl → Prop}
  {sound : Stmt → Prop}

theorem declareIn_yields {good : Decl → Prop} {body : ProgramBody} (made : body.MadeOf good sound)
    {decl : Decl} (new : good decl) :
    Yields trait spoiled (declareIn body decl) (ProgramBody.MadeOf good sound) := by
  refine .ite (.pure ⟨fun one among => ?_, made.statements⟩) (.bind .any fun _ _ => .pure made)
  rcases List.mem_append.mp among with before | behind
  · exact made.declarations one before
  · exact List.mem_singleton.mp behind ▸ new

theorem Rules.programStep_yields (rules : Rules trait spoiled excused good sound)
    {body : ProgramBody} (made : body.MadeOf (good .program) sound) :
    Recovering.Yields trait spoiled (programStep body)
      (ProgramBody.MadeOf (good .program) sound) := by
  intro cursor
  rw [programStep_apply]
  split
  · exact fun _ _ => made
  split
  · refine recovering_yields made ?_ cursor
    exact rules.topDeclaration_yields.bind fun decl new => declareIn_yields made new
  · refine recovering_yields made ?_ cursor
    exact (rules.statements _ (Nat.le_refl nestingLimit)).bind fun read new =>
      .pure ⟨made.declarations, forall_mem_append_toList made.statements new.1⟩

theorem Rules.programBody_yields (rules : Rules trait spoiled excused good sound) :
    Recovering.Yields trait spoiled programBody (ProgramBody.MadeOf (good .program) sound) := by
  have start : ProgramBody.MadeOf (good .program) sound {} := ⟨by simp, by simp⟩
  exact fun cursor => repeatUntil_yields (fun _ made => rules.programStep_yields made)
    cursor.ahead.length start cursor

end Parse
end ChocoLang
