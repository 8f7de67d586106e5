import ChocoLang.Proofs.Parsing.Enclosing

/-!
# Programs are read in rounds, each of which takes a token

The readers bound their repetitions by the number of tokens ahead.  Here the repetitions run without
a bound: a run goes on round by round until the cursor halts it, and every round leaves a token
behind.  Whatever the tokens are, if the last of them marks the end of the file, the program and all
bodies in it are read by such runs, no reader looks at a token that is not there, and the program is
read up to the first token that marks the end of the file.
-/

namespace ChocoLang

/-! ## Places in the tokens -/

/-- The place of the first token that marks the end of the file. -/
def firstEnd (tokens : List Token) : Nat := tokens.findIdx (·.kind == .endOfFile)

namespace Cursor

variable {tokens : List Token} {nonempty : tokens ≠ []} {cursor : Cursor}

theorem ahead_ofTokens_eq_take (nonempty : tokens ≠ []) :
    (ofTokens tokens nonempty).ahead = tokens.take (firstEnd tokens) := by
  simp only [ofTokens, firstEnd, List.takeWhile_eq_take_findIdx_not, bne, Bool.not_not]

section Ends

variable (ends : (tokens.getLast nonempty).kind = .endOfFile)
include ends

theorem firstEnd_lt_length : firstEnd tokens < tokens.length :=
  List.findIdx_lt_length.mpr ⟨_, List.getLast_mem nonempty, by rw [ends]; rfl⟩

theorem length_ahead_ofTokens : (ofTokens tokens nonempty).ahead.length = firstEnd tokens := by
  have inside := firstEnd_lt_length ends
  rw [ahead_ofTokens_eq_take, List.length_take]
  omega

theorem getElem?_firstEnd : tokens[firstEnd tokens]? = some (ofTokens tokens nonempty).ending := by
  have inside := firstEnd_lt_length ends
  have found : tokens.find? (·.kind == .endOfFile) = some tokens[firstEnd tokens] := by
    rw [List.find?_eq_some_iff_getElem]
    refine ⟨List.findIdx_getElem (w := inside), _, inside, rfl, fun earlier before => ?_⟩
    simpa using List.not_of_lt_findIdx before
  rw [List.getElem?_eq_getElem inside]
  simp only [ofTokens, found, Option.getD_some]

theorem closed_ofTokens : (ofTokens tokens nonempty).Closed := by
  have inside := firstEnd_lt_length ends
  have place := getElem?_firstEnd ends
  rw [List.getElem?_eq_getElem inside] at place
  have marks : (tokens[firstEnd tokens].kind == TokenKind.endOfFile) = true :=
    List.findIdx_getElem (p := fun token : Token => token.kind == .endOfFile) (w := inside)
  rw [Option.some.inj place] at marks
  exact beq_iff_eq.mp marks

variable (onward : (ofTokens tokens nonempty).Onward cursor)
include onward

theorem position_add_length : cursor.position + cursor.ahead.length = firstEnd tokens := by
  rw [onward.position, length_ahead_ofTokens ends]
  exact Nat.zero_add _

theorem ahead_eq_drop : cursor.ahead = (tokens.take (firstEnd tokens)).drop cursor.position := by
  have counted := position_add_length ends onward
  have place := List.suffix_iff_eq_drop.mp onward.ahead
  rw [length_ahead_ofTokens ends, ahead_ofTokens_eq_take nonempty] at place
  rw [place]
  congr 1
  omega

/-- The token at the cursor is the one at its place, wherever in the tokens it stands. -/
theorem getElem?_position : tokens[cursor.position]? = some cursor.current := by
  have counted := position_add_length ends onward
  have place := ahead_eq_drop ends onward
  cases shape : cursor.ahead with
  | nil =>
      have last : cursor.position = firstEnd tokens := by simpa [shape] using counted
      rw [last, getElem?_firstEnd ends, ← onward.ending, current, shape]
      rfl
  | cons token rest =>
      have before : cursor.position < firstEnd tokens := by
        rw [shape, List.length_cons] at counted
        omega
      have head : (cursor.ahead)[0]? = some token := by rw [shape]; rfl
      rw [place, List.getElem?_drop, Nat.add_zero, List.getElem?_take_of_lt before] at head
      rw [head, current, shape]
      rfl

/-- Before the end of the file there is also a token behind the one at the cursor. -/
theorem getElem?_position_succ (more : cursor.atEnd = false) :
    tokens[cursor.position + 1]? = some cursor.advance.current := by
  have next := getElem?_position ends (onward.trans (Onward.advance cursor))
  have moved : cursor.advance.position = cursor.position + 1 := by
    unfold atEnd at more
    unfold advance
    cases shape : cursor.ahead with
    | nil => simp [shape] at more
    | cons token rest => rfl
  rwa [moved] at next

end Ends
end Cursor

namespace Parse

variable {σ : Type}

/-! ## Runs -/

/--
A run of steps from a state at a cursor to another state at another cursor.  It is as long as the
cursor lets it be, and each of its rounds leaves a token behind.
-/
inductive Run (halt : Cursor → Bool) (step : σ → Recovering σ) :
    σ → Cursor → σ × Cursor → Prop where
  /-- The cursor ends the run. -/
  | halted {state : σ} {cursor : Cursor} (halts : halt cursor = true) :
      Run halt step state cursor (state, cursor)
  /-- Otherwise a step is made, and the run goes on behind it. -/
  | round {state : σ} {cursor : Cursor} {final : σ × Cursor} (goesOn : halt cursor = false)
      (passes : cursor.position < (step state cursor).2.position)
      (later : Run halt step (step state cursor).1 (step state cursor).2 final) :
      Run halt step state cursor final

namespace Run

variable {halt : Cursor → Bool} {step : σ → Recovering σ} {state : σ} {cursor : Cursor}
  {final : σ × Cursor}

theorem halts (run : Run halt step state cursor final) : halt final.2 = true := by
  induction run with
  | halted halts => exact halts
  | round goesOn passes later ih => exact ih

end Run

/-- Fewer tokens ahead are more tokens behind. -/
theorem position_lt_of_shortens {reader : Recovering σ} [Recovering.Forward reader]
    {cursor : Cursor} (shortens : (reader cursor).2.ahead.length < cursor.ahead.length) :
    cursor.position < (reader cursor).2.position := by
  have counted := (Recovering.onward_snd reader cursor).position
  omega

/-- With a step that takes a token each time, a repetition is a run. -/
theorem run_repeatUntil {halt : Cursor → Bool} {step : σ → Recovering σ}
    [∀ state, Recovering.Forward (step state)]
    (halts : ∀ cursor : Cursor, cursor.ahead = [] → halt cursor = true)
    (advances : ∀ (state : σ) (cursor : Cursor), cursor.Closed → halt cursor = false →
      (step state cursor).2.ahead.length < cursor.ahead.length)
    {bound : Nat} {state : σ} {cursor : Cursor} (closed : cursor.Closed)
    (enough : cursor.ahead.length ≤ bound) :
    Run halt step state cursor (repeatUntil halt step bound state cursor) := by
  induction bound generalizing state cursor with
  | zero =>
      have halted := halts cursor (List.eq_nil_of_length_eq_zero (Nat.le_zero.mp enough))
      rw [repeatUntil_of_halt halted]
      exact .halted halted
  | succ bound ih =>
      cases goesOn : halt cursor with
      | true =>
          rw [repeatUntil_of_halt goesOn]
          exact .halted goesOn
      | false =>
          have fewer := advances state cursor closed goesOn
          have behind := (Recovering.onward_snd (step state) cursor).closed closed
          rw [repeatUntil_of_goesOn goesOn]
          exact .round goesOn (position_lt_of_shortens fewer) (ih behind (by omega))

/-- The members of a body are read in a run. -/
theorem run_body {step : σ → Recovering σ} [∀ state, Recovering.Forward (step state)]
    (advances : ∀ (state : σ) (cursor : Cursor), cursor.Closed → cursor.atBodyEnd = false →
      (step state cursor).2.ahead.length < cursor.ahead.length)
    (state : σ) {cursor : Cursor} (closed : cursor.Closed) :
    Run Cursor.atBodyEnd step state cursor (body step state cursor) :=
  run_repeatUntil (fun cursor none => by simp [Cursor.atBodyEnd, Cursor.atEnd, none]) advances
    closed (Nat.le_refl _)

/-! ## The loops of a program -/

/-- Reads one statement of a block, with room for so many levels of nesting. -/
def blockRound (room : Nat) : List Stmt → Recovering (List Stmt) :=
  blockStep (statement (expression room) (block room))

/-- Reads one declaration or statement of a function, with room for so many levels of nesting. -/
def functionRound (room : Nat) : FunctionBody → Recovering FunctionBody :=
  functionStep (innerDeclaration room (functionDefinition room))
    (statement (expression room) (block room))

/-- Reads one member of a class, in which at most `bound` classes lie one within the other. -/
def classRound (room bound : Nat) : List Decl → Recovering (List Decl) :=
  classStep (memberReader room (functionDefinition room) bound)

section Loops

variable {cursor : Cursor} (closed : cursor.Closed)
include closed

theorem run_program :
    Run Cursor.atEnd programStep {} cursor (programBody cursor) :=
  run_repeatUntil (fun cursor none => by simp [Cursor.atEnd, none])
    (fun read _ closed more => programStep_shortens read closed more) closed (Nat.le_refl _)

theorem run_block (room : Nat) (statements : List Stmt) :
    Run Cursor.atBodyEnd (blockRound room) statements cursor
      (body (blockRound room) statements cursor) := by
  unfold blockRound
  refine run_body (fun statements _ closed more => ?_) statements closed
  exact blockStep_shortens more (statement_opens (expression_opens closed room)) statements

theorem run_function (room : Nat) (read : FunctionBody) :
    Run Cursor.atBodyEnd (functionRound room) read cursor
      (body (functionRound room) read cursor) := by
  unfold functionRound
  refine run_body (fun read _ closed more => ?_) read closed
  exact functionStep_shortens more (innerDeclaration_opens room (functionDefinition_opens room))
    (statement_opens (expression_opens closed room)) read

theorem run_class (room bound : Nat) (members : List Decl) :
    Run Cursor.atBodyEnd (classRound room bound) members cursor
      (body (classRound room bound) members cursor) := by
  unfold classRound
  refine run_body (fun members _ _ more => ?_) members closed
  exact classStep_shortens more (memberReader_opens room (functionDefinition_opens room) bound)
    members

end Loops

/-! ## Reading from the first token to the end -/

/--
Started at a cursor in some tokens, the readers need no bounds.  The program and all bodies in it
are read in runs, the bounds of all other repetitions are immaterial, and wherever a reader may get,
the token at the cursor and the one behind it are there to be looked at.
-/
structure ReadsInRuns (tokens : List Token) (start : Cursor) : Prop where
  /-- The program is read in a run. -/
  program : Run Cursor.atEnd programStep {} start (programBody start)
  /-- A block is read in a run, wherever it begins. -/
  block (room : Nat) :
    block (room + 1) = enclosed .block (body (blockRound room) []) ∧
      ∀ cursor, start.Onward cursor →
        Run Cursor.atBodyEnd (blockRound room) [] cursor (body (blockRound room) [] cursor)
  /-- The body of a function is read in a run, wherever it begins. -/
  function (room : Nat) :
    functionBody room = enclosed .functionBody (body (functionRound room) {}) ∧
      ∀ cursor, start.Onward cursor →
        Run Cursor.atBodyEnd (functionRound room) {} cursor (body (functionRound room) {} cursor)
  /-- The body of a class is read in a run, wherever it begins. -/
  classes (room bound : Nat) :
    classDefinition room (functionDefinition room) (bound + 1) = (do
      let (start, name, superclass) ← classSignature
      let members ← enclosed .classBody (body (classRound room bound) [])
      return .classDef (.ofSpan (← look (Cursor.spanFrom start))) name superclass members) ∧
      ∀ cursor, start.Onward cursor →
        Run Cursor.atBodyEnd (classRound room bound) [] cursor
          (body (classRound room bound) [] cursor)
  /-- Classes within classes do not come to their bound. -/
  nested (room bound other : Nat) (cursor : Cursor) : start.Onward cursor →
    cursor.ahead.length < bound → cursor.ahead.length < other →
      classDefinition room (functionDefinition room) bound cursor =
        classDefinition room (functionDefinition room) other cursor
  /-- Chains of conditions do not come to their bound. -/
  arms (room bound other : Nat) (cursor : Cursor) : start.Onward cursor →
    cursor.ahead.length < bound → cursor.ahead.length < other →
      furtherArms (expression room) (Parse.block room) bound cursor =
        furtherArms (expression room) (Parse.block room) other cursor
  /-- Lists of expressions do not come to their bound. -/
  items (separator : Symbol) (room bound other : Nat) (cursor : Cursor) : start.Onward cursor →
    cursor.ahead.length ≤ bound → cursor.ahead.length ≤ other →
      furtherItems (.symbol separator) (expression room) bound cursor =
        furtherItems (.symbol separator) (expression room) other cursor
  /-- Lists of parameters do not come to their bound. -/
  parameters (room bound other : Nat) (cursor : Cursor) : start.Onward cursor →
    cursor.ahead.length ≤ bound → cursor.ahead.length ≤ other →
      furtherItems (.symbol .comma) (typedVar room) bound cursor =
        furtherItems (.symbol .comma) (typedVar room) other cursor
  /-- The token at the cursor is there. -/
  current (cursor : Cursor) : start.Onward cursor →
    tokens[cursor.position]? = some cursor.current
  /-- The token behind the one at the cursor is there, unless the file ends. -/
  next (cursor : Cursor) : start.Onward cursor → cursor.atEnd = false →
    tokens[cursor.position + 1]? = some cursor.advance.current

/--
Tokens of which the last marks the end of the file are read in runs, up to the first of them that
marks the end of the file.
-/
theorem readsInRuns_ofTokens (file : String) (known : List Diagnostic) (tokens : List Token)
    (nonempty : tokens ≠ []) (ends : (tokens.getLast nonempty).kind = .endOfFile) :
    let start := Cursor.ofTokens tokens nonempty
    ReadsInRuns tokens start ∧
      (start.readProgram file known).2.position = firstEnd tokens ∧
      (start.readProgram file known).2.current.kind = .endOfFile := by
  intro start
  have closed : start.Closed := Cursor.closed_ofTokens ends
  have further (cursor : Cursor) (onward : start.Onward cursor) : cursor.Closed :=
    onward.closed closed
  have whole := run_program closed
  have moved : start.Onward (programBody start).2 :=
    Recovering.onward_snd (repeatUntil Cursor.atEnd programStep start.ahead.length {}) start
  have none : (programBody start).2.ahead = [] := by
    simpa only [Cursor.atEnd, List.isEmpty_iff] using whole.halts
  have counted := Cursor.position_add_length ends moved
  rw [none] at counted
  refine ⟨⟨whole, ?_, ?_, ?_, ?_, ?_, ?_, ?_, ?_, ?_⟩, counted, ?_⟩
  · exact fun room => ⟨rfl, fun cursor onward => run_block (further cursor onward) room []⟩
  · exact fun room => ⟨rfl, fun cursor onward => run_function (further cursor onward) room {}⟩
  · exact fun room bound => ⟨classDefinition_enclosed room _ bound,
      fun cursor onward => run_class (further cursor onward) room bound []⟩
  · exact fun room bound other cursor onward =>
      classDefinition_bound room (further cursor onward)
  · exact fun room bound other cursor onward => furtherArms_bound (further cursor onward)
  · exact fun separator room bound other cursor onward => furtherItems_bound (by simp)
  · exact fun room bound other cursor onward => furtherItems_bound (by simp)
  · exact fun cursor onward => Cursor.getElem?_position ends onward
  · exact fun cursor onward => Cursor.getElem?_position_succ ends onward
  · change (programBody start).2.current.kind = _
    unfold Cursor.current
    rw [none]
    exact moved.closed closed

/-- Stray layout, a class without a name, and tokens behind an end of the file. -/
def strayTokens : List Token :=
  [.dedent, .keyword .kwClass, .indent, .symbol .leftParen, .newline, .dedent, .indent, .endOfFile,
    .keyword .kwDef, .indent, .endOfFile].map
    fun kind => { kind, value := .absent, span := .point "stray.choc" 1 1 }

/-- Stray tokens are passed up to the first end of the file, though more tokens are behind it. -/
theorem readsInRuns_strayTokens :
    let start := Cursor.ofTokens strayTokens (by decide)
    (strayTokens.getLast (by decide)).kind = .endOfFile ∧
      ReadsInRuns strayTokens start ∧
      (start.readProgram "stray.choc" []).2.position = 7 ∧
      (start.readProgram "stray.choc" []).2.current.kind = .endOfFile := by
  have ends : (strayTokens.getLast (by decide)).kind = .endOfFile := by decide
  have first : firstEnd strayTokens = 7 := by decide
  exact ⟨ends, first ▸ readsInRuns_ofTokens "stray.choc" [] strayTokens (by decide) ends⟩

end Parse
end ChocoLang
