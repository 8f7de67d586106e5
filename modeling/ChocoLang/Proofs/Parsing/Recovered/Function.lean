import ChocoLang.Proofs.Parsing.Containment
import ChocoLang.Proofs.Parsing.Recovered.Statement
import ChocoLang.Proofs.Syntax.Labels

/-!
# Functions account for their bodies

A function stands at a place in the tokens of the program.  Problems are found when its body is read
if and only if they are needed to account for the code there: this is what the function tells of
itself.  What is declared in a body accounts for its tokens as statements do, but a class or a late
declaration, which is read and left out, is accounted for by its problem.
-/

namespace ChocoLang

open Parse

/-! ## Where a function stands -/

/-- Where the declarations and statements in a body stand. -/
def Parse.FunctionBody.spans (body : FunctionBody) : List Span :=
  Decl.spansIn body.declarations ++ Stmt.spansIn body.statements

/-- The body behind the cursor stands in a block up to the place, and was read so. -/
structure Parse.BodyReading.Stands (reading : BodyReading) (sheet : Sheet) (room : Nat)
    (signed : Cursor) (close : Nat) : Prop where
  on : signed.On sheet
  newline : (sheet.token signed.position).kind = .newline
  indent : (sheet.token (signed.position + 1)).kind = .indent
  whole : sheet.Whole (signed.position + 2) close
  dedent : (sheet.token close).kind = .dedent
  reads : reading.Of room signed (sheet.tokens.drop (close + 1))
  /-- With the problems, what is read accounts for the body. -/
  account : sheet.Account (sheet.level (signed.position + 2)) (signed.position + 2) close
    reading.content.spans reading.problems

/-- Where a function stands among the tokens of a program, and how its body was read. -/
structure Footing where
  /-- The place of the word that begins it. -/
  word : Nat
  /-- The room for nesting in the body. -/
  room : Nat
  /-- The cursor at the end of the first line. -/
  signed : Cursor
  /-- What reading the body came to. -/
  reading : BodyReading
  /-- The place of the end of the body. -/
  close : Nat

/-- The function stands there, and its body was read so. -/
structure Footing.Holds (footing : Footing) (sheet : Sheet) (known : List (Located SyntaxError))
    (function : FunctionDef) : Prop where
  word : (sheet.token footing.word).kind = .keyword .kwDef
  name : (sheet.token (footing.word + 1)).span = function.heading.name.info.span
  further : footing.word + 1 < footing.signed.position
  text : ∀ place, footing.word ≤ place → place < footing.signed.position → sheet.Text place
  body : footing.reading.Stands sheet footing.room footing.signed footing.close
  known : ∀ problem ∈ footing.reading.problems, problem ∈ known
  declarations : function.declarations = footing.reading.content.declarations
  statements : function.statements = footing.reading.content.statements
  /-- The function tells that problems were found. -/
  recovered : function.recovered = true ↔ footing.reading.problems ≠ []

/-- All functions of some declarations stand somewhere, and the cursor knows their problems. -/
def Cursor.Grounds (sheet : Sheet) (decls : List Decl) (cursor : Cursor) : Prop :=
  ∀ function ∈ functionDefsIn decls, ∃ footing : Footing,
    footing.Holds sheet cursor.problems function

namespace Cursor

variable {sheet : Sheet} {cursor after : Cursor} {decls others : List Decl}

theorem Grounds.later (grounds : cursor.Grounds sheet decls)
    (further : cursor.problems <+: after.problems) : after.Grounds sheet decls := by
  intro function among
  obtain ⟨footing, holds⟩ := grounds function among
  exact ⟨footing, { holds with
    known := fun problem found => further.subset (holds.known problem found) }⟩

theorem Grounds.advance (grounds : cursor.Grounds sheet decls) :
    cursor.advance.Grounds sheet decls :=
  grounds.later (by simp [problems_advance])

theorem Grounds.nil (cursor : Cursor) : cursor.Grounds sheet [] :=
  fun _ among => absurd among List.not_mem_nil

theorem Grounds.append (grounds : cursor.Grounds sheet decls)
    (grounds' : cursor.Grounds sheet others) : cursor.Grounds sheet (decls ++ others) := by
  intro function among
  obtain ⟨decl, chosen, inside⟩ := mem_functionDefsIn.mp among
  rcases List.mem_append.mp chosen with first | second
  · exact grounds function (mem_functionDefsIn.mpr ⟨decl, first, inside⟩)
  · exact grounds' function (mem_functionDefsIn.mpr ⟨decl, second, inside⟩)

/-- A declaration that defines no function says nothing of any. -/
theorem Grounds.of_nil {decl : Decl} (none : decl.functionDefs = []) (cursor : Cursor) :
    cursor.Grounds sheet [decl] :=
  fun _ among => by simp [functionDefsIn, none] at among

end Cursor

namespace Parse

variable {sheet : Sheet} {start : Cursor}

/-! ## Declarations of one line -/

theorem variableDefinition_finishes (room : Nat) (on : start.On sheet) :
    Carries (· = start) (variableDefinition room)
      fun decl cursor => decl.functionDefs = [] ∧ start.Finishes sheet decl.spans cursor :=
  .atStart ((Carries.begin on (typedVar_opens room start)).bind fun _ => Carries.text.bind fun _ =>
    Carries.text.bind fun _ => .cover fun _ => Carries.lineEnd.bind fun _ =>
      .pure fun _ finishes => ⟨rfl, finishes⟩)

theorem outerVariable_finishes (on : start.On sheet) (text : start.kind.isLayout = false) :
    Carries (· = start) outerVariable
      fun decl cursor => decl.functionDefs = [] ∧ start.Finishes sheet decl.spans cursor :=
  .word on text (Carries.text.bind fun _ => .cover fun _ => Carries.lineEnd.bind fun _ =>
    .ite (fun _ => .pure fun _ finishes => ⟨rfl, finishes⟩)
      fun _ => .pure fun _ finishes => ⟨rfl, finishes⟩)

/-! ## Rounds -/

section Rounds

variable {σ : Type} (decls : σ → List Decl)

/-- The cursor stands in the tokens and knows what was found in the functions. -/
def OnGround (sheet : Sheet) (decls : List Decl) (cursor : Cursor) : Prop :=
  cursor.On sheet ∧ cursor.Grounds sheet decls

theorem OnGround.moves {cursor after : Cursor} {decls : List Decl}
    (stands : OnGround sheet decls cursor) (moves : cursor.Moves after) :
    OnGround sheet decls after :=
  ⟨stands.1.moves moves, stands.2.later moves.onward.problems⟩

/-- A round keeps the functions that were read before it. -/
theorem recovering_grounds {state : σ} {reader : Parse σ} [Forward reader]
    (carries : Carries (OnGround sheet (decls state)) reader
      fun state cursor => cursor.Grounds sheet (decls state)) :
    Recovering.Carries (OnGround sheet (decls state)) (recovering state reader)
      fun state => OnGround sheet (decls state) :=
  recovering_carries (fun state => OnGround sheet (decls state))
    (fun stands moves => stands.moves moves) fun cursor value after stands ok =>
      ⟨stands.1.moves (moves_of_ok ok), carries cursor value after stands ok⟩

end Rounds

/-! ## Classes -/

/-- The reader of functions accounts for what it reads. -/
def FunctionsAccounted (sheet : Sheet) (function : Parse Decl) : Prop :=
  ∀ start : Cursor, start.On sheet → start.kind = .keyword .kwDef →
    Carries (· = start) function fun decl cursor =>
      cursor.Grounds sheet [decl] ∧ start.Finishes sheet decl.spans cursor

section Classes

variable (room : Nat) {function : Parse Decl} (functions : FunctionsAccounted sheet function)
include functions

theorem memberReader_grounds (bound : Nat) (on : start.On sheet) :
    Carries (· = start) (memberReader room function bound)
      fun read cursor => cursor.Grounds sheet read.toList := by
  refine .atStart ?_
  split
  · next kind => exact (functions start on kind).bind fun decl => .pure fun _ stands => stands.1
  · rintro _ read final rfl ok
    obtain ⟨decl, middle, -, ok⟩ := exists_of_bind ok
    cases ok
    exact .nil _
  · exact (variableDefinition_finishes room on).bind fun decl =>
      .pure fun cursor finishes => .of_nil finishes.1 cursor

theorem classMember_grounds (bound : Nat) :
    Carries (Cursor.On sheet) (classMember (memberReader room function bound))
      fun read cursor => cursor.Grounds sheet read.toList := by
  intro cursor read final on ok
  by_cases pass : cursor.kind = .keyword .kwPass
  · rw [classMember, bind_of_ok (accept_of_kind pass)] at ok
    obtain ⟨_, middle, -, ok⟩ := exists_of_bind ok
    cases ok
    exact .nil _
  · rw [classMember, bind_of_ok (accept_of_ne pass)] at ok
    change (if cursor.atDeclaration = true then _ else _ : Parse (Option Decl)) cursor = _ at ok
    split at ok
    · exact memberReader_grounds room functions bound on cursor read final rfl ok
    · cases ok

theorem classStep_grounds [Forward function] (bound : Nat) (members : List Decl) :
    Recovering.Carries (OnGround sheet members)
      (classStep (memberReader room function bound) members) (OnGround sheet) := by
  refine recovering_grounds id fun cursor value final stands ok => ?_
  obtain ⟨read, middle, member, ok⟩ := exists_of_bind ok
  cases ok
  have further := (onward_of_ok member).problems
  exact (stands.2.later further).append
    (classMember_grounds room functions bound cursor read final stands.1 member)

/-- The functions of a class stand somewhere among the tokens. -/
theorem classDefinition_grounds [Forward function] [PassesFrom PassesBlocks function]
    (opens : ∀ cursor : Cursor, cursor.kind = .keyword .kwDef → Opens function cursor)
    (bound : Nat) (on : start.On sheet) :
    Carries (· = start) (classDefinition room function bound)
      fun decl cursor => cursor.Grounds sheet [decl] ∧ cursor.kind ≠ .newline := by
  cases bound with
  | zero => exact .fail
  | succ bound =>
      rintro cursor decl final rfl ok
      rw [classDefinition_enclosed] at ok
      obtain ⟨⟨word, name, superclass⟩, signed, signature, ok⟩ := exists_of_bind ok
      obtain ⟨members, after, read, ok⟩ := exists_of_bind ok
      cases ok
      have on' := on.moves (moves_of_ok signature)
      have passes := memberReader_passes room bound (classDefinition_passes room opens bound)
      have encloses := encloses_of_ok
        (fun _ closed => atBodyEnd_classBody room opens bound closed) on' read
      have grounds : final.Grounds sheet members := by
        have inner := body_carries (classStep_grounds room functions bound) [] _
          ⟨on'.advance.advance, .nil _⟩
        rw [encloses.value, encloses.after]
        exact inner.2.advance
      refine ⟨?_, encloses.fresh on'⟩
      simpa [Cursor.Grounds, functionDefsIn, Decl.functionDefs] using grounds

end Classes

/-! ## Declarations in a function -/

/-- A declaration that is read and left out is accounted for by its problem. -/
theorem finishes_record {cursor : Cursor} (code : sheet.Code start.position) (on : cursor.On sheet)
    (further : start.problems <+: cursor.problems)
    (whole : sheet.Whole start.position cursor.position) (moved : start.position < cursor.position)
    (fresh : cursor.kind ≠ .newline) (problem : Located SyntaxError) :
    start.Finishes sheet [] (cursor.record problem) := by
  obtain ⟨found, problems⟩ := further
  have known : (cursor.record problem).problems = start.problems ++ (found ++ [problem]) := by
    rw [← List.append_assoc, problems]
    rfl
  exact ⟨⟨on.moves (.record .refl problem), whole, _, known,
    .dropped code (Nat.le_refl _) moved (Int.le_refl _) (by simp)⟩, fresh⟩

/-- A declaration of a function begins with code. -/
theorem code_of_atFunctionDeclaration (on : start.On sheet)
    (declares : atFunctionDeclaration start = true) : sheet.Code start.position := by
  have kinds : start.kind.isLayout = false ∧ start.kind ≠ .keyword .kwPass := by
    simp only [atFunctionDeclaration, Cursor.atDeclaration, Bool.or_eq_true, beq_iff_eq] at declares
    rcases declares with (kind | kind) | declares
    · rw [kind]; decide
    · rw [kind]; decide
    · split at declares
      · next kind => rw [kind]; decide
      · next kind => rw [kind]; decide
      · next kind _ => rw [kind]; decide
      · cases declares
  rw [on.kind] at kinds
  exact Sheet.Text.code kinds.1 kinds.2

instance (room : Nat) (read : FunctionBody) : Recovering.Forward (functionRound room read) := by
  unfold functionRound; infer_instance

section Functions

variable (room : Nat) (functions : FunctionsAccounted sheet (functionDefinition room))
include functions

/-- A class in a function is read and left out. -/
theorem nestedClass_finishes (on : start.On sheet) (kind : start.kind = .keyword .kwClass) :
    Carries (· = start) (classDeclaration room (functionDefinition room) >>= rejectNested)
      fun read cursor => read = none ∧ start.Finishes sheet [] cursor := by
  rintro cursor _ final rfl ok
  obtain ⟨decl, middle, read, ok⟩ := exists_of_bind ok
  cases ok
  change classDefinition room (functionDefinition room) (cursor.ahead.length + 1) cursor = _ at read
  generalize cursor.ahead.length + 1 = bound at read
  have opens (cursor : Cursor) (stands : cursor.kind = .keyword .kwDef) :=
    functionDefinition_opens room stands
  have passes : PassesBlocks cursor.ahead
      ((classDefinition room (functionDefinition room) bound).stop cursor).ahead :=
    (classDefinition_passes room opens bound).passed cursor on.closed (by rw [kind]; rfl)
  rw [stop_of_ok read] at passes
  have on' := on.moves (moves_of_ok read)
  have fresh := (classDefinition_grounds room functions opens bound on _ _ _ rfl read).2
  have text : sheet.Text cursor.position := by rw [Sheet.Text, ← on.kind, kind]; rfl
  have moved := position_lt_of_ok (classDefinition_opens room bound kind) read
  exact ⟨rfl, finishes_record (text.code (by simp [← on.kind, kind])) on'
    (onward_of_ok read).problems (on.whole_of_passes on' passes) moved fresh _⟩

theorem functionDeclaration_finishes (on : start.On sheet) :
    Carries (· = start) (functionDeclaration (innerDeclaration room (functionDefinition room)))
      fun read cursor => cursor.Grounds sheet read.toList ∧
        start.Finishes sheet (Decl.spansIn read.toList) cursor := by
  have single {reader : Parse Decl} (carries : Carries (· = start) reader fun decl cursor =>
      cursor.Grounds sheet [decl] ∧ start.Finishes sheet decl.spans cursor) :
      Carries (· = start) (reader >>= fun decl => pure (some decl)) fun read cursor =>
        cursor.Grounds sheet read.toList ∧
          start.Finishes sheet (Decl.spansIn read.toList) cursor :=
    carries.bind fun decl => .pure fun _ holds => ⟨holds.1, by simpa [Decl.spansIn] using holds.2⟩
  have plain {reader : Parse Decl} (carries : Carries (· = start) reader fun decl cursor =>
      decl.functionDefs = [] ∧ start.Finishes sheet decl.spans cursor) :=
    single (carries.mono fun decl cursor holds => ⟨.of_nil holds.1 cursor, holds.2⟩)
  refine .atStart ?_
  split
  · next kind => exact plain (outerVariable_finishes on (by rw [kind]; rfl))
  · next kind => exact plain (outerVariable_finishes on (by rw [kind]; rfl))
  · refine .atStart ?_
    split
    · next kind => exact single (functions start on kind)
    · next kind =>
        refine (nestedClass_finishes room functions on kind).mono ?_
        rintro _ cursor ⟨rfl, finishes⟩
        exact ⟨.nil cursor, finishes⟩
    · exact plain (variableDefinition_finishes room on)

/-! ## Bodies of functions -/

/-- A declaration is added to a body, or left out behind a statement. -/
theorem take_accounted (body : FunctionBody) (on : start.On sheet)
    (declares : atFunctionDeclaration start = true) :
    Carries (· = start) (do
        body.take (← functionDeclaration (innerDeclaration room (functionDefinition room))))
      fun value after => Accounted sheet FunctionBody.spans body start (value, after) := by
  rintro cursor value final rfl ok
  obtain ⟨read, middle, read', ok⟩ := exists_of_bind ok
  obtain ⟨-, finishes⟩ :=
    functionDeclaration_finishes room functions on cursor read middle rfl read'
  have moved := position_lt_of_ok (functionDeclaration_opens
    (innerDeclaration_opens room (functionDefinition_opens room))) read'
  cases read with
  | none =>
      cases ok
      exact ⟨[], finishes, by simp⟩
  | some decl =>
      change (if body.hasStatement = true then _ else _ : Parse FunctionBody) middle = _ at ok
      split at ok
      · cases ok
        exact ⟨[], finishes_record (code_of_atFunctionDeclaration on declares) finishes.on
          (onward_of_ok read').problems finishes.whole moved finishes.fresh _, by simp⟩
      · cases ok
        refine ⟨_, finishes, fun part => ?_⟩
        simp only [FunctionBody.spans, Decl.spansIn_append, List.mem_append, Option.toList_some]
        tauto

theorem functionRound_accounted (body : FunctionBody) (on : start.On sheet)
    (fresh : start.kind ≠ .newline) (more : start.atBodyEnd = false) :
    Accounted sheet FunctionBody.spans body start (functionRound room body start) := by
  have passes := innerDeclaration_passes room fun _ => functionDefinition_opens room
  rw [functionRound, functionStep_apply]
  split
  · next declares =>
      exact accounted_recovering on more (take_accounted room functions body on declares)
        fun _ _ _ => excused_of_code (code_of_atFunctionDeclaration on declares)
  · change Accounted sheet FunctionBody.spans { body with hasStatement := true } start _
    refine accounted_recovering on more ?_ fun problem after failed =>
      statement_excused on fresh more (error_of_bind_pure failed)
    refine (statement_finishes (blocks_accounted room) on (expression_opens on.closed room)).bind
      fun read => .pure fun _ finishes => ⟨_, finishes, fun part => ?_⟩
    simp [FunctionBody.spans, or_assoc]

theorem take_grounds (body : FunctionBody) :
    Carries (OnGround sheet body.declarations) (do
        body.take (← functionDeclaration (innerDeclaration room (functionDefinition room))))
      fun read cursor => cursor.Grounds sheet read.declarations := by
  intro cursor value final stands ok
  obtain ⟨read, middle, read', ok⟩ := exists_of_bind ok
  obtain ⟨grounds, -⟩ :=
    functionDeclaration_finishes room functions stands.1 cursor read middle rfl read'
  have before := stands.2.later (onward_of_ok read').problems
  cases read with
  | none =>
      cases ok
      exact before
  | some decl =>
      change (if body.hasStatement = true then _ else _ : Parse FunctionBody) middle = _ at ok
      split at ok
      · cases ok
        exact before.later (List.prefix_append _ _)
      · cases ok
        exact before.append grounds

theorem functionRound_grounds (body : FunctionBody) :
    Recovering.Carries (OnGround sheet body.declarations) (functionRound room body)
      fun read => OnGround sheet read.declarations := by
  intro cursor stands
  rw [functionRound, functionStep_apply]
  split
  · exact recovering_grounds FunctionBody.declarations (take_grounds room functions body) cursor
      stands
  · refine recovering_grounds FunctionBody.declarations (fun cursor value final stands ok => ?_)
      cursor stands
    obtain ⟨read, middle, read', ok⟩ := exists_of_bind ok
    cases ok
    exact stands.2.later (onward_of_ok read').problems

/-- The body of a function is read with an account of it. -/
theorem functionBody_stands {signed after : Cursor} {read : FunctionBody} (on : signed.On sheet)
    (ok : functionBody room signed = .ok read after) :
    ∃ problems close, BodyReading.Stands ⟨read, problems, after.last⟩ sheet room signed close ∧
      after.problems = signed.problems ++ problems ∧ after.kind ≠ .newline ∧
      after.Grounds sheet read.declarations ∧
      signed.Accounts sheet (sheet.level signed.position + 1) read.spans after := by
  have passes := innerDeclaration_passes room fun _ => functionDefinition_opens room
  have encloses : Encloses (body (functionRound room) {}) signed read after :=
    encloses_of_ok (fun _ closed => atBodyEnd_functionBody room closed) on ok
  obtain ⟨second, level⟩ := opens_block on encloses.newline encloses.indent
  have begins := on.advance.advance
  have fresh := on.advance.fresh_advance (by rw [encloses.indent]; rfl) (by simp [encloses.indent])
  obtain ⟨more, finishes, same⟩ := (run_function begins.closed room {}).accounted
    (fun read _ on fresh more => functionRound_accounted room functions read on fresh more)
    begins fresh
  have grounds := (body_carries (functionRound_grounds room functions) {} _ ⟨begins, .nil _⟩).2
  have accounts := finishes.toAccounts.of_mem_iff fun part =>
    (same part).trans (by simp [FunctionBody.spans, Decl.spansIn, Stmt.spansIn])
  have whole := encloses.accounts on accounts
  have ended := encloses.fresh on
  obtain ⟨newline, indent, rfl, dedent, rfl⟩ := encloses
  obtain ⟨last, inner, found, problems, account⟩ := accounts
  have third := last.position_advance (Sheet.lt_of_kind (by simp [← last.kind, dedent]))
  have known : (body (functionRound room) {} signed.advance.advance).2.advance.problems =
      signed.problems ++ found := by simp [problems]
  rw [on.kind] at newline
  rw [on.advance.kind, on.position_advance (Sheet.lt_of_kind (by simp [newline]))] at indent
  rw [second] at inner account whole
  refine ⟨found, _, ⟨on, newline, indent, inner, last.kind ▸ dedent, ?_, account⟩, known, ended,
    grounds.advance, level ▸ whole⟩
  exact ⟨_, ok, by rw [last.advance.ahead, third], known, rfl⟩

end Functions

/-! ## Functions -/

theorem identifier_of_ok {wanted : Expectation} {cursor after : Cursor} {name : Identifier}
    (ok : identifier wanted cursor = .ok name after) :
    name.info.span = cursor.current.span ∧ cursor.kind = .identifier ∧ after = cursor.advance := by
  by_cases kind : cursor.kind = .identifier
  · rw [identifier, bind_of_ok (expect_of_kind kind wanted)] at ok
    cases ok
    exact ⟨rfl, kind, rfl⟩
  · rw [identifier, bind_of_error (expect_of_ne kind wanted)] at ok
    cases ok

/-- The name of a function stands behind its word. -/
theorem functionSignature_of_ok {room : Nat} {cursor after : Cursor} {heading : FunctionHeading}
    (ok : functionSignature room cursor = .ok heading after) :
    heading.name.info.span = cursor.current.span ∧ cursor.kind = .identifier ∧
      cursor.advance.position ≤ after.position := by
  obtain ⟨name, middle, read, ok⟩ := exists_of_bind ok
  obtain ⟨span, kind, rfl⟩ := identifier_of_ok read
  have further := (onward_of_ok ok).position_le
  obtain ⟨_, _, -, ok⟩ := exists_of_bind ok
  obtain ⟨_, _, -, ok⟩ := exists_of_bind ok
  obtain ⟨_, _, -, ok⟩ := exists_of_bind ok
  obtain ⟨_, _, -, ok⟩ := exists_of_bind ok
  obtain ⟨_, _, -, ok⟩ := exists_of_bind ok
  cases ok
  exact ⟨span, kind, further⟩

/-- The problem of an empty body is found at the name of its function. -/
theorem spares_of_emptiness {reading : BodyReading} {heading : FunctionHeading} {token : Token}
    (kind : token.kind = .identifier) (span : heading.name.info.span = token.span) :
    ∀ problem ∈ reading.emptiness heading, problem.Spares token := by
  intro problem among
  unfold BodyReading.emptiness at among
  split at among
  · cases among
  · obtain rfl := List.mem_singleton.mp among
    exact ⟨span, kind ▸ .emptyFunction _⟩

/-- A function is read by its signature, its body, and what the body comes to. -/
theorem exists_of_functionDefinition {room : Nat} {cursor final : Cursor} {decl : Decl}
    (ok : functionDefinition (room + 1) cursor = .ok decl final) :
    ∃ heading signed read after, functionSignature room cursor.advance = .ok heading signed ∧
      functionBody room signed = .ok read after ∧
      functionOf cursor.current.span heading signed.problems.length read after =
        .ok decl final := by
  rw [functionDefinition_enclosed] at ok
  obtain ⟨word, _, ⟨⟩, ok⟩ := exists_of_bind ok
  obtain ⟨heading, signed, signature, ok⟩ := exists_of_bind ok
  obtain ⟨before, _, ⟨⟩, ok⟩ := exists_of_bind ok
  obtain ⟨read, after, body, ok⟩ := exists_of_bind ok
  exact ⟨heading, signed, read, after, signature, body, ok⟩

/-- The first line of a function is text, with its name behind its word. -/
structure Signed (sheet : Sheet) (start signed : Cursor) (heading : FunctionHeading) : Prop where
  inside : start.Inside sheet [] signed
  text : ∀ place, start.position ≤ place → place < signed.position → sheet.Text place
  further : start.position + 1 < signed.position
  kind : (sheet.token (start.position + 1)).kind = .identifier
  name : heading.name.info.span = (sheet.token (start.position + 1)).span

theorem signed_of_ok {room : Nat} {signed : Cursor} {heading : FunctionHeading}
    (on : start.On sheet) (kind : start.kind = .keyword .kwDef)
    (ok : functionSignature room start.advance = .ok heading signed) :
    Signed sheet start signed heading := by
  have first : sheet.Text start.position := by rw [Sheet.Text, ← on.kind, kind]; rfl
  have begun : start.Inside sheet [] start.advance := .begin on (by rw [kind]; rfl)
  obtain ⟨name, named, further⟩ := functionSignature_of_ok ok
  have position := on.position_advance first.lt
  rw [begun.on.position_advance (Sheet.lt_of_kind (by simp [← begun.on.kind, named])),
    position] at further
  rw [begun.on.kind, position] at named
  rw [begun.on.current, position] at name
  refine ⟨Carries.text _ heading signed begun ok, fun place behind before => ?_, further, named,
    name⟩
  rcases Nat.eq_or_lt_of_le behind with rfl | later
  · exact first
  · exact text_of_ok begun.on ok place (position ▸ later) before

/-- A function accounts for its tokens, and all functions in it stand somewhere among them. -/
theorem functionsAccounted (room : Nat) : FunctionsAccounted sheet (functionDefinition room) := by
  induction room with
  | zero => exact fun _ _ _ => .fail
  | succ room ih =>
      rintro start on kind cursor decl final rfl ok
      obtain ⟨heading, signed, read, after, signature, body, ok⟩ := exists_of_functionDefinition ok
      have line := signed_of_ok on kind signature
      obtain ⟨problems, close, stands, known, fresh, grounds, accounts⟩ :=
        functionBody_stands room ih line.inside.on body
      let reading : BodyReading := ⟨read, problems, after.last⟩
      have last : functionOf cursor.current.span heading signed.problems.length reading.content
          after = .ok (reading.function cursor.current.span heading)
            { after with problems := after.problems ++ reading.emptiness heading } :=
        functionOf_apply known rfl
      cases last.symm.trans ok
      have whole : cursor.Inside sheet ([] ++ read.spans)
          { after with problems := after.problems ++ reading.emptiness heading } :=
        (line.inside.append accounts).record fun problem among =>
          ⟨cursor.position + 1, Nat.le_succ _, line.further.trans_le accounts.whole.le,
            spares_of_emptiness line.kind line.name problem among⟩
      refine ⟨fun function among => ?_, ?_, fresh⟩
      · simp only [functionDefsIn, Decl.functionDefs, BodyReading.function, List.append_nil,
          List.mem_cons] at among
        rcases among with rfl | inner
        · refine ⟨⟨cursor.position, room, signed, reading, close⟩, on.kind ▸ kind, line.name.symm,
            line.further, line.text, stands, fun problem found => ?_, rfl, rfl, ?_⟩
          · simp [known, reading, found]
          · simp [reading]
        · exact grounds.later (List.prefix_append _ _) function inner
      · exact whole.cover (List.mem_singleton_self _) (by simpa using whole.begins)

end Parse
end ChocoLang
