import ChocoLang.Proofs.Parsing.Agreement.Declaration

/-!
# Two runs on one line

Where two runs stand on the same line and no indented body follows it, the tokens behind the line do
not matter to a statement or declaration of one line: both runs read it, or fail at the same token
of the line.  A header that is in order is at fault only behind its line, where its body is missing;
the two runs report this at different tokens.
-/

namespace ChocoLang

/-- An indented body is asked for. -/
def Expectation.isBody : Expectation → Bool
  | .block | .functionBody | .classBody => true
  | _ => false

/-- The problem that something else stands where a token is asked for. -/
def Expectation.missingAt (wanted : Expectation) (token : Token) : Located SyntaxError :=
  ⟨.missing wanted token, token.span⟩

/-- The tokens of two runs begin to differ at the end of a line, behind which no body begins. -/
structure Fork.EndsLine (fork : Fork) : Prop where
  /-- The end of the line is still the same. -/
  newline : kindAt fork.rest = .newline
  /-- Behind the line, the first run goes on without a body. -/
  plain : kindAt fork.rest.tail ≠ .indent
  /-- So does the second run. -/
  plain' : kindAt fork.rest'.tail ≠ .indent

/-- What is left of a line behind some text of it is a line. -/
theorem PassesText.of_newline {before after rest : List Token} (passed : PassesText before after)
    (line : PassesText before rest) (newline : kindAt rest = .newline) : PassesText after rest := by
  obtain ⟨passed, rfl, text⟩ := passed
  obtain ⟨front, same, inline⟩ := line
  rcases List.append_eq_append_iff.mp same with ⟨more, rfl, rfl⟩ | ⟨beyond, rfl, rfl⟩
  · exact ⟨more, rfl, fun token among => inline token (List.mem_append_right _ among)⟩
  · cases beyond with
    | nil => exact Passing.refl _
    | cons token beyond =>
        have layout := text token (by simp)
        rw [show token.kind = .newline from newline] at layout
        cases layout

namespace Cursor

/-- The cursors of two runs stand at the same place of a line. -/
structure OnLine (fork : Fork) (one other : Cursor) : Prop extends one.Alike fork other where
  /-- Only text stands before the end of the line. -/
  line : PassesText one.ahead fork.rest

/-- The cursors of two runs stand behind the same line, and the same has happened before. -/
structure BehindLine (fork : Fork) (one other : Cursor) : Prop where
  /-- The first run goes on behind the line. -/
  ahead : one.ahead = fork.rest.tail
  /-- So does the second run. -/
  ahead' : other.ahead = fork.rest'.tail
  /-- The same problems have been found since the tokens were known. -/
  problems : ∃ found, one.problems = fork.known ++ found ∧ other.problems = fork.known' ++ found
  /-- The same text is behind. -/
  last : one.last = other.last
  /-- The files end with the same token. -/
  ending : one.ending = fork.ending
  ending' : other.ending = fork.ending

theorem BehindLine.record {fork : Fork} {one other : Cursor} (behind : one.BehindLine fork other)
    (problem : Located SyntaxError) :
    (one.record problem).BehindLine fork (other.record problem) := by
  obtain ⟨found, problems, problems'⟩ := behind.problems
  exact { behind with
    problems := ⟨found ++ [problem], by simp [Cursor.record, problems],
      by simp [Cursor.record, problems']⟩ }

/-- Recovery on a line skips the rest of it, unless a body follows. -/
theorem skipLength_line {front rest : List Token}
    (text : ∀ token ∈ front, token.kind.isLayout = false) (newline : kindAt rest = .newline)
    (plain : kindAt rest.tail ≠ .indent) :
    skipLength 0 (front ++ rest) = front.length + 1 := by
  induction front with
  | nil =>
      cases rest with
      | nil => cases newline
      | cons token rest => exact skipLength_newline newline plain
  | cons token front ih =>
      have inside := text token List.mem_cons_self
      have level := TokenKind.isLevel_of_isLayout inside
      have noLine : token.kind ≠ .newline := fun line => by
        simp [line, TokenKind.isLayout] at inside
      rw [List.cons_append, skipLength_level level (.inr noLine),
        ih fun token among => text token (List.mem_cons_of_mem _ among), List.length_cons]
      omega

/-- Where a line ends, nothing of it is left. -/
theorem OnLine.ahead_of_newline {fork : Fork} {one other : Cursor}
    (onLine : one.OnLine fork other) (newline : one.kind = .newline) : one.ahead = fork.rest := by
  obtain ⟨front, ahead, text⟩ := onLine.line
  cases front with
  | nil => exact ahead
  | cons token front =>
      have inside := text token List.mem_cons_self
      rw [kind_eq_kindAt, ahead] at newline
      rw [show token.kind = .newline from newline] at inside
      cases inside

section Fork

variable {fork : Fork} (ends : fork.EndsLine) {one other : Cursor}
include ends

/-- Both runs get behind the line by moving past the rest of it. -/
theorem Alike.behindLine (alike : one.Alike fork other) (front : List Token)
    (ahead : one.ahead = front ++ fork.rest) :
    (one.advanceBy (front.length + 1)).BehindLine fork (other.advanceBy (front.length + 1)) := by
  induction front generalizing one other with
  | nil =>
      obtain ⟨none, same, ahead'⟩ := alike.tokens
      obtain rfl : none = [] := by simpa [ahead] using same
      obtain ⟨token, rest, shape⟩ := List.exists_cons_of_ne_nil
        (show fork.rest ≠ [] from fun none => by have := ends.newline; simp [none, kindAt] at this)
      have newline : token.kind = .newline := by simpa [shape, kindAt] using ends.newline
      obtain ⟨rest', shape'⟩ : ∃ rest', fork.rest' = token :: rest' := by
        have head := fork.head
        rw [shape] at head
        cases other : fork.rest' with
        | nil => simp [other] at head
        | cons first rest' => exact ⟨rest', by simp_all⟩
      rw [List.nil_append, shape] at ahead
      rw [List.nil_append, shape'] at ahead'
      change one.advance.BehindLine fork other.advance
      rw [advance_of_cons ahead, advance_of_cons ahead', newline]
      exact ⟨by simp [shape], by simp [shape'], alike.problems, alike.last, alike.ending,
        alike.ending'⟩
  | cons token front ih =>
      have next : one.advance.ahead = front ++ fork.rest := by simp [ahead]
      exact ih (alike.advance (next ▸ List.suffix_append _ _)) next

/-- Recovery on the line takes both runs behind it. -/
theorem OnLine.recover (onLine : one.OnLine fork other) {start start' : Nat}
    (reached : start ≤ one.position) (reached' : start' ≤ other.position)
    (problem : Located SyntaxError) :
    (one.recover start problem).BehindLine fork (other.recover start' problem) := by
  obtain ⟨front, ahead, text⟩ := onLine.line
  obtain ⟨front', same, ahead'⟩ := onLine.tokens
  obtain rfl : front = front' := by simpa [ahead] using same
  have newline' : kindAt fork.rest' = .newline := (kindAt_congr fork.head).symm.trans ends.newline
  rw [recover_eq reached, recover_eq reached', ahead, ahead',
    skipLength_line text ends.newline ends.plain, skipLength_line text newline' ends.plain']
  exact (onLine.toAlike.record problem).behindLine ends front ahead

end Fork

end Cursor

namespace Parse

variable {α β : Type}

/-! ## Readers of text -/

/-- A reader that passes text only stays on the line, in both runs. -/
theorem Agrees.onLine {fork : Fork} (ends : fork.EndsLine) {one other : Cursor}
    (onLine : one.OnLine fork other) (reader : Parse α) [Agrees reader]
    (passed : PassesText one.ahead (reader.stop one).ahead) :
    (∃ value after after', reader one = .ok value after ∧ reader other = .ok value after' ∧
        after.OnLine fork after') ∨
      ∃ problem after after', reader one = .error problem after ∧
        reader other = .error problem after' ∧ after.OnLine fork after' := by
  have line := passed.of_newline onLine.line ends.newline
  have agree := Agrees.agrees fork onLine.toAlike (line.imp fun _ passed => passed.1.symm)
  generalize shape : reader one = result at agree
  generalize shape' : reader other = result' at agree
  cases agree with
  | ok alike => exact .inl ⟨_, _, _, rfl, rfl, alike, stop_of_ok shape ▸ line⟩
  | error alike => exact .inr ⟨_, _, _, rfl, rfl, alike, stop_of_error shape ▸ line⟩

/-! ## Headers -/

/-- Both runs fail at the same token of the line, or behind the line, where a body is missing. -/
inductive Fails (fork : Fork) :
    EStateM.Result (Located SyntaxError) Cursor α →
      EStateM.Result (Located SyntaxError) Cursor α → Prop where
  | onLine {problem : Located SyntaxError} {one other : Cursor} (onLine : one.OnLine fork other) :
      Fails fork (.error problem one) (.error problem other)
  | bare {wanted : Expectation} {one other : Cursor} (body : wanted.isBody = true)
      (behind : one.BehindLine fork other) :
      Fails fork (.error (wanted.missingAt one.current) one)
        (.error (wanted.missingAt other.current) other)

/-- A reader that fails on a line without a body, wherever on the line it starts. -/
class Breaks (reader : Parse α) : Prop where
  /-- Two runs fail alike, however the tokens go on behind the line. -/
  fails : ∀ {fork : Fork} {one other : Cursor}, fork.EndsLine → one.OnLine fork other →
    Fails fork (reader one) (reader other)

/-- The same of a reader that starts at text of the line. -/
class BreaksFrom (reader : Parse α) : Prop where
  /-- Two runs fail alike, however the tokens go on behind the line. -/
  fails : ∀ {fork : Fork} {one other : Cursor}, fork.EndsLine → one.OnLine fork other →
    one.kind.isLayout = false → Fails fork (reader one) (reader other)

/-- Behind a failure nothing is read any more. -/
theorem Fails.bind {fork : Fork} {one other : Cursor} {reader : Parse α}
    (fails : Fails fork (reader one) (reader other)) (next next' : α → Parse β) :
    Fails fork ((reader >>= next) one) ((reader >>= next') other) := by
  generalize shape : reader one = result at fails
  generalize shape' : reader other = result' at fails
  cases fails with
  | onLine onLine =>
      rw [bind_of_error shape, bind_of_error shape']
      exact .onLine onLine
  | bare body behind =>
      rw [bind_of_error shape, bind_of_error shape']
      exact .bare body behind

/-- Behind text of the line the rest fails. -/
theorem Fails.behind_text {fork : Fork} (ends : fork.EndsLine) {one other : Cursor}
    (onLine : one.OnLine fork other) {reader : Parse α} [Agrees reader]
    (passed : PassesText one.ahead (reader.stop one).ahead) {next : α → Parse β}
    [∀ value, Breaks (next value)] :
    Fails fork ((reader >>= next) one) ((reader >>= next) other) := by
  obtain ⟨value, after, after', read, read', onLine⟩ |
      ⟨problem, after, after', read, read', onLine⟩ :=
    Agrees.onLine ends onLine reader passed
  · rw [bind_of_ok read, bind_of_ok read']
    exact Breaks.fails ends onLine
  · rw [bind_of_error read, bind_of_error read']
    exact .onLine onLine

instance Breaks.bind (reader : Parse α) (next : α → Parse β) [Breaks reader] :
    Breaks (reader >>= next) where
  fails ends onLine := (Breaks.fails ends onLine).bind next next

instance BreaksFrom.bind (reader : Parse α) (next : α → Parse β) [BreaksFrom reader] :
    BreaksFrom (reader >>= next) where
  fails ends onLine text := (BreaksFrom.fails ends onLine text).bind next next

instance Breaks.behind_text (reader : Parse α) (next : α → Parse β) [Agrees reader]
    [Passes PassesText reader] [∀ value, Breaks (next value)] : Breaks (reader >>= next) where
  fails ends onLine := .behind_text ends onLine (Passes.passed _ onLine.closed)

instance BreaksFrom.behind_text (reader : Parse α) (next : α → Parse β) [Agrees reader]
    [PassesFrom PassesText reader] [∀ value, Breaks (next value)] :
    BreaksFrom (reader >>= next) where
  fails ends onLine text := .behind_text ends onLine (PassesFrom.passed _ onLine.closed text)

instance (error : SyntaxError) : Breaks (fail error : Parse α) where
  fails _ onLine := by
    change Fails _ (.error ⟨error, _⟩ _) (.error ⟨error, _⟩ _)
    rw [onLine.toAlike.current]
    exact .onLine onLine

/-- The line of a header is followed by no body. -/
theorem openBody_breaks {wanted : Expectation} (body : wanted.isBody = true) :
    Breaks (openBody wanted) where
  fails {fork one other} ends onLine := by
    by_cases newline : one.kind = .newline
    · have ahead := onLine.ahead_of_newline newline
      have behind := onLine.toAlike.behindLine ends [] ahead
      have newline' : other.kind = .newline := onLine.toAlike.kind ▸ newline
      rw [openBody_of_line newline _ wanted, openBody_of_line newline' _ wanted]
      · exact .bare body behind
      · rw [Cursor.kind_eq_kindAt]
        exact behind.ahead' ▸ ends.plain'
      · rw [Cursor.kind_eq_kindAt]
        exact behind.ahead ▸ ends.plain
    · rw [openBody_of_ne newline, openBody_of_ne (onLine.toAlike.kind ▸ newline),
        onLine.toAlike.current]
      exact .onLine onLine

theorem enclosed_breaks {wanted : Expectation} (body : wanted.isBody = true)
    (inner : Recovering α) : Breaks (enclosed wanted inner) := by
  have opens := openBody_breaks body
  unfold enclosed; infer_instance

/-! ## Compound statements -/

instance (room : Nat) : Breaks (block room) := by
  cases room with
  | zero => unfold block; infer_instance
  | succ room => exact enclosed_breaks rfl _

section Statements

variable (expression : Parse Expr) (block : Parse (List Stmt)) [Agrees expression]
  [Forward expression] [Passes PassesText expression] [Breaks block]

instance : BreaksFrom (arm expression block) := by unfold arm; infer_instance

instance : BreaksFrom (ifStatement expression block) := by unfold ifStatement; infer_instance

instance : BreaksFrom (whileStatement expression block) := by unfold whileStatement; infer_instance

instance : BreaksFrom (forStatement expression block) := by unfold forStatement; infer_instance

end Statements

/-! ## Functions and classes -/

/-- What is looked at before a failure does not matter. -/
theorem Breaks.look {γ : Type} (view : Cursor → γ) (reader : Parse α) (next : γ → α → Parse β)
    [Breaks reader] : Breaks (do let seen ← look view; let read ← reader; next seen read) where
  fails {_ one other} ends onLine :=
    (Breaks.fails ends onLine).bind (next (view one)) (next (view other))

instance (room : Nat) : BreaksFrom (functionDefinition room) := by
  cases room with
  | zero =>
      refine ⟨fun ends onLine _ => ?_⟩
      unfold functionDefinition
      exact Breaks.fails ends onLine
  | succ room =>
      have body : Breaks (functionBody room) := enclosed_breaks rfl _
      rw [functionDefinition_enclosed]
      refine @BreaksFrom.behind_text _ _ _ _ _ _ fun start => ?_
      exact @Breaks.behind_text _ _ _ _ _ _ fun heading => Breaks.look _ _ _

instance (room : Nat) (function : Parse Decl) (bound : Nat) :
    BreaksFrom (classDefinition room function (bound + 1)) := by
  have body : Breaks
      (enclosed .classBody (body (classStep (memberReader room function bound)) [])) :=
    enclosed_breaks rfl _
  rw [classDefinition_enclosed]
  infer_instance

instance (room : Nat) (function : Parse Decl) [Forward function] :
    BreaksFrom (classDeclaration room function) where
  fails {fork one other} ends onLine text := by
    let bound := one.ahead.length + other.ahead.length
    have first : classDeclaration room function one =
        classDefinition room function (bound + 1) one :=
      classDefinition_bound room onLine.closed (Nat.lt_succ_self _) (by omega)
    have second : classDeclaration room function other =
        classDefinition room function (bound + 1) other :=
      classDefinition_bound room onLine.closed' (Nat.lt_succ_self _) (by omega)
    rw [first, second]
    exact BreaksFrom.fails ends onLine text

/-! ## Lines -/

/-- Both runs read the same up to the end of the line, or fail. -/
inductive Ends (fork : Fork) :
    EStateM.Result (Located SyntaxError) Cursor α →
      EStateM.Result (Located SyntaxError) Cursor α → Prop where
  | ok {value : α} {one other : Cursor} (behind : one.BehindLine fork other) :
      Ends fork (.ok value one) (.ok value other)
  | fails {result result' : EStateM.Result (Located SyntaxError) Cursor α}
      (fails : Fails fork result result') : Ends fork result result'

/-- A reader of a line, if it starts on the line. -/
class ReadsLine (reader : Parse α) : Prop where
  /-- Two runs end alike, however the tokens go on behind the line. -/
  ends : ∀ {fork : Fork} {one other : Cursor}, fork.EndsLine → one.OnLine fork other →
    Ends fork (reader one) (reader other)

/-- A reader that takes no token and does the same in two runs behind a line. -/
class Settles (reader : Parse α) : Prop where
  /-- The same is returned and recorded. -/
  settled : ∀ {fork : Fork} {one other : Cursor}, one.BehindLine fork other →
    ∃ value after after', reader one = .ok value after ∧ reader other = .ok value after' ∧
      after.BehindLine fork after'

instance (value : α) : Settles (pure value : Parse α) where
  settled behind := ⟨value, _, _, rfl, rfl, behind⟩

instance (body : ProgramBody) (decl : Decl) : Settles (declareIn body decl) where
  settled behind := by
    unfold declareIn
    split
    · exact ⟨_, _, _, rfl, rfl, behind⟩
    · exact ⟨body, _, _, rfl, rfl, behind.record _⟩

/-- What comes behind the line does not change how the two runs end. -/
theorem Ends.bind {fork : Fork} {one other : Cursor} {reader : Parse α}
    (ends : Ends fork (reader one) (reader other)) (next : α → Parse β)
    [∀ value, Settles (next value)] :
    Ends fork ((reader >>= next) one) ((reader >>= next) other) := by
  generalize shape : reader one = result at ends
  generalize shape' : reader other = result' at ends
  cases ends with
  | @ok value _ _ behind =>
      have settles : Settles (next value) := inferInstance
      obtain ⟨_, _, _, settled, settled', behind⟩ := settles.settled behind
      rw [bind_of_ok shape, bind_of_ok shape', settled, settled']
      exact .ok behind
  | fails fails => exact .fails ((shape ▸ shape' ▸ fails).bind next next)

instance ReadsLine.bind (reader : Parse α) (next : α → Parse β) [ReadsLine reader]
    [∀ value, Settles (next value)] : ReadsLine (reader >>= next) where
  ends ends onLine := (ReadsLine.ends ends onLine).bind next

instance ReadsLine.behind_text (reader : Parse α) (next : α → Parse β) [Agrees reader]
    [Passes PassesText reader] [∀ value, ReadsLine (next value)] : ReadsLine (reader >>= next) where
  ends ends onLine := by
    obtain ⟨value, after, after', read, read', onLine⟩ |
        ⟨problem, after, after', read, read', onLine⟩ :=
      Agrees.onLine ends onLine reader (Passes.passed _ onLine.closed)
    · rw [bind_of_ok read, bind_of_ok read']
      exact ReadsLine.ends ends onLine
    · rw [bind_of_error read, bind_of_error read']
      exact .fails (.onLine onLine)

instance : ReadsLine lineEnd where
  ends {fork one other} ends onLine := by
    have inside : one.atEnd = false := by
      obtain ⟨front, ahead, -⟩ := onLine.line
      have some : fork.rest ≠ [] := fun none => by
        have newline := ends.newline
        rw [none] at newline
        cases newline
      simp [Cursor.atEnd, ahead, some]
    by_cases newline : one.kind = .newline
    · have read {cursor : Cursor} (stands : cursor.kind = .newline) :
          lineEnd cursor = .ok () cursor.advance := by
        rw [lineEnd, bind_of_ok (accept_of_kind stands)]
        rfl
      rw [read newline, read (onLine.toAlike.kind ▸ newline)]
      exact .ok (onLine.toAlike.behindLine ends [] (onLine.ahead_of_newline newline))
    · have read {cursor : Cursor} (other : cursor.kind ≠ .newline) (more : cursor.atEnd = false) :
          lineEnd cursor = .error ⟨.noLineEnd cursor.current, cursor.current.span⟩ cursor := by
        rw [lineEnd, bind_of_ok (accept_of_ne other)]
        change (if cursor.atEnd = true then _ else _ : Parse Unit) cursor = _
        rw [if_neg (by simp [more])]
        rfl
      rw [read newline inside, read (onLine.toAlike.kind ▸ newline) (onLine.toAlike.atEnd ▸ inside),
        onLine.toAlike.current]
      exact .fails (.onLine onLine)

instance (room : Nat) : ReadsLine (variableDefinition room) := by
  unfold variableDefinition; infer_instance

/-- A statement is read from one line, or fails there. -/
instance (expression : Parse Expr) (block : Parse (List Stmt)) [Agrees expression]
    [Forward expression] [Passes PassesText expression] [Breaks block] :
    ReadsLine (statement expression block) where
  ends {fork one other} ends onLine := by
    have simple : ReadsLine (do
        let read ← simpleStatement expression
        lineEnd
        return read) := inferInstance
    unfold statement
    rw [look_bind, look_bind, ← onLine.toAlike.kind]
    generalize stands : one.kind = kind
    split
    · exact .fails (Breaks.fails ends onLine)
    · exact .fails (BreaksFrom.fails ends onLine (stands ▸ rfl))
    · exact .fails (BreaksFrom.fails ends onLine (stands ▸ rfl))
    · exact .fails (BreaksFrom.fails ends onLine (stands ▸ rfl))
    · rw [look_bind, look_bind, ← onLine.toAlike.atDeclaration]
      split
      · exact .fails (Breaks.fails ends onLine)
      · exact simple.ends ends onLine

instance : ReadsLine topDeclaration where
  ends {fork one other} ends onLine := by
    unfold topDeclaration
    rw [look_bind, look_bind, ← onLine.toAlike.kind]
    generalize stands : one.kind = kind
    split
    · exact .fails (BreaksFrom.fails ends onLine (stands ▸ rfl))
    · exact .fails (BreaksFrom.fails ends onLine (stands ▸ rfl))
    · exact ReadsLine.ends ends onLine

end Parse

end ChocoLang
