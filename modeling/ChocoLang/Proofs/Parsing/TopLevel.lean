import ChocoLang.Proofs.Parsing.Agreement.Declaration

/-!
# The steps in which a program is read

A program is read in steps at the top level.  What a step reads depends on what was read before only
as far as there is a statement among it, and not at all on the text behind the cursor.
-/

namespace ChocoLang

/-- The program body with some declarations put before its own. -/
def ProgramBody.behind (declared : List Decl) (body : ProgramBody) : ProgramBody :=
  { body with declarations := declared ++ body.declarations }

/-- The cursors differ at most in the text behind them. -/
def Cursor.Beside (one other : Cursor) : Prop := ∃ last, other = { one with last }

namespace Cursor.Beside

variable {one other : Cursor}

theorem refl (cursor : Cursor) : cursor.Beside cursor := ⟨cursor.last, rfl⟩

theorem kind (beside : one.Beside other) : one.kind = other.kind := by
  obtain ⟨last, rfl⟩ := beside
  rfl

theorem atEnd (beside : one.Beside other) : one.atEnd = other.atEnd := by
  obtain ⟨last, rfl⟩ := beside
  rfl

theorem atDeclaration (beside : one.Beside other) : one.atDeclaration = other.atDeclaration := by
  obtain ⟨last, rfl⟩ := beside
  rfl

theorem advance (beside : one.Beside other) : one.advance.Beside other.advance := by
  obtain ⟨last, rfl⟩ := beside
  obtain ⟨ahead, ending, behind, position, problems⟩ := one
  cases ahead with
  | nil => exact ⟨last, rfl⟩
  | cons token rest => exact ⟨_, rfl⟩

theorem advanceBy (count : Nat) (beside : one.Beside other) :
    (one.advanceBy count).Beside (other.advanceBy count) := by
  induction count generalizing one other with
  | zero => exact beside
  | succ count ih => exact ih beside.advance

end Cursor.Beside

namespace Parse

variable {α β : Type}

/-- Between two steps some of the program is read, and the cursor stands at the rest of it. -/
inductive Reaches (start : Cursor) : ProgramBody → Cursor → Prop where
  /-- Nothing is read yet. -/
  | start : Reaches start {} start
  /-- A step is made unless the file ends. -/
  | step {read : ProgramBody} {cursor : Cursor} (reached : Reaches start read cursor)
      (more : cursor.atEnd = false) :
      Reaches start (programStep read cursor).1 (programStep read cursor).2

namespace Reaches

variable {start cursor : Cursor} {read : ProgramBody}

theorem onward (reached : Reaches start read cursor) : start.Onward cursor := by
  induction reached with
  | start => exact .refl start
  | step reached more ih => exact ih.trans (Recovering.onward_snd (programStep _) _)

/-- Reading may be resumed wherever it has got to. -/
theorem programBody_eq (reached : Reaches start read cursor) (closed : start.Closed) :
    programBody start =
      repeatUntil Cursor.atEnd programStep cursor.ahead.length read cursor := by
  induction reached with
  | start => rfl
  | @step read cursor reached more ih =>
      have here : cursor.Closed := reached.onward.closed closed
      have fewer := programStep_shortens read here more
      obtain ⟨bound, enough⟩ : ∃ bound, cursor.ahead.length = bound + 1 :=
        ⟨cursor.ahead.length - 1, by omega⟩
      rw [ih, enough, repeatUntil_of_goesOn more]
      refine (repeatUntil_bound (fun cursor none => by simp [Cursor.atEnd, none])
        (fun read _ closed more => programStep_shortens read closed more)
        ((Recovering.onward_snd (programStep read) cursor).closed here) (by omega)
        (Nat.le_refl _)).1

/-- Two runs that begin alike take the same steps up to where the tokens differ. -/
theorem alike {fork : Fork} {start' : Cursor} (begins : start.Alike fork start')
    (reached : Reaches start read cursor) (within : fork.rest <:+ cursor.ahead) :
    ∃ cursor', Reaches start' read cursor' ∧ cursor.Alike fork cursor' := by
  induction reached with
  | start => exact ⟨start', .start, begins⟩
  | @step read cursor reached more ih =>
      have moved := Recovering.onward_snd (programStep read) cursor
      obtain ⟨cursor', reached', alike⟩ := ih (within.trans moved.ahead)
      obtain ⟨value, after⟩ := Recovering.Agrees.agrees alike within
      exact ⟨_, value ▸ .step reached' (alike.atEnd ▸ more), after⟩

end Reaches

/-! ## The text behind the cursor -/

theorem recovering_beside {fallback : α} {reader : Parse α} {one other : Cursor}
    (opens : Opens reader one) (beside : one.Beside other) :
    (recovering fallback reader one).1 = (recovering fallback reader other).1 ∧
      (recovering fallback reader one).2.Beside (recovering fallback reader other).2 := by
  obtain ⟨last, rfl⟩ := beside
  cases opens with
  | fails problem same =>
      rw [recovering_of_error (same last), recovering_of_error (same one.last),
        Cursor.recover_eq (Nat.le_refl _), Cursor.recover_eq (Nat.le_refl _)]
      exact ⟨rfl, Cursor.Beside.advanceBy _ ⟨last, rfl⟩⟩
  | passes next text same =>
      have passed : reader { one with last } = reader one :=
        (same last).trans (same one.last).symm
      simp only [recovering, EStateM.run, passed]
      exact ⟨trivial, .refl _⟩

theorem programStep_beside (read : ProgramBody) {one other : Cursor} (closed : one.Closed)
    (beside : one.Beside other) :
    (programStep read one).1 = (programStep read other).1 ∧
      (programStep read one).2.Beside (programStep read other).2 := by
  rw [programStep_apply, programStep_apply, beside.kind, beside.atDeclaration]
  split
  · exact ⟨rfl, beside.advance⟩
  · split
    · exact recovering_beside (topDeclaration_opens one).bind beside
    · exact recovering_beside (statement_opens (expression_opens closed nestingLimit)).bind beside

/-- The rest of a program is read the same whatever text stands behind the cursor. -/
theorem repeatUntil_beside (bound : Nat) (read : ProgramBody) {one other : Cursor}
    (closed : one.Closed) (beside : one.Beside other) :
    (repeatUntil Cursor.atEnd programStep bound read one).1 =
        (repeatUntil Cursor.atEnd programStep bound read other).1 ∧
      (repeatUntil Cursor.atEnd programStep bound read one).2.Beside
        (repeatUntil Cursor.atEnd programStep bound read other).2 := by
  induction bound generalizing read one other with
  | zero => exact ⟨rfl, beside⟩
  | succ bound ih =>
      cases goesOn : one.atEnd with
      | true =>
          rw [repeatUntil_of_halt goesOn, repeatUntil_of_halt (beside.atEnd ▸ goesOn)]
          exact ⟨rfl, beside⟩
      | false =>
          rw [repeatUntil_of_goesOn goesOn, repeatUntil_of_goesOn (beside.atEnd ▸ goesOn)]
          obtain ⟨value, after⟩ := programStep_beside read closed beside
          rw [← value]
          exact ih _ ((Recovering.onward_snd (programStep read) one).closed closed) after

/-! ## What was read before -/

theorem recovering_map (change : α → β) {reader : Parse α} {reader' : Parse β} {cursor : Cursor}
    (same : reader' cursor = (change <$> reader) cursor) (fallback : α) :
    recovering (change fallback) reader' cursor =
      (recovering fallback reader cursor).map change id := by
  simp only [recovering, EStateM.run, same, Functor.map, EStateM.map]
  cases reader cursor <;> rfl

theorem declareIn_behind (declared : List Decl) (body : ProgramBody) (decl : Decl) :
    declareIn (body.behind declared) decl = ProgramBody.behind declared <$> declareIn body decl := by
  obtain ⟨declarations, statements⟩ := body
  cases statements with
  | nil => simp [declareIn, ProgramBody.behind]
  | cons => simp [declareIn, ProgramBody.behind]

theorem programStep_behind (declared : List Decl) (body : ProgramBody) (cursor : Cursor) :
    programStep (body.behind declared) cursor =
      (programStep body cursor).map (ProgramBody.behind declared) id := by
  rw [programStep_apply, programStep_apply]
  split
  · rfl
  · split
    · refine recovering_map (ProgramBody.behind declared) ?_ body
      rw [map_bind]
      simp only [declareIn_behind]
    · refine recovering_map (ProgramBody.behind declared) ?_ body
      rw [map_bind]
      rfl

/-- The rest of a program is read the same whatever was declared before. -/
theorem repeatUntil_behind (declared : List Decl) (bound : Nat) (body : ProgramBody)
    (cursor : Cursor) :
    repeatUntil Cursor.atEnd programStep bound (body.behind declared) cursor =
      (repeatUntil Cursor.atEnd programStep bound body cursor).map
        (ProgramBody.behind declared) id := by
  induction bound generalizing body cursor with
  | zero => rfl
  | succ bound ih =>
      cases goesOn : cursor.atEnd with
      | true => rw [repeatUntil_of_halt goesOn, repeatUntil_of_halt goesOn]; rfl
      | false =>
          rw [repeatUntil_of_goesOn goesOn, repeatUntil_of_goesOn goesOn, programStep_behind]
          exact ih _ _

/-! ## The rest of a program -/

/--
Where the same tokens are ahead, two runs read the same of the rest of a program, whatever was
declared, found and behind the cursor before.
-/
theorem rest_alike {one other : Cursor} (closed : one.Closed) (ahead : other.ahead = one.ahead)
    (ending : other.ending = one.ending) (statements : List Stmt) (bound : Nat) :
    ∃ (behind : ProgramBody) (later : List (Located SyntaxError)),
      ∀ declared declared' : List Decl,
        let rest := repeatUntil Cursor.atEnd programStep bound ⟨declared, statements⟩ one
        let rest' := repeatUntil Cursor.atEnd programStep bound ⟨declared', statements⟩ other
        rest.1 = behind.behind declared ∧ rest'.1 = behind.behind declared' ∧
          rest.2.problems = one.problems ++ later ∧ rest'.2.problems = other.problems ++ later := by
  let fork : Fork :=
    { rest := [], rest' := [], known := one.problems, known' := other.problems,
      ending := one.ending, head := rfl, plain := by simp [kindAt], closed }
  let moved : Cursor := { other with last := one.last }
  have alike : one.Alike fork moved :=
    ⟨⟨one.ahead, by simp [fork], by simp [fork, moved, ahead]⟩,
      ⟨[], by simp [fork], by simp [fork, moved]⟩, rfl, rfl, ending⟩
  let loop := repeatUntil Cursor.atEnd programStep bound
  let none : ProgramBody := ⟨[], statements⟩
  obtain ⟨value, after⟩ :
      (loop none one).1 = (loop none moved).1 ∧ (loop none one).2.Alike fork (loop none moved).2 :=
    Recovering.Agrees.agrees alike List.nil_suffix
  obtain ⟨value', last, after'⟩ := repeatUntil_beside bound none alike.closed'
    (show moved.Beside other from ⟨other.last, rfl⟩)
  obtain ⟨later, problems, problems'⟩ := after.problems
  refine ⟨(loop none one).1, later, fun declared declared' => ?_⟩
  have start (declared : List Decl) : (⟨declared, statements⟩ : ProgramBody) =
      none.behind declared := by simp [ProgramBody.behind, none]
  simp only [start, repeatUntil_behind, Prod.map_fst, Prod.map_snd, id_eq]
  refine ⟨rfl, ?_, problems, ?_⟩
  · rw [← value', ← value]
  · rw [after']
    exact problems'

end Parse
end ChocoLang
