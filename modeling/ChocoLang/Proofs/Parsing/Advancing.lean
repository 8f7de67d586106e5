import ChocoLang.Proofs.Parsing.Opening

/-!
# Bodies are read to their ends

Each step of a body takes a token: the reader passes the one at the cursor, or recovery does.  Hence
a body is read up to its end, and the bounds of all repetitions are immaterial as long as they are
not less than the number of tokens ahead.
-/

namespace ChocoLang
namespace Parse

variable {α β σ : Type}

/-! ## Steps -/

/-- Recovery takes a token, unless the body ends. -/
theorem recovering_shortens {fallback : α} {reader : Parse α} [Forward reader] {cursor : Cursor}
    (opens : Opens reader cursor) (more : cursor.atBodyEnd = false) :
    (recovering fallback reader cursor).2.ahead.length < cursor.ahead.length := by
  cases read : reader cursor with
  | ok value after =>
      have step : (recovering fallback reader cursor).2 = after := by
        simp only [recovering, EStateM.run, read]
      rw [step]
      exact opens.shortens read
  | error problem after =>
      have moved := onward_of_error read
      have step : (recovering fallback reader cursor).2 =
          (after.record problem).advanceBy (Cursor.skipLength 0 after.ahead) := by
        simp only [recovering, EStateM.run, read]
        exact Cursor.recover_eq moved.position_le problem
      have shorter := moved.ahead.length_le
      rw [step, Cursor.ahead_advanceBy, List.length_drop]
      change after.ahead.length - _ < _
      by_cases same : after.ahead.length = cursor.ahead.length
      · have whole : after.ahead = cursor.ahead := moved.ahead.eq_of_length same
        have skipped : Cursor.skipLength 0 cursor.ahead ≠ 0 := by
          rw [ne_eq, Cursor.skipLength_eq_zero_iff_atBodyEnd, more]
          simp
        have fits := Cursor.skipLength_le 0 cursor.ahead
        rw [whole]
        omega
      · omega

section Steps

variable {cursor : Cursor} (more : cursor.atBodyEnd = false)
include more

theorem blockStep_shortens {reader : Parse (Option Stmt)} [Forward reader]
    (opens : Opens reader cursor) (statements : List Stmt) :
    (blockStep reader statements cursor).2.ahead.length < cursor.ahead.length :=
  recovering_shortens opens.bind more

theorem classStep_shortens {declaration : Parse (Option Decl)} [Forward declaration]
    (opens : Opens declaration cursor) (members : List Decl) :
    (classStep declaration members cursor).2.ahead.length < cursor.ahead.length :=
  recovering_shortens (classMember_opens opens).bind more

theorem functionStep_shortens {inner : Parse (Option Decl)} {reader : Parse (Option Stmt)}
    [Forward inner] [Forward reader] (declarations : Opens inner cursor)
    (statements : Opens reader cursor) (body : FunctionBody) :
    (functionStep inner reader body cursor).2.ahead.length < cursor.ahead.length := by
  rw [functionStep_apply]
  split
  · exact recovering_shortens (functionDeclaration_opens declarations).bind more
  · exact recovering_shortens statements.bind more

end Steps

theorem programStep_shortens (body : ProgramBody) {cursor : Cursor} (closed : cursor.Closed)
    (more : cursor.atEnd = false) :
    (programStep body cursor).2.ahead.length < cursor.ahead.length := by
  rw [programStep_apply]
  split
  · exact Cursor.length_advance_lt (by simpa [Cursor.atEnd] using more)
  · next noDedent =>
      have inside : cursor.atBodyEnd = false := by
        simp only [Cursor.atBodyEnd, noDedent, more, Bool.or_self]
      split
      · exact recovering_shortens (topDeclaration_opens cursor).bind inside
      · exact recovering_shortens (statement_opens (expression_opens closed nestingLimit)).bind
          inside

/-! ## Repetition -/

section Repetition

variable {halt : Cursor → Bool} {step : σ → Recovering σ}
  [∀ state, Recovering.Forward (step state)]

/-- With a step that takes a token each time, a bound that is large enough is immaterial. -/
theorem repeatUntil_bound (halts : ∀ cursor : Cursor, cursor.ahead = [] → halt cursor = true)
    (advances : ∀ (state : σ) (cursor : Cursor), cursor.Closed → halt cursor = false →
      (step state cursor).2.ahead.length < cursor.ahead.length)
    {bound other : Nat} {state : σ} {cursor : Cursor} (closed : cursor.Closed)
    (enough : cursor.ahead.length ≤ bound) (enough' : cursor.ahead.length ≤ other) :
    repeatUntil halt step bound state cursor = repeatUntil halt step other state cursor ∧
      halt (repeatUntil halt step bound state cursor).2 = true := by
  induction bound generalizing other state cursor with
  | zero =>
      have halted := halts cursor (List.eq_nil_of_length_eq_zero (Nat.le_zero.mp enough))
      simp only [repeatUntil_of_halt halted, halted, and_self]
  | succ bound ih =>
      cases goesOn : halt cursor with
      | true => simp only [repeatUntil_of_halt goesOn, goesOn, and_self]
      | false =>
          have fewer := advances state cursor closed goesOn
          obtain ⟨other, rfl⟩ : ∃ smaller, other = smaller + 1 := ⟨other - 1, by omega⟩
          rw [repeatUntil_of_goesOn goesOn, repeatUntil_of_goesOn goesOn]
          exact ih ((Recovering.onward_snd (step state) cursor).closed closed) (by omega) (by omega)

end Repetition

section Bodies

variable {step other : σ → Recovering σ} [∀ state, Recovering.Forward (step state)]

/-- A body is read up to its end. -/
theorem atBodyEnd_body (advances : ∀ (state : σ) (cursor : Cursor), cursor.Closed →
      cursor.atBodyEnd = false → (step state cursor).2.ahead.length < cursor.ahead.length)
    (state : σ) {cursor : Cursor} (closed : cursor.Closed) :
    (body step state cursor).2.atBodyEnd = true :=
  (repeatUntil_bound (fun cursor none => by simp [Cursor.atBodyEnd, Cursor.atEnd, none])
    advances closed (Nat.le_refl _) (Nat.le_refl _)).2

/-- The steps of a body only matter where they are taken. -/
theorem body_congr {cursor : Cursor}
    (same : ∀ (state : σ) (later : Cursor), cursor.Onward later →
      step state later = other state later) (state : σ) :
    body step state cursor = body other state cursor := by
  have loop (bound : Nat) (state : σ) (later : Cursor) (onward : cursor.Onward later) :
      repeatUntil Cursor.atBodyEnd step bound state later =
        repeatUntil Cursor.atBodyEnd other bound state later := by
    induction bound generalizing state later with
    | zero => rfl
    | succ bound ih =>
        cases goesOn : later.atBodyEnd with
        | true => rw [repeatUntil_of_halt goesOn, repeatUntil_of_halt goesOn]
        | false =>
            rw [repeatUntil_of_goesOn goesOn, repeatUntil_of_goesOn goesOn,
              ← same state later onward]
            exact ih _ _ (onward.trans (Recovering.onward_snd (step state) later))
  exact loop cursor.ahead.length state cursor (.refl cursor)

end Bodies

theorem furtherItems_of_ne {separator : TokenKind} {item : Parse α} {cursor : Cursor}
    (other : cursor.kind ≠ separator) (bound : Nat) :
    furtherItems separator item bound cursor = .ok [] cursor := by
  cases bound with
  | zero => rfl
  | succ bound =>
      rw [furtherItems, bind_of_ok (accept_of_ne other)]
      rfl

/-- Items end where no separator stands. -/
theorem itemsAfter_of_ne {separator : TokenKind} {item : Parse α} {cursor : Cursor}
    (ends : cursor.kind ≠ separator) : itemsAfter separator item cursor = .ok [] cursor := by
  rw [itemsAfter, check, look_bind, beq_eq_false_iff_ne.mpr ends]
  rfl

/-- The bound on the items that follow is immaterial. -/
theorem furtherItems_bound {separator : TokenKind} (more : separator ≠ .endOfFile)
    {item : Parse α} [Forward item] {bound other : Nat} {cursor : Cursor}
    (enough : cursor.ahead.length ≤ bound) (enough' : cursor.ahead.length ≤ other) :
    furtherItems separator item bound cursor = furtherItems separator item other cursor := by
  induction bound generalizing other cursor with
  | zero =>
      have none : cursor.ahead = [] := List.eq_nil_of_length_eq_zero (Nat.le_zero.mp enough)
      have ended : cursor.kind ≠ separator := fun stands =>
        Cursor.ahead_ne_nil_of_kind stands more none
      rw [furtherItems_of_ne ended, furtherItems_of_ne ended]
  | succ bound ih =>
      by_cases stands : cursor.kind = separator
      · have fewer := Cursor.length_advance_lt (Cursor.ahead_ne_nil_of_kind stands more)
        obtain ⟨other, rfl⟩ : ∃ smaller, other = smaller + 1 := ⟨other - 1, by omega⟩
        rw [furtherItems, furtherItems, bind_of_ok (accept_of_kind stands),
          bind_of_ok (accept_of_kind stands)]
        refine bind_congr_behind fun first after read => ?_
        have shorter := (onward_of_ok read).ahead.length_le
        have same : furtherItems separator item bound after =
            furtherItems separator item other after := ih (by omega) (by omega)
        simp only [bind, EStateM.bind, same]
      · rw [furtherItems_of_ne stands, furtherItems_of_ne stands]

/-- The bound on the conditions that follow is immaterial. -/
theorem furtherArms_bound {expression : Parse Expr} {block : Parse (List Stmt)}
    [Forward expression] [Forward block] {bound other : Nat} {cursor : Cursor}
    (closed : cursor.Closed) (enough : cursor.ahead.length < bound)
    (enough' : cursor.ahead.length < other) :
    furtherArms expression block bound cursor = furtherArms expression block other cursor := by
  induction bound generalizing other cursor with
  | zero => omega
  | succ bound ih =>
      obtain ⟨other, rfl⟩ : ∃ smaller, other = smaller + 1 := ⟨other - 1, by omega⟩
      rw [furtherArms, furtherArms]
      change (if cursor.kind == .keyword .kwElif then _ else _ : Parse (List Arm × List Stmt)) cursor =
        (if cursor.kind == .keyword .kwElif then _ else _ : Parse (List Arm × List Stmt)) cursor
      split
      · next stands =>
          have text : cursor.kind.isLayout = false := by rw [beq_iff_eq.mp stands]; rfl
          refine bind_congr_behind fun first after read => ?_
          have fewer := (Opens.advance text).bind.shortens read
          have same : furtherArms expression block bound after =
              furtherArms expression block other after :=
            ih ((onward_of_ok read).closed closed) (by omega) (by omega)
          simp only [bind, EStateM.bind, same]
      · rfl

theorem classStep_congr {declaration other : Parse (Option Decl)} (members : List Decl)
    {cursor : Cursor} (same : declaration cursor = other cursor) :
    classStep declaration members cursor = classStep other members cursor := by
  have member : classMember declaration cursor = classMember other cursor := by
    unfold classMember
    by_cases stands : cursor.kind = .keyword .kwPass
    · rw [bind_of_ok (accept_of_kind stands), bind_of_ok (accept_of_kind stands)]
      rfl
    · rw [bind_of_ok (accept_of_ne stands), bind_of_ok (accept_of_ne stands)]
      change (if cursor.atDeclaration = true then declaration else _ : Parse (Option Decl)) cursor =
        (if cursor.atDeclaration = true then other else _ : Parse (Option Decl)) cursor
      split
      · exact same
      · rfl
  simp only [classStep, recovering, EStateM.run, bind, EStateM.bind, member]

theorem classHeader_shortens {cursor after : Cursor} {header : Span × Identifier × Identifier}
    (read : classHeader cursor = .ok header after) : after.ahead.length < cursor.ahead.length :=
  shortens_behind (fun _ later _ => (identifier_opens _ later).bind) read

/-- The bound on the classes that lie one within the other is immaterial. -/
theorem classDefinition_bound (room : Nat) {function : Parse Decl} [Forward function]
    {bound other : Nat} {cursor : Cursor} (closed : cursor.Closed)
    (enough : cursor.ahead.length < bound) (enough' : cursor.ahead.length < other) :
    classDefinition room function bound cursor = classDefinition room function other cursor := by
  induction bound generalizing other cursor with
  | zero => omega
  | succ bound ih =>
      obtain ⟨other, rfl⟩ : ∃ smaller, other = smaller + 1 := ⟨other - 1, by omega⟩
      rw [classDefinition_succ, classDefinition_succ]
      refine bind_congr_behind fun header after read => ?_
      have fewer := classHeader_shortens read
      have members : body (classStep (memberReader room function bound)) [] after =
          body (classStep (memberReader room function other)) [] after := by
        refine body_congr (fun members later onward => classStep_congr members ?_) []
        have shorter := onward.ahead.length_le
        have same : classDefinition room function bound later =
            classDefinition room function other later :=
          ih (onward.closed ((onward_of_ok read).closed closed)) (by omega) (by omega)
        unfold memberReader
        rw [look_bind, look_bind]
        generalize later.kind = kind
        split
        · rfl
        · simp only [bind, EStateM.bind, same]
        · rfl
      obtain ⟨start, name, superclass⟩ := header
      simp only [bind, EStateM.bind, ofRecovering_apply, members]

end Parse
end ChocoLang
