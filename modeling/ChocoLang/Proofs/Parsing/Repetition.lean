import ChocoLang.Proofs.Parsing.Reads

/-!
# Reading what is repeated

The members of a body are read one by one, each by a reader that deals with its failures itself.
What has been read and what is still to come are related throughout; when nothing is to come any
more, the relation says what has been read of the whole body.
-/

namespace ChocoLang
namespace Parse

variable {α β σ δ : Type}

/--
Started at the cursor, a reader that deals with its failures returns something accepted, stops
before `rest` and records nothing, unless the room for nesting ends.
-/
def Recovering.Reads (reader : Recovering α) (cursor : Cursor) (rest : List Token)
    (accepts : α → Prop) : Prop :=
  accepts (reader cursor).1 ∧ (reader cursor).2.ahead = rest ∧
    (reader cursor).2.problems = cursor.problems ∨ (reader cursor).2.Exhausted

namespace Recovering.Reads

variable {cursor : Cursor} {rest : List Token} {accepts : α → Prop}

/-- Only what the reader does at the cursor matters. -/
theorem congr {reader other : Recovering α} (same : reader cursor = other cursor)
    (reads : Recovering.Reads other cursor rest accepts) :
    Recovering.Reads reader cursor rest accepts := by
  unfold Recovering.Reads at reads ⊢
  rw [same]
  exact reads

theorem mono {reader : Recovering α} {accepts' : α → Prop}
    (reads : Recovering.Reads reader cursor rest accepts)
    (weaker : ∀ value, accepts value → accepts' value) :
    Recovering.Reads reader cursor rest accepts' :=
  reads.imp_left (And.imp_left (weaker _))

/-- A failure for want of room is recorded; there is no other. -/
theorem of_reads {reader : Parse α} (fallback : α)
    (reads : Parse.Reads reader cursor rest accepts) :
    Recovering.Reads (recovering fallback reader) cursor rest accepts := by
  simp only [Parse.Reads] at reads
  simp only [Recovering.Reads, recovering, EStateM.run]
  split
  · next value after shape => simpa only [shape] using reads
  · next problem after shape =>
      simp only [shape] at reads
      obtain content | exhausted := reads
      · exact Or.inr ((Cursor.Exhausted.of_record problem after content).onward
          (Cursor.Onward.recovered _ problem after))
      · exact Or.inr (exhausted.onward (Cursor.Onward.recover _ _ after))

/-- What a reader that deals with its failures reads is read where any reader may stand. -/
theorem ofRecovering {reader : Recovering α}
    (reads : Recovering.Reads reader cursor rest accepts) :
    Parse.Reads (Parse.ofRecovering reader) cursor rest accepts := by
  simp only [Parse.Reads, ofRecovering_apply]
  exact reads

end Recovering.Reads

section Repetition

variable {halt : Cursor → Bool} {step : σ → Recovering σ} {spelling : δ → List TokenContent}
  {ends : TokenKind → Prop} {cursor : Cursor} {final : List Token} {state : σ}

theorem repeatUntil_of_halt (halted : halt cursor = true) (bound : Nat) :
    repeatUntil halt step bound state cursor = (state, cursor) := by
  cases bound with
  | zero => rfl
  | succ bound =>
      change (if halt cursor = true then _ else _ : Recovering σ) cursor = _
      rw [if_pos halted]
      rfl

theorem repeatUntil_of_goesOn (goesOn : halt cursor = false) (bound : Nat) :
    repeatUntil halt step (bound + 1) state cursor =
      repeatUntil halt step bound (step state cursor).1 (step state cursor).2 := by
  simp only [repeatUntil, bind, StateT.bind, get, getThe, MonadStateOf.get, StateT.get, pure,
    goesOn]
  rfl

/--
Members that each begin with a token at which the repetition goes on are read one after the other,
up to where it stops.
-/
theorem repeatUntil_reads [forward : ∀ state, Recovering.Forward (step state)] {items : List δ}
    (begins : TokenKind → Prop) (holds : σ → List δ → Prop) (bound : Nat)
    (enough : items.length ≤ bound)
    (starts : ∀ one ∈ items, ∃ content contents, spelling one = content :: contents ∧
      begins content.kind)
    (goesOn : ∀ cursor : Cursor, begins (kindAt cursor.ahead) → halt cursor = false)
    (follows : ∀ kind, begins kind → ends kind)
    (each : ∀ one ∈ items, ∀ (state : σ) (later : List δ) (cursor : Cursor) (rest : List Token),
      holds state (one :: later) → Spelled cursor.ahead (spelling one) rest → ends (kindAt rest) →
      Recovering.Reads (step state) cursor rest fun state => holds state later)
    (halts : ∀ cursor : Cursor, cursor.ahead = final → halt cursor = true)
    (closes : ends (kindAt final)) (held : holds state items)
    (spelled : Spelled cursor.ahead (items.flatMap spelling) final) :
    Recovering.Reads (repeatUntil halt step bound state) cursor final
      fun state => holds state [] := by
  induction items generalizing bound state cursor with
  | nil =>
      have ahead : cursor.ahead = final := spelled.eq_of_nil
      rw [Recovering.Reads, repeatUntil_of_halt (halts cursor ahead)]
      exact Or.inl ⟨held, ahead, rfl⟩
  | cons one items ih =>
      obtain ⟨bound, rfl⟩ : ∃ smaller, bound = smaller + 1 :=
        ⟨bound - 1, by simp at enough; omega⟩
      obtain ⟨content, contents, shape, sort⟩ := starts one List.mem_cons_self
      rw [List.flatMap_cons] at spelled
      obtain ⟨middle, first, others⟩ := spelled.split
      have front : kindAt cursor.ahead = content.kind := by
        rw [shape] at first
        exact first.kindAt_eq
      have next : ends (kindAt middle) := by
        cases items with
        | nil => exact others.eq_of_nil ▸ closes
        | cons second items =>
            obtain ⟨content, contents, shape, sort⟩ := starts second (by simp)
            rw [List.flatMap_cons, shape] at others
            exact others.kindAt_eq ▸ follows _ sort
      rw [Recovering.Reads, repeatUntil_of_goesOn (goesOn cursor (front ▸ sort))]
      obtain ⟨held, ahead, quiet⟩ | exhausted :=
        each one List.mem_cons_self state items cursor middle held first next
      · have later := ih bound (by simpa using enough)
          (fun one member => starts one (List.mem_cons_of_mem _ member))
          (fun one member => each one (List.mem_cons_of_mem _ member)) held (ahead ▸ others)
        rw [Recovering.Reads, quiet] at later
        exact later
      · exact Or.inr (exhausted.onward (Recovering.onward_snd
          (repeatUntil halt step bound (step state cursor).1) (step state cursor).2))

end Repetition

/-! ## Bodies -/

section Bodies

variable {step : σ → Recovering σ} {spelling : δ → List TokenContent} {cursor : Cursor}
  {final : List Token} {state : σ}

/-- Every member takes a token at least. -/
theorem length_le_flatMap (spelling : δ → List TokenContent) {items : List δ}
    (starts : ∀ one ∈ items, ∃ content contents, spelling one = content :: contents) :
    items.length ≤ (items.flatMap spelling).length := by
  induction items with
  | nil => simp
  | cons one items ih =>
      obtain ⟨content, contents, shape⟩ := starts one List.mem_cons_self
      have tail := ih fun one member => starts one (List.mem_cons_of_mem _ member)
      simp only [List.flatMap_cons, shape, List.length_append, List.length_cons]
      omega

/-- The members of a body are read up to the token that ends it. -/
theorem body_reads [forward : ∀ state, Recovering.Forward (step state)] {items : List δ}
    (ends : TokenKind → Prop) (holds : σ → List δ → Prop)
    (starts : ∀ one ∈ items, ∃ content contents, spelling one = content :: contents ∧
      content.kind ≠ .dedent ∧ content.kind ≠ .endOfFile ∧ ends content.kind)
    (each : ∀ one ∈ items, ∀ (state : σ) (later : List δ) (cursor : Cursor) (rest : List Token),
      holds state (one :: later) → Spelled cursor.ahead (spelling one) rest → ends (kindAt rest) →
      Recovering.Reads (step state) cursor rest fun state => holds state later)
    (stands : kindAt final = .dedent) (closes : ends .dedent) (held : holds state items)
    (spelled : Spelled cursor.ahead (items.flatMap spelling) final) :
    Recovering.Reads (body step state) cursor final fun state => holds state [] := by
  have enough : items.length ≤ cursor.ahead.length := by
    have long := length_le_flatMap spelling fun one member =>
      let ⟨content, contents, shape, _⟩ := starts one member
      ⟨content, contents, shape⟩
    have short := spelled.length_le
    omega
  refine repeatUntil_reads (fun kind => kind ≠ .dedent ∧ kind ≠ .endOfFile ∧ ends kind)
    holds cursor.ahead.length enough starts ?_ (fun kind sort => sort.2.2) each ?_
    (stands ▸ closes) held spelled
  · rintro cursor ⟨noDedent, noEnd, -⟩
    have some : cursor.ahead ≠ [] := fun empty => noEnd (by rw [empty]; rfl)
    simp [Cursor.atBodyEnd, Cursor.atEnd, Cursor.kind_eq_kindAt, noDedent, some]
  · intro cursor ahead
    simp [Cursor.atBodyEnd, Cursor.kind_eq_kindAt, ahead, stands]

end Bodies
end Parse
end ChocoLang
