import ChocoLang.Proofs.Parsing.Progress
import ChocoLang.Proofs.Parsing.Spelling
import Mathlib.Data.List.Forall2

/-!
# Reading what is spelled

A reader reads a spelled phrase when, started before its tokens, it returns what they stand for,
stops right behind them and records nothing.  The one way out is that the room for nesting ends:
then the reader fails with that problem, or has recorded it.
-/

namespace ChocoLang

/-- The tokens begin with some of the given contents, behind which `rest` follows. -/
inductive Spelled : List Token → List TokenContent → List Token → Prop where
  | nil (rest : List Token) : Spelled rest [] rest
  | cons {tokens rest : List Token} {contents : List TokenContent} (token : Token)
    (tail : Spelled tokens contents rest) :
    Spelled (token :: tokens) (token.content :: contents) rest

/-- The kind of the first of some tokens; the end of the file if there is none. -/
def kindAt : List Token → TokenKind
  | [] => .endOfFile
  | token :: _ => token.kind

theorem kindAt_congr {tokens others : List Token} (same : tokens.head? = others.head?) :
    kindAt tokens = kindAt others := by
  cases tokens <;> cases others <;> simp_all [kindAt]

namespace Spelled

variable {tokens rest : List Token}

theorem append_iff (front back : List TokenContent) :
    Spelled tokens (front ++ back) rest ↔
      ∃ middle, Spelled tokens front middle ∧ Spelled middle back rest := by
  induction front generalizing tokens with
  | nil =>
      constructor
      · intro spelled
        exact ⟨tokens, .nil tokens, spelled⟩
      · rintro ⟨middle, empty, spelled⟩
        cases empty
        exact spelled
  | cons content front ih =>
      constructor
      · rintro (_ | ⟨token, tail⟩)
        obtain ⟨middle, first, second⟩ := ih.mp tail
        exact ⟨middle, .cons token first, second⟩
      · rintro ⟨middle, ⟨⟩ | ⟨token, tail⟩, second⟩
        exact .cons token (ih.mpr ⟨middle, tail, second⟩)

/-- Spelled tokens split where their contents do. -/
theorem split {front back : List TokenContent} (spelled : Spelled tokens (front ++ back) rest) :
    ∃ middle, Spelled tokens front middle ∧ Spelled middle back rest :=
  (append_iff front back).mp spelled

/-- The tokens of a list with given contents, before the rest. -/
theorem of_map_eq {front : List Token} {contents : List TokenContent}
    (same : front.map Token.content = contents) (rest : List Token) :
    Spelled (front ++ rest) contents rest := by
  subst same
  induction front with
  | nil => exact .nil rest
  | cons token front ih => exact .cons token ih

theorem eq_of_nil (spelled : Spelled tokens [] rest) : tokens = rest := by
  cases spelled
  rfl

theorem kindAt_eq {content : TokenContent} {contents : List TokenContent}
    (spelled : Spelled tokens (content :: contents) rest) : kindAt tokens = content.kind := by
  cases spelled
  rfl

/-- There are at least as many tokens as contents. -/
theorem length_le {contents : List TokenContent} (spelled : Spelled tokens contents rest) :
    contents.length + rest.length = tokens.length := by
  induction spelled with
  | nil rest => simp
  | cons token tail ih => simp [← ih, Nat.add_right_comm]

end Spelled

namespace Cursor

/-- The room for nesting ended, and this is recorded. -/
def Exhausted (cursor : Cursor) : Prop :=
  ∃ problem ∈ cursor.problems, problem.content = .nestedTooDeeply

theorem kind_eq_kindAt (cursor : Cursor) : cursor.kind = kindAt cursor.ahead := by
  unfold kind
  split <;> simp_all [kindAt]

theorem Exhausted.onward {before after : Cursor} (exhausted : before.Exhausted)
    (onward : before.Onward after) : after.Exhausted := by
  obtain ⟨problem, recorded, content⟩ := exhausted
  exact ⟨problem, onward.problems.subset recorded, content⟩

theorem Exhausted.of_record (problem : Located SyntaxError) (cursor : Cursor)
    (content : problem.content = .nestedTooDeeply) : (cursor.record problem).Exhausted :=
  ⟨problem, by simp [record], content⟩

end Cursor

namespace Parse

variable {α β : Type}

/--
Started at the cursor, the reader returns something accepted, stops before `rest` and records
nothing, unless the room for nesting ends.
-/
def Reads (reader : Parse α) (cursor : Cursor) (rest : List Token) (accepts : α → Prop) : Prop :=
  match reader cursor with
  | .ok value after =>
    accepts value ∧ after.ahead = rest ∧ after.problems = cursor.problems ∨ after.Exhausted
  | .error problem after => problem.content = .nestedTooDeeply ∨ after.Exhausted

namespace Reads

variable {reader : Parse α} {next : α → Parse β} {cursor : Cursor} {rest middle : List Token}
  {accepts : α → Prop} {accepts' : β → Prop}

theorem pure {value : α} (accepted : accepts value) (ahead : cursor.ahead = rest) :
    Reads (Pure.pure value) cursor rest accepts :=
  Or.inl ⟨accepted, ahead, rfl⟩

theorem mono {accepts' : α → Prop} (reads : Reads reader cursor rest accepts)
    (weaker : ∀ value, accepts value → accepts' value) : Reads reader cursor rest accepts' := by
  unfold Reads at reads ⊢
  split
  · next value after shape =>
      simp only [shape] at reads
      exact reads.imp_left (And.imp_left (weaker value))
  · next problem after shape => simpa only [shape] using reads

/-- A reader may start where the cursor has moved on to without recording anything. -/
theorem of_quiet {after : Cursor} (reads : Reads reader after rest accepts)
    (quiet : after.problems = cursor.problems) :
    match reader after with
    | .ok value final =>
      accepts value ∧ final.ahead = rest ∧ final.problems = cursor.problems ∨ final.Exhausted
    | .error problem final => problem.content = .nestedTooDeeply ∨ final.Exhausted := by
  rw [← quiet]
  exact reads

/-- One phrase is read after the other. -/
theorem bind [forward : ∀ value, Forward (next value)]
    (first : Reads reader cursor middle accepts)
    (second : ∀ value after, accepts value → after.ahead = middle →
      after.problems = cursor.problems → Reads (next value) after rest accepts') :
    Reads (reader >>= next) cursor rest accepts' := by
  unfold Reads at first
  simp only [Reads, Bind.bind, EStateM.bind]
  split at first
  · next value after shape =>
      simp only [shape]
      obtain ⟨accepted, ahead, quiet⟩ | exhausted := first
      · exact (second value after accepted ahead quiet).of_quiet quiet
      · have later := exhausted.onward (onward_stop (next value) after)
        unfold stop at later
        split <;> simp_all
  · next problem after shape => simpa only [shape] using first

theorem look {view : Cursor → α} (reads : Reads (next (view cursor)) cursor rest accepts') :
    Reads (Parse.look view >>= next) cursor rest accepts' :=
  reads

/-- Only what a reader does at the cursor matters. -/
theorem congr {other : Parse α} (same : reader cursor = other cursor)
    (reads : Reads other cursor rest accepts) : Reads reader cursor rest accepts := by
  unfold Reads at reads ⊢
  rw [same]
  exact reads

theorem bind_congr {other : Parse α} (same : reader cursor = other cursor)
    (reads : Reads (other >>= next) cursor rest accepts') :
    Reads (reader >>= next) cursor rest accepts' :=
  reads.congr (by simp only [Bind.bind, EStateM.bind, same])

/-- A reader fails for want of room. -/
theorem fail : Reads (Parse.fail .nestedTooDeeply : Parse α) cursor rest accepts :=
  Or.inl rfl

end Reads

theorem look_bind (view : Cursor → α) (next : α → Parse β) (cursor : Cursor) :
    (look view >>= next) cursor = next (view cursor) cursor := rfl

/-! ## Tokens -/

section Tokens

variable {next : Token → Parse β} {cursor : Cursor} {rest final : List Token}
  {content : TokenContent} {contents : List TokenContent} {accepts : β → Prop}

/-- Past the first of the tokens ahead, the others are ahead. -/
theorem advance_spelled (spelled : Spelled cursor.ahead (content :: contents) rest) :
    cursor.current.content = content ∧ Spelled cursor.advance.ahead contents rest ∧
      cursor.advance.problems = cursor.problems := by
  unfold Cursor.current Cursor.advance
  generalize ahead : cursor.ahead = tokens at spelled
  cases spelled with
  | cons token tail => exact ⟨rfl, tail, rfl⟩

theorem content_current (spelled : Spelled cursor.ahead (content :: contents) rest) :
    cursor.current.content = content :=
  (advance_spelled spelled).1

theorem kind_current (spelled : Spelled cursor.ahead (content :: contents) rest) :
    cursor.current.kind = content.kind :=
  congrArg TokenContent.kind (content_current spelled)

theorem atEnd_of_spelled (spelled : Spelled cursor.ahead (content :: contents) rest) :
    cursor.atEnd = false := by
  unfold Cursor.atEnd
  generalize cursor.ahead = tokens at spelled
  cases spelled
  rfl

theorem second_of_spelled {second : TokenContent}
    (spelled : Spelled cursor.ahead (content :: second :: contents) rest) :
    cursor.ahead.tail.head?.map Token.kind = some second.kind := by
  generalize cursor.ahead = tokens at spelled
  cases spelled with
  | cons token tail => cases tail with
    | cons token tail => rfl

theorem kind_of_spelled (spelled : Spelled cursor.ahead (content :: contents) rest) :
    cursor.kind = content.kind := by
  rw [cursor.kind_eq_kindAt, spelled.kindAt_eq]

namespace Reads

/-- Reads a token, whatever it is. -/
theorem advance (spelled : Spelled cursor.ahead (content :: contents) rest)
    (reads : ∀ token after, token.content = content → Spelled after.ahead contents rest →
      Reads (next token) after final accepts) :
    Reads (Parse.advance >>= next) cursor final accepts := by
  obtain ⟨same, tail, quiet⟩ := advance_spelled spelled
  exact (reads cursor.current cursor.advance same tail).of_quiet quiet

/-- Moves past a token. -/
theorem skip {next : Unit → Parse β} (spelled : Spelled cursor.ahead (content :: contents) rest)
    (reads : ∀ after, Spelled after.ahead contents rest → Reads (next ()) after final accepts) :
    Reads (modify Cursor.advance >>= next) cursor final accepts := by
  obtain ⟨same, tail, quiet⟩ := advance_spelled spelled
  exact (reads cursor.advance tail).of_quiet quiet

/-- Reads a token of the kind that is wanted. -/
theorem expect {kind : TokenKind} {wanted : Expectation}
    (spelled : Spelled cursor.ahead (content :: contents) rest) (sort : content.kind = kind)
    (reads : ∀ token after, token.content = content → Spelled after.ahead contents rest →
      Reads (next token) after final accepts) :
    Reads (Parse.expect kind wanted >>= next) cursor final accepts := by
  have found : (cursor.kind == kind) = true := by
    simp [Cursor.kind_eq_kindAt, spelled.kindAt_eq, sort]
  have step : Parse.expect kind wanted cursor = Parse.advance cursor := by
    rw [Parse.expect, check, look_bind, found]
    rfl
  have same : (Parse.expect kind wanted >>= next) cursor = (Parse.advance >>= next) cursor := by
    simp only [Bind.bind, EStateM.bind, step]
  unfold Reads
  rw [same]
  exact advance spelled reads

/-- Reads a symbol. -/
theorem expectSymbol {next : Unit → Parse β} {symbol : Symbol} {wanted : Expectation}
    (spelled : Spelled cursor.ahead (.sign symbol :: contents) rest)
    (reads : ∀ after, Spelled after.ahead contents rest → Reads (next ()) after final accepts) :
    Reads (Parse.expectSymbol symbol wanted >>= next) cursor final accepts := by
  simp only [Parse.expectSymbol, bind_assoc, pure_bind]
  exact expect spelled rfl fun token after _ tail => reads after tail

/-- Reads a name. -/
theorem identifier {next : Identifier → Parse β} {wanted : Expectation} {text : String}
    (spelled : Spelled cursor.ahead (.name text :: contents) rest)
    (reads : ∀ (name : Identifier) after, name.name = text → Spelled after.ahead contents rest →
      Reads (next name) after final accepts) :
    Reads (Parse.identifier wanted >>= next) cursor final accepts := by
  simp only [Parse.identifier, bind_assoc, pure_bind]
  refine expect spelled rfl fun token after same tail => reads _ after ?_ tail
  have value : token.value = .text text := congrArg TokenContent.value same
  simp [value, TokenValue.display]

theorem check {next : Bool → Parse β} {kind : TokenKind}
    (reads : Reads (next (kindAt cursor.ahead == kind)) cursor final accepts) :
    Reads (Parse.check kind >>= next) cursor final accepts := by
  rw [← Cursor.kind_eq_kindAt] at reads
  exact reads

/-- Accepts a token of the kind that is asked for. -/
theorem accept {next : Bool → Parse β} {kind : TokenKind}
    (spelled : Spelled cursor.ahead (content :: contents) rest) (sort : content.kind = kind)
    (reads : ∀ after, Spelled after.ahead contents rest → Reads (next true) after final accepts) :
    Reads (Parse.accept kind >>= next) cursor final accepts := by
  simp only [Parse.accept, bind_assoc]
  refine check ?_
  simp only [spelled.kindAt_eq, sort, beq_self_eq_true, if_true, bind_assoc, pure_bind]
  exact skip spelled reads

/-- Accepts the last of the tokens. -/
theorem accept_last {kind : TokenKind} (spelled : Spelled cursor.ahead [content] rest)
    (sort : content.kind = kind) : Reads (Parse.accept kind) cursor rest fun _ => True := by
  have read : Reads (Parse.accept kind >>= Pure.pure) cursor rest fun _ => True :=
    accept spelled sort fun after tail => pure trivial tail.eq_of_nil
  simpa using read

/-- Leaves a token of another kind than is asked for. -/
theorem accept_of_ne {next : Bool → Parse β} {kind : TokenKind}
    (other : kindAt cursor.ahead ≠ kind) (reads : Reads (next false) cursor final accepts) :
    Reads (Parse.accept kind >>= next) cursor final accepts := by
  simp only [Parse.accept, bind_assoc]
  refine check ?_
  simpa [beq_eq_false_iff_ne.mpr other] using reads

/-- Reads the end of a line. -/
theorem lineEnd {next : Unit → Parse β}
    (spelled : Spelled cursor.ahead (.newline :: contents) rest)
    (reads : ∀ after, Spelled after.ahead contents rest → Reads (next ()) after final accepts) :
    Reads (Parse.lineEnd >>= next) cursor final accepts := by
  simp only [Parse.lineEnd, bind_assoc]
  refine accept spelled rfl fun after tail => ?_
  simpa using reads after tail

end Reads
end Tokens

/-! ## Lists -/

section Lists

variable {δ : Type} {item : Parse α} {separator : TokenContent}
  {spelling : δ → List TokenContent} {accepts : δ → α → Prop}

/--
The items can each be read where the separator or one of the kinds that may end the list comes next.
-/
def ReadsItems (item : Parse α) (ends : TokenKind → Prop) (spelling : δ → List TokenContent)
    (accepts : δ → α → Prop) (items : List δ) : Prop :=
  ∀ one ∈ items, ∀ (cursor : Cursor) (rest : List Token),
    Spelled cursor.ahead (spelling one) rest → ends (kindAt rest) →
      Reads item cursor rest (accepts one)

/-- What is read has the same shapes in the same order. -/
theorem map_shape_eq {γ : Type} {shape : α → γ} {wanted read : List α}
    (same : List.Forall₂ (fun one other => shape other = shape one) wanted read) :
    read.map shape = wanted.map shape := by
  induction same with
  | nil => rfl
  | cons one _ ih => simp only [List.map_cons, one, ih]

/-- Every item takes a token at least: the separator before it. -/
theorem length_le_furtherSpelling (separator : TokenContent) (spelling : δ → List TokenContent)
    (items : List δ) : items.length ≤ (furtherSpelling separator spelling items).length := by
  induction items with
  | nil => simp
  | cons one items ih =>
      simp only [furtherSpelling, List.length_cons, List.length_append, List.cons_append]
      omega

theorem kindAt_furtherSpelling (ends : TokenKind → Prop) {tokens rest : List Token}
    {items : List δ}
    (spelled : Spelled tokens (furtherSpelling separator spelling items) rest)
    (separates : ends separator.kind) (closes : ends (kindAt rest)) : ends (kindAt tokens) := by
  cases items with
  | nil =>
      cases spelled
      exact closes
  | cons first items =>
      rw [spelled.kindAt_eq]
      exact separates

namespace Reads

variable [Forward item] (separator : TokenContent) (ends : TokenKind → Prop)
  (accepts : δ → α → Prop) {items : List δ} {cursor : Cursor} {rest : List Token}

theorem furtherItems (bound : Nat) (enough : items.length ≤ bound)
    (each : ReadsItems item ends spelling accepts items)
    (separates : ends separator.kind) (closes : ends (kindAt rest))
    (other : kindAt rest ≠ separator.kind)
    (spelled : Spelled cursor.ahead (furtherSpelling separator spelling items) rest) :
    Reads (Parse.furtherItems separator.kind item bound) cursor rest
      (List.Forall₂ accepts items) := by
  induction items generalizing bound cursor with
  | nil =>
      have ahead : cursor.ahead = rest := spelled.eq_of_nil
      cases bound with
      | zero => exact pure .nil ahead
      | succ bound => exact accept_of_ne (ahead ▸ other) (pure .nil ahead)
  | cons one items ih =>
      obtain ⟨bound, rfl⟩ : ∃ smaller, bound = smaller + 1 :=
        ⟨bound - 1, by simp at enough; omega⟩
      refine accept spelled rfl fun after tail => ?_
      obtain ⟨middle, first, others⟩ := tail.split
      simp only [if_true]
      refine (each one List.mem_cons_self after middle first
        (kindAt_furtherSpelling ends others separates closes)).bind
        fun value behind accepted ahead _ => ?_
      subst ahead
      refine (ih bound (by simpa using enough)
        (fun other member => each other (List.mem_cons_of_mem one member)) others).bind
          fun values final read ahead _ => ?_
      exact pure (.cons accepted read) ahead

theorem itemsAfter (each : ReadsItems item ends spelling accepts items)
    (separates : ends separator.kind) (closes : ends (kindAt rest))
    (other : kindAt rest ≠ separator.kind)
    (spelled : Spelled cursor.ahead (furtherSpelling separator spelling items) rest) :
    Reads (Parse.itemsAfter separator.kind item) cursor rest (List.Forall₂ accepts items) := by
  refine check ?_
  cases items with
  | nil =>
      have ahead : cursor.ahead = rest := spelled.eq_of_nil
      simpa [ahead, beq_eq_false_iff_ne.mpr other] using pure .nil ahead
  | cons one items =>
      simp only [spelled.kindAt_eq, beq_self_eq_true, if_true]
      refine look (furtherItems separator ends accepts _ ?_ each separates closes other spelled)
      have enough := spelled.length_le
      have long := length_le_furtherSpelling separator spelling (one :: items)
      omega

/-- Reads items between commas up to the symbol that closes the list. -/
theorem commaList {close : Symbol} (each : ReadsItems item ends spelling accepts items)
    (begins : ∀ one ∈ items, ∃ content contents, spelling one = content :: contents ∧
      content.kind ≠ .symbol close)
    (separates : ends (.symbol .comma)) (closes : ends (.symbol close)) (apart : close ≠ .comma)
    (stands : kindAt rest = .symbol close)
    (spelled : Spelled cursor.ahead (separatedSpelling (.sign .comma) spelling items) rest) :
    Reads (Parse.commaList close item) cursor rest (List.Forall₂ accepts items) := by
  refine check ?_
  cases items with
  | nil =>
      have ahead : cursor.ahead = rest := spelled.eq_of_nil
      simpa [ahead, stands] using pure .nil ahead
  | cons one items =>
      obtain ⟨content, contents, shape, kind⟩ := begins one List.mem_cons_self
      have front : kindAt cursor.ahead = content.kind := by
        rw [separatedSpelling, shape] at spelled
        exact spelled.kindAt_eq
      simp only [front, beq_eq_false_iff_ne.mpr kind, Bool.false_eq_true, if_false]
      obtain ⟨middle, first, others⟩ := spelled.split
      refine (each one List.mem_cons_self cursor middle first
        (kindAt_furtherSpelling ends others separates (stands ▸ closes))).bind
          fun value after accepted ahead _ => ?_
      subst ahead
      refine (itemsAfter (.sign .comma) ends accepts
        (fun other member => each other (List.mem_cons_of_mem one member)) separates
        (stands ▸ closes) (by simpa [stands, TokenContent.sign] using apart) others).bind
          fun values final read ahead _ => ?_
      exact pure (.cons accepted read) ahead

end Reads
end Lists
end Parse
end ChocoLang
