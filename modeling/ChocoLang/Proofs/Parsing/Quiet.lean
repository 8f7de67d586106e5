import ChocoLang.Proofs.Parsing.Reads
import ChocoLang.Proofs.Parsing.Repetition
import ChocoLang.Proofs.Token.Lines

/-!
# Reading without problems

A reader reads quietly from one cursor to another when it returns a value there and no problem is
known.  Then every reader that is run on the way reads quietly as well, so that the tokens between
the two cursors can be told from what each of these returns.
-/

namespace ChocoLang

/-! ## Tokens without problems -/

/-- The tokens ahead are the rest of the tokens of a program without problems. -/
structure Cursor.Orderly (cursor : Cursor) : Prop where
  /-- Every token says what a token of its kind says. -/
  regular : ∀ token ∈ cursor.ahead, token.content.Regular
  /-- The tokens end a sequence of lines in nested blocks. -/
  lined : ∃ front, Lined True 0 (front ++ cursor.ahead.map Token.content)
  /-- The file ends with the token that marks its end. -/
  ending : cursor.ending.kind = .endOfFile

namespace Cursor

/-- Between the cursors stand tokens that say these. -/
def Spells (cursor : Cursor) (tokens : List TokenContent) (after : Cursor) : Prop :=
  Spelled cursor.ahead tokens after.ahead

namespace Spells

variable {cursor middle after : Cursor} {first second : List TokenContent}

theorem refl (cursor : Cursor) : cursor.Spells [] cursor := .nil cursor.ahead

theorem trans (before : cursor.Spells first middle) (behind : middle.Spells second after) :
    cursor.Spells (first ++ second) after :=
  (Spelled.append_iff first second).mpr ⟨middle.ahead, before, behind⟩

theorem cons {content : TokenContent} (before : cursor.Spells [content] middle)
    (behind : middle.Spells second after) : cursor.Spells (content :: second) after :=
  before.trans behind

theorem map_eq (spells : cursor.Spells first after) :
    cursor.ahead.map Token.content = first ++ after.ahead.map Token.content := by
  unfold Spells at spells
  generalize cursor.ahead = ahead, after.ahead = rest at spells
  induction spells with
  | nil rest => rfl
  | cons token tail ih => simp [ih]

/-- Where something is spelled, fewer tokens are ahead behind it. -/
theorem length_lt (spells : cursor.Spells first after) (nonempty : first ≠ []) :
    after.ahead.length < cursor.ahead.length := by
  have counted := spells.length_le
  have positive := List.length_pos_iff.mpr nonempty
  omega

end Spells

namespace Orderly

variable {cursor after : Cursor} {tokens : List TokenContent}

theorem onward (orderly : cursor.Orderly) (onward : cursor.Onward after) : after.Orderly := by
  obtain ⟨front, same⟩ := onward.ahead
  obtain ⟨before, lined⟩ := orderly.lined
  refine ⟨fun token among => orderly.regular token (onward.ahead.subset among),
    ⟨before ++ front.map Token.content, ?_⟩, onward.ending ▸ orderly.ending⟩
  rwa [← same, List.map_append, ← List.append_assoc] at lined

/-- Text does not stand at the end of the file: the end of its line comes first. -/
theorem ahead_ne_nil_of_inline (orderly : cursor.Orderly) (spells : cursor.Spells tokens after)
    (nonempty : tokens ≠ []) (inside : Inline tokens) : after.ahead ≠ [] := by
  intro ended
  obtain ⟨front, lined⟩ := orderly.lined
  have same := spells.map_eq
  rw [ended, List.map_nil, List.append_nil] at same
  rw [same] at lined
  have last := List.getLast?_eq_some_getLast nonempty
  have closed := lined.isLayout_of_getLast? (tokens.getLast nonempty)
    (by simp [List.getLast?_append, last])
  rw [inside _ (List.getLast_mem nonempty)] at closed
  cases closed

/-- The end of a block comes before the end of the file. -/
theorem ahead_ne_nil_of_block (orderly : cursor.Orderly) (closed : BlocksClosed tokens)
    (spells : cursor.Spells (.newline :: .indent :: tokens) after) : after.ahead ≠ [] := by
  intro ended
  obtain ⟨front, lined⟩ := orderly.lined
  have same := spells.map_eq
  rw [ended, List.map_nil, List.append_nil] at same
  rw [same] at lined
  have nested := lined.nesting_eq
  rw [List.map_append, nesting_append] at nested
  obtain ⟨depth, -, inner⟩ := Option.bind_eq_some_iff.mp nested
  have opened : nesting depth ((.newline :: .indent :: tokens).map TokenContent.kind) =
      some (depth + 1) := closed.nesting_eq (depth + 1)
  rw [opened] at inner
  cases inner

/-- A block begins with a line. -/
theorem kindAt_of_indent (orderly : cursor.Orderly)
    (spells : cursor.Spells [.newline, .indent] after) :
    (kindAt after.ahead).isLayout = false := by
  obtain ⟨front, lined⟩ := orderly.lined
  have shape : front ++ cursor.ahead.map Token.content =
      (front ++ [.newline]) ++ .indent :: after.ahead.map Token.content := by
    simp [spells.map_eq]
  obtain ⟨content, later, same, text⟩ := lined.text_behind_indent trivial shape
  cases shape : after.ahead with
  | nil => simp [shape] at same
  | cons token rest =>
      rw [shape, List.map_cons, List.cons.injEq] at same
      rw [kindAt, ← Token.kind_content, same.1]
      exact text

end Orderly
end Cursor

namespace Parse

variable {α β σ : Type}

/-- The reader returns the value at the second cursor, and no problem is known there. -/
structure Quiet (reader : Parse α) (cursor : Cursor) (value : α) (after : Cursor) : Prop where
  /-- There are no problems in the tokens. -/
  orderly : cursor.Orderly
  /-- The reader returns the value. -/
  returns : reader cursor = .ok value after
  /-- No problem has been recorded. -/
  silent : after.problems = []

/-- What the reader returns quietly is written by the tokens that it leaves behind. -/
def Writes (reader : Parse α) (writes : α → List TokenContent → Prop) : Prop :=
  ∀ ⦃cursor : Cursor⦄ ⦃value : α⦄ ⦃after : Cursor⦄, Quiet reader cursor value after →
    ∃ tokens, cursor.Spells tokens after ∧ writes value tokens

namespace Quiet

variable {reader : Parse α} {next : α → Parse β} {cursor after : Cursor} {value : α} {result : β}

theorem orderly_after [Forward reader] (quiet : Quiet reader cursor value after) :
    after.Orderly := by
  have moved := onward_stop reader cursor
  simp only [stop, quiet.returns] at moved
  exact quiet.orderly.onward moved

theorem bind [Forward reader] [∀ value, Forward (next value)]
    (quiet : Quiet (reader >>= next) cursor result after) :
    ∃ value middle, Quiet reader cursor value middle ∧ Quiet (next value) middle result after := by
  obtain ⟨orderly, returns, silent⟩ := quiet
  simp only [Bind.bind, EStateM.bind] at returns
  split at returns
  · next value middle shape =>
      have later := onward_stop (next value) middle
      simp only [stop, returns] at later
      have first : Quiet reader cursor value middle :=
        ⟨orderly, shape, List.prefix_nil.mp (silent ▸ later.problems)⟩
      exact ⟨value, middle, first, first.orderly_after, returns, silent⟩
  · cases returns

theorem pure {found : α} (quiet : Quiet (Pure.pure value) cursor found after) :
    value = found ∧ cursor = after := by
  cases quiet.returns
  exact ⟨rfl, rfl⟩

/-- Looking at the cursor leaves it where it is. -/
theorem look {view : Cursor → α} (quiet : Quiet (Parse.look view >>= next) cursor result after) :
    Quiet (next (view cursor)) cursor result after :=
  ⟨quiet.orderly, quiet.returns, quiet.silent⟩

theorem get {next : Cursor → Parse β} (quiet : Quiet (MonadState.get >>= next) cursor result after) :
    Quiet (next cursor) cursor result after :=
  ⟨quiet.orderly, quiet.returns, quiet.silent⟩

theorem not_fail {error : SyntaxError} : ¬Quiet (Parse.fail error : Parse α) cursor value after :=
  fun quiet => nomatch quiet.returns

theorem not_throw {problem : Located SyntaxError} :
    ¬Quiet (throw problem : Parse α) cursor value after :=
  fun quiet => nomatch quiet.returns

end Quiet

/-! ## Tokens -/

section Tokens

variable {cursor after : Cursor}

/-- A cursor that is not at the end passes the token at it. -/
theorem spells_advance (more : cursor.ahead ≠ []) :
    cursor.Spells [cursor.current.content] cursor.advance := by
  unfold Cursor.Spells Cursor.current Cursor.advance
  cases shape : cursor.ahead with
  | nil => exact absurd shape more
  | cons token rest => exact .cons token (.nil rest)

theorem ahead_ne_nil_of_kind {kind : TokenKind} (found : cursor.kind = kind)
    (text : kind ≠ .endOfFile) : cursor.ahead ≠ [] := by
  rintro ended
  rw [cursor.kind_eq_kindAt, ended] at found
  exact text found.symm

theorem kind_current_of_ahead (more : cursor.ahead ≠ []) : cursor.current.kind = cursor.kind := by
  unfold Cursor.current Cursor.kind
  split
  · next ended => exact absurd ended more
  · next token rest shape => rw [shape]; rfl

/-- The end of the file is not taken for another token. -/
theorem ahead_ne_nil_of_current (orderly : cursor.Orderly)
    (text : cursor.current.kind ≠ .endOfFile) : cursor.ahead ≠ [] := by
  intro ended
  apply text
  unfold Cursor.current
  rw [ended]
  exact orderly.ending

theorem regular_current (orderly : cursor.Orderly) (more : cursor.ahead ≠ []) :
    cursor.current.content.Regular := by
  obtain ⟨token, rest, shape⟩ := List.exists_cons_of_ne_nil more
  unfold Cursor.current
  rw [shape]
  exact orderly.regular token (by simp [shape])

namespace Quiet

variable {value : Token} {kind : TokenKind} {wanted : Expectation}

theorem advance (quiet : Quiet Parse.advance cursor value after) (more : cursor.ahead ≠ []) :
    value = cursor.current ∧ cursor.Spells [value.content] after ∧ value.content.Regular := by
  obtain ⟨orderly, ⟨⟩, -⟩ := quiet
  exact ⟨rfl, spells_advance more, regular_current orderly more⟩

theorem ne_endOfFile {content : TokenContent} (fixed : kind.content? = some content) :
    kind ≠ .endOfFile := by
  rintro rfl
  cases fixed

/-- Reads a token of which the content is known. -/
theorem advanceFixed {content : TokenContent} (quiet : Quiet Parse.advance cursor value after)
    (found : cursor.kind = kind) (fixed : kind.content? = some content) :
    cursor.Spells [content] after := by
  have more := ahead_ne_nil_of_kind found (ne_endOfFile fixed)
  obtain ⟨rfl, spells, regular⟩ := quiet.advance more
  have same : cursor.current.content.kind = kind := (kind_current_of_ahead more).trans found
  rwa [regular.eq_of_content? (same ▸ fixed)] at spells

/-- Moves past the token at the cursor. -/
theorem skip (quiet : Quiet (modify Cursor.advance : Parse Unit) cursor () after)
    (more : cursor.ahead ≠ []) :
    cursor.Spells [cursor.current.content] after ∧ cursor.current.content.Regular := by
  obtain ⟨orderly, ⟨⟩, -⟩ := quiet
  exact ⟨spells_advance more, regular_current orderly more⟩

/-- Moves past a token of which the content is known. -/
theorem skipFixed {content : TokenContent}
    (quiet : Quiet (modify Cursor.advance : Parse Unit) cursor () after)
    (found : cursor.current.kind = kind) (fixed : kind.content? = some content) :
    cursor.Spells [content] after := by
  have more := ahead_ne_nil_of_current quiet.orderly (found ▸ ne_endOfFile fixed)
  obtain ⟨spells, regular⟩ := quiet.skip more
  rwa [regular.eq_of_content? (found ▸ fixed)] at spells

theorem check {found : Bool} (quiet : Quiet (Parse.check kind) cursor found after) :
    (cursor.kind == kind) = found ∧ cursor = after := by
  cases quiet.returns
  exact ⟨rfl, rfl⟩

theorem expect (quiet : Quiet (Parse.expect kind wanted) cursor value after)
    (text : kind ≠ .endOfFile) :
    value.kind = kind ∧ cursor.Spells [value.content] after ∧ value.content.Regular := by
  obtain ⟨found, middle, checked, rest⟩ := quiet.bind
  obtain ⟨rfl, rfl⟩ := checked.check
  split at rest
  · next same =>
      have more := ahead_ne_nil_of_kind (by simpa using same) text
      obtain ⟨rfl, spells, regular⟩ := rest.advance more
      exact ⟨(kind_current_of_ahead more).trans (by simpa using same), spells, regular⟩
  · exact absurd rest.look not_fail

/-- Expects a token of which the content is known. -/
theorem expectFixed {content : TokenContent} (fixed : kind.content? = some content)
    (quiet : Quiet (Parse.expect kind wanted) cursor value after) :
    cursor.Spells [content] after := by
  obtain ⟨same, spells, regular⟩ := quiet.expect (ne_endOfFile fixed)
  rwa [regular.eq_of_content? (same ▸ fixed)] at spells

theorem expectSymbol {symbol : Symbol}
    (quiet : Quiet (Parse.expectSymbol symbol wanted) cursor () after) :
    cursor.Spells [.sign symbol] after := by
  obtain ⟨token, middle, read, rest⟩ := quiet.bind
  obtain ⟨-, rfl⟩ := rest.pure
  exact read.expectFixed rfl

theorem identifier {name : Identifier}
    (quiet : Quiet (Parse.identifier wanted) cursor name after) :
    cursor.Spells [.name name.name] after ∧ isName name.name.toList := by
  obtain ⟨token, middle, read, rest⟩ := quiet.bind
  obtain ⟨rfl, rfl⟩ := rest.pure
  obtain ⟨kind, spells, regular⟩ := read.expect nofun
  obtain ⟨text, spelled, same⟩ := regular.eq_name kind
  have value : token.value = .text text := congrArg TokenContent.value same
  rw [same] at spells
  simpa [value, TokenValue.display] using And.intro spells spelled

/-- Accepts a token of which the content is known, or leaves the cursor where it is. -/
theorem accept {content : TokenContent} {found : Bool} (fixed : kind.content? = some content)
    (quiet : Quiet (Parse.accept kind) cursor found after) :
    found = true ∧ cursor.Spells [content] after ∨
      found = false ∧ cursor = after ∧ cursor.kind ≠ kind := by
  obtain ⟨stands, middle, checked, rest⟩ := quiet.bind
  obtain ⟨rfl, rfl⟩ := checked.check
  split at rest
  · next same =>
      obtain ⟨_, middle, skipped, rest⟩ := rest.bind
      obtain ⟨rfl, rfl⟩ := rest.pure
      have kind : cursor.kind = kind := by simpa using same
      have more := ahead_ne_nil_of_kind kind (ne_endOfFile fixed)
      exact .inl ⟨rfl, skipped.skipFixed ((kind_current_of_ahead more).trans kind) fixed⟩
  · next other =>
      obtain ⟨rfl, rfl⟩ := rest.pure
      exact .inr ⟨rfl, rfl, by simpa using other⟩

/-- Behind text on its line, the end of the line is read. -/
theorem lineEnd (quiet : Quiet Parse.lineEnd cursor () after) (more : cursor.ahead ≠ []) :
    cursor.Spells [.newline] after := by
  obtain ⟨found, middle, accepted, rest⟩ := quiet.bind
  obtain ⟨rfl, spells⟩ | ⟨rfl, rfl, -⟩ := accepted.accept rfl
  · obtain ⟨-, rfl⟩ := rest.pure
    exact spells
  · have failed := rest.look
    have further : cursor.atEnd = false := by simpa [Cursor.atEnd] using more
    rw [further] at failed
    exact absurd failed.look not_fail

end Quiet
end Tokens

/-! ## Lists -/

section Lists

variable {item : Parse α} [Forward item] {writes : α → List TokenContent → Prop}
  {separator : TokenContent} {kind : TokenKind}

theorem furtherItems_writes (fixed : kind.content? = some separator)
    (each : Writes item writes) (bound : Nat) :
    Writes (furtherItems kind item bound) (FurtherAs separator writes) := by
  induction bound with
  | zero =>
      intro cursor items after quiet
      obtain ⟨rfl, rfl⟩ := quiet.pure
      exact ⟨[], .refl _, .nil⟩
  | succ bound ih =>
      intro cursor items after quiet
      obtain ⟨found, middle, accepted, rest⟩ := quiet.bind
      obtain ⟨rfl, stands⟩ | ⟨rfl, rfl, -⟩ := accepted.accept fixed
      · obtain ⟨one, second, read, rest⟩ := rest.bind
        obtain ⟨others, third, further, rest⟩ := rest.bind
        obtain ⟨rfl, rfl⟩ := rest.pure
        obtain ⟨first, spells, written⟩ := each read
        obtain ⟨later, spells', written'⟩ := ih further
        exact ⟨_, (stands.cons spells).trans spells', .cons written written'⟩
      · obtain ⟨rfl, rfl⟩ := rest.pure
        exact ⟨[], .refl _, .nil⟩

theorem itemsAfter_writes (fixed : kind.content? = some separator)
    (each : Writes item writes) :
    Writes (itemsAfter kind item) (FurtherAs separator writes) := by
  intro cursor items after quiet
  obtain ⟨found, middle, checked, rest⟩ := quiet.bind
  obtain ⟨-, rfl⟩ := checked.check
  split at rest
  · exact furtherItems_writes fixed each _ rest.look
  · obtain ⟨rfl, rfl⟩ := rest.pure
    exact ⟨[], .refl _, .nil⟩

theorem commaList_writes (close : Symbol) (each : Writes item writes) :
    Writes (commaList close item) (SeparatedAs (.sign .comma) writes) := by
  intro cursor items after quiet
  obtain ⟨found, middle, checked, rest⟩ := quiet.bind
  obtain ⟨-, rfl⟩ := checked.check
  split at rest
  · obtain ⟨rfl, rfl⟩ := rest.pure
    exact ⟨[], .refl _, .nil⟩
  · obtain ⟨one, second, read, rest⟩ := rest.bind
    obtain ⟨others, third, further, rest⟩ := rest.bind
    obtain ⟨rfl, rfl⟩ := rest.pure
    obtain ⟨first, spells, written⟩ := each read
    obtain ⟨later, spells', written'⟩ := itemsAfter_writes rfl each further
    exact ⟨_, spells.trans spells', .cons written written'⟩

end Lists

/-! ## Recovery -/

/-- The same of a reader that deals with its failures itself. -/
structure Recovering.Quiet (reader : Recovering α) (cursor : Cursor) (value : α) (after : Cursor) :
    Prop where
  /-- There are no problems in the tokens. -/
  orderly : cursor.Orderly
  /-- The reader returns the value. -/
  returns : reader cursor = (value, after)
  /-- No problem has been recorded. -/
  silent : after.problems = []

section Recovery

variable {cursor after : Cursor} {value : α}

theorem Quiet.ofRecovering {reader : Recovering α}
    (quiet : Quiet (Parse.ofRecovering reader) cursor value after) :
    Recovering.Quiet reader cursor value after := by
  obtain ⟨orderly, ⟨⟩, silent⟩ := quiet
  exact ⟨orderly, rfl, silent⟩

/-- Where nothing is recorded, there was no failure. -/
theorem Recovering.Quiet.of_recovering {fallback : α} {reader : Parse α}
    (quiet : Recovering.Quiet (recovering fallback reader) cursor value after) :
    Parse.Quiet reader cursor value after := by
  obtain ⟨orderly, returns, silent⟩ := quiet
  simp only [recovering, EStateM.run] at returns
  split at returns
  · next found middle shape =>
      cases returns
      exact ⟨orderly, shape, silent⟩
  · next problem middle shape =>
      cases returns
      have recorded := (Cursor.Onward.recovered cursor.position problem middle).problems
      rw [silent] at recorded
      simp [Cursor.record] at recorded

/--
What a quiet step preserves holds behind the whole repetition, which does not end before it is
stopped, as every step leaves tokens behind.
-/
theorem repeatUntil_quiet {halt : Cursor → Bool} {step : σ → Recovering σ}
    [∀ state, Recovering.Forward (step state)] {holds : σ → Cursor → Prop}
    (halts : ∀ cursor : Cursor, cursor.ahead = [] → halt cursor = true)
    (each : ∀ {state next : σ} {cursor after : Cursor}, holds state cursor → halt cursor = false →
      Recovering.Quiet (step state) cursor next after →
        holds next after ∧ after.ahead.length < cursor.ahead.length)
    {bound : Nat} {state final : σ} (held : holds state cursor)
    (enough : cursor.ahead.length ≤ bound)
    (quiet : Recovering.Quiet (repeatUntil halt step bound state) cursor final after) :
    holds final after ∧ halt after = true := by
  induction bound generalizing state cursor with
  | zero =>
      cases quiet.returns
      exact ⟨held, halts _ (List.length_eq_zero_iff.mp (Nat.le_zero.mp enough))⟩
  | succ bound ih =>
      cases stands : halt cursor with
      | true =>
          have returns := quiet.returns
          rw [repeatUntil_of_halt stands] at returns
          cases returns
          exact ⟨held, stands⟩
      | false =>
          obtain ⟨orderly, returns, silent⟩ := quiet
          rw [repeatUntil_of_goesOn stands] at returns
          have moved := Recovering.onward_snd (step state) cursor
          have later := Recovering.onward_snd
            (repeatUntil halt step bound (step state cursor).1) (step state cursor).2
          rw [returns] at later
          have one : Recovering.Quiet (step state) cursor (step state cursor).1
              (step state cursor).2 := ⟨orderly, rfl, List.prefix_nil.mp (silent ▸ later.problems)⟩
          obtain ⟨held, fewer⟩ := each held stands one
          exact ih held (by omega) ⟨orderly.onward moved, returns, silent⟩

/-- The same of the members of a body, which ends where its block does. -/
theorem body_quiet {step : σ → Recovering σ} [∀ state, Recovering.Forward (step state)]
    {holds : σ → Cursor → Prop}
    (each : ∀ {state next : σ} {cursor after : Cursor}, holds state cursor →
      Recovering.Quiet (step state) cursor next after →
        holds next after ∧ after.ahead.length < cursor.ahead.length)
    {state final : σ} (held : holds state cursor)
    (quiet : Recovering.Quiet (body step state) cursor final after) :
    holds final after ∧ after.atBodyEnd = true := by
  have ends : ∀ cursor : Cursor, cursor.ahead = [] → cursor.atBodyEnd = true := by
    intro cursor ended
    simp [Cursor.atBodyEnd, Cursor.atEnd, ended]
  exact repeatUntil_quiet ends (fun held _ => each held) held (Nat.le_refl cursor.ahead.length)
    ⟨quiet.orderly, quiet.returns, quiet.silent⟩

end Recovery
end Parse
end ChocoLang
