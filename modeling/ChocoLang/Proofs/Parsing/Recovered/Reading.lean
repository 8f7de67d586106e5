import ChocoLang.Proofs.Parsing.Agreement.Declaration
import ChocoLang.Proofs.Parsing.Behind
import ChocoLang.Proofs.Parsing.Recovered.Lines
import ChocoLang.Proofs.Parsing.Running

/-!
# Reading with an account

A statement or declaration is begun by text and read from its line on, with the blocks in it, until
a node takes it as a whole and its last line ends.  The rules below say how readers carry its account
from cursor to cursor, and how a round of a body adds to the account of the rounds before it: what
is read is taken, and what is left out with a problem is code, or the problem need not cost any.
-/

namespace ChocoLang
namespace Parse

variable {α β σ : Type} {sheet : Sheet} {start cursor after : Cursor} {parts others : List Span}

/-! ## Results of readers -/

theorem position_lt_of_ok {reader : Parse α} [Forward reader] (opens : Opens reader cursor)
    {value : α} (ok : reader cursor = .ok value after) : cursor.position < after.position := by
  have fewer := opens.shortens ok
  have counted := (onward_of_ok ok).position
  omega

theorem passes_of_ok {passes : List Token → List Token → Prop} {reader : Parse α}
    [Passes passes reader] (closed : cursor.Closed) {value : α}
    (ok : reader cursor = .ok value after) : passes cursor.ahead after.ahead := by
  have passed : passes cursor.ahead (reader.stop cursor).ahead := Passes.passed cursor closed
  rwa [stop_of_ok ok] at passed

theorem error_of_bind_pure {reader : Parse α} {value : α → β} {problem : Located SyntaxError}
    (failed : (reader >>= fun read => pure (value read)) cursor = .error problem after) :
    reader cursor = .error problem after := by
  cases first : reader cursor with
  | ok read middle =>
      rw [bind_of_ok first] at failed
      cases failed
  | error found middle =>
      rw [bind_of_error first] at failed
      cases failed
      rfl

/-- A line that does not end where it should goes on there. -/
theorem lineEnd_of_error {problem : Located SyntaxError}
    (failed : lineEnd cursor = .error problem after) :
    problem = ⟨.noLineEnd cursor.current, cursor.current.span⟩ ∧ after = cursor ∧
      cursor.kind ≠ .newline ∧ cursor.atEnd = false := by
  by_cases newline : cursor.kind = .newline
  · rw [lineEnd, bind_of_ok (accept_of_kind newline)] at failed
    cases failed
  · rw [lineEnd, bind_of_ok (accept_of_ne newline)] at failed
    change (if cursor.atEnd = true then _ else _ : Parse Unit) cursor = _ at failed
    split at failed
    · cases failed
    · next more =>
        cases failed
        exact ⟨rfl, rfl, newline, Bool.eq_false_of_not_eq_true more⟩

/-! ## Lines -/

namespace Carries

section Text

variable {reader : Parse α} [Forward reader] [Silent reader]

/-- Text is read in a line. -/
theorem text [Passes PassesText reader] :
    Carries (start.Inside sheet parts) reader fun _ => start.Inside sheet parts := by
  intro cursor value after inside ok
  exact inside.keep (inside.on.moves (moves_of_ok ok)) (passes_of_ok inside.on.closed ok)
    (problems_of_ok ok)

/-- Text begins a line. -/
theorem begin [Passes PassesText reader] (on : start.On sheet) (opens : Opens reader start) :
    Carries (· = start) reader fun _ => start.Inside sheet [] := by
  rintro cursor value after rfl ok
  have on' := on.moves (moves_of_ok ok)
  have text : sheet.Text cursor.position := by
    cases opens with
    | fails problem same => cases ok.symm.trans (same cursor.last)
    | passes next text same => rwa [on.kind] at text
  exact ⟨.of_text on on' (passes_of_ok on.closed ok) (problems_of_ok ok), on, text,
    position_lt_of_ok opens ok⟩

end Text

variable {next : α → Parse β} {later : β → Cursor → Prop}

/-- At the start what is seen is known. -/
theorem atStart {view : Cursor → α} (carries : Carries (· = start) (next (view start)) later) :
    Carries (· = start) (Parse.look view >>= next) later := by
  rintro _ value final rfl ok
  exact carries _ value final rfl ok

/-- A word begins a line. -/
theorem word {next : Token → Parse β} (on : start.On sheet) (text : start.kind.isLayout = false)
    (carries : Carries (start.Inside sheet []) (next start.current) later) :
    Carries (· = start) (Parse.advance >>= next) later := by
  rintro _ value final rfl ok
  exact carries _ value final (.begin on text) ok

/-- A node takes what has been read from the start on. -/
theorem cover {next : Span → Parse β}
    (carries : ∀ span, Carries
      (start.Accounts sheet (sheet.level start.position) (span :: parts)) (next span) later) :
    Carries (start.Inside sheet parts)
      (Parse.look (Cursor.spanFrom start.current.span) >>= next) later := by
  intro cursor value final inside ok
  refine carries _ cursor value final ?_ ok
  simpa using inside.cover (List.mem_singleton_self _) (by simpa using inside.begins)

/-- With its last block a statement is at an end, and a node takes it. -/
theorem finish {value : Span → β} {spans : β → List Span}
    (same : ∀ span, spans (value span) = span :: parts) :
    Carries (fun cursor => cursor.kind ≠ .newline ∧ start.Inside sheet parts cursor)
      (Parse.look (Cursor.spanFrom start.current.span) >>= fun span => Pure.pure (value span))
      fun result => start.Finishes sheet (spans result) := by
  rintro cursor _ _ ⟨fresh, inside⟩ ⟨⟩
  refine ⟨?_, fresh⟩
  rw [same]
  simpa using inside.cover (List.mem_singleton_self _) (by simpa using inside.begins)

/-- With its line a statement is at an end. -/
theorem lineEnd : Carries (start.Accounts sheet (sheet.level start.position) parts) Parse.lineEnd
    fun _ => start.Finishes sheet parts := by
  intro cursor value after accounts ok
  by_cases newline : cursor.kind = .newline
  · have passed : Parse.lineEnd cursor = .ok () cursor.advance := by
      rw [Parse.lineEnd, bind_of_ok (accept_of_kind newline)]
      rfl
    cases passed.symm.trans ok
    have layout : (sheet.token cursor.position).kind.isLayout = true := by
      rw [← accounts.on.kind, newline]
      rfl
    have ended := accounts.trans (.step accounts.on (by rw [newline]; rfl)
      (Sheet.not_code_of_isLayout layout) (by simp [newline]) _)
    rw [List.append_nil] at ended
    exact ⟨ended, accounts.on.fresh_advance (by rw [newline]; rfl) (by simp [newline])⟩
  · rw [Parse.lineEnd, bind_of_ok (accept_of_ne newline)] at ok
    change (if cursor.atEnd = true then _ else _ : Parse Unit) cursor = _ at ok
    split at ok
    · cases ok
      exact ⟨accounts, newline⟩
    · cases ok

end Carries

/-! ## Bodies -/

/-- A body that was read from the end of a line on stands in a block. -/
structure Encloses (inner : Recovering α) (cursor : Cursor) (value : α) (after : Cursor) :
    Prop where
  newline : cursor.kind = .newline
  indent : cursor.advance.kind = .indent
  value : value = (inner cursor.advance.advance).1
  dedent : (inner cursor.advance.advance).2.kind = .dedent
  after : after = (inner cursor.advance.advance).2.advance

theorem text_of_ok {reader : Parse α} [Forward reader] [Passes PassesText reader]
    (on : cursor.On sheet) {value : α} (ok : reader cursor = .ok value after) :
    ∀ place, cursor.position ≤ place → place < after.position → sheet.Text place :=
  (on.text_of_passes (on.moves (moves_of_ok ok)) (passes_of_ok on.closed ok)).2

/-- In front of the beginning of a block its level is reached by two tokens. -/
theorem opens_block (on : cursor.On sheet) (newline : cursor.kind = .newline)
    (indent : cursor.advance.kind = .indent) :
    cursor.advance.advance.position = cursor.position + 2 ∧
      sheet.level (cursor.position + 2) = sheet.level cursor.position + 1 := by
  rw [on.advance.kind] at indent
  rw [on.kind] at newline
  have first := on.position_advance (Sheet.lt_of_kind (by simp [newline]))
  have second := on.advance.position_advance (Sheet.lt_of_kind (by simp [indent]))
  rw [first] at indent second
  refine ⟨second, ?_⟩
  rw [Sheet.level_succ, Sheet.level_succ, newline, indent]
  simp

/-- A body that is read up to its end is enclosed in a block. -/
theorem encloses_of_ok {inner : Recovering α} [Recovering.Forward inner]
    [Recovering.Passes PassesBlocks inner]
    (ends : ∀ cursor : Cursor, cursor.Closed → (inner cursor).2.atBodyEnd = true)
    {wanted : Expectation} (on : cursor.On sheet) {value : α}
    (ok : enclosed wanted inner cursor = .ok value after) : Encloses inner cursor value after := by
  by_cases newline : cursor.kind = .newline
  · by_cases indent : cursor.advance.kind = .indent
    · rw [enclosed_of_ok (openBody_of_kind newline indent wanted)] at ok
      cases ok
      have begins := on.advance.advance
      have last := begins.moves (Recovering.moves_snd inner _)
      obtain ⟨second, level⟩ := opens_block on newline indent
      have whole := begins.whole_of_passes last (Recovering.Passes.passed _ begins.closed)
      have same := whole.level
      have above := sheet.level_nonneg cursor.position
      rw [second, level] at same
      have dedent : (inner cursor.advance.advance).2.kind = .dedent := by
        -- In the block the file does not end, for there no block is open.
        by_contra other
        have atEnd : (inner cursor.advance.advance).2.ahead = [] := by
          simpa [Cursor.atBodyEnd, Cursor.atEnd, other] using ends _ begins.closed
        rw [last.ahead, List.drop_eq_nil_iff] at atEnd
        have ground := Sheet.level_of_length_le atEnd
        omega
      exact ⟨newline, indent, rfl, dedent, by rw [closeBody, if_pos dedent]⟩
    · rw [enclosed_of_error (openBody_of_line newline indent wanted)] at ok
      cases ok
  · rw [enclosed_of_error (openBody_of_ne newline wanted)] at ok
    cases ok

namespace Encloses

variable {inner : Recovering α} {value : α} {floor : Int}

/-- Behind a body its block has ended, and no line ends there. -/
theorem fresh (encloses : Encloses inner cursor value after) [Recovering.Forward inner]
    (on : cursor.On sheet) : after.kind ≠ .newline := by
  obtain ⟨newline, indent, rfl, dedent, rfl⟩ := encloses
  have last := on.advance.advance.moves (Recovering.moves_snd inner _)
  exact last.fresh_advance (by rw [dedent]; rfl) (by simp [dedent])

/-- A block has no code beside its body. -/
theorem accounts (encloses : Encloses inner cursor value after) (on : cursor.On sheet)
    (reads : cursor.advance.advance.Accounts sheet floor parts (inner cursor.advance.advance).2) :
    cursor.Accounts sheet floor parts after := by
  obtain ⟨newline, indent, rfl, dedent, rfl⟩ := encloses
  obtain ⟨second, -⟩ := opens_block on newline indent
  obtain ⟨last, whole, found, problems, account⟩ := reads
  have third := last.position_advance (Sheet.lt_of_kind (by simp [← last.kind, dedent]))
  have next := on.position_advance (Sheet.lt_of_kind (by simp [← on.kind, newline]))
  rw [on.kind] at newline
  rw [on.advance.kind, next] at indent
  rw [last.kind] at dedent
  rw [second] at whole account
  refine ⟨last.advance, third ▸ whole.block newline indent dedent, found, by simp [problems], ?_⟩
  have front : sheet.Account floor cursor.position (cursor.position + 2) [] [] :=
    (Sheet.Account.step (Sheet.not_code_of_isLayout (by rw [newline]; rfl)) floor).append
      (Nat.le_succ _) (Nat.le_succ _)
      (.step (Sheet.not_code_of_isLayout (by rw [indent]; rfl)) floor)
  have back := account.append whole.le (Nat.le_succ _)
    (.step (Sheet.not_code_of_isLayout (by rw [dedent]; rfl)) floor)
  have le := whole.le
  have all := front.append (by omega) (by omega) back
  rw [third]
  simpa using all

end Encloses

/-- In a block stands what is read there. -/
theorem Carries.enclosed {inner : Recovering α} [Recovering.Forward inner]
    [Recovering.Passes PassesBlocks inner]
    (ends : ∀ cursor : Cursor, cursor.Closed → (inner cursor).2.atBodyEnd = true)
    {spans : α → List Span} (reads : ∀ cursor : Cursor, cursor.On sheet → cursor.kind ≠ .newline →
      cursor.Finishes sheet (spans (inner cursor).1) (inner cursor).2) (wanted : Expectation) :
    Carries (start.Inside sheet parts) (Parse.enclosed wanted inner)
      fun value cursor => cursor.kind ≠ .newline ∧
        start.Inside sheet (parts ++ spans value) cursor := by
  intro cursor value after inside ok
  have encloses := encloses_of_ok ends inside.on ok
  obtain ⟨second, level⟩ := opens_block inside.on encloses.newline encloses.indent
  have begins := inside.on.advance.fresh_advance (by rw [encloses.indent]; rfl)
    (by simp [encloses.indent])
  have finishes := (reads _ inside.on.advance.advance begins).toAccounts
  rw [second, level, ← encloses.value] at finishes
  exact ⟨encloses.fresh inside.on, inside.append (encloses.accounts inside.on finishes)⟩

/-! ## Rounds -/

section Rounds

variable (sheet) (spans : σ → List Span)

/-- From a state at the start to another state at another cursor, what is added is accounted for. -/
def Accounted (state : σ) (start : Cursor) (final : σ × Cursor) : Prop :=
  ∃ more, start.Finishes sheet more final.2 ∧
    ∀ part, part ∈ spans final.1 ↔ part ∈ spans state ∨ part ∈ more

/-- A problem at which something is left out is found at code or need not cost any. -/
def Excused (start : Cursor) (problem : Located SyntaxError) (after : Cursor) : Prop :=
  ∃ place, (place = start.position ∨ place = after.position ∧ after.atBodyEnd = false) ∧
    (sheet.Code place ∨ problem.Spares (sheet.token place))

variable {sheet spans} {state : σ}

/-- What begins with code costs this code. -/
theorem excused_of_code {problem : Located SyntaxError} (code : sheet.Code start.position) :
    Excused sheet start problem after :=
  ⟨start.position, .inl rfl, .inl code⟩

theorem Accounted.trans {middle final : σ × Cursor}
    (first : Accounted sheet spans state start middle)
    (second : Accounted sheet spans middle.1 middle.2 final) :
    Accounted sheet spans state start final := by
  obtain ⟨more, finishes, same⟩ := first
  obtain ⟨more', ⟨accounts, fresh⟩, same'⟩ := second
  rw [finishes.whole.level] at accounts
  refine ⟨more ++ more', ⟨finishes.toAccounts.trans accounts, fresh⟩, fun part => ?_⟩
  rw [same', same, List.mem_append, or_assoc]

/-- With rounds that account for what they add, a run does. -/
theorem Run.accounted {step : σ → Recovering σ}
    (each : ∀ (state : σ) (cursor : Cursor), cursor.On sheet → cursor.kind ≠ .newline →
      cursor.atBodyEnd = false → Accounted sheet spans state cursor (step state cursor))
    {final : σ × Cursor} (run : Run Cursor.atBodyEnd step state start final)
    (on : start.On sheet) (fresh : start.kind ≠ .newline) :
    Accounted sheet spans state start final := by
  induction run with
  | halted halts => exact ⟨[], ⟨.refl on _, fresh⟩, by simp⟩
  | @round state cursor _ goesOn passes later ih =>
      have first := each state cursor on fresh goesOn
      obtain ⟨more, finishes, -⟩ := id first
      exact first.trans (ih finishes.on finishes.fresh)

/-- Recovery leaves the cursor behind where it began, unless the body ends there. -/
theorem position_lt_recover (more : cursor.atBodyEnd = false) {place : Nat}
    (reached : place ≤ cursor.position) (problem : Located SyntaxError) :
    cursor.position < (cursor.recover place problem).position := by
  have skips : Cursor.skipLength 0 cursor.ahead ≠ 0 := by
    rw [ne_eq, Cursor.skipLength_eq_zero_iff_atBodyEnd, more]
    simp
  have fits := Cursor.skipLength_le 0 cursor.ahead
  have moved : (cursor.recover place problem).position =
      cursor.position + Cursor.skipLength 0 cursor.ahead := by
    rw [Cursor.recover_eq reached]
    exact Cursor.position_advanceBy fits
  omega

/-- What is left out is accounted for by its problem. -/
theorem finishes_recover (on : start.On sheet) (more : start.atBodyEnd = false)
    (moves : start.Moves after) (passes : PassesBlocks start.ahead after.ahead)
    {problem : Located SyntaxError} (excused : Excused sheet start problem after) :
    start.Finishes sheet [] (after.recover start.position problem) := by
  have reached := moves.onward.position_le
  have on' := on.moves moves
  have last := on'.moves (.recover start.position problem after)
  have whole := on.whole_of_passes last (Passing.trans passes (passes_recover reached problem))
  obtain ⟨found, problems⟩ := moves.onward.problems
  have known : (after.recover start.position problem).problems =
      start.problems ++ (found ++ [problem]) := by
    rw [Cursor.recover_eq reached, Cursor.problems_advanceBy, ← List.append_assoc, problems]
    rfl
  refine ⟨⟨last, whole, _, known, ?_⟩, on'.fresh_recover reached problem⟩
  obtain ⟨place, stands, costs⟩ := excused
  have within : start.position ≤ place ∧
      place < (after.recover start.position problem).position := by
    rcases stands with rfl | ⟨rfl, inside⟩
    · refine ⟨Nat.le_refl _, ?_⟩
      rcases Nat.eq_or_lt_of_le reached with same | further
      · have ahead : after.ahead = start.ahead := by rw [on'.ahead, on.ahead, same]
        have inside : after.atBodyEnd = false := by
          rw [← more]
          simp only [Cursor.atBodyEnd, Cursor.atEnd, Cursor.kind_eq_kindAt, ahead]
        have skipped := position_lt_recover inside reached problem
        omega
      · exact further.trans_le (Cursor.Onward.recover _ problem after).position_le
    · exact ⟨reached, position_lt_recover inside reached problem⟩
  rcases costs with code | spares
  · exact .dropped code within.1 within.2 (whole.above place within.1 within.2.le) (by simp)
  · exact .spared (List.mem_append_right _ (List.mem_singleton_self _)) spares within.1 within.2

/-- A round adds what its reader returns, or leaves out what it fails at. -/
theorem accounted_recovering {reader : Parse σ} [Forward reader] [Passes PassesBlocks reader]
    (on : start.On sheet) (more : start.atBodyEnd = false)
    (carries : Carries (· = start) reader fun value after =>
      Accounted sheet spans state start (value, after))
    (excused : ∀ problem after, reader start = .error problem after →
      Excused sheet start problem after) :
    Accounted sheet spans state start (recovering state reader start) := by
  cases read : reader start with
  | ok value after =>
      rw [recovering_of_ok read]
      exact carries start value after rfl read
  | error problem after =>
      rw [recovering_of_error read]
      have passes : PassesBlocks start.ahead (reader.stop start).ahead :=
        Passes.passed start on.closed
      rw [stop_of_error read] at passes
      exact ⟨[], finishes_recover on more (moves_of_error read) passes (excused problem after read),
        by simp⟩

end Rounds

end Parse
end ChocoLang
