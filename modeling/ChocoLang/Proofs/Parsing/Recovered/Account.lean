import ChocoLang.Parsing.Error
import ChocoLang.Proofs.Parsing.Recovered.Sheet
import ChocoLang.Proofs.Syntax.Labels
import ChocoLang.Proofs.Token.Nesting
import Mathlib.Tactic.ByContra

/-!
# Code that a function has lost

A statement or declaration takes the tokens from the one that begins it to its end, but for those of
the blocks in it, which the statements and declarations there take.  What is left of the body of a
function has been lost: it was dropped with a problem.  Nothing is lost with the word for the empty
statement, which is no node of a tree.
-/

namespace ChocoLang

/-- The token is neither layout nor the word for the empty statement. -/
def Token.isCode (token : Token) : Bool := !token.kind.isLayout && token.kind != .keyword .kwPass

/--
The span takes the token at a place: it begins with text that stands in the same block, so that
whole blocks lie in between, and goes on to the end of the token.
-/
def Span.Takes (span : Span) (tokens : List Token) (place : Nat) : Prop :=
  ∃ first, first ≤ place ∧ Balanced ((tokens.extract first place).map Token.kind) ∧
    (∃ start ∈ tokens[first]?, start.kind.isLayout = false ∧ start.span.start = span.start) ∧
    ∃ token ∈ tokens[place]?, token.span.stop ≤ span.stop

instance (span : Span) (tokens : List Token) (place : Nat) : Decidable (span.Takes tokens place) :=
  inferInstanceAs (Decidable (∃ first, first ≤ place ∧
    nesting 0 ((tokens.extract first place).map Token.kind) = some 0 ∧
    (∃ start ∈ tokens[first]?, start.kind.isLayout = false ∧ start.span.start = span.start) ∧
    ∃ token ∈ tokens[place]?, token.span.stop ≤ span.stop))

mutual

/-- Where a statement and those in it stand. -/
def Stmt.spans : Stmt → List Span
  | .ifElse info _ thenBody elseBody =>
    info.span :: (Stmt.spansIn thenBody ++ Stmt.spansIn elseBody)
  | .whileLoop info _ body | .forLoop info _ _ body => info.span :: Stmt.spansIn body
  | .expr info _ | .assign info _ _ | .ret info _ => [info.span]

/-- Where statements and those in them stand. -/
def Stmt.spansIn : List Stmt → List Span
  | [] => []
  | stmt :: rest => stmt.spans ++ Stmt.spansIn rest

end

mutual

/-- Where a declaration and those in it stand, with the statements of functions. -/
def Decl.spans : Decl → List Span
  | .funcDef info _ declarations statements _ =>
    info.span :: (Decl.spansIn declarations ++ Stmt.spansIn statements)
  | .classDef info _ _ declarations => info.span :: Decl.spansIn declarations
  | .varDef info _ _ | .globalDecl info _ | .nonlocalDecl info _ => [info.span]

/-- Where declarations and those in them stand, with the statements of functions. -/
def Decl.spansIn : List Decl → List Span
  | [] => []
  | decl :: rest => decl.spans ++ Decl.spansIn rest

end

@[simp]
theorem Stmt.spansIn_append (front back : List Stmt) :
    Stmt.spansIn (front ++ back) = Stmt.spansIn front ++ Stmt.spansIn back := by
  induction front with
  | nil => rfl
  | cons stmt front ih => simp [Stmt.spansIn, ih]

@[simp]
theorem Decl.spansIn_append (front back : List Decl) :
    Decl.spansIn (front ++ back) = Decl.spansIn front ++ Decl.spansIn back := by
  induction front with
  | nil => rfl
  | cons decl front ih => simp [Decl.spansIn, ih]

namespace FunctionDef

/-- Where the declarations and statements in the body of the function stand. -/
def parts (function : FunctionDef) : List Span :=
  Decl.spansIn function.declarations ++ Stmt.spansIn function.statements

/-- The code among the tokens of its body that nothing in the function takes. -/
def losses (function : FunctionDef) (body : List Token) : List Token :=
  (body.zipIdx.filter fun entry => entry.1.isCode &&
    !function.parts.any fun part => decide (part.Takes body entry.2)).map Prod.fst

theorem losses_ne_nil_iff {function : FunctionDef} {body : List Token} :
    function.losses body ≠ [] ↔ ∃ place, (∃ token ∈ body[place]?, token.isCode = true) ∧
      ∀ part ∈ function.parts, ¬part.Takes body place := by
  rw [losses, ne_eq, List.map_eq_nil_iff, List.filter_eq_nil_iff]
  constructor
  · intro lost
    by_contra kept
    refine lost fun entry among taken => kept ⟨entry.2, ⟨entry.1, ?_, ?_⟩, ?_⟩
    · exact List.mem_zipIdx_iff_getElem?.mp among
    · exact (Bool.and_eq_true_iff.mp taken).1
    · simpa using (Bool.and_eq_true_iff.mp taken).2
  · rintro ⟨place, ⟨token, stands, code⟩, free⟩ all
    refine all (token, place) (List.mem_zipIdx_iff_getElem?.mpr stands) ?_
    simpa [code] using free

end FunctionDef

/--
An error at a token that need not cost any code: the body of a function is empty, a block begins
without need, or the empty statement is followed by another one on its line.
-/
inductive SyntaxError.Spares : SyntaxError → TokenKind → Prop where
  | emptyFunction (name : String) : Spares (.emptyFunction name) .identifier
  | unexpectedIndent : Spares .unexpectedIndent .indent
  | noLineEnd (found : Token) : Spares (.noLineEnd found) (.keyword .kwPass)

/-- The problem is found at the token and need not cost any code. -/
def Located.Spares (problem : Located SyntaxError) (token : Token) : Prop :=
  problem.span = token.span ∧ problem.content.Spares token.kind

end ChocoLang

/-!
## An account of the tokens read

Between two places the nodes that were read there account for the code, or problems do: if some code
is taken by no node then a problem was found, and if problems were found then some code is taken by
no node, unless one of them need not cost any code.  Accounts of adjacent stretches make up one, and
a node over a stretch takes what its block holds in it besides inner blocks.
-/

namespace ChocoLang
namespace Sheet

variable {sheet : Sheet} {floor : Int} {i p q r : Nat} {part : Span} {parts others : List Span}
  {found more : List (Located SyntaxError)}

variable (sheet) in
/-- The token at a place is code. -/
def Code (place : Nat) : Prop := (sheet.token place).isCode = true

theorem Code.text (code : sheet.Code i) : sheet.Text i :=
  Bool.eq_false_of_not_eq_true fun layout => by simp [Code, Token.isCode, layout] at code

theorem Text.code (text : sheet.Text i) (other : (sheet.token i).kind ≠ .keyword .kwPass) :
    sheet.Code i := by
  rw [Text] at text
  simp [Code, Token.isCode, text, other]

variable (sheet) in
/-- The span takes the token at a place. -/
def Takes (part : Span) (place : Nat) : Prop :=
  ∃ first, sheet.Whole first place ∧ sheet.Text first ∧
    (sheet.token first).span.start = part.start ∧ (sheet.token place).span.stop ≤ part.stop

variable (sheet) in
/--
The span leads from a text between two places, in front of which so many blocks are open, to the end
of a text there.
-/
structure Lies (level : Int) (p q : Nat) (part : Span) : Prop where
  first : ∃ first, p ≤ first ∧ first < q ∧ sheet.Text first ∧ level ≤ sheet.level first ∧
    (sheet.token first).span.start = part.start
  last : ∃ last, last < q ∧ sheet.Text last ∧ (sheet.token last).span.stop = part.stop

variable (sheet) in
/-- Some code between two places, in front of which enough blocks are open, is taken by no span. -/
def Loses (floor : Int) (p q : Nat) (parts : List Span) : Prop :=
  ∃ i, p ≤ i ∧ i < q ∧ sheet.Code i ∧ floor ≤ sheet.level i ∧ ∀ part ∈ parts, ¬sheet.Takes part i

variable (sheet) in
/-- A problem at a token between two places need not cost any code. -/
def Spared (p q : Nat) (found : List (Located SyntaxError)) : Prop :=
  ∃ i, p ≤ i ∧ i < q ∧ ∃ problem ∈ found, problem.Spares (sheet.token i)

variable (sheet) in
/-- The account that spans and problems give of the code between two places. -/
structure Account (floor : Int) (p q : Nat) (parts : List Span)
    (found : List (Located SyntaxError)) : Prop where
  /-- The spans lie between the places. -/
  lies : ∀ part ∈ parts, sheet.Lies floor p q part
  /-- Code is lost with a problem only. -/
  told : sheet.Loses floor p q parts → found ≠ []
  /-- A problem costs some code, unless it is one that need not. -/
  costs : found ≠ [] → sheet.Loses floor p q parts ∨ sheet.Spared p q found

/-! ## Taking tokens -/

/-- A span takes no token in front of the text that begins it. -/
theorem not_takes_of_lt (text : sheet.Text r) (begins : (sheet.token r).span.start = part.start)
    (before : i < r) : ¬sheet.Takes part i := by
  rintro ⟨first, whole, text', begins', -⟩
  have same := eq_of_start_eq text' text (begins'.trans begins.symm)
  have le := whole.le
  omega

/-- A span takes no code behind the text that ends it. -/
theorem not_takes_of_stop (code : sheet.Code i) (ends : (sheet.token q).span.stop = part.stop)
    (behind : q < i) : ¬sheet.Takes part i := by
  rintro ⟨first, -, -, -, reaches⟩
  have apart := stop_le_start behind code.text.lt
  have wide := code.text.start_lt
  rw [← ends] at reaches
  simp only [Position.le_iff, Position.lt_iff] at *
  omega

/-- A span takes tokens of its own block only. -/
theorem not_takes_of_level (text : sheet.Text r)
    (begins : (sheet.token r).span.start = part.start)
    (other : sheet.level i ≠ sheet.level r) : ¬sheet.Takes part i := by
  rintro ⟨first, whole, text', begins', -⟩
  obtain rfl := eq_of_start_eq text' text (begins'.trans begins.symm)
  exact other whole.level

theorem Lies.mono (lies : sheet.Lies floor p q part) {level : Int} {p' q' : Nat}
    (lower : level ≤ floor) (left : p' ≤ p) (right : q ≤ q') : sheet.Lies level p' q' part := by
  obtain ⟨⟨first, behind, before, text, above, begins⟩, last, before', text', ends⟩ := lies
  exact ⟨⟨first, left.trans behind, before.trans_le right, text, lower.trans above, begins⟩,
    last, before'.trans_le right, text', ends⟩

/-- What adjacent stretches lose, they lose each for itself. -/
theorem loses_append_iff (left : p ≤ q) (right : q ≤ r)
    (lies : ∀ part ∈ parts, sheet.Lies floor p q part)
    (lies' : ∀ part ∈ others, sheet.Lies floor q r part) :
    sheet.Loses floor p r (parts ++ others) ↔
      sheet.Loses floor p q parts ∨ sheet.Loses floor q r others := by
  constructor
  · rintro ⟨i, behind, before, code, above, free⟩
    rw [List.forall_mem_append] at free
    rcases Nat.lt_or_ge i q with early | late
    · exact .inl ⟨i, behind, early, code, above, free.1⟩
    · exact .inr ⟨i, late, before, code, above, free.2⟩
  · rintro (⟨i, behind, before, code, above, free⟩ | ⟨i, behind, before, code, above, free⟩)
    · refine ⟨i, behind, before.trans_le right, code, above,
        List.forall_mem_append.mpr ⟨free, fun part among => ?_⟩⟩
      obtain ⟨⟨first, behind', -, text, -, begins⟩, -⟩ := lies' part among
      exact not_takes_of_lt text begins (by omega)
    · refine ⟨i, left.trans behind, before, code, above,
        List.forall_mem_append.mpr ⟨fun part among => ?_, free⟩⟩
      obtain ⟨-, last, before', -, ends⟩ := lies part among
      exact not_takes_of_stop code ends (by omega)

/--
A span over a whole stretch takes what stands in its block.  So nothing is lost with it but what is
lost in inner blocks, whatever other spans begin in the block.
-/
theorem loses_cover_iff (whole : sheet.Whole p q) (text : sheet.Text p) (among : part ∈ parts)
    (begins : (sheet.token p).span.start = part.start)
    (covers : ∀ i, i < q → sheet.Text i → (sheet.token i).span.stop ≤ part.stop)
    (level : ∀ part ∈ parts, ∃ first, sheet.Text first ∧ sheet.level first = sheet.level p ∧
      (sheet.token first).span.start = part.start) :
    sheet.Loses (sheet.level p) p q (parts ++ others) ↔
      sheet.Loses (sheet.level p + 1) p q others := by
  constructor
  · rintro ⟨i, behind, before, code, above, free⟩
    rw [List.forall_mem_append] at free
    refine ⟨i, behind, before, code, ?_, free.2⟩
    by_contra outside
    have same : sheet.level i = sheet.level p := by omega
    exact free.1 part among ⟨p, whole.take behind before.le same, text, begins,
      covers i before code.text⟩
  · rintro ⟨i, behind, before, code, above, free⟩
    refine ⟨i, behind, before, code, by omega,
      List.forall_mem_append.mpr ⟨fun part among => ?_, free⟩⟩
    obtain ⟨first, text', outer, begins'⟩ := level part among
    exact not_takes_of_level text' begins' (by omega)

/-! ## Accounts -/

namespace Account

/-- Where there is no code, nothing need be said. -/
theorem vacant (empty : ∀ i, p ≤ i → i < q → sheet.Code i → ¬floor ≤ sheet.level i) :
    sheet.Account floor p q [] [] where
  lies _ among := absurd among List.not_mem_nil
  told := by
    rintro ⟨i, behind, before, code, above, -⟩
    exact absurd above (empty i behind before code)
  costs some := absurd rfl some

theorem refl (floor : Int) (place : Nat) : sheet.Account floor place place [] [] :=
  vacant fun _ behind before => absurd before (Nat.not_lt.mpr behind)

theorem append (left : p ≤ q) (right : q ≤ r) (first : sheet.Account floor p q parts found)
    (second : sheet.Account floor q r others more) :
    sheet.Account floor p r (parts ++ others) (found ++ more) := by
  have lost := loses_append_iff left right first.lies second.lies
  refine ⟨List.forall_mem_append.mpr ⟨fun part among => ?_, fun part among => ?_⟩, ?_, ?_⟩
  · exact (first.lies part among).mono (Int.le_refl _) (Nat.le_refl _) right
  · exact (second.lies part among).mono (Int.le_refl _) left (Nat.le_refl _)
  · rw [lost, ne_eq, List.append_eq_nil_iff]
    rintro (early | late) ⟨none, none'⟩
    · exact first.told early none
    · exact second.told late none'
  · rw [lost, ne_eq, List.append_eq_nil_iff, Classical.not_and_iff_not_or_not]
    rintro (some | some)
    · refine (first.costs some).imp .inl ?_
      rintro ⟨i, behind, before, problem, among, spares⟩
      exact ⟨i, behind, before.trans_le right, problem, List.mem_append_left _ among, spares⟩
    · refine (second.costs some).imp .inr ?_
      rintro ⟨i, behind, before, problem, among, spares⟩
      exact ⟨i, left.trans behind, before, problem, List.mem_append_right _ among, spares⟩

/-- Only which spans there are matters. -/
theorem of_mem_iff (account : sheet.Account floor p q parts found)
    (same : ∀ part, part ∈ others ↔ part ∈ parts) : sheet.Account floor p q others found := by
  have lost : sheet.Loses floor p q others ↔ sheet.Loses floor p q parts := by
    simp only [Loses, same]
  exact ⟨fun part among => account.lies part ((same part).mp among),
    fun loses => account.told (lost.mp loses), fun some => (account.costs some).imp_left lost.mpr⟩

/-- Code that is dropped costs what it is. -/
theorem dropped (code : sheet.Code i) (behind : p ≤ i) (before : i < q)
    (above : floor ≤ sheet.level i) (some : found ≠ []) : sheet.Account floor p q [] found where
  lies _ among := absurd among List.not_mem_nil
  told _ := some
  costs _ := .inl ⟨i, behind, before, code, above, fun _ among => absurd among List.not_mem_nil⟩

/-- A problem that need not cost any code explains itself. -/
theorem spared {problem : Located SyntaxError} (among : problem ∈ found)
    (spares : problem.Spares (sheet.token i)) (behind : p ≤ i) (before : i < q) :
    sheet.Account floor p q [] found where
  lies _ among := absurd among List.not_mem_nil
  told _ := List.ne_nil_of_mem among
  costs _ := .inr ⟨i, behind, before, problem, among, spares⟩

/-- Problems that need not cost any code explain themselves beside others. -/
theorem record (account : sheet.Account floor p q parts found)
    (spares : ∀ problem ∈ more, ∃ i, p ≤ i ∧ i < q ∧ problem.Spares (sheet.token i)) :
    sheet.Account floor p q parts (found ++ more) := by
  refine ⟨account.lies, fun loses none => account.told loses (List.append_eq_nil_iff.mp none).1,
    fun some => ?_⟩
  rw [ne_eq, List.append_eq_nil_iff, Classical.not_and_iff_not_or_not] at some
  rcases some with some | some
  · refine (account.costs some).imp_right ?_
    rintro ⟨i, behind, before, problem, among, free⟩
    exact ⟨i, behind, before, problem, List.mem_append_left _ among, free⟩
  · obtain ⟨problem, among⟩ := List.exists_mem_of_ne_nil _ some
    obtain ⟨i, behind, before, free⟩ := spares problem among
    exact .inr ⟨i, behind, before, problem, List.mem_append_right _ among, free⟩

/-- A node over a whole stretch completes the account of its inner blocks. -/
theorem cover (account : sheet.Account (sheet.level p + 1) p q others found)
    (whole : sheet.Whole p q) (text : sheet.Text p) (among : part ∈ parts)
    (begins : (sheet.token p).span.start = part.start)
    (covers : ∀ i, i < q → sheet.Text i → (sheet.token i).span.stop ≤ part.stop)
    (level : ∀ part ∈ parts, sheet.Lies (sheet.level p) p q part ∧ ∃ first, sheet.Text first ∧
      sheet.level first = sheet.level p ∧ (sheet.token first).span.start = part.start) :
    sheet.Account (sheet.level p) p q (parts ++ others) found := by
  have lost : sheet.Loses (sheet.level p) p q (parts ++ others) ↔
      sheet.Loses (sheet.level p + 1) p q others :=
    loses_cover_iff whole text among begins covers fun part among => (level part among).2
  refine ⟨List.forall_mem_append.mpr ⟨fun part among => (level part among).1,
    fun part among => (account.lies part among).mono (by omega) (Nat.le_refl _) (Nat.le_refl _)⟩,
    fun loses => account.told (lost.mp loses), fun some => (account.costs some).imp_left lost.mpr⟩

end Account
end Sheet
end ChocoLang
