import ChocoLang.Proofs.Parsing.ReadBack.Program
import ChocoLang.Proofs.Token.Entries

/-!
# The order of declarations and statements

The lines of a program that is read without a problem are divided into entries by what is declared
and done.  In the body of a function the lines that declare something come first.  At the top level
they come before all other lines, too, except for lines that hold only `pass`: such a line leaves
nothing behind by which a later declaration could be refused.
-/

namespace ChocoLang

/-! ## Lines -/

/-- What begins so declares a variable, a function or a class, or a variable from outside. -/
def beginsDeclaration : List TokenKind → Bool
  | .keyword .kwDef :: _ | .keyword .kwClass :: _ | .keyword .kwGlobal :: _
  | .keyword .kwNonlocal :: _ | .identifier :: .symbol .colon :: _ => true
  | _ => false

namespace LineText

/-- The line declares something. -/
def declares (text : LineText) : Bool := beginsDeclaration text.kinds

/-- The line begins the definition of a function. -/
def definesFunction (text : LineText) : Bool := text.kinds.head? == some (.keyword .kwDef)

/-- The line holds only the empty statement. -/
def isPass (text : LineText) : Bool := text.kinds == [.keyword .kwPass]

end LineText

namespace Entry

/-- No line that declares something comes after another line of the entries. -/
def DeclaresFirst (entries : List Entry) : Prop :=
  entries.Pairwise fun earlier later => later.text.declares = true → earlier.text.declares = true

/-- In every function of the entry the lines that declare something come first. -/
def Ordered (entry : Entry) : Prop :=
  ∀ inner ∈ entry.within, inner.text.definesFunction = true → DeclaresFirst inner.block

end Entry

/-! ## Expressions -/

/-- The token may stand in an expression or between two of them. -/
def TokenKind.isPlain : TokenKind → Bool
  | .symbol .colon => false
  | .keyword .kwDef | .keyword .kwClass | .keyword .kwGlobal | .keyword .kwNonlocal => false
  | kind => !kind.isLayout

/-- All tokens may stand in expressions or between them. -/
def Plain (tokens : List TokenContent) : Prop :=
  ∀ content ∈ tokens, content.kind.isPlain = true

@[simp]
theorem plain_nil : Plain [] := by
  simp [Plain]

@[simp]
theorem plain_cons {content : TokenContent} {tokens : List TokenContent} :
    Plain (content :: tokens) ↔ content.kind.isPlain = true ∧ Plain tokens :=
  List.forall_mem_cons

@[simp]
theorem plain_append {front back : List TokenContent} :
    Plain (front ++ back) ↔ Plain front ∧ Plain back :=
  List.forall_mem_append

section Lists

variable {α : Type} {writes : α → List TokenContent → Prop} {separator : TokenContent}
  {items : List α} {tokens : List TokenContent}

theorem FurtherAs.plain (further : FurtherAs separator writes items tokens)
    (apart : separator.kind.isPlain = true)
    (each : ∀ item tokens, writes item tokens → Plain tokens) : Plain tokens := by
  induction further with
  | nil => exact plain_nil
  | cons head tail ih =>
      exact plain_append.mpr ⟨plain_cons.mpr ⟨apart, each _ _ head⟩, ih⟩

theorem SeparatedAs.plain (separated : SeparatedAs separator writes items tokens)
    (apart : separator.kind.isPlain = true)
    (each : ∀ item tokens, writes item tokens → Plain tokens) : Plain tokens := by
  cases separated with
  | nil => exact plain_nil
  | cons head tail => exact plain_append.mpr ⟨each _ _ head, tail.plain apart each⟩

end Lists

theorem BinaryOperator.isPlain_content (operator : BinaryOperator) :
    operator.content.kind.isPlain = true := by
  cases operator <;> rfl

mutual

theorem Expr.BareAs.plain : ∀ {expr : Expr} {tokens : List TokenContent},
    expr.BareAs tokens → Plain tokens
  | _, _, .name identifier => by simp [TokenKind.isPlain, TokenKind.isLayout]
  | _, _, .integer info value => by
      simp [TokenContent.integer, TokenKind.isPlain, TokenKind.isLayout]
  | _, _, .boolean info value => by cases value <;> simp [TokenKind.isPlain, TokenKind.isLayout]
  | _, _, .string info text => by
      simp only [TokenContent.string, plain_cons, plain_nil, and_true]
      split <;> rfl
  | _, _, .none info => by simp [TokenKind.isPlain, TokenKind.isLayout]
  | _, _, .list info inner => by
      simp [Expr.plain_of_separated inner, TokenKind.isPlain, TokenKind.isLayout]
  | _, _, .binary info operator first second => by
      simp [first.plain, second.plain, operator.isPlain_content]
  | _, _, .neg info inner => by simp [inner.plain, TokenKind.isPlain, TokenKind.isLayout]
  | _, _, .not info inner => by simp [inner.plain, TokenKind.isPlain, TokenKind.isLayout]
  | _, _, .conditional info first middle last => by
      simp [first.plain, middle.plain, last.plain, TokenKind.isPlain, TokenKind.isLayout]
  | _, _, .member info field inner => by
      simp [inner.plain, TokenKind.isPlain, TokenKind.isLayout]
  | _, _, .index info first second => by
      simp [first.plain, second.plain, TokenKind.isPlain, TokenKind.isLayout]
  | _, _, .call info first second => by
      simp [first.plain, Expr.plain_of_separated second, TokenKind.isPlain, TokenKind.isLayout]
  | _, _, .methodCall info access method first second => by
      simp [first.plain, Expr.plain_of_separated second, TokenKind.isPlain, TokenKind.isLayout]

/-- In an expression there is no token by which a line is known to declare something. -/
theorem Expr.WrittenAs.plain : ∀ {required : Precedence} {expr : Expr}
    {tokens : List TokenContent}, expr.WrittenAs required tokens → Plain tokens
  | _, _, _, .bare _ inner => inner.plain
  | _, _, _, .parenthesized inner => by
      simp [inner.plain, TokenKind.isPlain, TokenKind.isLayout]

theorem Expr.plain_of_separated : ∀ {exprs : List Expr} {tokens : List TokenContent},
    SeparatedAs (.sign .comma) (Expr.WrittenAs .lowest) exprs tokens → Plain tokens
  | _, _, .nil => plain_nil
  | _, _, .cons head tail => plain_append.mpr ⟨head.plain, Expr.plain_of_further tail⟩

theorem Expr.plain_of_further : ∀ {exprs : List Expr} {tokens : List TokenContent},
    FurtherAs (.sign .comma) (Expr.WrittenAs .lowest) exprs tokens → Plain tokens
  | _, _, .nil => plain_nil
  | _, _, .cons head tail =>
      plain_append.mpr ⟨plain_cons.mpr ⟨rfl, head.plain⟩, Expr.plain_of_further tail⟩

end

theorem Expr.plain_of_targets {exprs : List Expr} {tokens : List TokenContent}
    (separated : SeparatedAs (.sign .assign) (Expr.WrittenAs .lowest) exprs tokens) :
    Plain tokens :=
  separated.plain rfl fun _ _ writes => writes.plain

theorem Inline.of_plain {tokens : List TokenContent} (plain : Plain tokens) : Inline tokens := by
  intro content among
  have own := plain content among
  unfold TokenKind.isPlain at own
  split at own <;> first | cases own | simpa using own

/-! ## Entries of statements -/

/-- The text of a line of tokens. -/
def LineText.of (tokens : List TokenContent) (inside : Inline tokens) : LineText where
  kinds := tokens.map TokenContent.kind
  inline := by simpa [Inline] using inside

theorem LineText.declares_of_definesFunction {text : LineText}
    (defines : text.definesFunction = true) : text.declares = true := by
  obtain ⟨rest, shape⟩ := List.head?_eq_some_iff.mp (beq_iff_eq.mp defines)
  rw [declares, shape, beginsDeclaration]

/-- A line of expressions declares nothing. -/
theorem LineText.declares_of_plain {tokens : List TokenContent} (plain : Plain tokens) :
    (LineText.of tokens (.of_plain plain)).declares = false := by
  have each : ∀ kind ∈ tokens.map TokenContent.kind, kind.isPlain = true := by
    simpa [Plain] using plain
  unfold declares beginsDeclaration LineText.of
  dsimp only
  split <;> simp_all [TokenKind.isPlain]

/-- The tokens are those of the entries, and no line among them declares anything. -/
structure StatesIn (tokens : List TokenContent) (entries : List Entry) : Prop where
  /-- The tokens are those of the entries. -/
  kinds : tokens.map TokenContent.kind = Entry.kindsIn entries
  /-- No line declares anything. -/
  silent : ∀ entry ∈ Entry.withinAll entries, entry.text.declares = false

theorem StatesIn.nil : StatesIn [] [] := ⟨rfl, by simp [Entry.withinAll]⟩

theorem Entry.withinAll_append (first second : List Entry) :
    withinAll (first ++ second) = withinAll first ++ withinAll second := by
  induction first with
  | nil => rfl
  | cons entry rest ih => simp [withinAll, ih]

theorem StatesIn.append {tokens later : List TokenContent} {entries others : List Entry}
    (first : StatesIn tokens entries) (second : StatesIn later others) :
    StatesIn (tokens ++ later) (entries ++ others) where
  kinds := by simp [first.kinds, second.kinds]
  silent := by
    rw [Entry.withinAll_append]
    exact List.forall_mem_append.mpr ⟨first.silent, second.silent⟩

/-- A line without a block is an entry. -/
theorem StatesIn.line {tokens : List TokenContent} (inside : Inline tokens)
    (silent : (LineText.of tokens inside).declares = false) :
    StatesIn (tokens ++ [.newline]) [.entry (.of tokens inside) []] where
  kinds := by simp [Entry.kinds, LineText.of]
  silent := by
    simp only [Entry.withinAll, Entry.within, List.append_nil, List.mem_singleton, forall_eq]
    exact silent

/-- A line with a block is an entry. -/
theorem StatesIn.block {tokens inner : List TokenContent} {entries : List Entry}
    (inside : Inline tokens) (silent : (LineText.of tokens inside).declares = false)
    (nonempty : inner ≠ []) (body : StatesIn inner entries) :
    StatesIn (tokens ++ bodySpelling inner) [.entry (.of tokens inside) entries] where
  kinds := by
    have some : entries ≠ [] := by
      rintro rfl
      exact nonempty (List.map_eq_nil_iff.mp body.kinds)
    rw [Entry.kindsIn_singleton, Entry.kinds_of_block _ some, ← body.kinds]
    simp [bodySpelling, LineText.of]
  silent := by
    rw [Entry.withinAll, Entry.withinAll, List.append_nil, Entry.within]
    exact List.forall_mem_cons.mpr ⟨silent, body.silent⟩

theorem inline_pass : Inline [.word .kwPass] := by simp [TokenKind.isLayout]

/-- A line that holds only `pass` is an entry. -/
theorem StatesIn.pass : StatesIn [.word .kwPass, .newline] [.entry (.of _ inline_pass) []] :=
  .line inline_pass rfl

/-- A guarded body is an entry. -/
theorem StatesIn.arm (lead : Keyword) {condition inner : List TokenContent} {entries : List Entry}
    (leads : ∀ rest, beginsDeclaration (.keyword lead :: rest) = false)
    (asked : Inline condition) (nonempty : inner ≠ []) (body : StatesIn inner entries) :
    ∃ entries, StatesIn (armTokens lead condition (bodySpelling inner)) entries := by
  rw [armTokens, List.append_cons]
  exact ⟨_, .block (by simp [asked, TokenKind.isLayout]) (leads _) nonempty body⟩

theorem Plain.line {tokens : List TokenContent} (plain : Plain tokens) :
    ∃ entries, StatesIn (tokens ++ [.newline]) entries :=
  ⟨_, .line (.of_plain plain) (LineText.declares_of_plain plain)⟩

mutual

/-- A statement is written in entries that declare nothing. -/
theorem Stmt.WrittenAs.statesIn : ∀ {stmt : Stmt} {tokens : List TokenContent},
    stmt.WrittenAs tokens → ∃ entries, StatesIn tokens entries
  | _, _, .expr info inner => inner.plain.line
  | _, _, .assign info nonempty inner => (Expr.plain_of_targets inner).line
  | _, _, .ifElse info first second last => by
      obtain ⟨_, _, rfl, nonempty, body⟩ := second.statesIn
      obtain ⟨_, choice⟩ := StatesIn.arm .kwIf (fun _ => rfl) first.inline nonempty body
      obtain ⟨_, otherwise⟩ := last.statesIn
      exact ⟨_, choice.append otherwise⟩
  | _, _, .whileLoop info first second => by
      obtain ⟨_, _, rfl, nonempty, body⟩ := second.statesIn
      exact StatesIn.arm .kwWhile (fun _ => rfl) first.inline nonempty body
  | _, _, .forLoop info element first second => by
      obtain ⟨_, _, rfl, nonempty, body⟩ := second.statesIn
      rw [List.append_cons]
      exact ⟨_, .block (by simp [first.inline, TokenKind.isLayout]) rfl nonempty body⟩
  | _, _, .bareReturn info => by
      have inside : Inline [.word .kwReturn] := by simp [TokenKind.isLayout]
      exact ⟨_, .line inside rfl⟩
  | _, _, .returnValue info inner =>
      ⟨_, .line (inline_cons.mpr ⟨rfl, inner.inline⟩) rfl⟩

theorem Stmt.BodyAs.statesIn : ∀ {stmts : List Stmt} {tokens : List TokenContent},
    Stmt.BodyAs stmts tokens →
      ∃ inner entries, tokens = bodySpelling inner ∧ inner ≠ [] ∧ StatesIn inner entries
  | _, _, .lines nonempty members => by
      obtain ⟨_, inside⟩ := Stmt.statesIn_of_padded members
      exact ⟨_, _, rfl, nonempty, inside⟩

theorem Stmt.BranchAs.statesIn : ∀ {stmts : List Stmt} {tokens : List TokenContent},
    Stmt.BranchAs stmts tokens → ∃ entries, StatesIn tokens entries
  | _, _, .absent => ⟨[], .nil⟩
  | _, _, .chained info first second last => by
      obtain ⟨_, _, rfl, nonempty, body⟩ := second.statesIn
      obtain ⟨_, choice⟩ := StatesIn.arm .kwElif (fun _ => rfl) first.inline nonempty body
      obtain ⟨_, otherwise⟩ := last.statesIn
      exact ⟨_, choice.append otherwise⟩
  | _, _, .separate inner => by
      obtain ⟨_, _, rfl, nonempty, body⟩ := inner.statesIn
      have inside : Inline [.word .kwElse, .sign .colon] := by simp [TokenKind.isLayout]
      exact ⟨_, .block inside rfl nonempty body⟩

theorem Stmt.statesIn_of_padded : ∀ {stmts : List Stmt} {tokens : List TokenContent},
    PaddedAs Stmt.WrittenAs stmts tokens → ∃ entries, StatesIn tokens entries
  | _, _, .nil => ⟨[], .nil⟩
  | _, _, .pass tail => by
      obtain ⟨_, rest⟩ := Stmt.statesIn_of_padded tail
      exact ⟨_, StatesIn.pass.append rest⟩
  | _, _, .cons head tail => by
      obtain ⟨_, first⟩ := head.statesIn
      obtain ⟨_, rest⟩ := Stmt.statesIn_of_padded tail
      exact ⟨_, first.append rest⟩

end

/-! ## Entries of declarations -/

theorem Entry.ordered_iff {text : LineText} {block : List Entry} :
    (entry text block).Ordered ↔
      (text.definesFunction = true → DeclaresFirst block) ∧ ∀ inner ∈ block, inner.Ordered := by
  simp only [Ordered, within, List.forall_mem_cons, mem_withinAll]
  refine and_congr Iff.rfl ⟨fun all inner among deep inside => all deep ⟨inner, among, inside⟩, ?_⟩
  rintro all deep ⟨inner, among, inside⟩
  exact all inner among deep inside

/-- Where nothing is declared no function is defined. -/
theorem StatesIn.ordered {tokens : List TokenContent} {entries : List Entry}
    (states : StatesIn tokens entries) : ∀ entry ∈ entries, entry.Ordered := by
  intro entry among inner inside defines
  have silent := states.silent inner (Entry.mem_withinAll.mpr ⟨entry, among, inside⟩)
  rw [LineText.declares_of_definesFunction defines] at silent
  cases silent

theorem StatesIn.head {tokens : List TokenContent} {entries : List Entry}
    (states : StatesIn tokens entries) : ∀ entry ∈ entries, entry.text.declares = false := by
  intro entry among
  refine states.silent entry (Entry.mem_withinAll.mpr ⟨entry, among, ?_⟩)
  obtain ⟨text, block⟩ := entry
  exact List.mem_cons_self

/-- Lines that declare something come before lines that do not. -/
theorem Entry.declaresFirst_append {first second : List Entry}
    (declare : ∀ entry ∈ first, entry.text.declares = true)
    (state : ∀ entry ∈ second, entry.text.declares = false) : DeclaresFirst (first ++ second) := by
  have silent {earlier later : Entry} (among : later ∈ second) :
      later.text.declares = true → earlier.text.declares = true := fun declares =>
    absurd (declares.symm.trans (state later among)) (by decide)
  refine List.pairwise_append.mpr ⟨?_, ?_, fun _ _ later among => silent among⟩
  · exact List.pairwise_of_forall_mem_list fun earlier among _ _ _ => declare earlier among
  · exact List.pairwise_of_forall_mem_list fun _ _ later among => silent among

/-- The tokens are those of entries that are all good, and functions among them are ordered. -/
structure EntriesIn (good : LineText → Bool) (tokens : List TokenContent) (entries : List Entry) :
    Prop where
  /-- The tokens are those of the entries. -/
  kinds : tokens.map TokenContent.kind = Entry.kindsIn entries
  /-- The lines of the entries are good. -/
  good : ∀ entry ∈ entries, good entry.text = true
  /-- In functions declarations come first. -/
  ordered : ∀ entry ∈ entries, entry.Ordered

theorem EntriesIn.nil {good : LineText → Bool} : EntriesIn good [] [] := ⟨rfl, nofun, nofun⟩

theorem EntriesIn.append {good : LineText → Bool} {tokens later : List TokenContent}
    {entries others : List Entry} (first : EntriesIn good tokens entries)
    (second : EntriesIn good later others) :
    EntriesIn good (tokens ++ later) (entries ++ others) where
  kinds := by simp [first.kinds, second.kinds]
  good := List.forall_mem_append.mpr ⟨first.good, second.good⟩
  ordered := List.forall_mem_append.mpr ⟨first.ordered, second.ordered⟩

theorem EntriesIn.mono {good better : LineText → Bool} {tokens : List TokenContent}
    {entries : List Entry} (inside : EntriesIn good tokens entries)
    (weaker : ∀ text, good text = true → better text = true) : EntriesIn better tokens entries :=
  ⟨inside.kinds, fun entry among => weaker _ (inside.good entry among), inside.ordered⟩

/-- A line that declares something is an entry. -/
theorem EntriesIn.line {tokens : List TokenContent} (inside : Inline tokens)
    (declares : (LineText.of tokens inside).declares = true) :
    EntriesIn LineText.declares (tokens ++ [.newline]) [.entry (.of tokens inside) []] where
  kinds := by simp [Entry.kinds, LineText.of]
  good := List.forall_mem_singleton.mpr declares
  ordered := List.forall_mem_singleton.mpr (Entry.ordered_iff.mpr ⟨fun _ => .nil, nofun⟩)

/-- A line that declares something, with a body below it, is an entry. -/
theorem EntriesIn.body {tokens inner : List TokenContent} {entries : List Entry}
    (inside : Inline tokens) (declares : (LineText.of tokens inside).declares = true)
    (nonempty : inner ≠ []) (kinds : inner.map TokenContent.kind = Entry.kindsIn entries)
    (first : (LineText.of tokens inside).definesFunction = true → Entry.DeclaresFirst entries)
    (ordered : ∀ entry ∈ entries, entry.Ordered) :
    EntriesIn LineText.declares (tokens ++ bodySpelling inner) [.entry (.of tokens inside) entries]
    where
  kinds := by
    have some : entries ≠ [] := by
      rintro rfl
      exact nonempty (List.map_eq_nil_iff.mp kinds)
    rw [Entry.kindsIn_singleton, Entry.kinds_of_block _ some, ← kinds]
    simp [bodySpelling, LineText.of]
  good := List.forall_mem_singleton.mpr declares
  ordered := List.forall_mem_singleton.mpr (Entry.ordered_iff.mpr ⟨first, ordered⟩)

/-- The line declares something or is empty. -/
def LineText.declaresOrPasses (text : LineText) : Bool := text.declares || text.isPass

mutual

/-- A declaration is written in an entry that declares something. -/
theorem Decl.WrittenAs.entriesIn : ∀ {decl : Decl} {tokens : List TokenContent},
    decl.WrittenAs tokens → ∃ entries, EntriesIn LineText.declares tokens entries
  | _, _, .varDef info first isLiteral second => by
      rw [← List.cons_append, ← List.append_assoc]
      refine ⟨_, .line (by simp [first.inline, second.inline, TokenKind.isLayout]) ?_⟩
      cases first
      rfl
  | _, _, .funcDef info first second nonempty last => by
      obtain ⟨declaring, before⟩ := Decl.entriesIn_of_joined second
      obtain ⟨stating, behind⟩ := Stmt.statesIn_of_padded last
      have whole := before.kinds.symm ▸ behind.kinds.symm ▸ Entry.kindsIn_append declaring stating
      have begins : (LineText.of _ first.inline).declares = true := by
        cases first
        rfl
      exact ⟨_, .body first.inline begins (by simp [nonempty]) (by rw [whole, List.map_append])
        (fun _ => Entry.declaresFirst_append before.good behind.head)
        (List.forall_mem_append.mpr ⟨before.ordered, behind.ordered⟩)⟩
  | _, _, .classDef info name superclass nonempty inside => by
      obtain ⟨members, body⟩ := Decl.entriesIn_of_padded inside
      have header : Inline [.word .kwClass, .name name.name, .sign .leftParen,
        .name superclass.name, .sign .rightParen, .sign .colon] := by simp [TokenKind.isLayout]
      exact ⟨_, .body header rfl nonempty body.kinds nofun body.ordered⟩
  | _, _, .globalDecl info name => by
      have inside : Inline [.word .kwGlobal, .name name.name] := by simp [TokenKind.isLayout]
      exact ⟨_, .line inside rfl⟩
  | _, _, .nonlocalDecl info name => by
      have inside : Inline [.word .kwNonlocal, .name name.name] := by simp [TokenKind.isLayout]
      exact ⟨_, .line inside rfl⟩

theorem Decl.entriesIn_of_joined : ∀ {decls : List Decl} {tokens : List TokenContent},
    JoinedAs Decl.WrittenAs decls tokens → ∃ entries, EntriesIn LineText.declares tokens entries
  | _, _, .nil => ⟨[], .nil⟩
  | _, _, .cons head tail => by
      obtain ⟨_, first⟩ := head.entriesIn
      obtain ⟨_, rest⟩ := Decl.entriesIn_of_joined tail
      exact ⟨_, first.append rest⟩

theorem Decl.entriesIn_of_padded : ∀ {decls : List Decl} {tokens : List TokenContent},
    PaddedAs Decl.WrittenAs decls tokens →
      ∃ entries, EntriesIn LineText.declaresOrPasses tokens entries
  | _, _, .nil => ⟨[], .nil⟩
  | _, _, .pass tail => by
      obtain ⟨_, rest⟩ := Decl.entriesIn_of_padded tail
      exact ⟨_, EntriesIn.append ⟨StatesIn.pass.kinds, List.forall_mem_singleton.mpr rfl,
        StatesIn.pass.ordered⟩ rest⟩
  | _, _, .cons head tail => by
      obtain ⟨_, first⟩ := head.entriesIn
      obtain ⟨_, rest⟩ := Decl.entriesIn_of_padded tail
      have wide := first.mono fun text declares =>
        (by simp [LineText.declaresOrPasses, declares] : text.declaresOrPasses = true)
      exact ⟨_, wide.append rest⟩

end

/-! ## Programs -/

/-- The tokens of a text without problems are ahead in full lines, before the end of the file. -/
theorem Lexing.orderly_of_ofSource {file source : String} {lexing : Lexing}
    (read : Lexing.ofSource file source = .ok lexing) (clean : lexing.problems = []) :
    let cursor := Cursor.ofTokens lexing.tokens lexing.tokens_ne_nil
    cursor.Orderly ∧ Lined True 0 (cursor.ahead.map Token.content) ∧
      lexing.tokens.map Token.kind =
        (cursor.ahead.map Token.content).map TokenContent.kind ++ [.endOfFile] := by
  obtain ⟨tokens, place, shape, lined, regular⟩ := Lexing.lined_of_ofSource read clean
  have text : ∀ token ∈ tokens, token.kind ≠ .endOfFile := fun token among =>
    (regular token.content (List.mem_map_of_mem among)).kind_ne_endOfFile
  obtain ⟨ahead, ending⟩ := Cursor.ahead_ofTokens text rfl
    (by simp : tokens ++ [⟨.endOfFile, .absent, place⟩] ≠ [])
  simp only [shape]
  refine ⟨⟨fun token among => ?_, ⟨[], by rwa [ahead]⟩, by rw [ending]⟩, by rwa [ahead], ?_⟩
  · exact regular token.content (List.mem_map_of_mem (ahead ▸ among))
  · simp [ahead]

namespace Program

/-- The tokens of a program without a problem write what was read, declarations first. -/
theorem exists_written {file source : String} {lexing : Lexing}
    (read : Lexing.ofSource file source = .ok lexing)
    (quiet : (ofLexing file lexing).errors = []) :
    ∃ before behind, lexing.tokens.map Token.kind =
        (before ++ behind).map TokenContent.kind ++ [.endOfFile] ∧
      PaddedAs Decl.WrittenAs (ofLexing file lexing).declarations before ∧
      PaddedAs Stmt.WrittenAs (ofLexing file lexing).statements behind := by
  obtain ⟨known, recorded⟩ := List.append_eq_nil_iff.mp quiet
  obtain ⟨orderly, lined, kinds⟩ :=
    Lexing.orderly_of_ofSource read (List.map_eq_nil_iff.mp known)
  obtain ⟨before, behind, same, written⟩ :=
    Parse.programBody_writes lined ⟨orderly, rfl, List.map_eq_nil_iff.mp recorded⟩
  exact ⟨before, behind, same ▸ kinds, written⟩

/--
If no problem is recorded in a program, then its tokens are divided into entries.  At the top level
only lines that declare something or hold `pass` come before a line that declares something, and in
the body of a function only lines that declare something do.
-/
theorem declarations_first {file source : String} {lexing : Lexing}
    (read : Lexing.ofSource file source = .ok lexing)
    (quiet : (ofLexing file lexing).errors = []) :
    ∃! entries, EntriesOf entries lexing.tokens ∧
      entries.Pairwise (fun earlier later =>
        later.text.declares = true → earlier.text.declares = true ∨ earlier.text.isPass = true) ∧
      ∀ entry ∈ Entry.withinAll entries, entry.text.definesFunction = true →
        entry.block.Pairwise fun earlier later =>
          later.text.declares = true → earlier.text.declares = true := by
  obtain ⟨before, behind, kinds, declarations, statements⟩ := exists_written read quiet
  obtain ⟨declaring, first⟩ := Decl.entriesIn_of_padded declarations
  obtain ⟨stating, second⟩ := Stmt.statesIn_of_padded statements
  have whole : EntriesOf (declaring ++ stating) lexing.tokens := by
    rw [EntriesOf, kinds, List.map_append, first.kinds, second.kinds, Entry.kindsIn_append]
  refine ⟨declaring ++ stating, ⟨whole, ?_, ?_⟩, fun others ⟨other, _⟩ => other.unique whole⟩
  · have silent {earlier later : Entry} (among : later ∈ stating) : later.text.declares = true →
        earlier.text.declares = true ∨ earlier.text.isPass = true := fun declares =>
      absurd (declares.symm.trans (second.head later among)) (by decide)
    refine List.pairwise_append.mpr ⟨?_, ?_, fun _ _ later among => silent among⟩
    · refine List.pairwise_of_forall_mem_list fun earlier among _ _ _ => ?_
      simpa [LineText.declaresOrPasses] using first.good earlier among
    · exact List.pairwise_of_forall_mem_list fun _ _ later among => silent among
  · intro entry inside
    obtain ⟨outer, among, inside⟩ := Entry.mem_withinAll.mp inside
    have ordered := List.forall_mem_append.mpr ⟨first.ordered, second.ordered⟩
    exact ordered outer among entry inside

/-- A program with lines of all sorts, and with `pass` wherever it may stand. -/
def paddedSource : String :=
  "pass\nclass A(object):\n    pass\n    def m(self: \"A\") -> int:\n        x: int = 0\n" ++
    "        pass\n        return x\npass\ndef f():\n    global y\n    def g():\n        pass\n" ++
    "    pass\n    y = 2\ny: int = 1\npass\nif y > 0:\n    f()\nelse:\n    pass\n"

/-- The entries of the program are ordered. -/
theorem declarations_first_paddedSource :
    ∃ lexing, Lexing.ofSource "padded.choc" paddedSource = .ok lexing ∧
      (ofLexing "padded.choc" lexing).errors = [] ∧
        ∃! entries, EntriesOf entries lexing.tokens ∧
          entries.Pairwise (fun earlier later => later.text.declares = true →
            earlier.text.declares = true ∨ earlier.text.isPass = true) ∧
          ∀ entry ∈ Entry.withinAll entries, entry.text.definesFunction = true →
            entry.block.Pairwise fun earlier later =>
              later.text.declares = true → earlier.text.declares = true := by
  obtain ⟨lexing, read, clean⟩ : ∃ lexing, Lexing.ofSource "padded.choc" paddedSource =
      .ok lexing ∧ (ofLexing "padded.choc" lexing).errors.isEmpty = true :=
    exists_ok_of_any (by decide +kernel)
  have quiet : (ofLexing "padded.choc" lexing).errors = [] := List.isEmpty_iff.mp clean
  exact ⟨lexing, read, quiet, declarations_first read quiet⟩

/-- A variable that is defined behind an empty line. -/
def passFirstSource : String := "pass\nx: int = 1\n"

/-- The definition behind the empty line is read without a problem. -/
theorem exists_declaration_behind_pass :
    ∃ lexing earlier later, Lexing.ofSource "<input>" passFirstSource = .ok lexing ∧
      (ofLexing "<input>" lexing).errors = [] ∧ EntriesOf [earlier, later] lexing.tokens ∧
        earlier.text.declares = false ∧ later.text.declares = true := by
  obtain ⟨lexing, read, facts⟩ : ∃ lexing, Lexing.ofSource "<input>" passFirstSource =
      .ok lexing ∧ ((ofLexing "<input>" lexing).errors.isEmpty &&
        lexing.tokens.map Token.kind == [.keyword .kwPass, .newline, .identifier, .symbol .colon,
          .identifier, .symbol .assign, .integer, .newline, .endOfFile]) = true :=
    exists_ok_of_any (by decide +kernel)
  obtain ⟨clean, kinds⟩ := (Bool.and_eq_true _ _).mp facts
  exact ⟨lexing, .entry ⟨[.keyword .kwPass], by decide⟩ [],
    .entry ⟨[.identifier, .symbol .colon, .identifier, .symbol .assign, .integer], by decide⟩ [],
    read, List.isEmpty_iff.mp clean, beq_iff_eq.mp kinds, rfl, rfl⟩

end Program

end ChocoLang
