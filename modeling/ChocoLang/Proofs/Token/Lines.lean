import ChocoLang.Proofs.Parsing.Writing
import ChocoLang.Proofs.Token.Names

/-!
# Lines of tokens

The tokens of a program are lines of text in nested blocks: each line is closed by its end, and the
blocks that are open at the end of the file are closed before it.  If the text is without problems,
then every token also says what a token of its kind says, and a block begins with a line.
-/

namespace ChocoLang

/-- What the tokens of a program say, apart from the end of the file. -/
inductive TokenContent.Regular : TokenContent → Prop where
  | word (keyword : Keyword) : Regular (.word keyword)
  | sign (symbol : Symbol) : Regular (.sign symbol)
  | name {text : String} (spelled : isName text.toList) : Regular (.name text)
  | integer (value : Nat) : Regular (.integer value)
  | string (text : String) : Regular (.string text)
  | newline : Regular .newline
  | indent : Regular .indent
  | dedent : Regular .dedent

/-- What every token of the kind says, if they all say the same. -/
def TokenKind.content? : TokenKind → Option TokenContent
  | keyword word => some (.word word)
  | symbol sign => some (.sign sign)
  | newline => some .newline
  | indent => some .indent
  | dedent => some .dedent
  | _ => none

namespace TokenContent.Regular

variable {content other : TokenContent}

theorem kind_string (text : String) :
    (TokenContent.string text).kind = .nameString ∧ isName text.toList ∨
      (TokenContent.string text).kind = .string := by
  unfold TokenContent.string
  cases named : isName text.toList <;> simp

theorem eq_of_content? (regular : content.Regular) (fixed : content.kind.content? = some other) :
    content = other := by
  cases regular with
  | string text =>
      obtain ⟨kind, -⟩ | kind := kind_string text <;> rw [kind] at fixed <;> cases fixed
  | _ => cases fixed <;> rfl

theorem eq_name (regular : content.Regular) (kind : content.kind = .identifier) :
    ∃ text, isName text.toList ∧ content = .name text := by
  cases regular with
  | @name text spelled => exact ⟨text, spelled, rfl⟩
  | string text =>
      obtain ⟨same, -⟩ | same := kind_string text <;> rw [same] at kind <;> cases kind
  | _ => cases kind

theorem eq_integer (regular : content.Regular) (kind : content.kind = .integer) :
    ∃ value : Nat, content = .integer value := by
  cases regular with
  | integer value => exact ⟨value, rfl⟩
  | string text =>
      obtain ⟨same, -⟩ | same := kind_string text <;> rw [same] at kind <;> cases kind
  | _ => cases kind

theorem eq_string (regular : content.Regular)
    (kind : content.kind = .string ∨ content.kind = .nameString) :
    ∃ text, (content.kind = .nameString → isName text.toList) ∧ content = .string text := by
  cases regular with
  | string text =>
      refine ⟨text, fun named => ?_, rfl⟩
      obtain ⟨-, spelled⟩ | same := kind_string text
      · exact spelled
      · rw [same] at named
        cases named
  | _ => rcases kind with kind | kind <;> cases kind

theorem kind_ne_endOfFile (regular : content.Regular) : content.kind ≠ .endOfFile := by
  cases regular with
  | string text => obtain ⟨kind, -⟩ | kind := kind_string text <;> simp [kind]
  | _ => nofun

end TokenContent.Regular

/--
The tokens are lines of text in nested blocks, of which `depth` are open before them and none
behind.  If the text is sound, then a block begins with a line.
-/
inductive Lined (sound : Prop) : (depth : Nat) → List TokenContent → Prop where
  | nil : Lined sound 0 []
  | line {depth : Nat} {text rest : List TokenContent} (nonempty : text ≠ []) (inside : Inline text)
    (tail : Lined sound depth rest) : Lined sound depth (text ++ .newline :: rest)
  | opening {depth : Nat} {rest : List TokenContent}
    (begun : sound → ∃ content later, rest = content :: later ∧ content.kind.isLayout = false)
    (tail : Lined sound (depth + 1) rest) : Lined sound depth (.indent :: rest)
  | closing {depth : Nat} {rest : List TokenContent} (tail : Lined sound depth rest) :
    Lined sound (depth + 1) (.dedent :: rest)

namespace Lined

variable {sound : Prop} {depth : Nat} {tokens : List TokenContent}

/-- All blocks are closed. -/
theorem nesting_eq (lined : Lined sound depth tokens) :
    nesting depth (tokens.map TokenContent.kind) = some 0 := by
  induction lined with
  | nil => rfl
  | line nonempty inside tail ih =>
      rw [List.map_append, nesting_append, inside.blocksClosed.nesting_eq]
      exact ih
  | opening begun tail ih => exact ih
  | closing tail ih => exact ih

/-- The last token is no text. -/
theorem isLayout_of_getLast? (lined : Lined sound depth tokens) :
    ∀ content ∈ tokens.getLast?, content.kind.isLayout = true := by
  induction lined with
  | nil => simp
  | @line depth text rest nonempty inside tail ih =>
      cases rest with
      | nil => simp [TokenKind.isLayout]
      | cons content later => simpa [List.getLast?_append, List.getLast?_cons_cons] using ih
  | @opening depth rest begun tail ih =>
      cases rest with
      | nil => simp [TokenKind.isLayout]
      | cons content later => simpa [List.getLast?_cons_cons] using ih
  | @closing depth rest tail ih =>
      cases rest with
      | nil => simp [TokenKind.isLayout]
      | cons content later => simpa [List.getLast?_cons_cons] using ih

/-- In a sound text a block begins with a line. -/
theorem text_behind_indent (lined : Lined sound depth tokens) (holds : sound)
    {front back : List TokenContent} (shape : tokens = front ++ .indent :: back) :
    ∃ content later, back = content :: later ∧ content.kind.isLayout = false := by
  induction lined generalizing front with
  | nil => simp at shape
  | @line depth text rest nonempty inside tail ih =>
      obtain ⟨between, rfl, same⟩ | ⟨between, rfl, same⟩ := List.append_eq_append_iff.mp shape
      · cases between with
        | nil => cases (List.cons.inj same).1
        | cons content between => exact ih (List.cons.inj same).2
      · cases between with
        | nil => cases (List.cons.inj same).1
        | cons content between =>
            obtain rfl := (List.cons.inj same).1
            cases inside .indent (by simp)
  | @opening depth rest begun tail ih =>
      cases front with
      | nil =>
          obtain rfl := (List.cons.inj shape).2
          exact begun holds
      | cons content front => exact ih (List.cons.inj shape).2
  | @closing depth rest tail ih =>
      cases front with
      | nil => cases (List.cons.inj shape).1
      | cons content front => exact ih (List.cons.inj shape).2

/-- The ends of further blocks may stand in front. -/
theorem closings (lined : Lined sound depth tokens) (count : Nat) :
    Lined sound (depth + count) (List.replicate count .dedent ++ tokens) := by
  induction count with
  | zero => exact lined
  | succ count ih => exact .closing ih

end Lined

/-! ## Readings -/

namespace Reading

/-- What the tokens among the readings say. -/
def contents (readings : List Reading) : List TokenContent :=
  (readings.filterMap token?).map Token.content

/-- No reading is a problem. -/
def Clean (readings : List Reading) : Prop := ∀ reading ∈ readings, reading.problem? = none

@[simp]
theorem contents_nil : contents [] = [] := rfl

/-- A token is among the readings when there is something that they say. -/
theorem any_token?_eq_false_iff (readings : List Reading) :
    readings.any (·.token?.isSome) = false ↔ contents readings = [] := by
  simp [contents, List.filterMap_eq_nil_iff]

@[simp]
theorem contents_append (first second : List Reading) :
    contents (first ++ second) = contents first ++ contents second := by
  simp [contents]

@[simp]
theorem contents_cons_token (token : Token) (rest : List Reading) :
    contents (.token token :: rest) = token.content :: contents rest := rfl

@[simp]
theorem contents_cons_problem (problem : Located LexicalError) (rest : List Reading) :
    contents (.problem problem :: rest) = contents rest := rfl

@[simp]
theorem contents_problems (problems : List (Located LexicalError)) :
    contents (problems.map .problem) = [] := by
  simp [contents, List.filterMap_map, Function.comp_def, token?]

@[simp]
theorem clean_append {first second : List Reading} :
    Clean (first ++ second) ↔ Clean first ∧ Clean second :=
  List.forall_mem_append

@[simp]
theorem clean_nil : Clean [] := by
  simp [Clean]

@[simp]
theorem clean_cons_token (token : Token) (rest : List Reading) :
    Clean (.token token :: rest) ↔ Clean rest := by
  simp [Clean, problem?]

@[simp]
theorem not_clean_cons_problem (problem : Located LexicalError) (rest : List Reading) :
    ¬Clean (.problem problem :: rest) := by
  simp [Clean, problem?]

@[simp]
theorem clean_problems {problems : List (Located LexicalError)} :
    Clean (problems.map .problem) ↔ problems = [] := by
  simp [Clean, problem?, List.eq_nil_iff_forall_not_mem]

end Reading

open Reading

/-! ## Segments -/

/-- The tokens of a segment are text. -/
theorem Segment.read_inline (line : Line) (column : Nat) (segment : Segment) :
    Inline (contents (segment.read line column)) := by
  cases segment with
  | literal body =>
      simp only [read, readLiteral]
      split
      · simp only [contents_append, contents_problems, contents_cons_token, contents_nil,
          List.nil_append, inline_cons, inline_nil, and_true, Token.kind_content]
        split <;> rfl
      · simp [TokenKind.isLayout]
  | digits chars =>
      simp only [read]
      cases digitsError? chars <;> simp [TokenKind.isLayout]
  | word chars =>
      simp only [read, contents_cons_token, contents_nil, inline_cons, inline_nil, and_true,
        Token.kind_content]
      cases Keyword.ofSpelling? (String.ofList chars) <;> rfl
  | _ => simp [read, TokenKind.isLayout]

/-- Where there is no problem, the tokens of a segment are regular. -/
theorem Segment.read_regular (line : Line) (column : Nat) (segment : Segment)
    (clean : Clean (segment.read line column))
    (word : ∀ chars, segment = .word chars → isName chars = true) :
    ∀ content ∈ contents (segment.read line column), content.Regular := by
  cases segment with
  | literal body =>
      simp only [read, readLiteral] at clean ⊢
      split
      · next closed =>
          simp only [closed, if_true, clean_append, clean_problems] at clean
          have same := TokenContent.Regular.string
            (String.ofList (readBody line (column + 1) body).value)
          simpa [clean.1, Token.content, TokenContent.string] using same
      · next unclosed => simp [unclosed] at clean
  | digits chars =>
      simp only [read] at clean ⊢
      cases error : digitsError? chars with
      | none =>
          simp only [Option.map_none, Option.toList_none, List.nil_append, contents_cons_token,
            contents_nil, List.forall_mem_singleton]
          exact .integer (decimalValue chars)
      | some problem => simp [error] at clean
  | word chars =>
      simp only [read, contents_cons_token, contents_nil, List.forall_mem_singleton]
      cases found : Keyword.ofSpelling? (String.ofList chars) with
      | none => exact .name (by simpa using word chars rfl)
      | some keyword =>
          have spelled : keyword.spelling = String.ofList chars := by
            simpa using List.find?_some found
          rw [← spelled]
          exact .word keyword
  | symbol sign =>
      simp only [read, contents_cons_token, contents_nil, List.forall_mem_singleton]
      exact .sign sign
  | _ => simp [read]

/-- Where there is no problem, a segment with something to read yields a token. -/
theorem Segment.read_ne_nil (line : Line) (column : Nat) (segment : Segment)
    (clean : Clean (segment.read line column)) (noBlank : ∀ chars, segment ≠ .blank chars)
    (noComment : ∀ chars, segment ≠ .comment chars) :
    contents (segment.read line column) ≠ [] := by
  cases segment with
  | blank chars => exact absurd rfl (noBlank chars)
  | comment chars => exact absurd rfl (noComment chars)
  | literal body =>
      simp only [read, readLiteral] at clean ⊢
      split <;> simp
  | invalid chars => simp [read] at clean
  | _ => simp [read]

/-- Neither blanks nor a comment begin where neither a blank nor the mark of a comment stands. -/
theorem Segment.next_text {c : Char} (text : isBlank c = false) (noMark : c ≠ '#')
    (rest : List Char) :
    (∀ chars, (Segment.next c rest).1 ≠ .blank chars) ∧
      ∀ chars, (Segment.next c rest).1 ≠ .comment chars := by
  unfold Segment.next
  simp only [text, noMark, Bool.false_eq_true, if_false]
  repeat' split
  all_goals simp

theorem readSegments_inline (line : Line) (column : Nat) (found : List Segment) :
    Inline (contents (readSegments line column found)) := by
  induction found generalizing column with
  | nil => exact inline_nil
  | cons segment rest ih =>
      rw [readSegments, contents_append]
      exact inline_append.mpr ⟨segment.read_inline line column, ih _⟩

theorem readSegments_regular (line : Line) (column : Nat) {found : List Segment}
    (clean : Clean (readSegments line column found))
    (words : ∀ chars, .word chars ∈ found → isName chars = true) :
    ∀ content ∈ contents (readSegments line column found), content.Regular := by
  induction found generalizing column with
  | nil => simp [readSegments]
  | cons segment rest ih =>
      rw [readSegments, clean_append] at clean
      rw [readSegments, contents_append, List.forall_mem_append]
      exact ⟨segment.read_regular line column clean.1 fun chars same => words chars (by simp [same]),
        ih _ clean.2 fun chars among => words chars (by simp [among])⟩

/-- Where there is no problem, a line with something to read holds a token. -/
theorem readSegments_ne_nil (line : Line) (column : Nat) {content : List Char}
    (text : isVacant content = false) (noBlank : ∀ c ∈ content.head?, isBlank c = false)
    (clean : Clean (readSegments line column (segments content))) :
    contents (readSegments line column (segments content)) ≠ [] := by
  cases content with
  | nil => simp [isVacant] at text
  | cons c rest =>
      rw [segments, readSegments, clean_append] at clean
      rw [segments, readSegments, contents_append, ne_eq, List.append_eq_nil_iff, not_and]
      obtain ⟨first, second⟩ := Segment.next_text (noBlank c rfl)
        (by simpa [isVacant] using text) rest
      intro none
      exact absurd none (Segment.read_ne_nil line column _ clean.1 first second)

/-! ## Lines -/

@[simp]
theorem contents_dedents (count : Nat) (place : Span) :
    contents (dedents count place) = List.replicate count .dedent := by
  simp [contents, dedents, List.filterMap_replicate, token?, dedentToken, Token.content,
    TokenContent.dedent]

theorem contents_indentLine (line : Line) (width column : Nat) (levels : List Level) :
    ∀ content ∈ contents (indentLine line width column levels).1,
      content = .indent ∨ content = .dedent := by
  unfold indentLine
  dsimp only
  split
  · simp [Token.content, TokenContent.indent]
  split <;> simp +contextual

/-- What follows on a line stands in the blocks that its indentation leaves open. -/
theorem Lined.indentLine {sound : Prop} {rest : List TokenContent} (line : Line)
    (width column : Nat) (levels : List Level)
    (begun : sound → ∃ content later, rest = content :: later ∧ content.kind.isLayout = false)
    (lined : Lined sound (blockCount (ChocoLang.indentLine line width column levels).2) rest) :
    Lined sound (blockCount levels)
      (contents (ChocoLang.indentLine line width column levels).1 ++ rest) := by
  have fewer := blockCount_closeLevels_le width levels
  unfold ChocoLang.indentLine at lined ⊢
  dsimp only at lined ⊢
  split
  · next wider =>
      rw [if_pos wider] at lined
      exact .opening begun (by simpa [blockCount] using lined)
  · next narrower =>
      rw [if_neg narrower] at lined
      have closed (same : Lined sound (blockCount (closeLevels width levels)) rest) :=
        same.closings (blockCount levels - blockCount (closeLevels width levels))
      rw [Nat.add_sub_cancel' fewer] at closed
      split
      · next inconsistent =>
          rw [if_pos inconsistent] at lined
          simpa using closed (by simpa [blockCount] using lined)
      · next consistent =>
          rw [if_neg consistent] at lined
          simpa using closed lined

/-- A line of text is closed by its end, if there is a token on it. -/
theorem Lined.text {sound : Prop} {rest : List TokenContent} (line : Line) (width column : Nat)
    (levels : List Level) (readings : List Reading) (ending : Token)
    (closes : ending.content = .newline) (inside : Inline (contents readings))
    (filled : sound → contents readings ≠ [])
    (lined : Lined sound (blockCount (ChocoLang.indentLine line width column levels).2) rest) :
    Lined sound (blockCount levels)
      (contents (ChocoLang.indentLine line width column levels).1 ++ (contents readings ++
        (contents (if readings.any (·.token?.isSome) then [.token ending] else []) ++ rest))) := by
  by_cases empty : contents readings = []
  · rw [(any_token?_eq_false_iff readings).mpr empty, empty]
    exact lined.indentLine line width column levels fun holds => absurd empty (filled holds)
  · have some : readings.any (·.token?.isSome) = true := by
      rw [← Bool.not_eq_false, any_token?_eq_false_iff]
      exact empty
    rw [some, if_pos rfl, contents_cons_token, closes]
    refine Lined.indentLine line width column levels (fun _ => ?_) (lined.line empty inside)
    obtain ⟨content, later, same⟩ := List.exists_cons_of_ne_nil empty
    rw [same] at inside ⊢
    exact ⟨content, _, rfl, (inline_cons.mp inside).1⟩

/-- What follows a line stands in the blocks that the line leaves open. -/
theorem Lined.readLine {sound : Prop} {rest : List TokenContent} {line : Line} {terminated : Bool}
    {levels remaining : List Level} {chars : List Char} {readings : List Reading}
    (shape : ChocoLang.readLine line terminated levels chars = (readings, remaining))
    (clean : sound → Clean readings) (lined : Lined sound (blockCount remaining) rest) :
    Lined sound (blockCount levels) (contents readings ++ rest) := by
  unfold ChocoLang.readLine at shape
  dsimp only at shape
  split at shape
  · cases shape
    exact lined
  · next text =>
      cases shape
      have blankless : ∀ c ∈ (chars.dropWhile isBlank).head?, isBlank c = false := by
        intro c first
        have head := List.head?_dropWhile_not isBlank chars
        simpa [Option.mem_def.mp first] using head
      simp only [clean_append] at clean
      simp only [contents_append, List.append_assoc]
      refine lined.text line _ _ levels _ _ rfl (readSegments_inline _ _ _) fun holds => ?_
      exact readSegments_ne_nil _ _ (by simpa using text) blankless (clean holds).1.2

theorem readLine_regular {line : Line} {terminated : Bool} {levels remaining : List Level}
    {chars : List Char} {readings : List Reading}
    (shape : readLine line terminated levels chars = (readings, remaining))
    (clean : Clean readings) : ∀ content ∈ contents readings, content.Regular := by
  unfold readLine at shape
  dsimp only at shape
  split at shape
  · cases shape
    simp
  · cases shape
    rw [clean_append, clean_append] at clean
    simp only [contents_append, List.forall_mem_append]
    refine ⟨⟨fun content among => ?_, ?_⟩, ?_⟩
    · obtain rfl | rfl := contents_indentLine _ _ _ _ content among
      · exact .indent
      · exact .dedent
    · exact readSegments_regular _ _ clean.1.2 fun chars among => isName_of_mem_segments among
    · split
      · simp only [contents_cons_token, contents_nil, List.forall_mem_singleton]
        exact .newline
      · simp

/--
The tokens of a program are lines in nested blocks, before the end of the file.  If there is no
problem, then the lines are sound and all tokens are regular.
-/
theorem readLines_lined (file : String) (number : Nat) (levels : List Level)
    (lines : List (List Char)) (nonempty : lines ≠ []) :
    ∃ front place, readLines file number levels lines =
        front ++ [.token ⟨.endOfFile, .absent, place⟩] ∧
      (∀ sound : Prop, (sound → Clean front) →
        Lined sound (blockCount levels) (contents front)) ∧
      (Clean front → ∀ content ∈ contents front, content.Regular) := by
  fun_induction readLines file number levels lines with
  | case1 => contradiction
  | case2 number levels last line readings remaining shape =>
      refine ⟨readings ++ dedents (blockCount remaining) (line.point (last.length + 1)), _,
        (List.append_assoc _ _ _).symm, fun sound clean => ?_, fun clean => ?_⟩
      · have closed : Lined sound (blockCount remaining)
            (List.replicate (blockCount remaining) .dedent) := by
          have ended : Lined sound 0 [] := .nil
          simpa using ended.closings (blockCount remaining)
        rw [contents_append, contents_dedents]
        exact closed.readLine shape fun holds => (clean_append.mp (clean holds)).1
      · rw [contents_append, contents_dedents, List.forall_mem_append]
        refine ⟨readLine_regular shape (clean_append.mp clean).1, fun content among => ?_⟩
        rw [List.eq_of_mem_replicate among]
        exact .dedent
  | case3 number levels chars rest long readings remaining shape ih =>
      obtain ⟨front, place, same, lined, regular⟩ := ih (by simpa using long)
      refine ⟨readings ++ front, place, by rw [same, List.append_assoc], fun sound clean => ?_,
        fun clean => ?_⟩
      · simp only [clean_append] at clean
        rw [contents_append]
        exact (lined sound fun holds => (clean holds).2).readLine shape fun holds => (clean holds).1
      · rw [clean_append] at clean
        rw [contents_append, List.forall_mem_append]
        exact ⟨readLine_regular shape clean.1, regular clean.2⟩

/-- The tokens of a program without problems are regular lines, before the end of the file. -/
theorem Lexing.lined_of_ofSource {file source : String} {lexing : Lexing}
    (read : Lexing.ofSource file source = .ok lexing) (clean : lexing.problems = []) :
    ∃ tokens place, lexing.tokens = tokens ++ [⟨.endOfFile, .absent, place⟩] ∧
      Lined True 0 (tokens.map Token.content) ∧
        ∀ content ∈ tokens.map Token.content, content.Regular := by
  unfold Lexing.ofSource at read
  split at read
  · cases read
  · cases read
    obtain ⟨front, place, shape, lined, regular⟩ :=
      readLines_lined file 1 [] (programLines source) (Text.lines_ne_nil _)
    have clear : Clean front := by
      intro reading among
      have none := List.filterMap_eq_nil_iff.mp clean reading
      exact none (by simp [readProgram, shape, among])
    refine ⟨front.filterMap token?, place, ?_, lined True fun _ => clear, regular clear⟩
    simp [readProgram, shape, token?]

end ChocoLang
