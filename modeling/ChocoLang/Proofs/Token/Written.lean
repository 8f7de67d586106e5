import ChocoLang.Proofs.Token.Lines
import ChocoLang.Proofs.Token.Refusal

/-!
# Lexemes that are written out

A lexeme is a token that can be written: a keyword, a symbol, a name, an integer or a text of
printable characters, line feeds and tabs.  Wherever its characters stand before a blank or at the
end of a line, they are cut out as one segment, and just this token is read off the segment.
-/

namespace ChocoLang

open Reading

/-- A token that can be written out. -/
inductive Lexeme where
  /-- A keyword. -/
  | word (keyword : Keyword)
  /-- An operator or a delimiter. -/
  | sign (symbol : Symbol)
  /-- A name that is no keyword. -/
  | name (text : String) (named : isName text.toList = true)
    (free : ∀ keyword : Keyword, keyword.spelling ≠ text)
  /-- An integer that is not too large. -/
  | integer (value : Nat) (small : value ≤ maxInteger)
  /-- A text of printable characters of seven bits, line feeds and tabs. -/
  | string (text : String)
    (writable : ∀ c ∈ text.toList, 32 ≤ c.toNat ∧ c.toNat ≤ 126 ∨ c = '\n' ∨ c = '\t')

/-- A character as it stands in a string literal. -/
def escaped : Char → List Char
  | '\\' => ['\\', '\\']
  | '"' => ['\\', '"']
  | '\n' => ['\\', 'n']
  | '\t' => ['\\', 't']
  | c => [c]

namespace Lexeme

/-- The token. -/
def content : Lexeme → TokenContent
  | word keyword => .word keyword
  | sign symbol => .sign symbol
  | name text _ _ => .name text
  | integer value _ => .integer value
  | string text _ => .string text

/-- The characters that are written. -/
def chars : Lexeme → List Char
  | word keyword => keyword.spelling.toList
  | sign symbol => symbol.chars
  | name text _ _ => text.toList
  | integer value _ => Nat.toDigits 10 value
  | string text _ => '"' :: (text.toList.flatMap escaped ++ ['"'])

/-- The characters as a segment of a line. -/
def segment : Lexeme → Segment
  | word keyword => .word keyword.spelling.toList
  | sign symbol => .symbol symbol
  | name text _ _ => .word text.toList
  | integer value _ => .digits (Nat.toDigits 10 value)
  | string text _ => .literal (text.toList.flatMap escaped ++ ['"'])

end Lexeme

/-! ## Characters in string literals -/

/-- A character is written behind a backslash or as it is. -/
theorem escaped_cases (c : Char) :
    (∃ letter, escaped c = ['\\', letter] ∧ unescape? letter = some c) ∨
      escaped c = [c] ∧ c ≠ '\\' ∧ c ≠ '"' ∧ c ≠ '\n' ∧ c ≠ '\t' := by
  unfold escaped
  split
  · exact .inl ⟨_, rfl, rfl⟩
  · exact .inl ⟨_, rfl, rfl⟩
  · exact .inl ⟨_, rfl, rfl⟩
  · exact .inl ⟨_, rfl, rfl⟩
  · next noBackslash noMark noBreak noTab => exact .inr ⟨rfl, noBackslash, noMark, noBreak, noTab⟩

theorem splitBody_escape (letter : Char) (rest : List Char) :
    splitBody ('\\' :: letter :: rest) =
      ('\\' :: letter :: (splitBody rest).1, (splitBody rest).2) := by
  rw [splitBody]

theorem splitBody_plain {c : Char} (noBackslash : c ≠ '\\') (noMark : c ≠ '"') (rest : List Char) :
    splitBody (c :: rest) = (c :: (splitBody rest).1, (splitBody rest).2) := by
  rw [splitBody.eq_3 c rest fun _ _ same => absurd same noBackslash, if_neg noMark]

/-- A written text is cut out up to its closing mark. -/
theorem splitBody_escaped (text rest : List Char) :
    splitBody (text.flatMap escaped ++ '"' :: rest) = (text.flatMap escaped ++ ['"'], rest) := by
  induction text with
  | nil => rfl
  | cons c text ih =>
      rcases escaped_cases c with ⟨letter, shape, -⟩ | ⟨shape, noBackslash, noMark, -, -⟩
      · simp only [List.flatMap_cons, shape, List.cons_append, List.nil_append, splitBody_escape,
          ih]
      · simp only [List.flatMap_cons, shape, List.cons_append, List.nil_append,
          splitBody_plain noBackslash noMark, ih]

/-- A written text is read back without problems. -/
theorem readBody_escaped (line : Line) (column : Nat) {text : List Char}
    (writable : ∀ c ∈ text, 32 ≤ c.toNat ∧ c.toNat ≤ 126 ∨ c = '\n' ∨ c = '\t') :
    readBody line column (text.flatMap escaped ++ ['"']) =
      { value := text, problems := [], closed := true } := by
  induction text generalizing column with
  | nil => rfl
  | cons c text ih =>
      rw [List.forall_mem_cons] at writable
      rcases escaped_cases c with ⟨letter, shape, meaning⟩ | ⟨shape, noBackslash, noMark, other⟩
      · simp only [List.flatMap_cons, shape, List.cons_append, List.nil_append, readBody, meaning,
          ih _ writable.2]
      · have printable : isStringChar c = true := by
          have sort := writable.1.resolve_right (not_or.mpr other)
          simpa only [isStringChar, Bool.and_eq_true, decide_eq_true_eq] using sort
        have last (d : Char) (more : List Char) (same : c = '\\') :
            text.flatMap escaped ++ ['"'] ≠ d :: more := absurd same noBackslash
        simp only [List.flatMap_cons, shape, List.cons_append, List.nil_append,
          readBody.eq_3 line column c _ last, noMark, noBackslash, printable, if_false, if_true,
          ih _ writable.2]

/-! ## Digits -/

theorem decimalValue_toDigits (value : Nat) : decimalValue (Nat.toDigits 10 value) = value :=
  Nat.ofDigitChars_ten_toDigits

/-- The digits of a number other than zero do not begin with a zero. -/
theorem head?_toDigits_ne {value : Nat} (positive : 0 < value) :
    (Nat.toDigits 10 value).head? ≠ some '0' := by
  induction value using Nat.strongRecOn with
  | ind value ih =>
      by_cases small : value < 10
      · have nonzero : ∀ digit < 10, 0 < digit → digit.digitChar ≠ '0' := by decide
        rw [Nat.toDigits_of_lt_base small, List.head?_cons, ne_eq, Option.some.injEq]
        exact nonzero value small positive
      · have large : 10 ≤ value := Nat.le_of_not_lt small
        have front := ih (value / 10) (by omega) (by omega)
        rw [Nat.toDigits_of_base_le (by decide) large,
          List.head?_append_of_ne_nil _ Nat.toDigits_ne_nil]
        exact front

theorem digitsError?_toDigits {value : Nat} (small : value ≤ maxInteger) :
    digitsError? (Nat.toDigits 10 value) = none := by
  have leading : ¬ ((Nat.toDigits 10 value).length > 1 ∧
      (Nat.toDigits 10 value).head? = some '0') := by
    rintro ⟨long, zero⟩
    cases value with
    | zero => simp at long
    | succ value => exact head?_toDigits_ne (Nat.succ_pos value) zero
  rw [digitsError?, if_neg (by simpa using leading), decimalValue_toDigits,
    if_neg (Nat.not_lt.mpr small)]

/-- An integer that is not too large is not refused. -/
theorem length_toDigits_le {value : Nat} (small : value ≤ maxInteger) :
    (Nat.toDigits 10 value).length ≤ digitLimit := by
  have short : (Nat.toDigits 10 value).length ≤ 10 := by
    rw [Nat.length_toDigits_le_iff (by decide) (by decide)]
    unfold maxInteger at small
    omega
  unfold digitLimit
  omega

/-! ## Segments -/

/-- The text ends, or a blank comes next. -/
def AtBlank (text : List Char) : Prop := ∀ c ∈ text.head?, c = ' '

theorem AtBlank.takeWhile {text : List Char} (ended : AtBlank text) {p : Char → Bool}
    (noBlank : p ' ' = false) : text.takeWhile p = [] ∧ text.dropWhile p = text := by
  cases text with
  | nil => exact ⟨rfl, rfl⟩
  | cons c rest =>
      obtain rfl : c = ' ' := ended c rfl
      exact ⟨List.takeWhile_cons_of_neg (by simp [noBlank]),
        List.dropWhile_cons_of_neg (by simp [noBlank])⟩

/-- A run of characters before a blank stops there. -/
theorem AtBlank.takeWhile_append {rest run : List Char} (ended : AtBlank rest) {p : Char → Bool}
    (noBlank : p ' ' = false) (all : ∀ c ∈ run, p c = true) :
    (run ++ rest).takeWhile p = run ∧ (run ++ rest).dropWhile p = rest := by
  obtain ⟨taken, dropped⟩ := ended.takeWhile noBlank
  rw [List.takeWhile_append_of_pos all, List.dropWhile_append_of_pos all, taken, dropped]
  exact ⟨List.append_nil run, rfl⟩

theorem segments_of_next {c : Char} {tail rest : List Char} {segment : Segment}
    (first : Segment.next c tail = (segment, rest)) :
    segments (c :: tail) = segment :: segments rest := by
  rw [segments, first]

theorem segments_name {text rest : List Char} (named : isName text = true)
    (ended : AtBlank rest) : segments (text ++ rest) = .word text :: segments rest := by
  cases text with
  | nil => cases named
  | cons c others =>
      obtain ⟨start, all⟩ := isName_cons.mp named
      obtain ⟨taken, dropped⟩ := ended.takeWhile_append (p := isNameChar) (by decide) all
      obtain ⟨noBlank, noComment, noMark⟩ := not_blank_of_class start rfl
      have noDigit : c.isDigit = false := by
        by_contra digit
        rw [isNameStart_of_isDigit (by simpa using digit)] at start
        cases start
      rw [List.cons_append]
      refine segments_of_next ?_
      simp only [Segment.next, noBlank, noComment, noMark, noDigit, start, taken, dropped, if_true,
        if_false, Bool.false_eq_true]

theorem segments_digits {text rest : List Char} (some : text ≠ [])
    (decimal : ∀ c ∈ text, c.isDigit = true) (ended : AtBlank rest) :
    segments (text ++ rest) = .digits text :: segments rest := by
  obtain ⟨c, others, rfl⟩ := List.exists_cons_of_ne_nil some
  rw [List.forall_mem_cons] at decimal
  obtain ⟨taken, dropped⟩ := ended.takeWhile_append (p := Char.isDigit) (by decide) decimal.2
  rw [List.cons_append]
  refine segments_of_next ?_
  rw [Segment.next_of_isDigit decimal.1, taken, dropped]

theorem symbolAt?_chars (symbol : Symbol) {rest : List Char} (ended : AtBlank rest) :
    symbolAt? (symbol.chars ++ rest) = some (symbol, rest) := by
  cases rest with
  | nil => cases symbol <;> rfl
  | cons c rest =>
      obtain rfl : c = ' ' := ended c rfl
      cases symbol <;> rfl

theorem Symbol.not_blank {symbol : Symbol} {c : Char} {rest : List Char}
    (shape : symbol.chars = c :: rest) : isBlank c = false ∧ c ≠ '#' := by
  cases symbol <;> (cases shape; decide)

theorem segments_symbol (symbol : Symbol) {rest : List Char} (ended : AtBlank rest) :
    segments (symbol.chars ++ rest) = .symbol symbol :: segments rest := by
  have found := symbolAt?_chars symbol ended
  obtain ⟨c, others, shape⟩ := List.exists_cons_of_ne_nil symbol.chars_ne_nil
  obtain ⟨noStart, noDigit, noMark, -, -⟩ := Symbol.head_chars shape
  rw [shape, List.cons_append] at found ⊢
  refine segments_of_next ?_
  simp only [Segment.next, Symbol.not_blank shape, noMark, noDigit, noStart, found, if_false,
    Bool.false_eq_true]

/-- A lexeme before a blank, or at the end of a line, is cut out as one segment. -/
theorem segments_lexeme (lexeme : Lexeme) {rest : List Char} (ended : AtBlank rest) :
    segments (lexeme.chars ++ rest) = lexeme.segment :: segments rest := by
  cases lexeme with
  | word keyword => exact segments_name keyword.isName_spelling ended
  | sign symbol => exact segments_symbol symbol ended
  | name text named free => exact segments_name named ended
  | integer value small =>
      exact segments_digits Nat.toDigits_ne_nil
        (fun c among => Nat.isDigit_of_mem_toDigits (by decide) (by decide) among) ended
  | string text writable =>
      rw [Lexeme.chars, List.cons_append, List.append_assoc, List.singleton_append]
      refine segments_of_next ?_
      rw [Segment.next, if_neg (by decide), if_neg (by decide), if_pos rfl, splitBody_escaped]
      rfl

/-- A lexeme begins with neither a blank nor the mark of a comment. -/
theorem exists_cons_chars (lexeme : Lexeme) :
    ∃ c rest, lexeme.chars = c :: rest ∧ isBlank c = false ∧ c ≠ '#' := by
  have ofName {text : List Char} (named : isName text = true) :
      ∃ c rest, text = c :: rest ∧ isBlank c = false ∧ c ≠ '#' := by
    cases text with
    | nil => cases named
    | cons c rest =>
        obtain ⟨noBlank, noComment, -⟩ := not_blank_of_class (isName_cons.mp named).1 rfl
        exact ⟨c, rest, rfl, noBlank, noComment⟩
  cases lexeme with
  | word keyword => exact ofName keyword.isName_spelling
  | name text named free => exact ofName named
  | sign symbol =>
      obtain ⟨c, rest, shape⟩ := List.exists_cons_of_ne_nil symbol.chars_ne_nil
      exact ⟨c, rest, shape, Symbol.not_blank shape⟩
  | integer value small =>
      obtain ⟨c, rest, shape⟩ :=
        List.exists_cons_of_ne_nil (Nat.toDigits_ne_nil : Nat.toDigits 10 value ≠ [])
      have digit : c.isDigit = true :=
        Nat.isDigit_of_mem_toDigits (by decide) (by decide) (shape ▸ List.mem_cons_self)
      obtain ⟨noBlank, noComment, -⟩ := not_blank_of_class digit rfl
      exact ⟨c, rest, shape, noBlank, noComment⟩
  | string text writable => exact ⟨'"', _, rfl, by decide, by decide⟩

/-- No break stands in a written text. -/
theorem not_break_of_mem_escaped {c d : Char}
    (writable : 32 ≤ c.toNat ∧ c.toNat ≤ 126 ∨ c = '\n' ∨ c = '\t') (among : d ∈ escaped c) :
    d ≠ '\n' ∧ d ≠ '\r' := by
  rcases escaped_cases c with ⟨letter, shape, meaning⟩ | ⟨shape, -, -, noBreak, noTab⟩
  · rw [shape, List.mem_cons, List.mem_singleton] at among
    rcases among with rfl | rfl
    · decide
    · constructor <;> (rintro rfl; cases meaning)
  · rw [shape, List.mem_singleton] at among
    subst among
    refine ⟨noBreak, ?_⟩
    rintro rfl
    exact absurd writable (by decide)

/-- No break stands in a lexeme. -/
theorem not_break_of_mem_chars (lexeme : Lexeme) :
    ∀ c ∈ lexeme.chars, c ≠ '\n' ∧ c ≠ '\r' := by
  have ofName {text : List Char} (named : isName text = true) :
      ∀ c ∈ text, c ≠ '\n' ∧ c ≠ '\r' := by
    cases text with
    | nil => cases named
    | cons d rest =>
        obtain ⟨start, others⟩ := isName_cons.mp named
        refine List.forall_mem_cons.mpr ⟨⟨ne_of_class start rfl, ne_of_class start rfl⟩, ?_⟩
        exact fun c among => ⟨ne_of_class (others c among) rfl, ne_of_class (others c among) rfl⟩
  cases lexeme with
  | word keyword => exact ofName keyword.isName_spelling
  | name text named free => exact ofName named
  | sign symbol => cases symbol <;> simp [Lexeme.chars, Symbol.chars]
  | integer value small =>
      intro c among
      have digit : c.isDigit = true := Nat.isDigit_of_mem_toDigits (by decide) (by decide) among
      exact ⟨ne_of_class digit rfl, ne_of_class digit rfl⟩
  | string text writable =>
      refine List.forall_mem_cons.mpr ⟨by decide, List.forall_mem_append.mpr ⟨?_, by simp⟩⟩
      intro d among
      obtain ⟨c, inside, among⟩ := List.mem_flatMap.mp among
      exact not_break_of_mem_escaped (writable c inside) among

/-- Off the segment of a lexeme just its token is read. -/
theorem read_lexeme (line : Line) (column : Nat) (lexeme : Lexeme) :
    ∃ token : Token, lexeme.segment.read line column = [.token token] ∧
      token.content = lexeme.content := by
  cases lexeme with
  | word keyword =>
      refine ⟨_, rfl, ?_⟩
      simp only [Token.content, Lexeme.content, TokenContent.word, String.ofList_toList,
        Keyword.ofSpelling?_spelling, Option.map_some, Option.getD_some]
  | sign symbol => exact ⟨_, rfl, rfl⟩
  | name text named free =>
      have none : Keyword.ofSpelling? text = none :=
        List.find?_eq_none.mpr fun keyword _ => by simpa using free keyword
      refine ⟨_, rfl, ?_⟩
      simp only [Token.content, Lexeme.content, TokenContent.name, String.ofList_toList, none,
        Option.map_none, Option.getD_none]
  | integer value small =>
      simp only [Lexeme.segment, Segment.read, digitsError?_toDigits small, Option.map_none,
        Option.toList_none, List.nil_append, decimalValue_toDigits]
      exact ⟨_, rfl, rfl⟩
  | string text writable =>
      simp only [Lexeme.segment, Segment.read, readLiteral, readBody_escaped line _ writable,
        String.ofList_toList, List.map_nil, List.nil_append, List.isEmpty_nil, Bool.true_and,
        if_true]
      exact ⟨_, rfl, rfl⟩

end ChocoLang
