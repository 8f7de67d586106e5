import ChocoLang.Token.Reading
import Mathlib.Data.Nat.Digits.Defs

/-!
# Spelling of tokens

Which characters spell which token is a relation of its own, apart from the way a line is cut and
read.  The first character tells names, numbers, literals and symbols apart, and no token is spelled
over the end of a line.
-/

namespace ChocoLang

/-- The characters that may stand behind a backslash, with those that they stand for. -/
def escapes : List (Char × Char) := [('\\', '\\'), ('"', '"'), ('n', '\n'), ('t', '\t')]

/--
What stands behind the opening mark of a string literal, with the text that it means, whether a mark
closes the literal and whether all in it is valid.
-/
inductive Decodes : (body value : List Char) → (closed valid : Bool) → Prop where
  /-- The line ends. -/
  | cut : Decodes [] [] false true
  /-- A backslash at the end of the line is dropped. -/
  | backslash : Decodes ['\\'] [] false true
  /-- A mark closes the literal. -/
  | mark : Decodes ['"'] [] true true
  /-- A character behind a backslash stands for another one. -/
  | escape {c meant : Char} {body value : List Char} {closed valid : Bool}
      (listed : (c, meant) ∈ escapes) (rest : Decodes body value closed valid) :
      Decodes ('\\' :: c :: body) (meant :: value) closed valid
  /-- A backslash and a character that stands for none are dropped. -/
  | invalidEscape {c : Char} {body value : List Char} {closed valid : Bool}
      (unlisted : ∀ meant, (c, meant) ∉ escapes) (inLine : c ≠ '\n')
      (rest : Decodes body value closed valid) : Decodes ('\\' :: c :: body) value closed false
  /-- A printable character of seven bits stands for itself. -/
  | plain {c : Char} {body value : List Char} {closed valid : Bool} (noMark : c ≠ '"')
      (noBackslash : c ≠ '\\') (printable : 32 ≤ c.toNat ∧ c.toNat ≤ 126)
      (rest : Decodes body value closed valid) : Decodes (c :: body) (c :: value) closed valid
  /-- Any other character is dropped. -/
  | invalid {c : Char} {body value : List Char} {closed valid : Bool}
      (unprintable : ¬ (32 ≤ c.toNat ∧ c.toNat ≤ 126)) (inLine : c ≠ '\n')
      (rest : Decodes body value closed valid) : Decodes (c :: body) value closed false

/-- Characters that spell a token of a kind and a value. -/
inductive Spells : List Char → TokenKind → TokenValue → Prop where
  | keyword (word : Keyword) : Spells word.spelling.toList (.keyword word) (.text word.spelling)
  | name {chars : List Char} (named : isName chars = true)
      (free : ∀ word : Keyword, word.spelling.toList ≠ chars) :
      Spells chars .identifier (.text (String.ofList chars))
  | symbol (sign : Symbol) : Spells sign.chars (.symbol sign) (.text sign.spelling)
  | integer {digits : List Char} (some : digits ≠ []) (decimal : ∀ c ∈ digits, c.isDigit = true) :
      Spells digits .integer
        (.integer (Nat.ofDigits 10 (digits.reverse.map fun c => c.toNat - '0'.toNat) : Nat))
  | literal {body value : List Char} {closed valid : Bool}
      (decodes : Decodes body value closed valid) :
      Spells ('"' :: body) (if closed && valid && isName value then .nameString else .string)
        (.text (String.ofList value))

namespace Decodes

variable {body value : List Char} {closed valid : Bool}

/-- A literal does not go over the end of a line. -/
theorem inLine (decodes : Decodes body value closed valid) : '\n' ∉ body := by
  induction decodes with
  | cut | backslash | mark => decide
  | escape listed _ ih =>
      have noBreak : ∀ pair ∈ escapes, pair.1 ≠ '\n' := by decide
      simp [Ne.symm (noBreak _ listed), ih]
  | invalidEscape _ inLine _ ih => simp [Ne.symm inLine, ih]
  | @plain c _ _ _ _ _ _ printable _ ih =>
      have inLine : '\n' ≠ c := by
        rintro rfl
        exact absurd printable (by decide)
      simp [inLine, ih]
  | invalid _ inLine _ ih => simp [Ne.symm inLine, ih]

/-- Nothing can be added behind the mark that closes a literal. -/
theorem eq_nil_of_append (decodes : Decodes body value true valid) {more value' : List Char}
    {closed' valid' : Bool} (longer : Decodes (body ++ more) value' closed' valid') :
    more = [] := by
  generalize same : true = closed at decodes
  induction decodes generalizing value' valid' with
  | cut | backslash => cases same
  | mark =>
      cases longer with
      | mark => rfl
      | plain noMark => exact absurd rfl noMark
      | invalid unprintable => exact absurd (by decide) unprintable
  | escape _ _ ih | invalidEscape _ _ _ ih =>
      cases longer with
      | escape _ rest | invalidEscape _ _ rest => exact ih rest same
      | plain _ noBackslash => exact absurd rfl noBackslash
      | invalid unprintable => exact absurd (by decide) unprintable
  | @plain c body _ _ _ noMark noBackslash printable _ ih =>
      rw [List.cons_append] at longer
      generalize shape : c :: (body ++ more) = whole at longer
      cases longer with
      | cut => cases shape
      | backslash => exact absurd (List.cons.inj shape).1 noBackslash
      | mark => exact absurd (List.cons.inj shape).1 noMark
      | escape | invalidEscape => exact absurd (List.cons.inj shape).1 noBackslash
      | plain _ _ _ rest =>
          obtain ⟨rfl, rfl⟩ := List.cons.inj shape
          exact ih rest same
      | invalid unprintable =>
          obtain ⟨rfl, rfl⟩ := List.cons.inj shape
          exact absurd printable unprintable
  | @invalid c body _ _ _ unprintable _ _ ih =>
      rw [List.cons_append] at longer
      generalize shape : c :: (body ++ more) = whole at longer
      have other {d : Char} (printable : 32 ≤ d.toNat ∧ d.toNat ≤ 126) : c ≠ d := by
        rintro rfl
        exact unprintable printable
      cases longer with
      | cut => cases shape
      | mark | backslash | escape | invalidEscape =>
          exact absurd (List.cons.inj shape).1 (other (by decide))
      | plain _ _ printable rest => exact absurd (List.cons.inj shape).1 (other printable)
      | invalid _ _ rest =>
          obtain ⟨rfl, rfl⟩ := List.cons.inj shape
          exact ih rest same

end Decodes

/-! ## What characters can spell -/

theorem Keyword.isName_spelling (word : Keyword) : isName word.spelling.toList = true := by
  cases word <;> decide +kernel

theorem isNameStart_of_isDigit {c : Char} (digit : c.isDigit = true) : isNameStart c = false := by
  have noUnderscore : c ≠ '_' := by
    rintro rfl
    exact absurd digit (by decide)
  have noLetter : c.isAlpha = false := by
    change (decide (c.val ≥ '0'.val) && decide (c.val ≤ '9'.val)) = true at digit
    change (decide (c.val ≥ 'A'.val ∧ c.val ≤ 'Z'.val) ||
      (decide (c.val ≥ 'a'.val) && decide (c.val ≤ 'z'.val))) = false
    grind
  simp [isNameStart, noUnderscore, noLetter]

theorem isName_cons {c : Char} {rest : List Char} :
    isName (c :: rest) = true ↔ isNameStart c = true ∧ ∀ d ∈ rest, isNameChar d = true := by
  simp [isName]

/-- Neither names nor numbers nor literals begin like a symbol. -/
theorem Symbol.head_chars {sign : Symbol} {c : Char} {rest : List Char}
    (shape : sign.chars = c :: rest) :
    isNameStart c = false ∧ c.isDigit = false ∧ c ≠ '"' ∧ c ≠ '\n' ∧ '\n' ∉ rest := by
  cases sign <;> (cases shape; decide)

theorem Symbol.chars_cases (sign : Symbol) :
    (∃ c, sign.chars = [c]) ∨ ∃ c d, sign.chars = [c, d] := by
  cases sign <;> first | exact .inl ⟨_, rfl⟩ | exact .inr ⟨_, _, rfl⟩

theorem Symbol.isSome_ofChar? {sign : Symbol} {c : Char} (shape : sign.chars = [c]) :
    (Symbol.ofChar? c).isSome = true :=
  List.find?_isSome.mpr ⟨sign, sign.mem_all, by simp [shape]⟩

theorem Symbol.isSome_ofPair? {sign : Symbol} {c d : Char} (shape : sign.chars = [c, d]) :
    (Symbol.ofPair? c d).isSome = true :=
  List.find?_isSome.mpr ⟨sign, sign.mem_all, by simp [shape]⟩

/-- Where the characters of a symbol stand, a symbol is found, if not always this one. -/
theorem isSome_symbolAt? (sign : Symbol) (rest : List Char) :
    (symbolAt? (sign.chars ++ rest)).isSome = true := by
  rcases sign.chars_cases with ⟨c, shape⟩ | ⟨c, d, shape⟩
  · rw [shape, List.singleton_append, symbolAt?]
    split
    · rfl
    · simpa using Symbol.isSome_ofChar? shape
  · obtain ⟨found, same⟩ := Option.isSome_iff_exists.mp (Symbol.isSome_ofPair? shape)
    simp [shape, symbolAt?, same]

namespace Spells

variable {chars : List Char} {kind : TokenKind} {value : TokenValue}

/-- The four classes of tokens. -/
theorem classes (spells : Spells chars kind value) :
    isName chars = true ∨ (chars ≠ [] ∧ ∀ c ∈ chars, c.isDigit = true) ∨
      (∃ sign : Symbol, sign.chars = chars) ∨
      ∃ body text closed valid, chars = '"' :: body ∧ Decodes body text closed valid := by
  cases spells with
  | keyword word => exact .inl word.isName_spelling
  | name named => exact .inl named
  | symbol sign => exact .inr (.inr (.inl ⟨sign, rfl⟩))
  | integer some decimal => exact .inr (.inl ⟨some, decimal⟩)
  | literal decodes => exact .inr (.inr (.inr ⟨_, _, _, _, rfl, decodes⟩))

variable {c : Char} {rest : List Char}

theorem isName_of_start (spells : Spells (c :: rest) kind value) (start : isNameStart c = true) :
    isName (c :: rest) = true := by
  rcases spells.classes with named | ⟨-, decimal⟩ | ⟨sign, shape⟩ | ⟨_, _, _, _, shape, -⟩
  · exact named
  · rw [isNameStart_of_isDigit (decimal c List.mem_cons_self)] at start
    cases start
  · rw [(Symbol.head_chars shape).1] at start
    cases start
  · obtain ⟨rfl, -⟩ := List.cons.inj shape
    exact absurd start (by decide)

theorem isDigit_of_start (spells : Spells (c :: rest) kind value) (start : c.isDigit = true) :
    ∀ d ∈ c :: rest, d.isDigit = true := by
  rcases spells.classes with named | ⟨-, decimal⟩ | ⟨sign, shape⟩ | ⟨_, _, _, _, shape, -⟩
  · rw [isName_cons, isNameStart_of_isDigit start] at named
    exact absurd named.1 (by decide)
  · exact decimal
  · rw [(Symbol.head_chars shape).2.1] at start
    cases start
  · obtain ⟨rfl, -⟩ := List.cons.inj shape
    exact absurd start (by decide)

theorem decodes_of_mark (spells : Spells ('"' :: rest) kind value) :
    ∃ text closed valid, Decodes rest text closed valid := by
  rcases spells.classes with named | ⟨-, decimal⟩ | ⟨sign, shape⟩ | ⟨_, _, _, _, shape, decodes⟩
  · exact absurd (isName_cons.mp named).1 (by decide)
  · exact absurd (decimal '"' List.mem_cons_self) (by decide)
  · exact absurd rfl (Symbol.head_chars shape).2.2.1
  · obtain ⟨-, rfl⟩ := List.cons.inj shape
    exact ⟨_, _, _, decodes⟩

theorem symbol_of_start (spells : Spells (c :: rest) kind value) (noName : isNameStart c = false)
    (noDigit : c.isDigit = false) (noMark : c ≠ '"') : ∃ sign : Symbol, sign.chars = c :: rest := by
  rcases spells.classes with named | ⟨-, decimal⟩ | found | ⟨_, _, _, _, shape, -⟩
  · rw [isName_cons, noName] at named
    exact absurd named.1 (by decide)
  · rw [decimal c List.mem_cons_self] at noDigit
    cases noDigit
  · exact found
  · exact absurd (List.cons.inj shape).1 noMark

/-- No token goes over the end of a line. -/
theorem inLine (spells : Spells chars kind value) : '\n' ∉ chars := by
  intro among
  rcases spells.classes with named | ⟨-, decimal⟩ | ⟨sign, shape⟩ | ⟨_, _, _, _, rfl, decodes⟩
  · cases chars with
    | nil => cases among
    | cons c rest =>
        obtain ⟨start, others⟩ := isName_cons.mp named
        rcases List.mem_cons.mp among with rfl | later
        · exact absurd start (by decide)
        · exact absurd (others _ later) (by decide)
  · exact absurd (decimal _ among) (by decide)
  · obtain ⟨c, rest, shape'⟩ := List.exists_cons_of_ne_nil sign.chars_ne_nil
    obtain ⟨-, -, -, noBreak, noBreak'⟩ := Symbol.head_chars shape'
    rw [← shape, shape'] at among
    rcases List.mem_cons.mp among with rfl | later
    · exact noBreak rfl
    · exact noBreak' later
  · exact decodes.inLine (by simpa using among)

/-- Where a token is spelled, a segment begins. -/
theorem beginsSegment (spells : Spells chars kind value) (rest : List Char) :
    ChocoLang.beginsSegment (chars ++ rest) = true := by
  rcases spells.classes with named | ⟨some, decimal⟩ | ⟨sign, rfl⟩ | ⟨_, _, _, _, rfl, -⟩
  · cases chars with
    | nil => cases named
    | cons c _ => simp [ChocoLang.beginsSegment, (isName_cons.mp named).1]
  · obtain ⟨c, others, rfl⟩ := List.exists_cons_of_ne_nil some
    simp [ChocoLang.beginsSegment, decimal c List.mem_cons_self]
  · obtain ⟨c, others, shape⟩ := List.exists_cons_of_ne_nil sign.chars_ne_nil
    have found := isSome_symbolAt? sign rest
    rw [shape, List.cons_append] at found ⊢
    simp [ChocoLang.beginsSegment, found]
  · simp [ChocoLang.beginsSegment]

end Spells
end ChocoLang
