import ChocoLang.Json
import Mathlib.Algebra.Group.Nat.Defs
import Mathlib.Data.List.Basic

/-!
# JSON texts are read back

A reader takes the characters of a text one by one.  It keeps the arrays and objects that are open,
each with the parts it has so far, and where in a value it is.  A word or number ends only with the
character behind it; everything else ends with its own last character.  Reading the text of a value,
set out in any style and inside any open arrays and objects, leads behind the value.
-/

namespace ChocoLang
namespace Json

/-! ## The reader -/

/-- An array or object that is open; the parts it has so far, the last one first. -/
inductive Frame where
  /-- An array. -/
  | items (read : List Json)
  /-- An object, not within a field. -/
  | fields (read : List (String × Json))
  /-- An object, behind the name of a field. -/
  | field (read : List (String × Json)) (name : String)

/-- Where in a value a reader is; characters are kept with the last one first. -/
inductive Phase where
  /-- In front of a value. -/
  | before
  /-- In a word or a number. -/
  | word (chars : List Char)
  /-- In a string, perhaps behind the first half of a surrogate pair. -/
  | text (chars : List Char) (high : Option Nat)
  /-- In a string, behind a backslash. -/
  | escape (chars : List Char) (high : Option Nat)
  /-- In a string, among the digits of a code; so many follow the next one. -/
  | code (chars : List Char) (high : Option Nat) (more value : Nat)
  /-- Behind the name of a field. -/
  | name
  /-- Behind a part of an open array or object. -/
  | behind
  /-- Behind a value that is no part of another one. -/
  | done (value : Json)

/-- A reader at a place of a text. -/
structure Reader where
  /-- Where in a value the reader is. -/
  phase : Phase
  /-- The open arrays and objects, innermost first. -/
  frames : List Frame

/-- The value of a hexadecimal digit. -/
def hexValue? (c : Char) : Option Nat :=
  ['0', '1', '2', '3', '4', '5', '6', '7', '8', '9', 'a', 'b', 'c', 'd', 'e', 'f'].idxOf? c

/-- The character that a letter behind a backslash stands for. -/
def unescape? : Char → Option Char
  | '"' => some '"'
  | '\\' => some '\\'
  | '/' => some '/'
  | 'n' => some '\n'
  | 'r' => some '\r'
  | 't' => some '\t'
  | 'b' => some (Char.ofNat 0x08)
  | 'f' => some (Char.ofNat 0x0c)
  | _ => none

/-- The number that digits denote. -/
def natural? (digits : List Char) : Option Nat :=
  if digits ≠ [] ∧ digits.all Char.isDigit then some (Nat.ofDigitChars 10 digits 0) else none

/-- The value that a word or number denotes. -/
def word? : List Char → Option Json
  | ['n', 'u', 'l', 'l'] => some .null
  | ['t', 'r', 'u', 'e'] => some (.bool true)
  | ['f', 'a', 'l', 's', 'e'] => some (.bool false)
  | '-' :: digits => (natural? digits).map fun value => .integer (-Int.ofNat value)
  | digits => (natural? digits).map fun value => .integer (.ofNat value)

/-- The character stands between values only. -/
def isBlank (c : Char) : Bool := c = ' ' || c = '\n'

/-- The character ends a word or number in front of it. -/
def isDelimiter (c : Char) : Bool := isBlank c || c = ',' || c = ']' || c = '\x7d'

/-- The place in a string behind a code, which is a character or half of a surrogate pair. -/
def Phase.ofUnit (chars : List Char) (high : Option Nat) (unit : Nat) : Option Phase :=
  match high with
  | none =>
    if 0xd800 ≤ unit ∧ unit < 0xdc00 then some (.text chars (some unit))
    else if 0xdc00 ≤ unit ∧ unit < 0xe000 then none
    else some (.text (Char.ofNat unit :: chars) none)
  | some first =>
    if 0xdc00 ≤ unit ∧ unit < 0xe000 then
      let beyond := (first - 0xd800) * 0x400 + (unit - 0xdc00)
      some (.text (Char.ofNat (0x10000 + beyond) :: chars) none)
    else none

namespace Reader

/-- The reader behind a value; in an object a value that has no name is the name of a field. -/
def after (value : Json) : List Frame → Option Reader
  | [] => some ⟨.done value, []⟩
  | .items read :: frames => some ⟨.behind, .items (value :: read) :: frames⟩
  | .field read name :: frames => some ⟨.behind, .fields ((name, value) :: read) :: frames⟩
  | .fields read :: frames =>
    match value with
    | .string name => some ⟨.name, .field read name :: frames⟩
    | _ => none

/-- The reader behind a character in front of a value. -/
def start (frames : List Frame) (c : Char) : Option Reader :=
  if isBlank c then some ⟨.before, frames⟩
  else if c = '"' then some ⟨.text [] none, frames⟩
  else if c = '[' then some ⟨.before, .items [] :: frames⟩
  else if c = '\x7b' then some ⟨.before, .fields [] :: frames⟩
  else
    match c, frames with
    | ']', .items [] :: frames => after (.array []) frames
    | '\x7d', .fields [] :: frames => after (.object []) frames
    | _, _ => if isDelimiter c then none else some ⟨.word [c], frames⟩

/-- The reader behind a character in a string. -/
def proceed (frames : List Frame) (chars : List Char) (high : Option Nat) (c : Char) :
    Option Reader :=
  if c = '\\' then some ⟨.escape chars high, frames⟩
  else if high.isSome then none
  else if c = '"' then after (.string (String.ofList chars.reverse)) frames
  else some ⟨.text (c :: chars) none, frames⟩

/-- The reader behind a character that follows a backslash in a string. -/
def resolve (frames : List Frame) (chars : List Char) (high : Option Nat) (c : Char) :
    Option Reader :=
  if c = 'u' then some ⟨.code chars high 3 0, frames⟩
  else if high.isSome then none
  else (unescape? c).map fun meant => ⟨.text (meant :: chars) none, frames⟩

/-- The reader behind a digit of a code; the last digit completes the code. -/
def digit (frames : List Frame) (chars : List Char) (high : Option Nat) (more value : Nat)
    (c : Char) : Option Reader :=
  (hexValue? c).bind fun digit =>
    match more with
    | 0 => (Phase.ofUnit chars high (16 * value + digit)).map fun phase => ⟨phase, frames⟩
    | more + 1 => some ⟨.code chars high more (16 * value + digit), frames⟩

/-- The reader behind a character that follows a value. -/
def resume (reader : Reader) (c : Char) : Option Reader :=
  if isBlank c then some reader
  else
    match reader.phase, c, reader.frames with
    | .name, ':', frames => some ⟨.before, frames⟩
    | .behind, ',', frames => some ⟨.before, frames⟩
    | .behind, ']', .items read :: frames => after (.array read.reverse) frames
    | .behind, '\x7d', .fields read :: frames => after (.object read.reverse) frames
    | _, _, _ => none

/-- The reader behind the value it has read, unless it is within one. -/
def settle (reader : Reader) : Option Reader :=
  match reader.phase with
  | .word chars => (word? chars.reverse).bind fun value => after value reader.frames
  | .name | .behind | .done _ => some reader
  | _ => none

/-- The reader behind a further character. -/
def step (reader : Reader) (c : Char) : Option Reader :=
  match reader.phase with
  | .before => start reader.frames c
  | .word chars =>
    if isDelimiter c then reader.settle.bind fun settled => settled.resume c
    else some ⟨.word (c :: chars), reader.frames⟩
  | .text chars high => proceed reader.frames chars high c
  | .escape chars high => resolve reader.frames chars high c
  | .code chars high more value => digit reader.frames chars high more value c
  | .name | .behind | .done _ => reader.resume c

/-- The reader behind a text. -/
def run (reader : Reader) (text : List Char) : Option Reader := text.foldlM step reader

/-- The value that has been read, if all of it has. -/
def value? (reader : Reader) : Option Json :=
  match reader.phase with
  | .done value => some value
  | _ => none

@[simp]
theorem run_nil (reader : Reader) : reader.run [] = some reader := rfl

@[simp]
theorem run_cons (reader : Reader) (c : Char) (text : List Char) :
    reader.run (c :: text) = (reader.step c).bind fun next => next.run text := rfl

@[simp]
theorem run_append (reader : Reader) (first second : List Char) :
    reader.run (first ++ second) = (reader.run first).bind fun next => next.run second :=
  List.foldlM_append

/-- A character that ends a value is taken by the reader behind the value. -/
theorem step_of_settle {reader settled : Reader} {c : Char} (rest : reader.settle = some settled)
    (ends : isDelimiter c = true) : reader.step c = settled.resume c := by
  obtain ⟨phase, frames⟩ := reader
  cases phase with
  | word chars => simp [step, ends, rest]
  | name | behind | done => cases rest; rfl
  | before | text | escape | code => cases rest

end Reader

/-- The value that a text denotes. -/
def read? (text : List Char) : Option Json :=
  ((Reader.mk .before []).run text).bind fun reader => reader.settle.bind Reader.value?

/--
Wherever a value may stand, the reader behind the text has only to settle to be behind the value.
-/
def Reads (text : List Char) (value : Json) : Prop :=
  ∀ frames settled, Reader.after value frames = some settled →
    ∃ reader, (Reader.mk .before frames).run text = some reader ∧ reader.settle = some settled

/-! ## Words and numbers -/

/-- The characters that no word or number begins with or contains. -/
def separators : List Char := [' ', '\n', '"', ',', '[', ']', '\x7b', '\x7d']

theorem isDelimiter_of_notMem {c : Char} (plain : c ∉ separators) : isDelimiter c = false := by
  simp only [separators, List.mem_cons, List.not_mem_nil, or_false, not_or] at plain
  simp [isDelimiter, isBlank, plain]

theorem start_of_notMem {c : Char} (plain : c ∉ separators) (frames : List Frame) :
    Reader.start frames c = some ⟨.word [c], frames⟩ := by
  have inside := isDelimiter_of_notMem plain
  simp only [separators, List.mem_cons, List.not_mem_nil, or_false, not_or] at plain
  simp [Reader.start, isBlank, plain, inside]

theorem run_word {text : List Char} (inside : ∀ c ∈ text, c ∉ separators) (chars : List Char)
    (frames : List Frame) :
    (Reader.mk (.word chars) frames).run text = some ⟨.word (text.reverse ++ chars), frames⟩ := by
  induction text generalizing chars with
  | nil => rfl
  | cons c rest ih =>
      obtain ⟨first, others⟩ := List.forall_mem_cons.mp inside
      simp [Reader.step, isDelimiter_of_notMem first, ih others]

/-- A word is read when it ends. -/
theorem reads_word {text : List Char} (nonempty : text ≠ [])
    (inside : ∀ c ∈ text, c ∉ separators) {value : Json} (means : word? text = some value) :
    Reads text value := by
  intro frames settled after
  cases text with
  | nil => exact absurd rfl nonempty
  | cons c rest =>
      obtain ⟨first, others⟩ := List.forall_mem_cons.mp inside
      refine ⟨⟨.word (rest.reverse ++ [c]), frames⟩, ?_, ?_⟩
      · simp [Reader.step, start_of_notMem first, run_word others]
      · simp [Reader.settle, means, after]

theorem natural?_toDigits (value : Nat) : natural? (Nat.toDigits 10 value) = some value := by
  have digits : (Nat.toDigits 10 value).all Char.isDigit :=
    List.all_eq_true.mpr fun c among => Nat.isDigit_of_mem_toDigits (by decide) (by decide) among
  rw [natural?, if_pos ⟨Nat.toDigits_ne_nil, digits⟩, Nat.ofDigitChars_ten_toDigits]

theorem notMem_separators_of_isDigit {c : Char} (digit : c.isDigit = true) : c ∉ separators := by
  have others : ∀ separator ∈ separators, separator.isDigit = false := by
    simp [separators]
  intro among
  rw [others c among] at digit
  cases digit

/-- A number that begins with a digit is read as one without a sign. -/
theorem word?_of_isDigit {c : Char} (digit : c.isDigit = true) (rest : List Char) :
    word? (c :: rest) = (natural? (c :: rest)).map fun value => .integer (.ofNat value) := by
  unfold word?
  split
  · next shape => cases shape; cases digit
  · next shape => cases shape; cases digit
  · next shape => cases shape; cases digit
  · next shape => cases shape; cases digit
  · rfl

/-- An integer is read back. -/
theorem reads_integer (value : Int) : Reads (toString value).toList (.integer value) := by
  have digits (value : Nat) : ∀ c ∈ Nat.toDigits 10 value, c.isDigit = true :=
    fun c among => Nat.isDigit_of_mem_toDigits (by decide) (by decide) among
  cases value with
  | ofNat value =>
      have written : (toString (Int.ofNat value)).toList = Nat.toDigits 10 value := by
        change (Nat.repr value).toList = _
        exact Nat.toList_repr
      have inside : ∀ c ∈ Nat.toDigits 10 value, c ∉ separators :=
        fun c among => notMem_separators_of_isDigit (digits value c among)
      rw [written]
      refine reads_word Nat.toDigits_ne_nil inside ?_
      obtain ⟨first, rest, shape⟩ :=
        List.exists_cons_of_ne_nil (Nat.toDigits_ne_nil (n := value) (b := 10))
      have digit := digits value first (by simp [shape])
      rw [shape, word?_of_isDigit digit, ← shape, natural?_toDigits]
      rfl
  | negSucc value =>
      have written : (toString (Int.negSucc value)).toList =
          '-' :: Nat.toDigits 10 (value + 1) := by
        change ("-" ++ Nat.repr (value + 1)).toList = _
        rw [String.toList_append, Nat.toList_repr]
        rfl
      have inside : ∀ c ∈ '-' :: Nat.toDigits 10 (value + 1), c ∉ separators :=
        List.forall_mem_cons.mpr ⟨by decide,
          fun c among => notMem_separators_of_isDigit (digits (value + 1) c among)⟩
      rw [written]
      refine reads_word (List.cons_ne_nil _ _) inside ?_
      rw [word?, natural?_toDigits]
      rfl

/-! ## Strings -/

theorem hexValue?_hexDigit : ∀ digit < 16, hexValue? (Text.hexDigit digit) = some digit := by
  decide

/-- The digits of a code that is not complete are added to its value. -/
theorem run_hexDigits (frames : List Frame) (chars : List Char) (high : Option Nat)
    (width more value number : Nat) (fits : number < 16 ^ width) :
    (Reader.mk (.code chars high (width + more) value) frames).run (Text.hexDigits width number) =
      some ⟨.code chars high more (16 ^ width * value + number), frames⟩ := by
  induction width generalizing more value number with
  | zero => simp [Text.hexDigits, Nat.lt_one_iff.mp fits]
  | succ width ih =>
      have front : number / 16 < 16 ^ width := by
        rw [Nat.div_lt_iff_lt_mul (by decide), ← Nat.pow_succ]
        exact fits
      have behind : width + 1 + more = width + (more + 1) := by omega
      have digit := hexValue?_hexDigit (number % 16) (Nat.mod_lt _ (by decide))
      have sum : 16 * (16 ^ width * value + number / 16) + number % 16 =
          16 ^ (width + 1) * value + number := by
        rw [Nat.mul_add, ← Nat.mul_assoc, ← Nat.pow_succ', Nat.add_assoc, Nat.div_add_mod]
      simp [Text.hexDigits, behind, ih _ _ _ front, Reader.step, Reader.digit, digit, sum]

/-- The escape of a unit is read as that unit. -/
theorem run_unitEscape (frames : List Frame) (chars : List Char) (high : Option Nat) {unit : Nat}
    (fits : unit < 0x10000) :
    (Reader.mk (.text chars high) frames).run (unitEscape unit) =
      (Phase.ofUnit chars high unit).map fun phase => ⟨phase, frames⟩ := by
  have front : unit / 16 < 16 ^ 3 := by omega
  have first := run_hexDigits frames chars high 3 0 0 (unit / 16) front
  have digit := hexValue?_hexDigit (unit % 16) (Nat.mod_lt _ (by decide))
  rw [unitEscape, Text.hexDigits]
  simp [Reader.step, Reader.proceed, Reader.resolve, first, Reader.digit, digit, Nat.div_add_mod]

/-- Every character is a unit that is no half of a surrogate pair, or lies beyond all units. -/
theorem toNat_cases (c : Char) :
    c.toNat < 0xd800 ∨ 0xe000 ≤ c.toNat ∧ c.toNat < 0x10000 ∨
      0x10000 ≤ c.toNat ∧ c.toNat < 0x110000 := by
  have valid : c.toNat < 0xd800 ∨ 0xdfff < c.toNat ∧ c.toNat < 0x110000 := c.valid
  omega

/-- The escape of a character is read as that character. -/
theorem run_escapeChar (frames : List Frame) (chars : List Char) (c : Char) :
    (Reader.mk (.text chars none) frames).run (escapeChar c) =
      some ⟨.text (c :: chars) none, frames⟩ := by
  have same {code : Nat} (told : c.toNat = code) : Char.ofNat code = c := by
    rw [← told, Char.ofNat_toNat]
  unfold escapeChar
  split
  · next shape => subst shape; rfl
  split
  · next shape => subst shape; rfl
  split
  · next shape => subst shape; rfl
  split
  · next shape => subst shape; rfl
  split
  · next shape => subst shape; rfl
  split
  · next code => rw [← same code]; rfl
  split
  · next code => rw [← same code]; rfl
  split
  · next noMark noBackslash _ _ _ _ _ _ =>
      simp [Reader.step, Reader.proceed, noMark, noBackslash]
  split
  · next small =>
      have whole : Phase.ofUnit chars none c.toNat = some (.text (c :: chars) none) := by
        have single := toNat_cases c
        rw [Phase.ofUnit, if_neg (by omega), if_neg (by omega), Char.ofNat_toNat]
      rw [run_unitEscape frames chars none small, whole]
      rfl
  · next large =>
      have bounded : c.toNat - 0x10000 < 0x100000 := by
        have sort := toNat_cases c
        omega
      dsimp only
      generalize shape : c.toNat - 0x10000 = beyond at bounded ⊢
      have high : Phase.ofUnit chars none (0xd800 + beyond / 0x400) =
          some (.text chars (some (0xd800 + beyond / 0x400))) := by
        rw [Phase.ofUnit, if_pos (by omega)]
      have low : Phase.ofUnit chars (some (0xd800 + beyond / 0x400)) (0xdc00 + beyond % 0x400) =
          some (.text (c :: chars) none) := by
        have code : 0x10000 + ((0xd800 + beyond / 0x400 - 0xd800) * 0x400 +
            (0xdc00 + beyond % 0x400 - 0xdc00)) = c.toNat := by omega
        simp only [Phase.ofUnit, code, Char.ofNat_toNat]
        rw [if_pos (by omega)]
      rw [Reader.run_append, run_unitEscape _ _ _ (by omega), high, Option.map_some,
        Option.bind_some, run_unitEscape _ _ _ (by omega), low]
      rfl

/-- Behind a value there is nothing to settle, unless it is a word. -/
theorem Reader.settle_of_after {value : Json} {frames : List Frame} {settled : Reader}
    (after : Reader.after value frames = some settled) : settled.settle = some settled := by
  unfold Reader.after at after
  split at after
  · cases after; rfl
  · cases after; rfl
  · cases after; rfl
  · split at after
    · cases after; rfl
    · cases after

/-- The text of a string leads behind the string. -/
theorem run_escape (value : String) (frames : List Frame) :
    (Reader.mk .before frames).run (escape value) = Reader.after (.string value) frames := by
  have body (text chars : List Char) :
      (Reader.mk (.text chars none) frames).run (text.flatMap escapeChar) =
        some ⟨.text (text.reverse ++ chars) none, frames⟩ := by
    induction text generalizing chars with
    | nil => rfl
    | cons c rest ih => simp [run_escapeChar, ih]
  have opens : (Reader.mk .before frames).step '"' = some ⟨.text [] none, frames⟩ := rfl
  have closes : (Reader.mk (.text value.toList.reverse none) frames).step '"' =
      Reader.after (.string value) frames := by
    simp [Reader.step, Reader.proceed]
  rw [escape, List.cons_append, Reader.run_cons, opens, Option.bind_some, Reader.run_append, body,
    Option.bind_some, List.append_nil, Reader.run_cons, closes]
  simp

/-- A string is read back. -/
theorem reads_string (value : String) : Reads (escape value) (.string value) :=
  fun frames settled after =>
    ⟨settled, (run_escape value frames).trans after, Reader.settle_of_after after⟩

/-! ## Arrays and objects -/

section

variable (style : Style)

/-- Line breaks and indentation in front of a value are passed over. -/
theorem run_lineBreak (depth : Nat) (frames : List Frame) :
    (Reader.mk .before frames).run (style.lineBreak depth) = some ⟨.before, frames⟩ := by
  have blank (c : Char) (among : isBlank c = true) :
      (Reader.mk .before frames).step c = some ⟨.before, frames⟩ := by
    simp [Reader.step, Reader.start, among]
  have blanks (number : Nat) : (Reader.mk .before frames).run (List.replicate number ' ') =
      some ⟨.before, frames⟩ := by
    induction number with
    | zero => rfl
    | succ number ih => rw [List.replicate_succ, Reader.run_cons, blank _ rfl, Option.bind_some, ih]
  cases style with
  | compact => rfl
  | spread indent =>
      rw [Style.lineBreak, Reader.run_cons, blank _ rfl, Option.bind_some, blanks]

/-- Line breaks and indentation behind a value are passed over, too. -/
theorem run_lineBreak_close {reader : Reader} {frames : List Frame}
    (settles : reader.settle = some ⟨.behind, frames⟩) (depth : Nat)
    {c : Char} (ends : isDelimiter c = true) :
    reader.run (style.lineBreak depth ++ [c]) = (Reader.mk .behind frames).resume c := by
  have close {reader : Reader} (settles : reader.settle = some ⟨.behind, frames⟩) :
      reader.run [c] = (Reader.mk .behind frames).resume c := by
    rw [Reader.run_cons, Reader.step_of_settle settles ends]
    simp
  have blanks (number : Nat) : (Reader.mk .behind frames).run (List.replicate number ' ') =
      some ⟨.behind, frames⟩ := by
    induction number with
    | zero => rfl
    | succ number ih => exact ih
  cases style with
  | compact => exact close settles
  | spread indent =>
      have passed : reader.step '\n' = some ⟨.behind, frames⟩ := Reader.step_of_settle settles rfl
      rw [Style.lineBreak, List.cons_append, Reader.run_cons, passed, Option.bind_some,
        Reader.run_append, blanks, Option.bind_some, close rfl]

/-- A separator leads from behind a part in front of the next one. -/
theorem run_separator {reader : Reader} {frames : List Frame}
    (settles : reader.settle = some ⟨.behind, frames⟩) (depth : Nat) (rest : List Char) :
    reader.run (style.separator depth ++ rest) = (Reader.mk .before frames).run rest := by
  have comma : reader.step ',' = some ⟨.before, frames⟩ := Reader.step_of_settle settles rfl
  cases style with
  | compact =>
      rw [Style.separator, List.cons_append, Reader.run_cons, comma]
      rfl
  | spread indent =>
      rw [Style.separator, List.cons_append, Reader.run_cons, comma, Option.bind_some,
        Reader.run_append, run_lineBreak, Option.bind_some]

/-- The name of a field leads in front of the value of the field. -/
theorem run_fieldName (frames : List Frame) (read : List (String × Json)) (name : String)
    (rest : List Char) :
    (Reader.mk .before (.fields read :: frames)).run (escape name ++ ([':', ' '] ++ rest)) =
      (Reader.mk .before (.field read name :: frames)).run rest := by
  rw [Reader.run_append, run_escape]
  rfl

mutual

/-- The text of a value is read back, whatever its style. -/
theorem reads_chars (depth : Nat) : (value : Json) → Reads (chars style depth value) value
  | null => by
      rw [chars]
      exact reads_word (by decide) (by simp [separators]) rfl
  | bool true => by
      rw [chars]
      exact reads_word (by decide) (by simp [separators]) rfl
  | bool false => by
      rw [chars]
      exact reads_word (by decide) (by simp [separators]) rfl
  | integer value => by
      rw [chars]
      exact reads_integer value
  | string value => by
      rw [chars]
      exact reads_string value
  | array [] => by
      intro frames settled after
      rw [chars]
      exact ⟨settled, after ▸ Option.bind_fun_some _, Reader.settle_of_after after⟩
  | array (first :: rest) => by
      intro frames settled after
      refine ⟨settled, ?_, Reader.settle_of_after after⟩
      have opens : (Reader.mk .before frames).step '[' =
        some ⟨.before, .items [] :: frames⟩ := rfl
      obtain ⟨reader, ran, settles⟩ := reads_chars (depth + 1) first (.items [] :: frames) _ rfl
      rw [chars]
      simp only [List.cons_append, List.append_assoc]
      rw [Reader.run_cons, opens, Option.bind_some, Reader.run_append, run_lineBreak,
        Option.bind_some, Reader.run_append, ran, Option.bind_some,
        run_itemChars (depth + 1) depth rest settles]
      exact after
  | object [] => by
      intro frames settled after
      rw [chars]
      exact ⟨settled, after ▸ Option.bind_fun_some _, Reader.settle_of_after after⟩
  | object ((name, first) :: rest) => by
      intro frames settled after
      refine ⟨settled, ?_, Reader.settle_of_after after⟩
      have opens : (Reader.mk .before frames).step '\x7b' =
        some ⟨.before, .fields [] :: frames⟩ := rfl
      obtain ⟨reader, ran, settles⟩ :=
        reads_chars (depth + 1) first (.field [] name :: frames) _ rfl
      rw [chars]
      simp only [List.cons_append, List.append_assoc]
      rw [Reader.run_cons, opens, Option.bind_some, Reader.run_append, run_lineBreak,
        Option.bind_some, ← List.cons_append, ← List.cons_append, run_fieldName,
        Reader.run_append, ran, Option.bind_some, run_fieldChars (depth + 1) depth rest settles]
      exact after

/-- The items of an array are read up to its end. -/
theorem run_itemChars (depth outer : Nat) : (rest : List Json) → {reader : Reader} →
    {read : List Json} → {frames : List Frame} →
    reader.settle = some ⟨.behind, .items read :: frames⟩ →
      reader.run (itemChars style depth rest ++ (style.lineBreak outer ++ [']'])) =
        Reader.after (.array (read.reverse ++ rest)) frames
  | [], reader, read, frames, settles => by
      rw [itemChars, List.nil_append, run_lineBreak_close style settles outer rfl, List.append_nil]
      rfl
  | item :: rest, reader, read, frames, settles => by
      obtain ⟨next, ran, settles'⟩ := reads_chars depth item (.items read :: frames) _ rfl
      rw [itemChars, List.append_assoc, List.append_assoc, run_separator style settles,
        Reader.run_append, ran, Option.bind_some, run_itemChars depth outer rest settles',
        List.reverse_cons, List.append_assoc, List.singleton_append]

/-- The fields of an object are read up to its end. -/
theorem run_fieldChars (depth outer : Nat) : (rest : List (String × Json)) → {reader : Reader} →
    {read : List (String × Json)} → {frames : List Frame} →
    reader.settle = some ⟨.behind, .fields read :: frames⟩ →
      reader.run (fieldChars style depth rest ++ (style.lineBreak outer ++ ['\x7d'])) =
        Reader.after (.object (read.reverse ++ rest)) frames
  | [], reader, read, frames, settles => by
      rw [fieldChars, List.nil_append, run_lineBreak_close style settles outer rfl, List.append_nil]
      rfl
  | (name, value) :: rest, reader, read, frames, settles => by
      obtain ⟨next, ran, settles'⟩ := reads_chars depth value (.field read name :: frames) _ rfl
      simp only [fieldChars, List.append_assoc]
      rw [run_separator style settles, run_fieldName, Reader.run_append, ran, Option.bind_some,
        run_fieldChars depth outer rest settles', List.reverse_cons, List.append_assoc,
        List.singleton_append]

end

end

/-- The text of a value denotes that value, on one line and with every indentation. -/
theorem read?_render (indent : Option Int) (value : Json) :
    read? (value.render indent).toList = some value := by
  have reads (style : Style) : read? (String.ofList (value.chars style 0)).toList = some value := by
    obtain ⟨reader, ran, settles⟩ := reads_chars style 0 value [] _ rfl
    rw [String.toList_ofList, read?, ran, Option.bind_some, settles, Option.bind_some]
    rfl
  cases indent with
  | none => exact reads .compact
  | some width => exact reads (.spread width.toNat)

/-- A string with a surrogate pair, and an array of numbers, are read out of an object. -/
example : read? "\x7b \"a\": \"\\ud83d\\ude00\",\n\"b\":[ 1,-20 ] \x7d".toList =
    some (.object [("a", .string "😀"), ("b", .array [.integer 1, .integer (-20)])]) := by
  rfl

end Json
end ChocoLang
