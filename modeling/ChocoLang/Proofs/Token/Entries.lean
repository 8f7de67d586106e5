import ChocoLang.Token

/-!
# Entries

The tokens of a program whose blocks are all closed are a sequence of entries.  An entry is a line
of text with its end, and perhaps a block below it, which consists of entries in turn.  There is at
most one way of dividing tokens into entries.
-/

namespace ChocoLang

/-- The text of a line. -/
structure LineText where
  /-- The kinds of the tokens in the line. -/
  kinds : List TokenKind
  /-- There is no layout inside a line. -/
  inline : ∀ kind ∈ kinds, kind.isLayout = false

@[ext]
theorem LineText.ext {first second : LineText} (same : first.kinds = second.kinds) :
    first = second := by
  cases first
  cases second
  congr

/-- A line with the entries of the block below it. -/
inductive Entry where
  | entry (text : LineText) (block : List Entry)

namespace Entry

/-- The line of an entry. -/
def text : Entry → LineText
  | entry text _ => text

/-- The entries below the line. -/
def block : Entry → List Entry
  | entry _ block => block

mutual

/-- The kinds of the tokens of an entry. -/
def kinds : Entry → List TokenKind
  | entry text [] => text.kinds ++ [.newline]
  | entry text (first :: rest) =>
    text.kinds ++ .newline :: .indent :: (first.kinds ++ kindsIn rest) ++ [.dedent]

/-- The kinds of the tokens of entries. -/
def kindsIn : List Entry → List TokenKind
  | [] => []
  | first :: rest => first.kinds ++ kindsIn rest

/-- An entry and all entries in blocks below it. -/
def within : Entry → List Entry
  | entry text block => entry text block :: withinAll block

/-- Entries and all entries in blocks below them. -/
def withinAll : List Entry → List Entry
  | [] => []
  | first :: rest => first.within ++ withinAll rest

end

theorem kinds_of_block (text : LineText) {block : List Entry} (nonempty : block ≠ []) :
    (entry text block).kinds = text.kinds ++ .newline :: .indent :: kindsIn block ++ [.dedent] := by
  cases block with
  | nil => exact absurd rfl nonempty
  | cons first rest => simp [kinds, kindsIn]

@[simp]
theorem kindsIn_append (first second : List Entry) :
    kindsIn (first ++ second) = kindsIn first ++ kindsIn second := by
  induction first with
  | nil => rfl
  | cons entry rest ih => simp [kindsIn, ih]

@[simp]
theorem kindsIn_singleton (entry : Entry) : kindsIn [entry] = entry.kinds := by
  simp [kindsIn]

theorem mem_withinAll {inner : Entry} {entries : List Entry} :
    inner ∈ withinAll entries ↔ ∃ outer ∈ entries, inner ∈ outer.within := by
  induction entries with
  | nil => simp [withinAll]
  | cons entry rest ih => simp [withinAll, ih]

/-! ## Only one division into entries -/

/-- A line ends where its text ends. -/
theorem text_inj {first second : LineText} {rest later : List TokenKind}
    (same : first.kinds ++ .newline :: rest = second.kinds ++ .newline :: later) :
    first = second ∧ rest = later := by
  have parts (text : LineText) (rest : List TokenKind) :
      (text.kinds ++ .newline :: rest).takeWhile (! ·.isLayout) = text.kinds ∧
        (text.kinds ++ .newline :: rest).dropWhile (! ·.isLayout) = .newline :: rest := by
    have inside : ∀ kind ∈ text.kinds, (! kind.isLayout) = true := by simpa using text.inline
    rw [List.takeWhile_append_of_pos inside, List.dropWhile_append_of_pos inside]
    simp [TokenKind.isLayout]
  have front := (parts first rest).1.symm.trans (same ▸ (parts second later).1)
  have back := (parts first rest).2.symm.trans (same ▸ (parts second later).2)
  exact ⟨LineText.ext front, List.tail_eq_of_cons_eq back⟩

/-- An entry begins with text or with the end of an empty line. -/
theorem head?_kinds (entry : Entry) (rest : List TokenKind) :
    ∃ kind, (entry.kinds ++ rest).head? = some kind ∧
      (kind.isLayout = false ∨ kind = .newline) := by
  obtain ⟨text, block⟩ := entry
  obtain ⟨kinds, inline⟩ := text
  cases kinds with
  | nil => cases block <;> exact ⟨.newline, rfl, .inr rfl⟩
  | cons kind kinds => cases block <;> exact ⟨kind, rfl, .inl (inline kind List.mem_cons_self)⟩

/-- What stands behind entries: the end of a block or of the file, or nothing. -/
def Closing (rest : List TokenKind) : Prop :=
  ∀ kind ∈ rest.head?, kind = .dedent ∨ kind = .endOfFile

theorem Closing.ne_kinds {rest : List TokenKind} (closing : Closing rest) (entry : Entry)
    (later : List TokenKind) : rest ≠ entry.kinds ++ later := by
  rintro rfl
  obtain ⟨kind, first, text | newline⟩ := head?_kinds entry later
  · rcases closing kind first with rfl | rfl <;> cases text
  · rcases closing kind first with rfl | rfl <;> cases newline

/-- Behind the entries below a block no block begins. -/
theorem head?_kindsIn_ne_indent {entries : List Entry} {rest : List TokenKind}
    (closing : Closing rest) : (kindsIn entries ++ rest).head? ≠ some .indent := by
  intro begins
  cases entries with
  | nil => rcases closing _ begins with same | same <;> cases same
  | cons entry entries =>
      rw [kindsIn, List.append_assoc] at begins
      obtain ⟨kind, first, text | newline⟩ := head?_kinds entry (kindsIn entries ++ rest)
      · cases begins.symm.trans first
        cases text
      · cases begins.symm.trans (first.trans (congrArg some newline))

mutual

/-- An entry is told by its tokens from whatever follows but a block. -/
theorem kinds_append_inj : (first second : Entry) → {rest later : List TokenKind} →
    rest.head? ≠ some .indent → later.head? ≠ some .indent →
      first.kinds ++ rest = second.kinds ++ later → first = second ∧ rest = later
  | entry text block, entry text' block', rest, later, noBlock, noBlock', same => by
      cases block with
      | nil =>
          cases block' with
          | nil =>
              simp only [kinds, List.append_assoc, List.singleton_append] at same
              obtain ⟨rfl, rfl⟩ := text_inj same
              exact ⟨rfl, rfl⟩
          | cons inner inners =>
              simp only [kinds, List.append_assoc, List.cons_append, List.nil_append] at same
              obtain ⟨-, rfl⟩ := text_inj same
              exact absurd rfl noBlock
      | cons inner inners =>
          cases block' with
          | nil =>
              simp only [kinds, List.append_assoc, List.cons_append, List.nil_append] at same
              obtain ⟨-, rfl⟩ := text_inj same
              exact absurd rfl noBlock'
          | cons inner' inners' =>
              simp only [kinds, List.append_assoc, List.cons_append, List.nil_append] at same
              obtain ⟨rfl, below⟩ := text_inj same
              have inside : kindsIn (inner :: inners) ++ .dedent :: rest =
                  kindsIn (inner' :: inners') ++ .dedent :: later := by
                simpa [kindsIn] using below
              obtain ⟨blocks, behind⟩ := kindsIn_append_inj (inner :: inners) (inner' :: inners')
                (by simp [Closing]) (by simp [Closing]) inside
              exact ⟨by rw [blocks], List.tail_eq_of_cons_eq behind⟩

/-- Entries are told by their tokens if what follows closes them. -/
theorem kindsIn_append_inj : (first second : List Entry) → {rest later : List TokenKind} →
    Closing rest → Closing later → kindsIn first ++ rest = kindsIn second ++ later →
      first = second ∧ rest = later
  | [], [], _, _, _, _, same => ⟨rfl, same⟩
  | [], second :: _, _, _, closing, _, same => by
      rw [kindsIn, kindsIn, List.append_assoc] at same
      exact absurd same (closing.ne_kinds second _)
  | first :: _, [], _, _, _, closing, same => by
      rw [kindsIn, kindsIn, List.append_assoc] at same
      exact absurd same.symm (closing.ne_kinds first _)
  | first :: entries, second :: entries', _, _, closing, closing', same => by
      rw [kindsIn, kindsIn, List.append_assoc, List.append_assoc] at same
      obtain ⟨rfl, behind⟩ := kinds_append_inj first second (head?_kindsIn_ne_indent closing)
        (head?_kindsIn_ne_indent closing') same
      obtain ⟨rfl, rest⟩ := kindsIn_append_inj entries entries' closing closing' behind
      exact ⟨rfl, rest⟩

end

end Entry

/-- The entries are those of the tokens of a program up to the end of the file. -/
def EntriesOf (entries : List Entry) (tokens : List Token) : Prop :=
  tokens.map Token.kind = Entry.kindsIn entries ++ [.endOfFile]

/-- Tokens are divided into entries in one way at most. -/
theorem EntriesOf.unique {first second : List Entry} {tokens : List Token}
    (one : EntriesOf first tokens) (other : EntriesOf second tokens) : first = second :=
  (Entry.kindsIn_append_inj first second (by simp [Entry.Closing]) (by simp [Entry.Closing])
    (one.symm.trans other)).1

end ChocoLang
