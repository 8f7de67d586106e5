import ChocoLang.Proofs.Token.Succession
import ChocoLang.Proofs.Token.Tiles
import Mathlib.Data.List.Pairwise

/-!
# Account of every character

The tokens of a program that are not layout are stretches of its text, each as long as it can be;
and every character between them is a blank, a break, part of a comment, or reported once as
invalid.
-/

namespace ChocoLang

open Reading

/-- A character that belongs to no token is passed over or reported. -/
inductive Passed (text : List Char) (tokens : List Token)
    (strays : List (Located LexicalError)) (index : Nat) : Prop where
  /-- It is a blank or a break. -/
  | blank {c : Char} (found : text[index]? = some c) (blank : c = ' ' ∨ c = '\t' ∨ c = '\n')
  /-- It is in a comment, which runs from its mark to the end of the line and in which no token and
  no report lies. -/
  | comment {first last : Nat} (mark : text[first]? = some '#') (behind : first ≤ index)
      (before : index < last) (inLine : '\n' ∉ text.extract first last)
      (ended : last = text.length ∨ text[last]? = some '\n')
      (free : ∀ other, first ≤ other → other < last →
        (∀ token ∈ tokens, ¬ token.span.Holds text other) ∧
          ∀ stray ∈ strays, ¬ stray.span.Holds text other)
  /-- It is in one of the reports of invalid characters and no other one. -/
  | stray (once : (strays.filter fun stray => stray.span.Holds text index).length = 1)

/-- The account that tokens and reports of invalid characters give of a text. -/
structure Accounted (text : List Char) (tokens : List Token)
    (strays : List (Located LexicalError)) : Prop where
  /-- Every token takes up some characters of the text. -/
  inside : ∀ token ∈ tokens, token.span.start.offset text < token.span.stop.offset text ∧
    token.span.stop.offset text ≤ text.length
  /-- No token begins before those in front of it end. -/
  ordered : tokens.Pairwise fun first second =>
    first.span.stop.offset text ≤ second.span.start.offset text
  /-- The characters of a token spell it. -/
  spelled : ∀ token ∈ tokens, Spells (token.span.slice text) token.kind token.value
  /-- No more characters than those of a token spell one. -/
  longest : ∀ token ∈ tokens, ∀ stop, token.span.stop.offset text < stop → stop ≤ text.length →
    ∀ kind value, ¬ Spells (text.extract (token.span.start.offset text) stop) kind value
  /-- A character of no token is passed over or reported. -/
  covered : ∀ index < text.length, (∀ token ∈ tokens, ¬ token.span.Holds text index) →
    Passed text tokens strays index
  /-- Reports tell the characters that they are about. -/
  reported : ∀ stray ∈ strays, stray.content = .invalidCharacters (stray.span.slice text) ∧
    stray.span.start.offset text < stray.span.stop.offset text
  /-- Neither a token nor anything that is passed over begins at a reported character. -/
  unreadable : ∀ stray ∈ strays, ∀ index, stray.span.Holds text index →
    (∀ c ∈ text[index]?, c ≠ ' ' ∧ c ≠ '\t' ∧ c ≠ '\n' ∧ c ≠ '#') ∧
      ∀ chars, chars <+: text.drop index → ∀ kind value, ¬ Spells chars kind value
  /-- Two reports do not touch. -/
  apart : strays.Pairwise fun first second =>
    first.span.stop.offset text < second.span.start.offset text

namespace Tile

variable {tile : Tile}

namespace Stands

variable {text rest : List Char}

theorem extract (stands : tile.Stands text rest) (more : Nat) :
    text.extract (tile.span.start.offset text) (tile.span.stop.offset text + more) =
      tile.chars ++ rest.take more := by
  rw [List.extract_eq_take_drop, stands.drop, stands.stop, Nat.add_assoc, Nat.add_sub_cancel_left,
    List.take_append, Nat.add_sub_cancel_left, List.take_of_length_le (Nat.le_add_right _ _)]

/-- The span of a tile covers its characters. -/
theorem slice (stands : tile.Stands text rest) : tile.span.slice text = tile.chars :=
  (stands.extract 0).trans (List.append_nil _)

theorem start_lt (stands : tile.Stands text rest) :
    tile.span.start.offset text < tile.span.stop.offset text := by
  have nonempty := List.length_pos_iff.mpr stands.nonempty
  rw [stands.stop]
  omega

theorem stop_add (stands : tile.Stands text rest) :
    tile.span.stop.offset text + rest.length = text.length := by
  have lengths := congrArg List.length stands.drop
  have nonempty := List.length_pos_iff.mpr stands.nonempty
  rw [List.length_drop, List.length_append] at lengths
  rw [stands.stop]
  omega

/-- What stands in the text from a character of the tile on. -/
theorem drop_of_holds (stands : tile.Stands text rest) {index : Nat}
    (holds : tile.span.Holds text index) :
    ∃ front back, tile.chars = front ++ back ∧ back ≠ [] ∧ text.drop index = back ++ rest := by
  obtain ⟨count, rfl⟩ := Nat.exists_eq_add_of_le holds.1
  have before := holds.2
  rw [stands.stop, Nat.add_lt_add_iff_left] at before
  refine ⟨tile.chars.take count, tile.chars.drop count, (List.take_append_drop _ _).symm, ?_, ?_⟩
  · simpa using before
  · rw [← List.drop_drop, stands.drop, List.drop_append_of_le_length before.le]

/-- A character of the tile is one of its characters. -/
theorem exists_getElem? (stands : tile.Stands text rest) {index : Nat}
    (holds : tile.span.Holds text index) : ∃ c ∈ tile.chars, text[index]? = some c := by
  obtain ⟨front, back, shape, nonempty, ahead⟩ := stands.drop_of_holds holds
  obtain ⟨c, back, rfl⟩ := List.exists_cons_of_ne_nil nonempty
  exact ⟨c, by simp [shape], by rw [← List.head?_drop, ahead]; rfl⟩

theorem getElem?_start (stands : tile.Stands text rest) :
    text[tile.span.start.offset text]? = tile.chars.head? := by
  rw [← List.head?_drop, stands.drop, List.head?_append_of_ne_nil _ stands.nonempty]

/-- The text goes on behind the tile. -/
theorem getElem?_stop (stands : tile.Stands text rest) :
    text[tile.span.stop.offset text]? = rest.head? := by
  rw [← List.head?_drop, stands.stop, ← List.drop_drop, stands.drop, List.drop_left]

theorem ends_at_break (stands : tile.Stands text rest) (ended : AtBreak rest) :
    tile.span.stop.offset text = text.length ∨ text[tile.span.stop.offset text]? = some '\n' := by
  cases rest with
  | nil => exact .inl stands.stop_add
  | cons c rest =>
      rw [stands.getElem?_stop, ended c rfl]
      exact .inr rfl

/-- With more of the text behind it a token is none. -/
theorem not_spells (stands : tile.Stands text rest) {token : Token} (among : token ∈ tile.tokens)
    {stop : Nat} (longer : tile.span.stop.offset text < stop) (inside : stop ≤ text.length)
    (kind : TokenKind) (value : TokenValue) :
    ¬ Spells (text.extract (tile.span.start.offset text) stop) kind value := by
  obtain ⟨count, rfl⟩ := Nat.exists_eq_add_of_lt longer
  obtain ⟨-, -, longest⟩ := stands.cut.lexeme_of_mem among
  have behind := stands.stop_add
  rw [Nat.add_assoc, stands.extract]
  refine longest (rest.take (count + 1)) ?_ (List.take_prefix _ _) kind value
  rw [ne_eq, List.take_eq_nil_iff, not_or, ← List.length_eq_zero_iff]
  omega

/-- Neither a token nor anything that is passed over begins at a character of a report. -/
theorem unreadable (stands : tile.Stands text rest) {stray : Located LexicalError}
    (among : stray ∈ tile.strays) {index : Nat} (holds : tile.span.Holds text index) :
    (∀ c ∈ text[index]?, c ≠ ' ' ∧ c ≠ '\t' ∧ c ≠ '\n' ∧ c ≠ '#') ∧
      ∀ chars, chars <+: text.drop index → ∀ kind value, ¬ Spells chars kind value := by
  obtain ⟨front, back, shape, nonempty, ahead⟩ := stands.drop_of_holds holds
  obtain ⟨-, inLine, nothing, -⟩ := stands.cut.stray_of_mem among
  have silent := nothing front back shape nonempty
  rw [← ahead] at silent
  refine ⟨fun c found => ?_, fun chars within kind value spells => ?_⟩
  · obtain ⟨d, member, found'⟩ := stands.exists_getElem? holds
    obtain rfl : d = c := Option.some.inj (found'.symm.trans found)
    have noBreak : d ≠ '\n' := fun same => inLine (same ▸ member)
    obtain ⟨more, first⟩ := List.head?_eq_some_iff.mp (List.head?_drop.trans found)
    simp only [first, beginsSegment, isBlank, Bool.or_eq_false_iff, decide_eq_false_iff_not]
      at silent
    tauto
  · obtain ⟨behind, whole⟩ := within
    rw [← whole, spells.beginsSegment behind] at silent
    cases silent

end Stands
end Tile

namespace Laid

variable {text : List Char} {tiles : List Tile}

/-- No character is on two tiles. -/
theorem eq_of_holds {offset : Nat} {rest : List Char} (laid : Laid text offset tiles rest)
    {first second : Tile} (among : first ∈ tiles) (among' : second ∈ tiles) {index : Nat}
    (holds : first.span.Holds text index) (holds' : second.span.Holds text index) :
    first = second := by
  have symmetric : Std.Symm fun first second : Tile =>
      ∀ index, first.span.Holds text index → ¬ second.span.Holds text index :=
    ⟨fun _ _ apart index holds holds' => apart index holds' holds⟩
  have disjoint : tiles.Pairwise fun first second =>
      ∀ index, first.span.Holds text index → ¬ second.span.Holds text index :=
    laid.pairwise.imp fun early index holds holds' =>
      absurd (holds.2.trans_le (early.trans holds'.1)) (Nat.lt_irrefl index)
  by_contra other
  exact disjoint.forall among among' other index holds holds'

section Items

variable {α : Type} (place : α → Span) {read : Tile → List α}
  (spans : ∀ tile ∈ tiles, ∀ item ∈ read tile, place item = tile.span)
include spans

/-- What is read off the tiles stands in the order of the tiles. -/
theorem pairwise_flatMap (apart : Nat → Nat → Prop)
    (single : ∀ tile ∈ tiles, (read tile).length ≤ 1)
    (tilesApart : tiles.Pairwise fun first second => read first ≠ [] → read second ≠ [] →
      apart (first.span.stop.offset text) (second.span.start.offset text)) :
    (tiles.flatMap read).Pairwise fun first second =>
      apart ((place first).stop.offset text) ((place second).start.offset text) := by
  refine List.pairwise_flatMap.mpr ⟨fun tile among => ?_, ?_⟩
  · have short := single tile among
    generalize read tile = items at short ⊢
    rcases items with _ | ⟨item, _ | ⟨other, rest⟩⟩
    · exact .nil
    · exact List.pairwise_singleton _ item
    · simp at short
  · refine tilesApart.imp_of_mem fun {first second} among among' far item found item' found' => ?_
    rw [spans first among item found, spans second among' item' found']
    exact far (List.ne_nil_of_mem found) (List.ne_nil_of_mem found')

/-- Where nothing is read off a tile, nothing that is read off the tiles lies on it. -/
theorem not_holds_of_eq_nil {offset : Nat} {rest : List Char} (laid : Laid text offset tiles rest)
    {tile : Tile} (member : tile ∈ tiles) (silent : read tile = []) {index : Nat}
    (holds : tile.span.Holds text index) :
    ∀ item ∈ tiles.flatMap read, ¬ (place item).Holds text index := by
  intro item among holds'
  obtain ⟨other, member', found⟩ := List.mem_flatMap.mp among
  rw [spans other member' item found] at holds'
  obtain rfl := laid.eq_of_holds member member' holds holds'
  rw [silent] at found
  cases found

end Items
end Laid

/-- A character in one of some spans that lie apart is in this one only. -/
theorem length_filter_holds {text : List Char} {strays : List (Located LexicalError)}
    (apart : strays.Pairwise fun first second =>
      first.span.stop.offset text < second.span.start.offset text)
    {stray : Located LexicalError} (among : stray ∈ strays) {index : Nat}
    (holds : stray.span.Holds text index) :
    (strays.filter fun stray => stray.span.Holds text index).length = 1 := by
  have found : stray ∈ strays.filter fun stray => stray.span.Holds text index :=
    List.mem_filter.mpr ⟨among, by simpa using holds⟩
  have all : ∀ other ∈ strays.filter fun stray => stray.span.Holds text index,
      other.span.Holds text index := fun other found => by
    simpa using (List.mem_filter.mp found).2
  have ordered := apart.filter fun stray => stray.span.Holds text index
  generalize strays.filter (fun stray => stray.span.Holds text index) = kept at *
  rcases kept with _ | ⟨first, _ | ⟨second, rest⟩⟩
  · cases found
  · rfl
  · have early := List.rel_of_pairwise_cons ordered List.mem_cons_self
    have holds := all first List.mem_cons_self
    have holds' := all second (List.mem_cons_of_mem first List.mem_cons_self)
    exact absurd (holds.2.trans (early.trans_le holds'.1)) (Nat.lt_irrefl index)

namespace Laid

variable {text : List Char} {tiles : List Tile} (laid : Laid text 0 tiles [])
  (whole : tiles.flatMap Tile.chars = text)
include laid whole

theorem stands_of_whole : ∀ tile ∈ tiles, ∃ rest, tile.Stands text rest :=
  laid.stands (by rw [whole, List.append_nil, List.drop_zero])

theorem exists_stands_of_mem {α : Type} {read : Tile → List α} {item : α}
    (among : item ∈ tiles.flatMap read) :
    ∃ tile ∈ tiles, item ∈ read tile ∧ ∃ rest, tile.Stands text rest := by
  obtain ⟨tile, member, found⟩ := List.mem_flatMap.mp among
  exact ⟨tile, member, found, laid.stands_of_whole whole tile member⟩

theorem span_of_mem_tokens : ∀ tile ∈ tiles, ∀ token ∈ tile.tokens, token.span = tile.span := by
  intro tile member token found
  obtain ⟨rest, here⟩ := laid.stands_of_whole whole tile member
  exact (here.cut.lexeme_of_mem found).1

theorem span_of_mem_strays : ∀ tile ∈ tiles, ∀ stray ∈ tile.strays, stray.span = tile.span := by
  intro tile member stray found
  obtain ⟨rest, here⟩ := laid.stands_of_whole whole tile member
  rw [(here.cut.stray_of_mem found).1]

theorem length_texts_le : ∀ tile ∈ tiles, (texts tile.readings).length ≤ 1 := by
  intro tile member
  obtain ⟨rest, here⟩ := laid.stands_of_whole whole tile member
  exact here.cut.length_texts_le

theorem tokens_ordered : (tiles.flatMap Tile.tokens).Pairwise fun first second =>
    first.span.stop.offset text ≤ second.span.start.offset text := by
  refine pairwise_flatMap Token.span (laid.span_of_mem_tokens whole) (· ≤ ·) ?_ ?_
  · intro tile member
    exact (List.length_filterMap_le _ _).trans (laid.length_texts_le whole tile member)
  · exact laid.pairwise.imp fun early _ _ => early

theorem strays_apart : (tiles.flatMap Tile.strays).Pairwise fun first second =>
    first.span.stop.offset text < second.span.start.offset text := by
  refine pairwise_flatMap Located.span (laid.span_of_mem_strays whole) (· < ·) ?_ laid.apart
  intro tile member
  exact (List.length_filterMap_le _ _).trans (laid.length_texts_le whole tile member)

/-- A character of no token is passed over or reported. -/
theorem passed {index : Nat} (inside : index < text.length)
    (noToken : ∀ token ∈ tiles.flatMap Tile.tokens, ¬ token.span.Holds text index) :
    Passed text (tiles.flatMap Tile.tokens) (tiles.flatMap Tile.strays) index := by
  have before : index < 0 + (tiles.flatMap Tile.chars).length := by rwa [whole, Nat.zero_add]
  obtain ⟨tile, member, holds⟩ := laid.exists_holds (Nat.zero_le index) before
  obtain ⟨rest, here⟩ := laid.stands_of_whole whole tile member
  cases here.cut with
  | vacant blank silent =>
      obtain ⟨c, among, found⟩ := here.exists_getElem? holds
      exact .blank found (blank c among)
  | comment mark inLine ended silent =>
      refine .comment ?_ holds.1 holds.2 ?_ (here.ends_at_break ended) ?_
      · rw [here.getElem?_start, mark]
      · rwa [← Span.slice, here.slice]
      · intro other behind before
        have noTokens : tile.tokens = [] := by rw [Tile.tokens, silent, List.filterMap_nil]
        have noStrays : tile.strays = [] := by rw [Tile.strays, silent, List.filterMap_nil]
        exact ⟨not_holds_of_eq_nil Token.span (laid.span_of_mem_tokens whole) laid member noTokens
            ⟨behind, before⟩,
          not_holds_of_eq_nil Located.span (laid.span_of_mem_strays whole) laid member noStrays
            ⟨behind, before⟩⟩
  | @lexeme kind value spells longest reads =>
      have found : ⟨kind, value, tile.span⟩ ∈ tile.tokens := by
        rw [Tile.tokens, reads]
        exact List.mem_singleton_self _
      exact absurd holds (noToken _ (List.mem_flatMap.mpr ⟨tile, member, found⟩))
  | stray inLine nothing ended reads =>
      have found : ⟨.invalidCharacters tile.chars, tile.span⟩ ∈ tile.strays := by
        rw [Tile.strays, reads]
        exact List.mem_singleton_self _
      have among := List.mem_flatMap.mpr ⟨tile, member, found⟩
      exact .stray (length_filter_holds (laid.strays_apart whole) among holds)

/-- Tiles that cover a text give an account of it. -/
theorem accounted : Accounted text (tiles.flatMap Tile.tokens) (tiles.flatMap Tile.strays) := by
  constructor
  case inside =>
    intro token among
    obtain ⟨tile, member, found, rest, here⟩ := laid.exists_stands_of_mem whole among
    rw [laid.span_of_mem_tokens whole tile member token found, ← here.stop_add]
    exact ⟨here.start_lt, Nat.le_add_right _ _⟩
  case ordered => exact laid.tokens_ordered whole
  case spelled =>
    intro token among
    obtain ⟨tile, member, found, rest, here⟩ := laid.exists_stands_of_mem whole among
    rw [laid.span_of_mem_tokens whole tile member token found, here.slice]
    exact (here.cut.lexeme_of_mem found).2.1
  case longest =>
    intro token among stop longer inside
    obtain ⟨tile, member, found, rest, here⟩ := laid.exists_stands_of_mem whole among
    rw [laid.span_of_mem_tokens whole tile member token found] at longer ⊢
    exact here.not_spells found longer inside
  case covered => exact fun index inside noToken => laid.passed whole inside noToken
  case reported =>
    intro stray among
    obtain ⟨tile, member, found, rest, here⟩ := laid.exists_stands_of_mem whole among
    obtain ⟨rfl, -⟩ := here.cut.stray_of_mem found
    exact ⟨by rw [here.slice], here.start_lt⟩
  case unreadable =>
    intro stray among index holds
    obtain ⟨tile, member, found, rest, here⟩ := laid.exists_stands_of_mem whole among
    rw [laid.span_of_mem_strays whole tile member stray found] at holds
    exact here.unreadable found holds
  case apart => exact laid.strays_apart whole

end Laid

/-! ## The account of a program -/

theorem filter_tokens (readings : List Reading) :
    ((readings.filterMap token?).filter fun token => !token.kind.isLayout) =
      (texts readings).filterMap token? := by
  rw [texts, List.filterMap_filter, List.filter_filterMap]
  congr 1
  funext reading
  cases reading <;> simp [isText, token?, Option.filter]

theorem filter_strays (readings : List Reading) :
    ((readings.filterMap problem?).filter fun problem =>
        problem.content.code = .invalidCharacter) =
      (texts readings).filterMap problem? := by
  rw [texts, List.filterMap_filter, List.filter_filterMap]
  congr 1
  funext reading
  cases reading <;> simp [isText, problem?, Option.filter]

/--
The tokens of a program that are not layout, with its reports of invalid characters, give an account
of the text in which all breaks are line feeds.
-/
theorem Lexing.accounted_of_ofSource {file source : String} {lexing : Lexing}
    (read : Lexing.ofSource file source = .ok lexing) :
    Accounted (Text.normalizeBreaks source.toList)
      (lexing.tokens.filter fun token => !token.kind.isLayout)
      (lexing.problems.filter fun problem => problem.content.code = .invalidCharacter) := by
  have whole : (programTiles file source).flatMap Tile.chars =
      Text.normalizeBreaks source.toList := by
    rw [programTiles, linesTiles_chars, programLines, Text.intercalate_lines]
  have accounted := (Laid.programTiles file source).accounted whole
  unfold Lexing.ofSource at read
  split at read
  · cases read
  · cases read
    have said := texts_readLines file 1 [] (programLines source)
    rw [filter_tokens, filter_strays, readProgram, said, ← programTiles, texts,
      List.filter_flatMap, List.filterMap_flatMap, List.filterMap_flatMap]
    exact accounted

/-- The text of a program takes up some room. -/
theorem Lexing.wide_of_ofSource {file source : String} {lexing : Lexing}
    (read : Lexing.ofSource file source = .ok lexing) :
    ∀ token ∈ lexing.tokens, token.kind.isLayout = false → token.span.start < token.span.stop := by
  intro token among text
  obtain ⟨first, last, row⟩ := Lexing.successive_of_ofSource read
  obtain ⟨-, forward, -⟩ := row.within _ (List.mem_map_of_mem among)
  obtain ⟨wide, -⟩ := (Lexing.accounted_of_ofSource read).inside token
    (List.mem_filter.mpr ⟨among, by simp [text]⟩)
  have apart : token.span.start ≠ token.span.stop := fun same => by simp [same] at wide
  generalize token.span = span at forward apart
  obtain ⟨⟨line, column⟩, ⟨line', column'⟩, file⟩ := span
  simp only [Position.le_iff, Position.lt_iff, ne_eq, Position.mk.injEq] at *
  omega

/-- A program with a comment, a literal with escapes, an open literal and invalid characters. -/
def motleySource : String :=
  "if x<=10: # go $\r\n\ty = \"a\\q\\n\" §! \"b\\"

/-- The tokens of the program: kind, value and characters. -/
def motleyTokens : List (TokenKind × TokenValue × List Char) :=
  [(.keyword .kwIf, .text "if", ['i', 'f']), (.identifier, .text "x", ['x']),
    (.symbol .lessEqual, .text "<=", ['<', '=']), (.integer, .integer 10, ['1', '0']),
    (.symbol .colon, .text ":", [':']), (.identifier, .text "y", ['y']),
    (.symbol .assign, .text "=", ['=']),
    (.string, .text "a\n", ['"', 'a', '\\', 'q', '\\', 'n', '"']),
    (.string, .text "b", ['"', 'b', '\\'])]

/-- The tokens and the one report of the program give an account of its text. -/
theorem Lexing.accounted_motleySource :
    ∃ lexing, Lexing.ofSource "motley.choc" motleySource = .ok lexing ∧
      ((lexing.tokens.filter fun token => !token.kind.isLayout).map fun token =>
          (token.kind, token.value,
            token.span.slice (Text.normalizeBreaks motleySource.toList))) = motleyTokens ∧
      ((lexing.problems.filter fun problem => problem.content.code = .invalidCharacter).map
          Located.content) = [.invalidCharacters ['§', '!']] ∧
      Accounted (Text.normalizeBreaks motleySource.toList)
        (lexing.tokens.filter fun token => !token.kind.isLayout)
        (lexing.problems.filter fun problem => problem.content.code = .invalidCharacter) := by
  obtain ⟨lexing, read, facts⟩ : ∃ lexing, Lexing.ofSource "motley.choc" motleySource =
      .ok lexing ∧ (decide (((lexing.tokens.filter fun token => !token.kind.isLayout).map
          fun token => (token.kind, token.value,
            token.span.slice (Text.normalizeBreaks motleySource.toList))) = motleyTokens) &&
        decide (((lexing.problems.filter fun problem =>
          problem.content.code = .invalidCharacter).map Located.content) =
            [.invalidCharacters ['§', '!']])) = true :=
    exists_ok_of_any (by decide +kernel)
  obtain ⟨tokens, strays⟩ := Bool.and_eq_true_iff.mp facts
  exact ⟨lexing, read, of_decide_eq_true tokens, of_decide_eq_true strays,
    Lexing.accounted_of_ofSource read⟩

end ChocoLang
