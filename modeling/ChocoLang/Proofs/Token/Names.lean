import ChocoLang.Token.Lexing

/-!
# Names among tokens

Every token that may name something, be it a name or a string that holds one, carries a text that
is a name.
-/

namespace ChocoLang

/-- If the token may name something, then its text is a name. -/
def Token.Named (token : Token) : Prop :=
  token.kind = .identifier ∨ token.kind = .nameString →
    ∃ chars, isName chars = true ∧ token.value = .text (String.ofList chars)

/-- The tokens among the readings that may name something carry names. -/
def Reading.AllNamed (readings : List Reading) : Prop :=
  ∀ reading ∈ readings, ∀ token ∈ reading.token?, token.Named

open Reading

theorem allNamed_append {first second : List Reading} :
    AllNamed (first ++ second) ↔ AllNamed first ∧ AllNamed second := by
  simp [AllNamed, or_imp, forall_and]

theorem allNamed_singleton {token : Token} : AllNamed [.token token] ↔ token.Named := by
  simp [AllNamed, token?]

theorem allNamed_problem {problem : Located LexicalError} : AllNamed [.problem problem] := by
  simp [AllNamed, token?]

theorem Token.named_of_kind {token : Token}
    (other : token.kind ≠ .identifier ∧ token.kind ≠ .nameString) : token.Named := by
  rintro (kind | kind)
  · exact absurd kind other.1
  · exact absurd kind other.2

/-- The segments of a line that are words are names. -/
theorem isName_of_mem_segments {line chars : List Char} (member : .word chars ∈ segments line) :
    isName chars = true := by
  fun_induction segments line with
  | case1 => cases member
  | case2 c rest ih =>
      rcases List.mem_cons.mp member with first | later
      · unfold Segment.next at first
        iterate 4 split at first <;> try cases first
        split at first
        · next start =>
            cases first
            simp [isName, start]
        · split at first <;> cases first
      · exact ih later

theorem readLiteral_named (line : Line) (column : Nat) (body : List Char) :
    AllNamed (readLiteral line column body) := by
  have problems (found : List (Located LexicalError)) : AllNamed (found.map Reading.problem) := by
    simp [AllNamed, token?]
  unfold readLiteral
  dsimp only
  split
  · refine allNamed_append.mpr ⟨problems _, allNamed_singleton.mpr ?_⟩
    split
    · next clean => exact fun _ => ⟨_, (Bool.and_eq_true_iff.mp clean).2, rfl⟩
    · exact Token.named_of_kind (by simp)
  · refine allNamed_append.mpr ⟨problems _, ?_⟩
    refine allNamed_append.mpr ⟨allNamed_problem, allNamed_singleton.mpr ?_⟩
    exact Token.named_of_kind (by simp)

/-- The tokens of a segment that may name something carry names, if words are names. -/
theorem Segment.read_named (line : Line) (column : Nat) (segment : Segment)
    (word : ∀ chars, segment = .word chars → isName chars = true) :
    AllNamed (segment.read line column) := by
  unfold Segment.read
  dsimp only
  split
  · simp [AllNamed]
  · simp [AllNamed]
  · exact readLiteral_named line column _
  · refine allNamed_append.mpr ⟨?_, allNamed_singleton.mpr (Token.named_of_kind (by simp))⟩
    simp [AllNamed, token?]
  · next chars => exact allNamed_singleton.mpr fun _ => ⟨chars, word chars rfl, rfl⟩
  · exact allNamed_singleton.mpr (Token.named_of_kind (by simp))
  · exact allNamed_problem

theorem readSegments_named (line : Line) (column : Nat) {found : List Segment}
    (words : ∀ chars, .word chars ∈ found → isName chars = true) :
    AllNamed (readSegments line column found) := by
  induction found generalizing column with
  | nil => simp [AllNamed, readSegments]
  | cons segment rest ih =>
      refine allNamed_append.mpr ⟨?_, ih _ fun chars among => words chars (by simp [among])⟩
      exact segment.read_named line column fun chars same => words chars (by simp [same])

theorem dedents_named (count : Nat) (place : Span) : AllNamed (dedents count place) := by
  intro reading among token found
  obtain rfl := List.eq_of_mem_replicate among
  obtain rfl : dedentToken place = token := by simpa [token?] using found
  exact Token.named_of_kind (by simp [dedentToken])

theorem indentLine_named (line : Line) (width column : Nat) (levels : List Level) :
    AllNamed (indentLine line width column levels).1 := by
  unfold indentLine
  dsimp only
  split
  · exact allNamed_singleton.mpr (Token.named_of_kind (by simp))
  split
  · exact allNamed_append.mpr ⟨dedents_named _ _, allNamed_problem⟩
  · exact dedents_named _ _

theorem readLine_named (line : Line) (terminated : Bool) (levels : List Level)
    (chars : List Char) : AllNamed (readLine line terminated levels chars).1 := by
  unfold readLine
  dsimp only
  split
  · simp [AllNamed]
  · refine allNamed_append.mpr ⟨allNamed_append.mpr ⟨indentLine_named _ _ _ _, ?_⟩, ?_⟩
    · exact readSegments_named _ _ fun chars among => isName_of_mem_segments among
    · split
      · exact allNamed_singleton.mpr (Token.named_of_kind (by simp [lineEnd]))
      · simp [AllNamed]

theorem readLines_named (file : String) (number : Nat) (levels : List Level)
    (lines : List (List Char)) : AllNamed (readLines file number levels lines) := by
  fun_induction readLines file number levels lines with
  | case1 => simp [AllNamed]
  | case2 number levels last line readings remaining shape =>
      refine allNamed_append.mpr ⟨?_, allNamed_append.mpr ⟨dedents_named _ _, ?_⟩⟩
      · simpa [shape] using readLine_named line false levels last
      · exact allNamed_singleton.mpr (Token.named_of_kind (by simp))
  | case3 number levels chars rest long readings remaining shape ih =>
      refine allNamed_append.mpr ⟨?_, ih⟩
      simpa [shape] using readLine_named ⟨file, number⟩ true levels chars

/-- The tokens of a program that may name something carry names. -/
theorem Lexing.named_of_ofSource {file source : String} {lexing : Lexing}
    (read : Lexing.ofSource file source = .ok lexing) : ∀ token ∈ lexing.tokens, token.Named := by
  unfold Lexing.ofSource at read
  split at read
  · cases read
  · cases read
    intro token among
    obtain ⟨reading, member, found⟩ := List.mem_filterMap.mp among
    exact readLines_named _ _ _ _ reading member token found

end ChocoLang
