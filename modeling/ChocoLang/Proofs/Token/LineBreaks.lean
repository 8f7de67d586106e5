import Mathlib.Data.List.Forall2
import ChocoLang.Proofs.Source.Breaks
import ChocoLang.Proofs.Token.Relocation

/-!
# Ends of lines

How the lines of a program end makes no difference: a carriage return, or one with a line feed
behind it, may stand for each line feed.  A break behind the last line moves only tokens of the
layout, the end of that line, the ends of the open blocks and the end of the file.
-/

namespace ChocoLang

/-- The tokens say the same, and stand at the same place unless they are layout. -/
def Token.Matches (token other : Token) : Prop :=
  other.content = token.content ∧ (token.kind.isLayout = false → other.span = token.span)

theorem Token.Matches.refl (token : Token) : token.Matches token := ⟨rfl, fun _ => rfl⟩

/-- Layout may stand anywhere. -/
theorem Token.Matches.layout {token other : Token} (same : other.content = token.content)
    (layout : token.kind.isLayout = true) : token.Matches other :=
  ⟨same, fun text => Bool.noConfusion (layout.symm.trans text)⟩

namespace Reading

/-- The readings are tokens that match, or the same problem. -/
inductive Matches : Reading → Reading → Prop where
  | token {first second : Token} (same : first.Matches second) :
    Matches (.token first) (.token second)
  | problem (found : Located LexicalError) : Matches (.problem found) (.problem found)

theorem Matches.refl (reading : Reading) : Matches reading reading := by
  cases reading with
  | token found => exact .token (.refl found)
  | problem found => exact .problem found

/-- Successive readings match one another. -/
abbrev MatchAll : List Reading → List Reading → Prop := List.Forall₂ Matches

namespace MatchAll

variable {first second : List Reading}

theorem refl (readings : List Reading) : MatchAll readings readings :=
  List.forall₂_same.mpr fun reading _ => .refl reading

theorem tokens (matched : MatchAll first second) :
    List.Forall₂ Token.Matches (first.filterMap token?) (second.filterMap token?) := by
  induction matched with
  | nil => exact .nil
  | cons same _ ih =>
      cases same with
      | token same => exact .cons same ih
      | problem => exact ih

theorem problems (matched : MatchAll first second) :
    first.filterMap problem? = second.filterMap problem? := by
  induction matched with
  | nil => rfl
  | cons same _ ih =>
      cases same with
      | token => exact ih
      | problem found => exact congrArg (found :: ·) ih

/-- The ends of so many blocks match wherever they stand. -/
theorem dedents (count : Nat) (place other : Span) :
    MatchAll (ChocoLang.dedents count place) (ChocoLang.dedents count other) := by
  induction count with
  | zero => exact .nil
  | succ count ih => exact .cons (.token (.layout rfl rfl)) ih

end MatchAll
end Reading

open Reading

/-! ## A break behind the last line -/

/-- Whether a break ends a line shows in nothing but the end of the line. -/
theorem readLine_terminated (line : Line) (levels : List Level) (chars : List Char) :
    MatchAll (readLine line false levels chars).1 (readLine line true levels chars).1 ∧
      (readLine line false levels chars).2 = (readLine line true levels chars).2 := by
  simp only [readLine]
  split
  · exact ⟨.nil, rfl⟩
  · refine ⟨List.rel_append (MatchAll.refl _) ?_, rfl⟩
    split
    · exact .cons (.token (.layout rfl rfl)) .nil
    · exact .nil

theorem readEnd_matches (line other : Line) (length length' : Nat) (levels : List Level) :
    MatchAll (readEnd line length levels) (readEnd other length' levels) :=
  List.rel_append (MatchAll.dedents _ _ _) (.cons (.token (.layout rfl rfl)) .nil)

/-- An empty line behind the last one moves nothing but layout. -/
theorem readLines_concat_nil (file : String) (number : Nat) (levels : List Level)
    {lines : List (List Char)} (nonempty : lines ≠ []) :
    MatchAll (readLines file number levels lines)
      (readLines file number levels (lines ++ [[]])) := by
  induction lines generalizing number levels with
  | nil => contradiction
  | cons chars rest ih =>
      cases rest with
      | nil =>
          obtain ⟨matched, remaining⟩ := readLine_terminated ⟨file, number⟩ levels chars
          rw [List.singleton_append, readLines_cons _ _ _ _ (List.cons_ne_nil _ _), ← remaining]
          exact List.rel_append matched (readEnd_matches _ _ _ _ _)
      | cons next rest =>
          have more : next :: rest ≠ [] := List.cons_ne_nil next rest
          rw [List.cons_append, readLines_cons _ _ _ _ more,
            readLines_cons _ _ _ _ (List.append_ne_nil_of_left_ne_nil more _)]
          exact List.rel_append (MatchAll.refl _) (ih _ _ more)

/-! ## Texts -/

/-- The program with another ending for each line feed. -/
def withEndings (ending source : String) : String :=
  String.ofList (Text.withBreaks ending.toList source.toList)

variable {source : String} (noReturn : '\r' ∉ source.toList)

include noReturn

/-- The lines of a program are the same with other endings. -/
theorem programLines_withEndings {ending : String} (known : ending = "\r\n" ∨ ending = "\r") :
    programLines (withEndings ending source) = programLines source := by
  have same : Text.normalizeBreaks (Text.withBreaks ending.toList source.toList) =
      source.toList := by
    rcases known with rfl | rfl
    · exact Text.normalizeBreaks_withBreaks_pair noReturn
    · exact Text.normalizeBreaks_withBreaks_return noReturn
  rw [programLines, programLines, withEndings, String.toList_ofList, same,
    Text.normalizeBreaks_eq_self noReturn]

/-- A break behind a program begins a line without text. -/
theorem programLines_append_break :
    programLines (source ++ "\n") = programLines source ++ [[]] := by
  have noReturn' : '\r' ∉ source.toList ++ ['\n'] := by simp [noReturn]
  rw [programLines, programLines, String.toList_append]
  exact (congrArg Text.lines (Text.normalizeBreaks_eq_self noReturn')).trans
    ((Text.lines_concat_break _).trans
      (congrArg (Text.lines · ++ [[]]) (Text.normalizeBreaks_eq_self noReturn).symm))

/--
A program without carriage returns is read as the same with either other ending for all its lines.
With one more line feed at its end the same problems are found, and the same tokens are read, of
which only layout may stand elsewhere.
-/
theorem Lexing.ofSource_endings (file : String) {lexing : Lexing}
    (read : Lexing.ofSource file source = .ok lexing) :
    Lexing.ofSource file (withEndings "\r\n" source) = .ok lexing ∧
      Lexing.ofSource file (withEndings "\r" source) = .ok lexing ∧
      ∃ longer, Lexing.ofSource file (source ++ "\n") = .ok longer ∧
        List.Forall₂ Token.Matches lexing.tokens longer.tokens ∧
        longer.diagnostics = lexing.diagnostics := by
  have sameLines {other : String} (same : programLines other = programLines source) :
      Lexing.ofSource file other = .ok lexing := by
    rw [← read]
    simp only [Lexing.ofSource, readProgram, same]
  refine ⟨sameLines (programLines_withEndings noReturn (.inl rfl)),
    sameLines (programLines_withEndings noReturn (.inr rfl)), ?_⟩
  have matched : MatchAll (readProgram file source) (readProgram file (source ++ "\n")) := by
    rw [readProgram, readProgram, programLines_append_break noReturn]
    exact readLines_concat_nil file 1 [] (Text.lines_ne_nil _)
  have accepted : (programLines (source ++ "\n")).any holdsOverlongDigits =
      (programLines source).any holdsOverlongDigits := by
    rw [programLines_append_break noReturn, List.any_append]
    exact Bool.or_false _
  unfold Lexing.ofSource at read ⊢
  rw [accepted]
  split at read
  · cases read
  · next short =>
      cases read
      exact ⟨_, if_neg short, matched.tokens,
        congrArg (List.map Located.toDiagnostic) matched.problems.symm⟩

omit noReturn

/-- A program that ends within a string literal in a block, behind a backslash. -/
def openSource : String := "if x:\n  y = §\"a\\"

/-- The problems of the program are found whatever ends its lines, and if a break ends the last. -/
theorem Lexing.ofSource_endings_openSource :
    '\r' ∉ openSource.toList ∧
      ∃ lexing, Lexing.ofSource "open.choc" openSource = .ok lexing ∧
        lexing.diagnostics.map (fun diagnostic =>
            (diagnostic.code, diagnostic.span.map Span.coordinates)) =
          [("E0101", some [2, 7, 2, 8]), ("E0102", some [2, 8, 2, 11])] ∧
        Lexing.ofSource "open.choc" "if x:\r\n  y = §\"a\\" = .ok lexing ∧
        Lexing.ofSource "open.choc" "if x:\r  y = §\"a\\" = .ok lexing ∧
        ∃ longer, Lexing.ofSource "open.choc" "if x:\n  y = §\"a\\\n" = .ok longer ∧
          List.Forall₂ Token.Matches lexing.tokens longer.tokens ∧
          longer.diagnostics = lexing.diagnostics := by
  have noReturn : '\r' ∉ openSource.toList := by decide +kernel
  obtain ⟨lexing, read, places⟩ : ∃ lexing,
      Lexing.ofSource "open.choc" openSource = .ok lexing ∧
        decide (lexing.diagnostics.map (fun diagnostic =>
            (diagnostic.code, diagnostic.span.map Span.coordinates)) =
          [("E0101", some [2, 7, 2, 8]), ("E0102", some [2, 8, 2, 11])]) = true :=
    exists_ok_of_any (by decide +kernel)
  have pairs : withEndings "\r\n" openSource = "if x:\r\n  y = §\"a\\" := by decide +kernel
  have returns : withEndings "\r" openSource = "if x:\r  y = §\"a\\" := by decide +kernel
  have ended : openSource ++ "\n" = "if x:\n  y = §\"a\\\n" := by decide +kernel
  have endings := Lexing.ofSource_endings noReturn "open.choc" read
  rw [pairs, returns, ended] at endings
  exact ⟨noReturn, lexing, read, of_decide_eq_true places, endings⟩

end ChocoLang
