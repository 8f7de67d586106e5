import ChocoLang.Checking.Error
import ChocoLang.Proofs.Typing.Rules
import ChocoLang.Token.Segment
import Mathlib.Data.List.Chain

/-!
# Types shown in reports

A report of a name or type error shows types as they are written, lists with brackets around their
elements.  So the text of the unknown type occurs in a report that shows types exactly if one of them
is unknown in part.
-/

namespace ChocoLang

/-! ## Types of values -/

namespace ValueType

/-- The type is one of values of certain classes, though it may be unknown in part. -/
def Among (classes : List String) : ValueType → Prop
  | classType name => name ∈ classes ∨ name ∈ [none.display, empty.display]
  | list element => element.Among classes
  | function _ _ => False
  | unknown => True

@[simp]
theorem among_list {classes : List String} {element : ValueType} :
    (list element).Among classes ↔ element.Among classes := by
  rw [Among]

@[simp]
theorem among_unknown {classes : List String} : unknown.Among classes := by
  simp [Among]

theorem among_none (classes : List String) : none.Among classes := by
  simp [Among, none, display]

theorem among_empty (classes : List String) : empty.Among classes := by
  simp [Among, empty, display]

end ValueType

/-! ## Texts -/

/-- The text of the unknown type does not begin in the text, nor at its end. -/
structure Calm (text : List Char) : Prop where
  /-- No two characters of the text begin it. -/
  inside : text.IsChain fun a b => ¬ (a = '<' ∧ b = 'U')
  /-- The last character does not begin it. -/
  ends : text.getLast? ≠ some '<'

instance (text : List Char) : Decidable (Calm text) :=
  decidable_of_iff (text.IsChain (fun a b => ¬ (a = '<' ∧ b = 'U')) ∧ text.getLast? ≠ some '<')
    ⟨fun ⟨inside, ends⟩ => ⟨inside, ends⟩, fun calm => ⟨calm.inside, calm.ends⟩⟩

namespace Calm

theorem append {first second : List Char} (calm : Calm first) (calm' : Calm second) :
    Calm (first ++ second) := by
  refine ⟨List.isChain_append.mpr ⟨calm.inside, calm'.inside, ?_⟩, ?_⟩
  · rintro a last b _ ⟨rfl, -⟩
    exact calm.ends last
  · rw [List.getLast?_append]
    cases ending : second.getLast? with
    | none => simpa using calm.ends
    | some c => simpa [ending] using calm'.ends

theorem of_notMem {text : List Char} (absent : '<' ∉ text) : Calm text := by
  refine ⟨List.Pairwise.isChain (List.pairwise_of_forall_mem_list fun a among _ _ => ?_),
    fun last => absent (List.mem_of_getLast? last)⟩
  rintro ⟨rfl, -⟩
  exact absent among

theorem excludes_unknown {text : List Char} (calm : Calm text) :
    ¬ ValueType.unknown.display.toList <:+: text := by
  intro inside
  have chain := calm.inside.infix inside
  revert chain
  decide +kernel

end Calm

theorem calm_of_isName {name : String} (named : isName name.toList) : Calm name.toList := by
  refine .of_notMem fun among => ?_
  cases shape : name.toList with
  | nil => simp [shape] at among
  | cons c rest =>
      rw [shape] at named among
      simp only [isName, Bool.and_eq_true, List.all_eq_true] at named
      rcases List.mem_cons.mp among with rfl | later
      · exact absurd named.1 (by decide)
      · exact absurd (named.2 _ later) (by decide)

theorem calm_number (number : Nat) : Calm (toString number).toList := by
  refine .of_notMem fun among => ?_
  rw [Nat.toString_eq_ofList_toDigits, String.toList_ofList] at among
  exact absurd (Nat.isDigit_of_mem_toDigits (by decide) (by decide) among) (by decide)

section Texts

variable {first second : String} {text : List Char}

theorem calm_append (calm : Calm first.toList) (calm' : Calm second.toList) :
    Calm (first ++ second).toList := by
  rw [String.toList_append]
  exact calm.append calm'

theorem infix_append_left (inside : text <:+: second.toList) :
    text <:+: (first ++ second).toList := by
  rw [String.toList_append]
  exact inside.trans (List.suffix_append _ _).isInfix

theorem infix_append_right (inside : text <:+: first.toList) :
    text <:+: (first ++ second).toList := by
  rw [String.toList_append]
  exact inside.trans (List.prefix_append _ _).isInfix

end Texts

/-- The text of a type without an unknown part, over classes whose names are names. -/
theorem ValueType.calm_display {classes : List String}
    (named : ∀ name ∈ classes, isName name.toList) {type : ValueType} (among : type.Among classes)
    (known : type.Known) : Calm type.display.toList := by
  induction type using Among.induct with
  | case1 name =>
      rcases among with listed | special
      · exact calm_of_isName (named name listed)
      · rcases List.mem_pair.mp special with rfl | rfl <;> decide +kernel
  | case2 element ih =>
      rw [among_list] at among
      rw [known_list] at known
      rw [display]
      exact calm_append (calm_append (by decide +kernel) (ih among known)) (by decide +kernel)
  | case3 params result => exact among.elim
  | case4 => exact absurd known not_known_unknown

/-- The text of a type with an unknown part. -/
theorem ValueType.unknown_infix_display {classes : List String} {type : ValueType}
    (among : type.Among classes) (unclear : ¬ type.Known) :
    ValueType.unknown.display.toList <:+: type.display.toList := by
  induction type using Among.induct with
  | case1 name => exact absurd (known_classType name) unclear
  | case2 element ih =>
      rw [among_list] at among
      rw [known_list] at unclear
      rw [display]
      exact infix_append_right (infix_append_left (ih among unclear))
  | case3 params result => exact among.elim
  | case4 => exact List.infix_rfl

/-! ## Reports -/

namespace CheckError

/-- The types that the report of an error shows. -/
def types : CheckError → List ValueType
  | mismatch expected actual => [expected, actual]
  | argumentMismatch _ actual expected => [actual, expected]
  | binaryOperands _ left right => [left, right]
  | missingResult type | unaryOperand _ type | noMembers type | notIndexable type
  | positionType type | notIterable type | conditionType type => [type]
  | _ => []

/-- The operator that the report of an error shows. -/
def operator? : CheckError → Option String
  | unaryOperand operator _ | binaryOperands operator _ _ => some operator
  | _ => none

/-- The error is about types of values of certain classes, none of them unknown as a whole. -/
structure Definite (classes : List String) (error : CheckError) : Prop where
  /-- The types are those of values. -/
  among : ∀ type ∈ error.types, type.Among classes
  /-- No type is unknown as a whole. -/
  definite : .unknown ∉ error.types
  /-- An operator that is shown does not look like the unknown type. -/
  operator : ∀ operator ∈ error.operator?, Calm (quoteCode operator).toList

namespace Definite

variable {classes : List String} {error : CheckError}

/-- An error that shows neither types nor an operator. -/
theorem silent (noTypes : error.types = []) (noOperator : error.operator? = none) :
    error.Definite classes :=
  ⟨by simp [noTypes], by simp [noTypes], by simp [noOperator]⟩

/-- An error that shows types that are not unknown. -/
theorem ofTypes (types : ∀ type ∈ error.types, type.Among classes ∧ type ≠ .unknown)
    (operator : ∀ operator ∈ error.operator?, Calm (quoteCode operator).toList) :
    error.Definite classes :=
  ⟨fun type among => (types type among).1, fun unknown => (types _ unknown).2 rfl, operator⟩

end Definite

theorem display_infix_typeCode (type : ValueType) :
    type.display.toList <:+: (typeCode type).toList :=
  infix_append_right (infix_append_left List.infix_rfl)

/-- A report contains the text of each type that it shows. -/
theorem display_infix_message {error : CheckError} {type : ValueType}
    (among : type ∈ error.types) : type.display.toList <:+: error.message.toList := by
  have text := display_infix_typeCode type
  cases error with
  | mismatch _ _ | argumentMismatch _ _ _ | binaryOperands _ _ _ =>
      rcases List.mem_pair.mp among with rfl | rfl
      · exact infix_append_right (infix_append_right (infix_append_left text))
      · exact infix_append_left text
  | missingResult _ =>
      obtain rfl := List.mem_singleton.mp among
      exact infix_append_right (infix_append_right (infix_append_left text))
  | unaryOperand _ _ | noMembers _ | notIndexable _ | positionType _ | notIterable _
  | conditionType _ =>
      obtain rfl := List.mem_singleton.mp among
      exact infix_append_left text
  | _ => cases among

/-- Without an unknown part in the types shown, a report does not contain the text at all. -/
theorem calm_message {classes : List String} (named : ∀ name ∈ classes, isName name.toList)
    {error : CheckError} (definite : error.Definite classes) (shows : error.types ≠ [])
    (known : ∀ type ∈ error.types, type.Known) : Calm error.message.toList := by
  have text {type : ValueType} (among : type ∈ error.types) : Calm (typeCode type).toList :=
    calm_append (calm_append (by decide +kernel)
      (type.calm_display named (definite.among type among) (known type among))) (by decide +kernel)
  cases error with
  | mismatch expected actual =>
      have first : Calm (typeCode expected).toList := text (by simp [types])
      have second : Calm (typeCode actual).toList := text (by simp [types])
      exact calm_append (calm_append (calm_append (by decide +kernel) first) (by decide +kernel))
        second
  | argumentMismatch position actual expected =>
      have first : Calm (typeCode actual).toList := text (by simp [types])
      have second : Calm (typeCode expected).toList := text (by simp [types])
      exact calm_append (calm_append (calm_append (calm_append (calm_append (by decide +kernel)
        (calm_number position)) (by decide +kernel)) first) (by decide +kernel)) second
  | binaryOperands operator left right =>
      have first : Calm (typeCode left).toList := text (by simp [types])
      have second : Calm (typeCode right).toList := text (by simp [types])
      have sign := definite.operator operator rfl
      exact calm_append (calm_append (calm_append (calm_append (calm_append (by decide +kernel)
        sign) (by decide +kernel)) first) (by decide +kernel)) second
  | unaryOperand operator operand =>
      have sign := definite.operator operator rfl
      exact calm_append (calm_append (calm_append (by decide +kernel) sign) (by decide +kernel))
        (text (by simp [types]))
  | missingResult expected =>
      exact calm_append (calm_append (calm_append (by decide +kernel) (text (by simp [types])))
        (by decide +kernel)) (by decide +kernel)
  | noMembers _ | notIndexable _ | positionType _ | notIterable _ | conditionType _ =>
      exact calm_append (by decide +kernel) (text (by simp [types]))
  | _ => exact absurd rfl shows

/-- A report that shows types has the text of the unknown type in a list type, or not at all. -/
theorem unknown_infix_message_iff {classes : List String}
    (named : ∀ name ∈ classes, isName name.toList) {error : CheckError}
    (definite : error.Definite classes) (shows : error.types ≠ []) :
    ValueType.unknown.display.toList <:+: error.message.toList ↔
      ∃ element, .list element ∈ error.types ∧ ¬ element.Known := by
  constructor
  · intro inside
    by_contra clear
    refine (calm_message named definite shows fun type among => ?_).excludes_unknown inside
    have value := definite.among type among
    cases type with
    | classType name => exact ValueType.known_classType name
    | list element =>
        rw [ValueType.known_list]
        by_contra unclear
        exact clear ⟨element, among, unclear⟩
    | function params result => exact value.elim
    | unknown => exact absurd among definite.definite
  · rintro ⟨element, among, unclear⟩
    have shown := ValueType.unknown_infix_display (definite.among _ among)
      (mt (ValueType.known_list element).mp unclear)
    exact shown.trans (display_infix_message among)

end CheckError
end ChocoLang
