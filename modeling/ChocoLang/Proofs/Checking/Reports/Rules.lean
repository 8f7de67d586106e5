import ChocoLang.Checking.Declaration
import ChocoLang.Proofs.Checking.Reports.Text
import ChocoLang.Proofs.Checking.Verdicts
import ChocoLang.Proofs.Typing.Order

/-!
# Rules and unknown types

Whatever the types of the parts of an expression are, an error in the verdict on the whole is never
about a type that is unknown as a whole; and no rule makes up a class.
-/

namespace ChocoLang

/-! ## What is known of classes and names -/

/-- Parameters and result are of certain classes. -/
structure Signature.Among (classes : List String) (signature : Signature) : Prop where
  /-- The parameters are. -/
  params : ∀ param ∈ signature.params, param.Among classes
  /-- The result is. -/
  result : signature.result.Among classes

/-- The class is one of certain classes, and so are its superclass and the types of its members. -/
structure ClassInfo.Among (classes : List String) (info : ClassInfo) : Prop where
  /-- The class is. -/
  name : info.name ∈ classes
  /-- The superclass is. -/
  superclass : ∀ next ∈ info.superclass, next ∈ classes
  /-- The attributes are. -/
  attributes : ∀ name type, info.attributes.find? name = some type → type.Among classes
  /-- The methods are. -/
  methods : ∀ name signature, info.methods.find? name = some signature → signature.Among classes

/-- All classes of the hierarchy are among certain classes, and so are those of every program. -/
structure ClassHierarchy.Among (classes : List String) (hierarchy : ClassHierarchy) : Prop where
  /-- The classes of every program are. -/
  builtin : ∀ name ∈ "object" :: ValueType.specialClasses, name ∈ classes
  /-- The classes listed are. -/
  listed : ∀ name info, hierarchy.find? name = some info → info.Among classes

/-- What the name is bound to is of certain classes. -/
structure Binding.Among (classes : List String) (binding : Binding) : Prop where
  /-- A variable holds a value. -/
  value : binding.kind.isVariable → binding.type.Among classes
  /-- A function takes and returns values. -/
  function : ∀ params result, binding.type = .function params result →
    Signature.Among classes { params, result }
  /-- Whatever is neither a class nor a function is a value. -/
  other : binding.kind ≠ .classDef → binding.type.isFunction = false →
    binding.type.Among classes

/-- All bindings in the scope are of certain classes. -/
def Scope.Among (classes : List String) (scope : Scope) : Prop :=
  scope.All fun _ binding => binding.Among classes

/-- The type of the verdict is of certain classes, and its error is about no unknown type. -/
structure Verdict.Among (classes : List String) (verdict : Verdict) : Prop where
  /-- The type is of the classes. -/
  type : verdict.type.Among classes
  /-- The error is definite. -/
  error : ∀ error ∈ verdict.error, error.Definite classes

/-- Both verdicts on a call are of certain classes, the type of the thing called left aside. -/
structure CallVerdict.Among (classes : List String) (verdict : CallVerdict) : Prop where
  /-- The error of the thing called is definite. -/
  callee : ∀ error ∈ verdict.callee.error, error.Definite classes
  /-- The call is of the classes. -/
  call : verdict.call.Among classes

theorem Verdict.among_plain {classes : List String} {type : ValueType}
    (among : type.Among classes) : Verdict.Among classes { type } :=
  ⟨among, nofun⟩

theorem Verdict.among_wrong {classes : List String} {error : CheckError}
    (definite : error.Definite classes) : (Verdict.wrong error).Among classes :=
  ⟨ValueType.among_unknown, by simpa [Verdict.wrong] using definite⟩

theorem Verdict.among_element {classes : List String} {container : ValueType}
    (among : container.Among classes) : (elementVerdict container).Among classes := by
  unfold elementVerdict
  split
  · exact among_plain (ValueType.among_list.mp among)
  · exact among_plain ValueType.among_unknown
  · next noList noUnknown =>
      exact among_wrong (.ofTypes (by simpa [CheckError.types] using ⟨among, noUnknown⟩) nofun)

theorem CallVerdict.among_ofError {classes : List String} {error : Option CheckError}
    (definite : ∀ found ∈ error, found.Definite classes) :
    (CallVerdict.ofError error).Among classes :=
  ⟨definite, ValueType.among_unknown, nofun⟩

theorem Scope.Among.readVerdict {classes : List String} {scope : Scope}
    (bound : scope.Among classes) (name : String) : (scope.readVerdict name).Among classes := by
  unfold Scope.readVerdict
  split
  · exact Verdict.among_wrong (.silent rfl rfl)
  · next binding found =>
      split
      · next readable => exact Verdict.among_plain ((Scope.All.lookup bound found).value readable)
      · exact Verdict.among_wrong (.silent rfl rfl)

theorem calm_binary (operator : BinaryOperator) :
    Calm (CheckError.quoteCode operator.spelling).toList := by
  cases operator <;> decide +kernel

theorem calm_unary (operator : UnaryOperator) :
    Calm (CheckError.quoteCode operator.spelling).toList := by
  cases operator <;> decide +kernel

theorem ValueType.ne_unknown {type : ValueType} (known : type.isUnknown = false) :
    type ≠ .unknown := by
  rintro rfl
  cases known

namespace ClassHierarchy

variable {classes : List String} {hierarchy : ClassHierarchy}

/-- The unknown type fits everywhere, and everything fits it. -/
theorem ne_unknown_of_misfit {source target : ValueType}
    (misfit : ¬ hierarchy.isAssignable source target = true) :
    source ≠ .unknown ∧ target ≠ .unknown := by
  constructor
  · rintro rfl
    exact misfit (by simp [isAssignable, isSubtype, ValueType.isUnknown])
  · rintro rfl
    exact misfit (by simp [isAssignable, isSubtype, ValueType.isUnknown])

/-- An argument that is reported is not unknown, and neither is its parameter. -/
theorem definite_argumentError {params args : List ValueType}
    (inside : ∀ param ∈ params, param.Among classes)
    (given : ∀ arg ∈ args, arg.Among classes) :
    ∀ error ∈ hierarchy.argumentError? params args, error.Definite classes := by
  have single (position : Nat) : ∀ error ∈ hierarchy.argumentMismatch? position params args,
      error.Definite classes := by
    induction params generalizing args position with
    | nil => simp [argumentMismatch?]
    | cons param params ih =>
        cases args with
        | nil => simp [argumentMismatch?]
        | cons arg args =>
            rw [List.forall_mem_cons] at inside given
            intro error found
            simp only [argumentMismatch?] at found
            split at found
            · exact ih inside.2 given.2 (position + 1) error found
            · next misfit =>
                cases found
                obtain ⟨clear, clear'⟩ := ne_unknown_of_misfit misfit
                refine .ofTypes ?_ fun _ operator => by cases operator
                simpa [CheckError.types] using ⟨⟨given.1, clear⟩, inside.1, clear'⟩
  unfold argumentError?
  split
  · exact single 1
  · rintro _ ⟨⟩
    exact .silent rfl rfl

theorem among_callVerdict (type : ValueType) {params args : List ValueType} {result : ValueType}
    (inside : ∀ param ∈ params, param.Among classes) (among : result.Among classes)
    (given : ∀ arg ∈ args, arg.Among classes) :
    (hierarchy.callVerdict type params result args).Among classes :=
  ⟨nofun, among, definite_argumentError inside given⟩

namespace Among

variable (known : hierarchy.Among classes)
include known

theorem among_builtin {name : String} (builtin : name ∈ "object" :: ValueType.specialClasses) :
    (ValueType.classType name).Among classes :=
  .inl (known.builtin name builtin)

theorem among_int : ValueType.int.Among classes := known.among_builtin (by decide)

theorem among_bool : ValueType.bool.Among classes := known.among_builtin (by decide)

theorem among_str : ValueType.str.Among classes := known.among_builtin (by decide)

theorem among_object : ValueType.object.Among classes := known.among_builtin (by decide)

/-- A superclass of a class is among the classes if the class itself is. -/
theorem among_ancestor {name other : String} (among : (ValueType.classType name).Among classes)
    (above : other ∈ hierarchy.ancestors name) : (ValueType.classType other).Among classes := by
  cases reaches_of_mem_chain above with
  | refl => exact among
  | tail _ step =>
      unfold Extends superclassOf? at step
      split at step
      · next info found => exact .inl ((known.listed _ info found).superclass other step)
      · split at step
        · cases step
        · cases step
          exact known.among_object

theorem among_join {a b : ValueType} (first : a.Among classes) (second : b.Among classes) :
    (hierarchy.join a b).Among classes := by
  unfold join
  split
  · exact second
  split
  · exact first
  split
  · exact second
  split
  · exact first
  split
  · unfold commonSuperclass
    dsimp only
    split
    · next found => exact known.among_ancestor first (List.mem_of_find?_eq_some found)
    · exact known.among_object
  · exact known.among_object

theorem among_displayType {types : List ValueType} (each : ∀ type ∈ types, type.Among classes) :
    (hierarchy.displayType types).Among classes := by
  cases types with
  | nil => exact ValueType.among_empty classes
  | cons first rest =>
      obtain ⟨start, others⟩ := List.forall_mem_cons.mp each
      rw [displayType, ValueType.among_list]
      clear each
      induction rest generalizing first with
      | nil => exact start
      | cons next rest ih =>
          obtain ⟨second, others⟩ := List.forall_mem_cons.mp others
          exact ih (hierarchy.join first next) (known.among_join start second) others

/-! ## Verdicts -/

theorem unaryVerdict (operator : UnaryOperator) {operand : ValueType}
    (among : operand.Among classes) : (operator.verdict operand).Among classes := by
  have own : operator.operandType.Among classes := by
    cases operator
    · exact known.among_int
    · exact known.among_bool
  unfold UnaryOperator.verdict
  dsimp only
  split
  · exact Verdict.among_plain own
  · next misfit =>
      rw [Bool.or_eq_true, not_or] at misfit
      have clear := ValueType.ne_unknown (Bool.eq_false_iff.mpr misfit.1)
      refine ⟨own, ?_⟩
      rintro _ ⟨⟩
      exact .ofTypes (by simpa [CheckError.types] using ⟨among, clear⟩)
        (by simpa [CheckError.operator?] using calm_unary operator)

theorem among_operationType {operator : BinaryOperator} {left right type : ValueType}
    (first : left.Among classes) (second : right.Among classes)
    (typed : hierarchy.operationType? operator left right = some type) : type.Among classes := by
  cases takes_of_operationType? typed with
  | arithmetic => exact known.among_int
  | concatenation => exact known.among_str
  | lists a b =>
      rw [ValueType.among_list] at first second ⊢
      exact known.among_join first second
  | emptyBefore => exact second
  | emptyBehind => exact first
  | ordering | equality | identity | logical => exact known.among_bool

theorem operationVerdict (operator : BinaryOperator) {left right : ValueType}
    (first : left.Among classes) (second : right.Among classes) :
    (hierarchy.operationVerdict operator left right).Among classes := by
  unfold ClassHierarchy.operationVerdict
  split
  · next type typed => exact Verdict.among_plain (known.among_operationType first second typed)
  · refine ⟨?_, ?_⟩
    · unfold BinaryOperator.fallback
      split
      · split
        · exact known.among_int
        · split
          · exact known.among_str
          · exact ValueType.among_unknown
      · exact known.among_int
      · exact known.among_int
      · exact known.among_int
      · exact known.among_int
      · exact known.among_bool
    · intro error found
      dsimp only at found
      split at found
      · cases found
      · next clear =>
          cases found
          rw [Bool.or_eq_true, not_or, Bool.not_eq_true, Bool.not_eq_true] at clear
          refine .ofTypes ?_ (by simpa [CheckError.operator?] using calm_binary operator)
          simpa [CheckError.types] using
            ⟨⟨first, ValueType.ne_unknown clear.1⟩, ⟨second, ValueType.ne_unknown clear.2⟩⟩

/-- The class of a type is listed. -/
theorem classOf {type : ValueType} {info : ClassInfo}
    (found : hierarchy.classOf? type = some info) : info.Among classes := by
  unfold classOf? at found
  split at found
  · exact known.listed _ info found
  · cases found

theorem attributeVerdict {object : ValueType} (among : object.Among classes) (name : String) :
    (hierarchy.attributeVerdict object name).Among classes := by
  unfold ClassHierarchy.attributeVerdict
  split
  · exact Verdict.among_plain ValueType.among_unknown
  · next clear =>
      have definite := ValueType.ne_unknown (Bool.eq_false_iff.mpr clear)
      split
      · exact Verdict.among_wrong (.ofTypes (by simpa [CheckError.types] using ⟨among, definite⟩)
          nofun)
      · next info found =>
          have listed := known.classOf found
          split
          · next type own => exact Verdict.among_plain (listed.attributes _ _ own)
          · exact Verdict.among_wrong (.silent rfl rfl)

theorem indexVerdict {container : ValueType} (among : container.Among classes) :
    (indexVerdict container).Among classes := by
  unfold ChocoLang.indexVerdict
  split
  · exact Verdict.among_plain known.among_str
  · exact Verdict.among_element among

theorem nameCallVerdict {scope : Scope} (bound : scope.Among classes) (name : String)
    {args : List ValueType} (given : ∀ arg ∈ args, arg.Among classes) :
    (hierarchy.nameCallVerdict scope name args).Among classes := by
  unfold ClassHierarchy.nameCallVerdict
  split
  · exact CallVerdict.among_ofError (by simpa using .silent rfl rfl)
  · next binding found =>
      split
      · unfold constructionVerdict
        split
        · exact CallVerdict.among_ofError (by simp)
        · next info listed =>
            split
            · exact CallVerdict.among_ofError (by simp)
            · next constructor own =>
                have members := known.listed _ info listed
                exact among_callVerdict _ (fun param among =>
                  (members.methods _ _ own).params param (List.mem_of_mem_tail among))
                  (.inl members.name) given
      · next params result kind type =>
          have signature := (Scope.All.lookup bound found).function params result type
          exact among_callVerdict _ signature.params signature.result given
      · exact ⟨by simp, Verdict.among_wrong (.silent rfl rfl)⟩

theorem methodCallVerdict {object : ValueType} (among : object.Among classes) (name : String)
    {args : List ValueType} (given : ∀ arg ∈ args, arg.Among classes) :
    (hierarchy.methodCallVerdict object name args).Among classes := by
  unfold ClassHierarchy.methodCallVerdict
  split
  · exact CallVerdict.among_ofError nofun
  · next clear =>
      have definite := ValueType.ne_unknown (Bool.eq_false_iff.mpr clear)
      split
      · exact CallVerdict.among_ofError (by
          simpa using .ofTypes (by simpa [CheckError.types] using ⟨among, definite⟩) nofun)
      · next info found =>
          have listed := known.classOf found
          split
          · exact CallVerdict.among_ofError (by simpa using .silent rfl rfl)
          · next method own =>
              have signature := listed.methods _ _ own
              exact among_callVerdict _ (fun param inside =>
                signature.params param (List.mem_of_mem_tail inside)) signature.result given

end Among
end ClassHierarchy
end ChocoLang
