import ChocoLang.Proofs.Checking.Reports.Declaration
import ChocoLang.Proofs.Checking.Reports.Receiver

/-!
# Consequences of unknown types

A type that is unknown as a whole fits everywhere, so no error is about it.  A list of elements whose
type is unknown does not: it is compared like any other list, and a report shows it.  Nor does an
unknown first parameter of a method fit: the method is reported for its receiver.
-/

namespace ChocoLang

namespace ClassHierarchy

/-- The classes present in every program are among classes that contain their names. -/
theorem initial_among {classes : List String}
    (builtin : ∀ name ∈ "object" :: ValueType.specialClasses, name ∈ classes) :
    initial.Among classes := by
  have nothing : Among classes ⟨{}⟩ := ⟨builtin, nofun⟩
  have object : objectInfo.Among classes := nothing.object
  have special {name : String} (listed : name ∈ ValueType.specialClasses) :
      (specialInfo name).Among classes :=
    ⟨builtin name (List.mem_cons_of_mem _ listed),
      fun next inherits => by cases inherits; exact builtin _ (by decide), nofun, object.methods⟩
  exact (((nothing.add object).add (special (by decide))).add (special (by decide))).add
    (special (by decide))

theorem builtinBindings_among {classes : List String}
    (builtin : ∀ name ∈ "object" :: ValueType.specialClasses, name ∈ classes) :
    ∀ binding ∈ initial.builtinBindings, binding.Among classes := by
  have known := initial_among builtin
  intro binding among
  rcases List.mem_append.mp among with isClass | isFunction
  · obtain ⟨info, -, rfl⟩ := List.mem_map.mp isClass
    exact Check.among_class _ _ _
  · obtain ⟨⟨name, signature⟩, listed, rfl⟩ := List.mem_map.mp isFunction
    refine Check.among_function ?_ _ _
    simp only [builtinFunctions, List.mem_cons, Prod.mk.injEq, List.not_mem_nil, or_false] at listed
    rcases listed with ⟨-, rfl⟩ | ⟨-, rfl⟩ | ⟨-, rfl⟩
    · exact ⟨by simpa using known.among_object, ValueType.among_none classes⟩
    · exact ⟨by simpa using known.among_object, known.among_int⟩
    · exact ⟨List.forall_mem_nil _, known.among_str⟩

end ClassHierarchy

namespace Program

/-- The problems found while the program is checked. -/
def problems (program : Program) : List (Located CheckError) :=
  program.checkedStatements.2.problems

variable {program : Program}

theorem definesAmong_classNames :
    ∀ decl ∈ program.declarations, decl.DefinesAmong program.classNames := by
  intro decl among
  cases decl with
  | classDef info name superclass members =>
      refine List.mem_append_right _ (List.mem_filterMap.mpr ⟨_, among, rfl⟩)
  | _ => trivial

theorem isName_of_mem_classNames (named : ∀ decl ∈ program.declarations, decl.ClassNamed) :
    ∀ name ∈ program.classNames, isName name.toList := by
  intro name among
  rcases List.mem_append.mp among with builtin | defined
  · have all : ∀ name ∈ "object" :: ValueType.specialClasses, isName name.toList := by
      decide +kernel
    exact all name builtin
  · obtain ⟨decl, listed, defines⟩ := List.mem_filterMap.mp defined
    cases decl with
    | classDef info identifier superclass members =>
        cases defines
        exact named _ listed
    | _ => cases defines

/-- Before the declarations of a program all types are of its classes. -/
theorem announced_among (program : Program) : program.announced.Among program.classNames := by
  have builtin : ∀ name ∈ "object" :: ValueType.specialClasses, name ∈ program.classNames :=
    fun name among => List.mem_append_left _ among
  have nothing : Scope.Among program.classNames {} := by
    intro frame among
    obtain rfl := List.mem_singleton.mp among
    intro name binding found
    cases found
  have scope := Scope.All.defineAll nothing (ClassHierarchy.builtinBindings_among builtin)
  have hierarchy := ClassHierarchy.initial_among builtin
  rw [announced_eq]
  constructor
  · exact fun _ => id
  · exact scope
  · exact hierarchy
  · simp
  · simp

/-- No problem of a program is about a type that is unknown as a whole. -/
theorem definite_problems (program : Program) :
    ∀ problem ∈ program.problems, problem.content.Definite program.classNames := by
  have declared : program.declared.2.Among program.classNames :=
    (Check.declareGlobals_maintains definesAmong_classNames _ program.announced_among).2
  have declarations : program.checkedDeclarations.2.Among program.classNames :=
    (Check.checkDecl_maintains.2 program.declarations program.declared.1 _ declared).2
  have statements : program.checkedStatements.2.Among program.classNames :=
    (Check.checkStmt_maintains.2 program.statements _ declarations).2
  exact statements.problems

/--
What the errors of a program have to do with unknown types: a report that shows types has the text of
the unknown type exactly if it shows a list whose elements are unknown, in whole or in part, and never
shows the unknown type itself; and a method that is the first member of its name is reported for its
receiver exactly if its first parameter, unknown or not, does not stand for its class.
-/
theorem unknown_reported_iff {file source : String} {program : Program}
    (read : Program.ofSource file source = .ok program) :
    program.check.errors = program.errors ++ program.problems.map Located.toDiagnostic ∧
    (∀ problem ∈ program.problems,
      .unknown ∉ problem.content.types ∧
      (problem.content.types ≠ [] →
        (ValueType.unknown.display.toList <:+: problem.toDiagnostic.message.toList ↔
          ∃ element, .list element ∈ problem.content.types ∧ ¬ element.Known))) ∧
    ∀ place position site checked, program.method? place position = some site →
      program.check.method? place position = some checked →
      (∀ decl ∈ site.earlier, decl.memberName? ≠ some site.name) →
      (checked.heading.name.info.error =
          some (CheckError.invalidReceiver site.name site.className.name).message ↔
        (site.heading.resolved program.announced.typeNames).params.head? ≠
          some (.classType site.className.name)) := by
  have named : ∀ name ∈ program.classNames, isName name.toList :=
    isName_of_mem_classNames fun decl among => ((raw_of_ofSource read).declarations decl among).named
  refine ⟨by rw [check_eq]; rfl, fun problem among => ?_,
    fun place position site checked found after first =>
      invalidReceiver_iff read found after first⟩
  have definite := program.definite_problems problem among
  exact ⟨definite.definite, CheckError.unknown_infix_message_iff named definite⟩

/-! ### A class that is not defined -/

/-- A method whose receiver, and a list whose elements, are of a class that is not defined. -/
def undefinedClassSource : String :=
  "class A(object):\n def m(self:B)->int:\n  return 1\nx:[B]=None\ny:[int]=None\ny=x\n"

/-- This is what becomes of the method and of the assignment of the list. -/
def UndefinedClass (program : Program) (site checked : MethodSite) : Prop :=
  site.className.name = "A" ∧ site.name = "m" ∧
    (∀ decl ∈ site.earlier, decl.memberName? ≠ some site.name) ∧
    (site.heading.resolved program.announced.typeNames).params.head? = some .unknown ∧
    program.problems.map Located.content =
      [.unknownClass "B", .invalidReceiver "m" "A", .unknownClass "B",
        .mismatch (.list .int) (.list .unknown)] ∧
    checked.heading.name.info.error = some (CheckError.invalidReceiver "m" "A").message

instance (program : Program) (site checked : MethodSite) :
    Decidable (program.UndefinedClass site checked) := by
  unfold UndefinedClass
  infer_instance

theorem undefinedClass_undefinedClassSource : ∃ program site checked,
    Program.ofSource "<input>" undefinedClassSource = .ok program ∧
      program.method? 0 0 = some site ∧ program.check.method? 0 0 = some checked ∧
      program.UndefinedClass site checked := by
  obtain ⟨program, read, facts⟩ : ∃ program, Program.ofSource "<input>" undefinedClassSource =
      .ok program ∧ ((program.method? 0 0).any fun site =>
        (program.check.method? 0 0).any fun checked =>
          decide (program.UndefinedClass site checked)) = true :=
    exists_ok_of_any (by decide +kernel)
  simp only [Option.any_eq_true, decide_eq_true_eq] at facts
  obtain ⟨site, found, checked, after, undefined⟩ := facts
  exact ⟨program, site, checked, read, found, after, undefined⟩

/-- The list is found among the problems. -/
theorem UndefinedClass.mem_problems {program : Program} {site checked : MethodSite}
    (undefined : program.UndefinedClass site checked) :
    ∃ problem ∈ program.problems, problem.content = .mismatch (.list .int) (.list .unknown) := by
  obtain ⟨-, -, -, -, problems, -⟩ := undefined
  have among : CheckError.mismatch (.list .int) (.list .unknown) ∈
      program.problems.map Located.content := by
    simp [problems]
  exact List.mem_map.mp among

/-- One report shows the unknown type in a list, and the method is reported for its receiver. -/
theorem unknown_reported_undefinedClassSource : ∃ program site checked,
    Program.ofSource "<input>" undefinedClassSource = .ok program ∧
      program.method? 0 0 = some site ∧ program.check.method? 0 0 = some checked ∧
      (∃ problem ∈ program.problems,
        ValueType.unknown.display.toList <:+: problem.toDiagnostic.message.toList) ∧
      checked.heading.name.info.error =
        some (CheckError.invalidReceiver site.name site.className.name).message := by
  obtain ⟨program, site, checked, read, found, after, undefined⟩ :=
    undefinedClass_undefinedClassSource
  obtain ⟨-, shown, receiver⟩ := unknown_reported_iff read
  obtain ⟨problem, among, mismatch⟩ := undefined.mem_problems
  obtain ⟨-, -, first, unclear, -, -⟩ := undefined
  refine ⟨program, site, checked, read, found, after, ⟨problem, among, ?_⟩, ?_⟩
  · refine ((shown problem among).2 ?_).mpr ⟨.unknown, ?_, ValueType.not_known_unknown⟩ <;>
      simp [mismatch, CheckError.types]
  · refine (receiver 0 0 site checked found after first).mpr ?_
    rw [unclear]
    simp

/-- A report has the text of the unknown type, and a method with an unknown receiver is reported. -/
theorem exists_unknown_reported : ∃ program site checked,
    Program.ofSource "<input>" undefinedClassSource = .ok program ∧
      program.method? 0 0 = some site ∧ program.check.method? 0 0 = some checked ∧
      (∃ diagnostic ∈ program.check.errors,
        ValueType.unknown.display.toList <:+: diagnostic.message.toList) ∧
      (site.heading.resolved program.announced.typeNames).params.head? = some .unknown ∧
      checked.heading.name.info.error =
        some (CheckError.invalidReceiver site.name site.className.name).message := by
  obtain ⟨program, site, checked, read, found, after, undefined⟩ :=
    undefinedClass_undefinedClassSource
  obtain ⟨problem, among, mismatch⟩ := undefined.mem_problems
  obtain ⟨className, name, -, unclear, -, reported⟩ := undefined
  refine ⟨program, site, checked, read, found, after, ⟨problem.toDiagnostic, ?_, ?_⟩, unclear,
    className ▸ name ▸ reported⟩
  · rw [check_eq]
    exact List.mem_append_right _ (List.mem_map_of_mem among)
  · have inside : ValueType.unknown.display.toList <:+: (ValueType.list .unknown).display.toList := by
      decide +kernel
    exact inside.trans (CheckError.display_infix_message (by simp [mismatch, CheckError.types]))

end Program
end ChocoLang
