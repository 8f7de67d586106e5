import ChocoLang.Proofs.Checking.FirstPass

/-!
# Overriding

A method is compared with the one it overrides in the first pass, when neither its class nor the
classes behind it are known.  Whatever does not fit among all classes of the program is reported.
Besides, a method is reported when a type compared is that of its own class, or of one declared
later, and fits only because of the superclasses of that class.
-/

namespace ChocoLang

/-! ## Methods in programs -/

/-- A method in the text of a program. -/
structure MethodSite where
  /-- The name of its class. -/
  className : Identifier
  /-- The superclass of its class. -/
  superclass : Identifier
  /-- The members of its class before it. -/
  earlier : List Decl
  /-- Its heading. -/
  heading : FunctionHeading

/-- The name of the method. -/
def MethodSite.name (site : MethodSite) : String := site.heading.name.name

/-- The method at a position in the class at a place. -/
def Program.method? (program : Program) (place position : Nat) : Option MethodSite :=
  match program.declarations[place]? with
  | some (.classDef _ className superclass members) =>
    match members[position]? with
    | some (.funcDef _ heading _ _ _) =>
      some { className, superclass, earlier := members.take position, heading }
    | _ => none
  | _ => none

theorem Program.method?_eq_some_iff {program : Program} {place position : Nat} {site : MethodSite} :
    program.method? place position = some site ↔
      ∃ node members methodNode locals body recovered,
        program.declarations[place]? =
          some (.classDef node site.className site.superclass members) ∧
        members[position]? = some (.funcDef methodNode site.heading locals body recovered) ∧
        members.take position = site.earlier := by
  unfold method?
  constructor
  · intro found
    split at found
    · next classRead =>
        split at found
        · next methodRead =>
            cases found
            exact ⟨_, _, _, _, _, _, classRead, methodRead, rfl⟩
        · cases found
    · cases found
  · rintro ⟨node, members, methodNode, locals, body, recovered, classRead, methodRead, earlier⟩
    rw [classRead]
    dsimp only
    rw [methodRead]
    dsimp only
    rw [earlier]

namespace ClassHierarchy

/-- The method of a name that a class has. -/
def method? (hierarchy : ClassHierarchy) (className name : String) : Option Signature :=
  (hierarchy.find? className).bind (·.methods.find? name)

/-- The attribute of a name that a class has. -/
def attribute? (hierarchy : ClassHierarchy) (className name : String) : Option ValueType :=
  (hierarchy.find? className).bind (·.attributes.find? name)

theorem Grows.method? {hierarchy larger : ClassHierarchy} (grows : hierarchy.Grows larger)
    {className name : String} {signature : Signature}
    (found : hierarchy.method? className name = some signature) :
    larger.method? className name = some signature := by
  unfold ClassHierarchy.method? at found ⊢
  obtain ⟨info, listed, own⟩ := Option.bind_eq_some_iff.mp found
  rw [grows.kept listed]
  exact own

/--
The first type is that of a certain class or of one declared later, and the second one that of a
superclass of it, other than `object`.
-/
structure FitsFrom (hierarchy : ClassHierarchy) (className : String) (source target : ValueType) :
    Prop where
  /-- The types are those of two classes. -/
  classes : ∃ name other, source = .classType name ∧ target = .classType other ∧
    name ≠ other ∧ other ≠ "object" ∧ (hierarchy.find? name).isSome ∧
      hierarchy.names.idxOf className ≤ hierarchy.names.idxOf name ∧
      other ∈ hierarchy.ancestors name

/-- The classes that come later are the new class and those behind it. -/
theorem fitsLater_iff_fitsFrom {hierarchy larger : ClassHierarchy} {className : String}
    (new : hierarchy.find? className = none)
    (names : hierarchy.names ++ [className] <+: larger.names) (source target : ValueType) :
    FitsLater hierarchy larger source target ↔ larger.FitsFrom className source target := by
  have order (name : String) (listed : (larger.find? name).isSome) :
      hierarchy.find? name = none ↔
        larger.names.idxOf className ≤ larger.names.idxOf name := by
    rw [← Option.not_isSome_iff_eq_none, find?_isSome_iff_mem_names] at new ⊢
    obtain ⟨rest, shape⟩ := names
    have place : larger.names.idxOf className = hierarchy.names.length := by
      rw [← shape, List.append_assoc, List.idxOf_append_of_notMem new]
      simp
    rw [place, ← shape, List.append_assoc]
    by_cases early : name ∈ hierarchy.names
    · rw [List.idxOf_append_of_mem early]
      have := List.idxOf_lt_length_iff.mpr early
      exact ⟨fun late => absurd early late, fun behind => by omega⟩
    · rw [List.idxOf_append_of_notMem early]
      exact ⟨fun _ => Nat.le_add_right _ _, fun _ => early⟩
  constructor
  · rintro ⟨name, other, shape, shape', differ, noObject, unlisted, listed, above⟩
    exact ⟨name, other, shape, shape', differ, noObject, listed, (order name listed).mp unlisted,
      above⟩
  · rintro ⟨name, other, shape, shape', differ, noObject, listed, behind, above⟩
    exact ⟨name, other, shape, shape', differ, noObject, (order name listed).mpr behind, listed,
      above⟩

end ClassHierarchy

namespace Check

/-! ## The second pass -/

/-- Reports that begin differently are different. -/
theorem ne_of_head? {first second : String}
    (differ : first.toList.head? ≠ second.toList.head?) : first ≠ second :=
  fun same => differ (same ▸ rfl)

theorem head?_append {first : String} {c : Char} (begins : first.toList.head? = some c)
    (second : String) : (first ++ second).toList.head? = some c := by
  rw [String.toList_append, List.head?_append, begins, Option.some_or]

theorem head?_missingReturn (name : String) :
    (CheckError.missingReturn name).message.toList.head? = some 'N' :=
  head?_append (head?_append (by decide +kernel) _) _

theorem head?_incompatibleOverride (name : String) :
    (CheckError.incompatibleOverride name).message.toList.head? = some 'M' :=
  head?_append (head?_append (by decide +kernel) _) _

theorem missingReturn_message_ne (name method : String) :
    (CheckError.missingReturn name).message ≠ (CheckError.incompatibleOverride method).message :=
  ne_of_head? (by simp [head?_missingReturn, head?_incompatibleOverride])

/-- A body without a return does not record or drop any other error at the name of a function. -/
theorem error_demandReturn (result : ValueType) (statements : List Stmt) (recovered : Bool)
    (identifier : Identifier) (state : CheckState) {message : String}
    (other : ∀ name, (CheckError.missingReturn name).message ≠ message) :
    (demandReturn result statements recovered identifier state).1.info.error = some message ↔
      identifier.info.error = some message := by
  unfold demandReturn
  rw [bind_apply, get_apply]
  split
  · change (report _ identifier.info.toNodeInfo state).1.error = _ ↔ _
    rw [report_apply]
    cases known : identifier.info.error with
    | none => simp [other]
    | some message => simp [known]
  · rfl

theorem checkDecls_getElem? {decls : List Decl} {headings : List Heading} {place : Nat}
    {decl : Decl} {heading : Heading} (found : decls[place]? = some decl)
    (headed : headings[place]? = some heading) (state : CheckState) :
    ∃ before,
      (checkDecls decls headings state).1[place]? = some (checkDecl decl heading before).1 := by
  induction decls generalizing headings place state with
  | nil => cases found
  | cons first rest ih =>
      cases headings with
      | nil => cases headed
      | cons firstHeading headings =>
          unfold checkDecls
          cases place with
          | zero =>
              obtain rfl : first = decl := by simpa using found
              obtain rfl : firstHeading = heading := by simpa using headed
              exact ⟨state, rfl⟩
          | succ place => exact ih (by simpa using found) (by simpa using headed) _

/-! ## The first pass -/

/-- What the first pass makes of a method that is the first member of its name. -/
structure MethodDeclared (before : CheckState) (site : MethodSite) (position : Nat)
    (headings : List Heading) (after : CheckState) (signature : Signature)
    (checked : FunctionHeading) (parent : ClassInfo) : Prop where
  /-- The heading is looked at. -/
  heading : headings[position]? = some (.function checked)
  /-- The class has the method. -/
  own : after.hierarchy.method? site.className.name site.name = some signature
  /-- The superclass is known before. -/
  superclass : before.hierarchy.find? site.superclass.name = some parent
  /-- The class is new. -/
  new : before.hierarchy.find? site.className.name = none
  /-- The class is listed behind the others. -/
  names : after.hierarchy.names = before.hierarchy.names ++ [site.className.name]
  /-- The method is compared with what the superclass has. -/
  error : checked.name.info.error =
    (before.hierarchy.methodError? (parent.subclass site.className.name) site.name
      signature).map CheckError.message

theorem declareClass_method {site : MethodSite} {members : List Decl} {position : Nat}
    {node : NodeInfo} {locals : List Decl} {body : List Stmt} {recovered : Bool}
    (found : members[position]? = some (.funcDef node site.heading locals body recovered))
    (taken : members.take position = site.earlier)
    (first : ∀ decl ∈ site.earlier, decl.memberName? ≠ some site.name)
    (fresh : site.className.info.error = none ∧ site.superclass.info.error = none ∧
      site.heading.name.info.error = none)
    {state : CheckState} (holds : state.Global) {className superclass : Identifier}
    {headings : List Heading}
    (looked : (declareClass site.className site.superclass members state).1 =
      .ofClass className superclass headings)
    (declared : className.info.error = none) (accepted : superclass.info.error = none) :
    ∃ signature checked parent, MethodDeclared state site position headings
      (declareClass site.className site.superclass members state).2 signature checked parent := by
  obtain ⟨freshName, freshSuperclass, freshMethod⟩ := fresh
  obtain ⟨resolvedHolds, same⟩ := holds.defined (Has.ran (resolveSuperclass site.superclass) state)
  have free : (resolveSuperclass site.superclass state).2.clash? site.className.name .classDef =
      none := by
    rw [declareClass_apply] at looked
    cases looked
    exact declare_bound freshName declared
  have parts : members = site.earlier ++
      .funcDef node site.heading locals body recovered :: members.drop (position + 1) := by
    obtain ⟨inside, item⟩ := List.getElem?_eq_some_iff.mp found
    rw [← taken, ← item, List.getElem_cons_drop, List.take_append_drop]
  have place : site.earlier.length = position := by
    rw [← taken, List.length_take_of_le]
    exact Nat.le_of_lt (List.getElem?_eq_some_iff.mp found).1
  obtain ⟨inside, frame, known, outcome, hierarchy⟩ := declareClass_members members free
  rw [outcome] at looked
  obtain ⟨rfl, rfl, rfl⟩ := looked
  have superclass := resolveSuperclass_found freshSuperclass accepted
  generalize (resolveSuperclass site.superclass state).1.2 = parent at *
  obtain ⟨checked, own, heading, error⟩ := declareMembers_method
    (parent.subclass site.className.name) parts freshMethod first inside (by rw [frame])
    (by rw [frame]; rfl)
  obtain ⟨named, -⟩ := declareMembers_named (parent.subclass site.className.name) members inside
  generalize (declareMembers (parent.subclass site.className.name) members inside).1.1 = info at *
  have new := resolvedHolds.unlisted free
  rw [same] at new
  refine ⟨site.heading.resolved inside.typeNames, checked, parent, place ▸ heading, ?_, superclass,
    new, ?_, ?_⟩
  · rw [ClassHierarchy.method?, hierarchy, ClassHierarchy.find?_add, named]
    simp only [ClassInfo.subclass, beq_self_eq_true, if_true]
    exact own
  · rw [hierarchy, ClassHierarchy.names_add (named ▸ new), named]
    rfl
  · rw [error, known]
    rfl

end Check

namespace Check

/-- The second pass keeps the heading of a method, apart from a missing return. -/
theorem checkDecl_method {node : NodeInfo} {heading looked : FunctionHeading} {locals : List Decl}
    {body : List Stmt} {recovered : Bool} {state : CheckState} {node' : NodeInfo}
    {heading' : FunctionHeading} {locals' : List Decl} {body' : List Stmt} {recovered' : Bool}
    (output : (checkDecl (.funcDef node heading locals body recovered) (.function looked) state).1 =
      .funcDef node' heading' locals' body' recovered') {message : String}
    (other : ∀ name, (CheckError.missingReturn name).message ≠ message) :
    heading'.name.info.error = some message ↔ looked.name.info.error = some message := by
  unfold checkDecl at output
  cases output
  exact error_demandReturn _ _ _ looked.name _ other

end Check

/-- With a proper receiver and no attribute in the way, all depends on the inherited method. -/
theorem ClassHierarchy.methodError?_eq {hierarchy : ClassHierarchy} {parent : ClassInfo}
    {className name : String} {inherited signature : Signature}
    (receiver : signature.params.head? = some (.classType className))
    (noAttribute : parent.attributes.find? name = none)
    (inherits : parent.methods.find? name = some inherited) :
    hierarchy.methodError? (parent.subclass className) name signature =
      if hierarchy.mayOverride inherited signature then none
      else some (.incompatibleOverride name) := by
  simp [methodError?, ClassInfo.type, ClassInfo.subclass, receiver, Table.contains, noAttribute,
    inherits]

namespace Program

/--
An overriding method is reported if it does not fit the one it overrides among all classes of the
program, and also if a type compared is that of its class or of a later one and fits because of
the superclasses of that class.
-/
theorem incompatibleOverride_iff {file source : String} {program : Program}
    (read : Program.ofSource file source = .ok program) {place position : Nat}
    {site checked : MethodSite} (found : program.method? place position = some site)
    (after : program.check.method? place position = some checked)
    (declared : checked.className.info.error = none)
    (accepted : checked.superclass.info.error = none)
    (first : ∀ decl ∈ site.earlier, decl.memberName? ≠ some site.name)
    {inherited signature : Signature}
    (inherits : program.hierarchy.method? site.superclass.name site.name = some inherited)
    (noAttribute : program.hierarchy.attribute? site.superclass.name site.name = none)
    (own : program.hierarchy.method? site.className.name site.name = some signature)
    (receiver : signature.params.head? = some (.classType site.className.name)) :
    checked.heading.name.info.error = some (CheckError.incompatibleOverride site.name).message ↔
      ¬ program.hierarchy.mayOverride inherited signature = true ∨
        ∃ pair ∈ ClassHierarchy.overridePairs inherited signature,
          program.hierarchy.FitsFrom site.className.name pair.1 pair.2 := by
  obtain ⟨node, members, methodNode, locals, body, recovered, classRead, methodRead, taken⟩ :=
    method?_eq_some_iff.mp found
  obtain ⟨_, members', _, _, _, _, classChecked, methodChecked, -⟩ :=
    method?_eq_some_iff.mp after
  have raw := (raw_of_ofSource read).declarations
  have named : ∀ decl ∈ program.declarations, decl.ClassNamed := fun decl among =>
    (raw decl among).named
  have fresh := (raw _ (List.mem_of_getElem? classRead)).fresh
  simp only [Decl.outline, Outline.all_node, Outline.allIn_cons, Identifier.fresh_outline_iff,
    Decl.allIn_outlines] at fresh
  obtain ⟨-, ⟨freshName, -⟩, ⟨freshSuperclass, -⟩, freshMembers⟩ := fresh
  have freshMethod := freshMembers _ (List.mem_of_getElem? methodRead)
  simp only [Decl.outline, FunctionHeading.outlines, Outline.all_node, List.cons_append,
    Outline.allIn_cons, Identifier.fresh_outline_iff] at freshMethod
  obtain ⟨before, holds, headed, grows⟩ :=
    Check.declareGlobals_getElem? named program.announced_global classRead
  change program.declared.1[place]? =
    some (Check.declareClass site.className site.superclass members before).1 at headed
  obtain ⟨className, superclass, headings, looked⟩ : ∃ className superclass headings,
      (Check.declareClass site.className site.superclass members before).1 =
        .ofClass className superclass headings := by
    rw [Check.declareClass_apply]
    exact ⟨_, _, _, rfl⟩
  rw [looked] at headed
  obtain ⟨during, classOutput⟩ := Check.checkDecls_getElem? classRead headed program.declared.2
  have classShape := Option.some.inj (classOutput.symm.trans classChecked)
  unfold Check.checkDecl at classShape
  cases classShape
  obtain ⟨declaredSignature, heading, parent, method⟩ := Check.declareClass_method methodRead taken
    first ⟨freshName, freshSuperclass, freshMethod.2.1.1⟩ holds looked declared accepted
  obtain ⟨later, methodOutput⟩ := Check.checkDecls_getElem? methodRead method.heading during
  rw [Check.checkDecl_method (Option.some.inj (methodOutput.symm.trans methodChecked))
    fun name => Check.missingReturn_message_ne name site.name]
  -- What the first pass has seen is still so among all classes.
  obtain ⟨-, grounded, -, absent⟩ : CheckState.Global _ := declared_global named
  change program.hierarchy.Grounded at grounded
  have grown : before.hierarchy.Grows program.hierarchy :=
    (Check.declareGlobal_global (named _ (List.mem_of_getElem? classRead)) holds).2.trans grows
  obtain rfl : declaredSignature = signature :=
    Option.some.inj ((grows.method? method.own).symm.trans own)
  simp only [ClassHierarchy.method?, ClassHierarchy.attribute?, grown.kept method.superclass,
    Option.bind_some] at inherits noAttribute
  rw [method.error, ClassHierarchy.methodError?_eq receiver noAttribute inherits]
  have behind : before.hierarchy.names ++ [site.className.name] <+: program.hierarchy.names :=
    method.names ▸ grows.names
  simp only [← ClassHierarchy.fitsLater_iff_fitsFrom method.new behind]
  rw [← ClassHierarchy.not_mayOverride_iff holds.grounded grounded grown absent]
  cases before.hierarchy.mayOverride inherited declaredSignature <;> simp

/-! ### A method that takes and returns an object of its class -/

/-- A class and a subclass, each with a method that takes and returns an object of the class. -/
def selfTypedSource : String :=
  "class A(object):\n def m(self:A)->A:\n  pass\nclass B(A):\n def m(self:B)->B:\n  pass\n"

/-- The site is that of the method of the subclass, and this is what becomes of it. -/
def SelfTyped (program : Program) (site checked : MethodSite) : Prop :=
  site.className.name = "B" ∧ site.superclass.name = "A" ∧ site.name = "m" ∧
    (∀ decl ∈ site.earlier, decl.memberName? ≠ some site.name) ∧
    checked.className.info.error = none ∧ checked.superclass.info.error = none ∧
    checked.heading.name.info.error = some (CheckError.incompatibleOverride "m").message ∧
    program.hierarchy.method? "A" "m" = some ⟨[.classType "A"], .classType "A"⟩ ∧
    program.hierarchy.attribute? "A" "m" = none ∧
    program.hierarchy.method? "B" "m" = some ⟨[.classType "B"], .classType "B"⟩ ∧
    (program.hierarchy.find? "B").isSome ∧ "A" ∈ program.hierarchy.ancestors "B"

instance (program : Program) (site checked : MethodSite) :
    Decidable (program.SelfTyped site checked) := by
  unfold SelfTyped
  infer_instance

theorem selfTyped_selfTypedSource : ∃ program site checked,
    Program.ofSource "<input>" selfTypedSource = .ok program ∧
      program.method? 1 0 = some site ∧ program.check.method? 1 0 = some checked ∧
      program.SelfTyped site checked := by
  obtain ⟨program, read, facts⟩ : ∃ program, Program.ofSource "<input>" selfTypedSource =
      .ok program ∧ ((program.method? 1 0).any fun site =>
        (program.check.method? 1 0).any fun checked =>
          decide (program.SelfTyped site checked)) = true :=
    exists_ok_of_any (by decide +kernel)
  simp only [Option.any_eq_true, decide_eq_true_eq] at facts
  obtain ⟨site, found, checked, after, selfTyped⟩ := facts
  exact ⟨program, site, checked, read, found, after, selfTyped⟩

/-- The method of the subclass is reported, as its result is of its own class. -/
theorem incompatibleOverride_selfTypedSource : ∃ program checked,
    Program.ofSource "<input>" selfTypedSource = .ok program ∧
      program.check.method? 1 0 = some checked ∧
      checked.heading.name.info.error = some (CheckError.incompatibleOverride "m").message := by
  obtain ⟨program, site, checked, read, found, after, className, superclass, name, first, declared,
    accepted, -, inherits, noAttribute, own, listed, above⟩ := selfTyped_selfTypedSource
  rw [← superclass, ← name] at inherits noAttribute
  rw [← className, ← name] at own
  refine ⟨program, checked, read, after, name ▸ (incompatibleOverride_iff read found after declared
    accepted first inherits noAttribute own (className ▸ rfl)).mpr (.inr ?_)⟩
  exact ⟨(.classType "B", .classType "A"),
    by simp [ClassHierarchy.overridePairs, className, superclass],
    "B", "A", rfl, rfl, by decide, by decide, listed, className ▸ Nat.le_refl _, above⟩

/-- The method of the subclass is reported although it fits the one it overrides. -/
theorem exists_compatible_override_reported : ∃ program site checked inherited signature,
    Program.ofSource "<input>" selfTypedSource = .ok program ∧
      program.method? 1 0 = some site ∧ program.check.method? 1 0 = some checked ∧
      checked.className.info.error = none ∧ checked.superclass.info.error = none ∧
      (∀ decl ∈ site.earlier, decl.memberName? ≠ some site.name) ∧
      program.hierarchy.method? site.superclass.name site.name = some inherited ∧
      program.hierarchy.attribute? site.superclass.name site.name = none ∧
      program.hierarchy.method? site.className.name site.name = some signature ∧
      signature.params.head? = some (.classType site.className.name) ∧
      program.hierarchy.mayOverride inherited signature = true ∧
      checked.heading.name.info.error =
        some (CheckError.incompatibleOverride site.name).message := by
  obtain ⟨program, site, checked, read, found, after, className, superclass, name, first, declared,
    accepted, reported, inherits, noAttribute, own, -, above⟩ := selfTyped_selfTypedSource
  rw [← superclass, ← name] at inherits noAttribute
  rw [← className, ← name] at own
  refine ⟨program, site, checked, _, _, read, found, after, declared, accepted, first, inherits,
    noAttribute, own, className ▸ rfl, ?_, name ▸ reported⟩
  simp [ClassHierarchy.mayOverride, ClassHierarchy.takesAll, ClassHierarchy.isAssignable,
    ClassHierarchy.isSubtype, ValueType.isUnknown, ValueType.object, className, superclass, above]

end Program
end ChocoLang
