import ChocoLang.Proofs.Checking.Overriding

/-!
# Receivers

A method must take an object of its class first.  Whether it does is decided when the method is
declared, by the type that its first parameter then stands for; and written types stand for the same
throughout a program.  A first parameter whose type is unknown is not an object of the class.
-/

namespace ChocoLang

/-- Written types may consist of the same names in both states. -/
def CheckState.SameTypeNames (before after : CheckState) : Prop :=
  after.typeNames = before.typeNames

instance : Effect CheckState.SameTypeNames where
  ofReported := Check.typeNames_of_reported
  trans first second := Eq.trans second first

namespace Check

variable {α : Type}

/-! ## Written types during the first pass -/

instance (priority := low) (action : Check α) [Has CheckState.Defined action] :
    Has CheckState.SameTypeNames action where
  run state := by
    obtain ⟨_, _, after⟩ : CheckState.Defined state (action state).2 := Has.ran action state
    rw [CheckState.SameTypeNames, after]

instance (info : ClassInfo) :
    Has CheckState.SameTypeNames
      (modify fun state => { state with hierarchy := state.hierarchy.add info } : Check Unit) where
  run _ := rfl

instance (name superclass : Identifier) (members : List Decl) :
    Has CheckState.SameTypeNames (declareClass name superclass members) := by
  unfold declareClass
  refine @bind _ _ _ _ _ _ inferInstance fun (superclass, parent) => ?_
  refine @bind _ _ _ _ _ _ inferInstance fun (name, bound) => ?_
  refine @bind _ _ _ _ _ _ inferInstance fun (info, members) => ?_
  infer_instance

instance (decl : Decl) : Has CheckState.SameTypeNames (declareGlobal decl) := by
  unfold declareGlobal
  split <;> infer_instance

instance (decls : List Decl) : Has CheckState.SameTypeNames (declareGlobals decls) := by
  induction decls with
  | nil => unfold declareGlobals; infer_instance
  | cons decl rest ih => unfold declareGlobals; infer_instance

/-- A declaration is declared after those before it. -/
theorem declareGlobals_take {decls : List Decl} {place : Nat} {decl : Decl}
    (found : decls[place]? = some decl) (state : CheckState) :
    (declareGlobals decls state).1[place]? =
      some (declareGlobal decl (declareGlobals (decls.take place) state).2).1 := by
  induction decls generalizing place state with
  | nil => cases found
  | cons first rest ih =>
      cases place with
      | zero =>
          obtain rfl : first = decl := by simpa using found
          rfl
      | succ place => exact ih (by simpa using found) _

/-! ## Methods -/

theorem head?_invalidReceiver (method className : String) :
    (CheckError.invalidReceiver method className).message.toList.head? = some 'F' :=
  head?_append (head?_append (head?_append (by decide +kernel) _) _) _

theorem head?_redefinedAttribute (name : String) :
    (CheckError.redefinedAttribute name).message.toList.head? = some 'C' :=
  head?_append (by decide +kernel) _

theorem missingReturn_message_ne_invalidReceiver (name method className : String) :
    (CheckError.missingReturn name).message ≠
      (CheckError.invalidReceiver method className).message :=
  ne_of_head? (by simp [head?_missingReturn, head?_invalidReceiver])

/-- The receiver of a method is looked at before everything else about the method. -/
theorem methodError?_receiver_iff (hierarchy : ClassHierarchy) (info : ClassInfo) (name : String)
    (signature : Signature) :
    (hierarchy.methodError? info name signature).map CheckError.message =
        some (CheckError.invalidReceiver name info.name).message ↔
      signature.params.head? ≠ some info.type := by
  unfold ClassHierarchy.methodError?
  split
  · next other => exact ⟨fun _ => other, fun _ => rfl⟩
  · next same =>
      refine iff_of_false ?_ same
      have redefined : (CheckError.redefinedAttribute name).message ≠
          (CheckError.invalidReceiver name info.name).message :=
        ne_of_head? (by simp [head?_redefinedAttribute, head?_invalidReceiver])
      have incompatible : (CheckError.incompatibleOverride name).message ≠
          (CheckError.invalidReceiver name info.name).message :=
        ne_of_head? (by simp [head?_incompatibleOverride, head?_invalidReceiver])
      split
      · exact fun same => redefined (Option.some.inj same)
      split
      · split
        · exact nofun
        · exact fun same => incompatible (Option.some.inj same)
      · exact nofun

/-- The first pass looks at the receiver of a method that is the first member of its name. -/
theorem declareClass_receiver (name superclass : Identifier) {members : List Decl}
    {position : Nat} {node : NodeInfo} {heading : FunctionHeading} {locals : List Decl}
    {body : List Stmt} {recovered : Bool}
    (found : members[position]? = some (.funcDef node heading locals body recovered))
    (first : ∀ decl ∈ members.take position, decl.memberName? ≠ some heading.name.name)
    (fresh : heading.name.info.error = none) (state : CheckState) :
    ∃ className superclass' headings checked,
      (declareClass name superclass members state).1 =
        .ofClass className superclass' headings ∧
      headings[position]? = some (.function checked) ∧
      (checked.name.info.error =
          some (CheckError.invalidReceiver heading.name.name name.name).message ↔
        (heading.resolved state.typeNames).params.head? ≠ some (.classType name.name)) := by
  have parts : members = members.take position ++
      .funcDef node heading locals body recovered :: members.drop (position + 1) := by
    obtain ⟨inside, item⟩ := List.getElem?_eq_some_iff.mp found
    rw [← item, List.getElem_cons_drop, List.take_append_drop]
  have place : (members.take position).length = position :=
    List.length_take_of_le (Nat.le_of_lt (List.getElem?_eq_some_iff.mp found).1)
  let resolved := resolveSuperclass superclass state
  let declared := declare name (.classType name.name) .classDef resolved.2
  let inside : CheckState :=
    { declared.2 with scope := declared.2.scope.enter .classBody declared.1.1.name }
  have named : declared.1.1.name = name.name := by
    change (declare name (.classType name.name) .classDef resolved.2).1.1.name = _
    cases clash : resolved.2.clash? name.name .classDef with
    | some error => rw [declare_of_clash _ clash]; rfl
    | none => rw [declare_of_free _ clash]
  have resolvedNames : state.SameTypeNames resolved.2 :=
    Has.ran (resolveSuperclass superclass) state
  have declaredNames : resolved.2.SameTypeNames declared.2 :=
    Has.ran (declare name (.classType name.name) .classDef) resolved.2
  have names : inside.typeNames = state.typeNames := declaredNames.trans resolvedNames
  obtain ⟨checked, -, headed, error⟩ := declareMembers_method
    (resolved.1.2.subclass declared.1.1.name) parts fresh first inside rfl rfl
  refine ⟨_, _, _, checked, congrArg Prod.fst (declareClass_apply name superclass members state),
    place ▸ headed, ?_⟩
  have receiver := methodError?_receiver_iff inside.hierarchy
    (resolved.1.2.subclass declared.1.1.name) heading.name.name
    (heading.resolved inside.typeNames)
  rw [error, names]
  rw [names] at receiver
  simpa only [ClassInfo.subclass, ClassInfo.type, named] using receiver

end Check

namespace Program

/--
A method that is the first member of its name is reported for its receiver exactly if its first
parameter does not stand for its class; so it is when the type of the parameter is unknown.
-/
theorem invalidReceiver_iff {file source : String} {program : Program}
    (read : Program.ofSource file source = .ok program) {place position : Nat}
    {site checked : MethodSite} (found : program.method? place position = some site)
    (after : program.check.method? place position = some checked)
    (first : ∀ decl ∈ site.earlier, decl.memberName? ≠ some site.name) :
    checked.heading.name.info.error =
        some (CheckError.invalidReceiver site.name site.className.name).message ↔
      (site.heading.resolved program.announced.typeNames).params.head? ≠
        some (.classType site.className.name) := by
  obtain ⟨node, members, methodNode, locals, body, recovered, classRead, methodRead, taken⟩ :=
    method?_eq_some_iff.mp found
  obtain ⟨_, members', _, _, _, _, classChecked, methodChecked, -⟩ :=
    method?_eq_some_iff.mp after
  have fresh := ((raw_of_ofSource read).declarations _ (List.mem_of_getElem? classRead)).fresh
  simp only [Decl.outline, Outline.all_node, Outline.allIn_cons, Identifier.fresh_outline_iff,
    Decl.allIn_outlines] at fresh
  obtain ⟨-, -, -, freshMembers⟩ := fresh
  have freshMethod := freshMembers _ (List.mem_of_getElem? methodRead)
  simp only [Decl.outline, FunctionHeading.outlines, Outline.all_node, List.cons_append,
    Outline.allIn_cons, Identifier.fresh_outline_iff] at freshMethod
  have headed := Check.declareGlobals_take classRead program.announced
  have kept : program.announced.SameTypeNames
      (Check.declareGlobals (program.declarations.take place) program.announced).2 :=
    Check.Has.ran (Check.declareGlobals (program.declarations.take place)) program.announced
  generalize (Check.declareGlobals (program.declarations.take place)
    program.announced).2 = before at headed kept
  obtain ⟨className, superclass, headings, looked, classHeading, heading, receiver⟩ :=
    Check.declareClass_receiver site.className site.superclass methodRead (taken ▸ first)
      freshMethod.2.1.1 before
  change program.declared.1[place]? =
    some (Check.declareClass site.className site.superclass members before).1 at headed
  rw [classHeading] at headed
  obtain ⟨during, classOutput⟩ := Check.checkDecls_getElem? classRead headed program.declared.2
  have classShape := Option.some.inj (classOutput.symm.trans classChecked)
  unfold Check.checkDecl at classShape
  cases classShape
  obtain ⟨later, methodOutput⟩ := Check.checkDecls_getElem? methodRead heading during
  rw [Check.checkDecl_method (Option.some.inj (methodOutput.symm.trans methodChecked))
    fun name => Check.missingReturn_message_ne_invalidReceiver name _ _]
  have names : before.typeNames = program.announced.typeNames := kept
  rw [← names]
  exact receiver

end Program
end ChocoLang
