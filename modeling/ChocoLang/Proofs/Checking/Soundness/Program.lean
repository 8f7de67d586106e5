import ChocoLang.Proofs.Checking.FirstPass
import ChocoLang.Proofs.Checking.Soundness.Declaration

/-!
# Soundness of acceptance

If no problem is found while a class is declared, then its superclass is a class that may be
extended, its name is new, and each member adds one attribute or method that is in order with what
the class has so far.  Nothing else happens.

So a program without any error obeys the typing rules, given the classes that are known after its
declarations, and no type recorded in it is unknown.
-/

namespace ChocoLang

/-! ## Members -/

/-- What a member without problems adds to its class. -/
inductive MemberAdded (hierarchy : ClassHierarchy) (info : ClassInfo) : Decl → ClassInfo → Prop
  where
  | ofAttribute {node : NodeInfo} {var : TypedVar} {value : Expr}
      (new : info.hasMember var.identifier.name = false) :
      MemberAdded hierarchy info (.varDef node var value)
        { info with
          attributes := info.attributes.insert var.identifier.name var.written.denoted }
  | ofMethod {node : NodeInfo} {heading : FunctionHeading} {locals : List Decl} {body : List Stmt}
      {recovered : Bool}
      (accepted : hierarchy.methodError? info heading.name.name heading.signature = none) :
      MemberAdded hierarchy info (.funcDef node heading locals body recovered)
        { info with methods := info.methods.insert heading.name.name heading.signature }
  | unnamed {decl : Decl} (nameless : decl.memberName? = none) : MemberAdded hierarchy info decl info

/-- What members without problems add to their class, one after the other. -/
inductive MembersAdded (hierarchy : ClassHierarchy) : ClassInfo → List Decl → ClassInfo → Prop where
  | nil {info : ClassInfo} : MembersAdded hierarchy info [] info
  | cons {info own final : ClassInfo} {decl : Decl} {rest : List Decl}
      (first : MemberAdded hierarchy info decl own)
      (others : MembersAdded hierarchy own rest final) :
      MembersAdded hierarchy info (decl :: rest) final

/-- A property of a class that each member keeps is kept by all of them. -/
theorem MembersAdded.keeps {hierarchy : ClassHierarchy} {info own : ClassInfo}
    {members : List Decl} (added : MembersAdded hierarchy info members own)
    {good : ClassInfo → Prop} (step : ∀ {info own : ClassInfo} {decl : Decl},
      MemberAdded hierarchy info decl own → good info → good own)
    (start : good info) : good own := by
  induction added with
  | nil => exact start
  | cons first _ ih => exact ih (step first start)

theorem MembersAdded.named {hierarchy : ClassHierarchy} {info own : ClassInfo} {members : List Decl}
    (added : MembersAdded hierarchy info members own) :
    own.name = info.name ∧ own.superclass = info.superclass := by
  induction added with
  | nil => exact ⟨rfl, rfl⟩
  | cons first _ ih => cases first <;> exact ih

namespace Check

/-- A step that reports nothing leaves the state as it is. -/
theorem eq_of_reported {before after : CheckState} (reported : before.Reported after)
    (clean : after.problems = []) : after = before := by
  obtain ⟨found, rfl⟩ := reported
  have none : found = [] := (List.append_eq_nil_iff.mp clean).2
  rw [none, List.append_nil]

variable {hierarchy : ClassHierarchy} {info : ClassInfo}

theorem declareAttribute_adds {var : TypedVar} (fresh : var.outline.Fresh) :
    Establishes (fun state => state.hierarchy = hierarchy) (declareAttribute info var)
      fun declared => info.hasMember var.identifier.name = false ∧
        declared = ({ info with
          attributes := info.attributes.insert var.identifier.name var.written.denoted }, var) := by
  have freshName := TypedVar.error_of_fresh fresh
  refine (resolveVar_establishes fresh).bind ?_
  rintro _ rfl
  refine (declare_establishes freshName fun _ same _ => same).bind ?_
  rintro _ rfl
  refine .ite (by simp) fun _ => .ite (fun _ => ?_) fun new => .pure ⟨by simpa using new, rfl⟩
  exact (reportName_establishes freshName).bind fun _ impossible => impossible.elim

theorem demandMethod_accepts (signature : Signature) {name : Identifier}
    (fresh : name.info.error = none) :
    Establishes (fun state => state.hierarchy = hierarchy) (demandMethod info signature name)
      fun demanded => hierarchy.methodError? info name.name signature = none ∧
        demanded = name := by
  unfold demandMethod
  refine @Establishes.bind _ _ _ _ _ _ _ (fun state => by split <;> infer_instance) .get ?_
  rintro state rfl
  split
  · exact (reportName_establishes fresh).mono fun _ impossible => impossible.elim
  · next accepted => exact .pure ⟨accepted, rfl⟩

theorem declareMethod_adds {heading : FunctionHeading}
    (fresh : Outline.AllIn Label.Fresh heading.outlines) :
    Establishes (fun state => state.hierarchy = hierarchy) (declareMethod info heading)
      fun declared =>
        hierarchy.methodError? info heading.name.name heading.signature = none ∧
          declared = ({ info with
            methods := info.methods.insert heading.name.name heading.signature }, heading) := by
  have freshName := (FunctionHeading.fresh_parts fresh).1
  rw [declareMethod_eq]
  refine (resolveSignature_establishes fresh).bind ?_
  rintro _ rfl
  refine (declare_establishes freshName fun _ same _ => same).bind ?_
  rintro _ rfl
  refine .ite (by simp) fun _ => (demandMethod_accepts heading.signature freshName).bind ?_
  rintro _ ⟨accepted, rfl⟩
  exact .pure ⟨accepted, rfl⟩

theorem declareMember_adds {decl : Decl} (fresh : decl.outline.Fresh) :
    Establishes (fun state => state.hierarchy = hierarchy) (declareMember info decl)
      fun declared => MemberAdded hierarchy info decl declared.1 ∧
        declared.2 = decl.heading := by
  cases decl with
  | varDef node var value =>
      simp only [Decl.outline, Outline.all_node, Outline.allIn_cons] at fresh
      refine (declareAttribute_adds fresh.2.1).bind ?_
      rintro _ ⟨new, rfl⟩
      exact .pure ⟨.ofAttribute new, rfl⟩
  | funcDef node heading declarations statements recovered =>
      simp only [Decl.outline, Outline.all_node, Outline.allIn_append] at fresh
      refine (declareMethod_adds fresh.2.1).bind ?_
      rintro _ ⟨accepted, rfl⟩
      exact .pure ⟨.ofMethod accepted, rfl⟩
  | classDef _ _ _ _ | globalDecl _ _ | nonlocalDecl _ _ => exact .pure ⟨.unnamed rfl, rfl⟩

theorem declareMembers_adds {members : List Decl}
    (fresh : ∀ decl ∈ members, decl.outline.Fresh) :
    Establishes (fun state => state.hierarchy = hierarchy) (declareMembers info members)
      fun declared => MembersAdded hierarchy info members declared.1 ∧
        declared.2 = members.map Decl.heading := by
  induction members generalizing info with
  | nil => exact .pure ⟨.nil, rfl⟩
  | cons decl rest ih =>
      obtain ⟨first, others⟩ := List.forall_mem_cons.mp fresh
      rw [declareMembers_cons]
      refine (declareMember_adds first).bind ?_
      rintro ⟨own, _⟩ ⟨added, rfl⟩
      refine (ih others).bind ?_
      rintro ⟨final, _⟩ ⟨further, rfl⟩
      exact .pure ⟨.cons added further, rfl⟩

/-! ## The class -/

/-- What declaring a class without problems comes to. -/
structure ClassAdded (before : CheckState) (name superclass : Identifier) (members : List Decl)
    (heading : Heading) (after : CheckState) : Prop where
  /-- The name can be bound. -/
  free : before.clash? name.name .classDef = none
  /-- The heading is that of the class. -/
  heading : heading = .ofClass name superclass (members.map Decl.heading)
  /-- The members are added to what the superclass has, and the class to the others. -/
  added : ∃ parent info : ClassInfo, before.superclass superclass.name = .ok parent ∧
    MembersAdded before.hierarchy (parent.subclass name.name) members info ∧
    after = { before.bindClass name with hierarchy := before.hierarchy.add info }

theorem resolveSuperclass_accepts {superclass : Identifier} (fresh : superclass.info.error = none)
    (before : CheckState) :
    Accepts (· = before) (resolveSuperclass superclass) fun resolved state =>
      (resolved.1 = superclass ∧ before.superclass superclass.name = .ok resolved.2) ∧
        state = before := by
  rintro state rfl clean
  cases found : state.superclass superclass.name with
  | ok parent =>
      rw [resolveSuperclass_of_ok found]
      exact ⟨⟨rfl, rfl⟩, rfl⟩
  | error error =>
      rw [resolveSuperclass_of_error found] at clean
      exact (@reportName_establishes (fun _ => True) _ _ fresh state trivial clean).1.elim

theorem declare_class_accepts {name : Identifier} (fresh : name.info.error = none)
    (before : CheckState) :
    Accepts (· = before) (declare name (.classType name.name) .classDef) fun declared state =>
      (declared = (name, true) ∧ before.clash? name.name .classDef = none) ∧
        state = before.bindClass name := by
  rintro state rfl clean
  cases clash : state.clash? name.name .classDef with
  | some error =>
      rw [declare_of_clash _ clash] at clean
      exact (@reportName_establishes (fun _ => True) _ _ fresh state trivial clean).1.elim
  | none =>
      rw [declare_of_free _ clash]
      exact ⟨⟨rfl, rfl⟩, rfl⟩

theorem declareClass_adds {name superclass : Identifier} {members : List Decl}
    (freshName : name.info.error = none) (freshSuperclass : superclass.info.error = none)
    (fresh : ∀ decl ∈ members, decl.outline.Fresh) (before : CheckState) :
    Accepts (· = before) (declareClass name superclass members)
      (ClassAdded before name superclass members) := by
  unfold declareClass
  refine Accepts.bind (resolveSuperclass_accepts freshSuperclass before) fun resolved =>
    .of_fact ?_
  obtain ⟨_, parent⟩ := resolved
  rintro ⟨rfl, found⟩
  refine Accepts.bind (declare_class_accepts freshName before) fun declared => .of_fact ?_
  rintro ⟨rfl, free⟩
  have inner : Accepts (· = before.bindClass name)
      (within .classBody name.name (declareMembers (parent.subclass name.name) members))
      fun declared state =>
        (MembersAdded before.hierarchy (parent.subclass name.name) members declared.1 ∧
          declared.2 = members.map Decl.heading) ∧ state = before.bindClass name := by
    rintro state rfl clean
    refine ⟨?_, eq_of_reported (Has.ran (within .classBody name.name (declareMembers _ members)) _)
      clean⟩
    exact (declareMembers_adds fresh { before.bindClass name with
      scope := (before.bindClass name).scope.enter .classBody name.name } rfl clean).1
  refine Accepts.bind inner fun declared => .of_fact ?_
  obtain ⟨info, headings⟩ := declared
  rintro ⟨added, rfl⟩ state rfl clean
  exact ⟨free, rfl, parent, info, found, added, rfl⟩

end Check

/-! ## Sound classes -/

theorem ClassInfo.Sound.addAttribute {info : ClassInfo} (sound : info.Sound) (name : String)
    {type : ValueType} (known : type.Known) :
    ClassInfo.Sound { info with attributes := info.attributes.insert name type } := by
  refine ⟨fun other found listed => ?_, sound.methods, sound.constructor⟩
  rw [Table.find?_insert] at listed
  split at listed
  · cases listed
    exact known
  · exact sound.attributes other found listed

theorem ClassInfo.Sound.addMethod {info : ClassInfo} (sound : info.Sound) (name : String)
    {signature : Signature} (known : signature.type.Known) :
    ClassInfo.Sound { info with methods := info.methods.insert name signature } := by
  refine ⟨sound.attributes, fun other found listed => ?_, ?_⟩
  · rw [Table.find?_insert] at listed
    split at listed
    · cases listed
      exact known
    · exact sound.methods other found listed
  · rw [Table.find?_insert]
    split
    · rfl
    · exact sound.constructor

theorem ClassHierarchy.Sound.add {hierarchy : ClassHierarchy} (sound : hierarchy.Sound)
    {info : ClassInfo} (new : info.Sound) : (hierarchy.add info).Sound := by
  intro name found listed
  rw [ClassHierarchy.find?_add] at listed
  split at listed
  · cases listed
    exact new
  · exact sound name found listed

theorem ClassHierarchy.find?_add_isSome (hierarchy : ClassHierarchy) (info : ClassInfo)
    {name : String} (listed : (hierarchy.find? name).isSome) :
    ((hierarchy.add info).find? name).isSome := by
  rw [ClassHierarchy.find?_add]
  split
  · rfl
  · exact listed

/-- More classes do not make bindings unsound. -/
theorem Scope.Sound.add {hierarchy : ClassHierarchy} {scope : Scope}
    (sound : scope.Sound hierarchy) (info : ClassInfo) : scope.Sound (hierarchy.add info) :=
  fun frame among name binding found =>
    let bound := sound frame among name binding found
    ⟨bound.known, fun isClass => hierarchy.find?_add_isSome info (bound.listed isClass)⟩

/-- The classes and the bindings in scope are sound, and no function is at hand. -/
structure CheckState.Settled (state : CheckState) : Prop where
  /-- The classes are sound. -/
  classes : state.hierarchy.Sound
  /-- The bindings are sound. -/
  sound : CheckState.Sound state.hierarchy none state

/-- A class with sound members stays sound when a member is added. -/
theorem MemberAdded.sound {hierarchy : ClassHierarchy} {info own : ClassInfo} {decl : Decl}
    (added : MemberAdded hierarchy info decl own) (sound : info.Sound) : own.Sound := by
  cases added with
  | ofAttribute _ => exact sound.addAttribute _ (WrittenType.denoted_known _)
  | ofMethod _ => exact sound.addMethod _ (FunctionHeading.type_known _)
  | unnamed _ => exact sound

namespace Check

variable {α : Type}

theorem Establishes.settled {action : Check α} {good : α → Prop}
    (each : ∀ hierarchy, Establishes (CheckState.Sound hierarchy none) action good) :
    Establishes CheckState.Settled action good := by
  intro state settled clean
  obtain ⟨holds, after⟩ := each state.hierarchy state settled.sound clean
  exact ⟨holds, after.classes ▸ settled.classes, after.classes ▸ after⟩

/-! ## The first pass -/

theorem declareClass_establishes {name superclass : Identifier} {members : List Decl}
    (freshName : name.info.error = none) (freshSuperclass : superclass.info.error = none)
    (fresh : ∀ decl ∈ members, decl.outline.Fresh) :
    Establishes CheckState.Settled (declareClass name superclass members) fun heading =>
      heading = .ofClass name superclass (members.map Decl.heading) := by
  intro state settled clean
  obtain ⟨-, heading, parent, info, found, added, after⟩ :=
    declareClass_adds freshName freshSuperclass fresh state state rfl clean
  have soundParent := settled.classes _ _ (find?_of_superclass found)
  have sound : info.Sound := added.keeps MemberAdded.sound
    ⟨soundParent.attributes, soundParent.methods, soundParent.constructor⟩
  have named : info.name = name.name := added.named.1
  refine ⟨heading, ?_⟩
  rw [after]
  refine ⟨settled.classes.add sound, rfl, settled.sound.result,
    (settled.sound.scope.add info).define ⟨ValueType.known_classType _, fun _ => ?_⟩⟩
  rw [ClassHierarchy.find?_add]
  simp [named]

/-- Declaring at the top level without finding a problem keeps the classes sound. -/
theorem declareGlobals_establishes {decls : List Decl}
    (fresh : ∀ decl ∈ decls, decl.outline.Fresh) :
    Establishes CheckState.Settled (declareGlobals decls) fun headings =>
      headings = decls.map Decl.fullHeading := by
  have single (decl : Decl) (fresh : decl.outline.Fresh) :
      Establishes CheckState.Settled (declareGlobal decl) fun heading =>
        heading = decl.fullHeading := by
    cases decl with
    | varDef info var value =>
        simp only [Decl.outline, Outline.all_node, Outline.allIn_cons] at fresh
        refine (Establishes.settled fun _ => declareVar_establishes fresh.2.1).bind ?_
        rintro _ rfl
        exact .pure rfl
    | funcDef info heading declarations statements recovered =>
        simp only [Decl.outline, Outline.all_node, Outline.allIn_append] at fresh
        refine (Establishes.settled fun _ => declareFunction_establishes fresh.2.1).bind ?_
        rintro _ rfl
        exact .pure rfl
    | classDef info name superclass members =>
        simp only [Decl.outline, Outline.all_node, Outline.allIn_cons, Decl.allIn_outlines,
          Identifier.fresh_outline_iff] at fresh
        exact declareClass_establishes fresh.2.1.1 fresh.2.2.1.1 fresh.2.2.2
    | _ => exact .pure rfl
  induction decls with
  | nil => exact .pure rfl
  | cons decl rest ih =>
      obtain ⟨first, others⟩ := List.forall_mem_cons.mp fresh
      refine (single decl first).bind ?_
      rintro _ rfl
      refine (ih others).bind ?_
      rintro _ rfl
      exact .pure rfl

end Check

/-! ## Programs -/

theorem ClassHierarchy.initial_sound : ClassHierarchy.initial.Sound := by
  have constructor : ∀ name signature, initialMethods.find? name = some signature →
      signature.type.Known := by
    intro name signature found
    simp only [initialMethods, Table.find?, List.lookup_cons, List.lookup_nil] at found
    split at found
    · cases found
      simp [Signature.type]
    · cases found
  have special (name : String) : (specialInfo name).Sound :=
    ⟨(fun _ _ found => by cases found), constructor, rfl⟩
  have object : objectInfo.Sound := ⟨(fun _ _ found => by cases found), constructor, rfl⟩
  have nothing : Sound ⟨{}⟩ := fun _ _ found => by cases found
  exact (((nothing.add object).add (special _)).add (special _)).add (special _)

theorem Scope.Sound.defineAll {hierarchy : ClassHierarchy} {scope : Scope}
    (sound : scope.Sound hierarchy) {bindings : List Binding}
    (new : ∀ binding ∈ bindings, binding.Sound hierarchy binding.name) :
    (bindings.foldl Scope.define scope).Sound hierarchy :=
  Scope.All.defineAll sound new

theorem ClassHierarchy.builtinBindings_sound :
    ∀ binding ∈ initial.builtinBindings, binding.Sound initial binding.name := by
  intro binding among
  rcases List.mem_append.mp among with isClass | isFunction
  · obtain ⟨info, listed, rfl⟩ := List.mem_map.mp isClass
    refine ⟨ValueType.known_classType _, fun _ => ?_⟩
    have all : ∀ info ∈ initial.classes.values, (initial.find? info.name).isSome := by decide
    exact all info listed
  · obtain ⟨⟨name, signature⟩, listed, rfl⟩ := List.mem_map.mp isFunction
    refine ⟨?_, nofun⟩
    simp only [builtinFunctions, List.mem_cons, Prod.mk.injEq, List.not_mem_nil, or_false] at listed
    rcases listed with ⟨-, rfl⟩ | ⟨-, rfl⟩ | ⟨-, rfl⟩ <;> simp [Signature.type]

/-- Before the declarations of a program everything is sound. -/
theorem Program.announced_settled (program : Program) : program.announced.Settled := by
  have nothing : Scope.Sound ClassHierarchy.initial {} := by
    intro frame among
    obtain rfl := List.mem_singleton.mp among
    exact nofun
  rw [announced_eq]
  exact ⟨ClassHierarchy.initial_sound, rfl, rfl,
    nothing.defineAll ClassHierarchy.builtinBindings_sound⟩

/--
A program that is read and accepted obeys the typing rules, given the classes known after its
declarations, and every type recorded in it is known.
-/
theorem Program.wellTyped_of_accepted {file source : String} {program : Program}
    (read : Program.ofSource file source = .ok program) (accepted : program.check.errors = []) :
    program.check.WellTyped program.hierarchy ∧ program.check.outline.All Label.Known := by
  obtain ⟨readClean, clean⟩ := program.errors_check_eq_nil_iff.mp accepted
  have raw := Program.raw_of_ofSource read
  have rawDecls : ∀ decl ∈ program.declarations, ∃ place, decl.Raw False place := fun decl among =>
    ⟨_, (raw.declarations decl among).mono fun spoiled => spoiled readClean⟩
  have grown : program.checkedDeclarations.2.problems <+: program.checkedStatements.2.problems :=
    @Check.Has.ran _ CheckState.Grown (Check.checkStmts program.statements) _ _
  have declarationsClean := List.prefix_nil.mp (clean ▸ grown)
  have grownBefore : program.declared.2.problems <+: program.checkedDeclarations.2.problems :=
    @Check.Has.ran _ CheckState.Grown (Check.checkDecls program.declarations program.declared.1) _ _
  have declaredClean := List.prefix_nil.mp (declarationsClean ▸ grownBefore)
  obtain ⟨headings, settled⟩ := Check.declareGlobals_establishes
    (fun decl among => (raw.declarations decl among).fresh) program.announced
    program.announced_settled declaredClean
  obtain ⟨declarations, sound⟩ := (Check.checkDecl_establishes settled.classes).2
    program.declarations program.declared.1 rawDecls headings none program.declared.2 settled.sound
    declarationsClean
  obtain ⟨statements, -⟩ := (Check.checkStmt_establishes settled.classes).2 program.statements
    raw.statements program.checkedDeclarations.2 sound clean
  refine ⟨⟨fun decl among => (declarations decl among).wellTyped,
    fun stmt among => (statements stmt among).wellTyped⟩, ?_⟩
  simp only [Program.outline, Outline.all_node, Outline.allIn_append, known_label_iff, true_and,
    Decl.allIn_outlines, Stmt.allIn_outlines]
  exact ⟨fun decl among => (declarations decl among).known,
    fun stmt among => (statements stmt among).known⟩

/-- A program that puts the result of a function in a list and loops over the list. -/
def loopSource : String :=
  "def f(x: int) -> int:\n    return x + 1\nx: int = 0\nfor x in [f(2)]:\n    print(x)\n"

/-- The program with the loop is accepted, hence well typed. -/
theorem Program.wellTyped_loopSource :
    ∃ program, Program.ofSource "loop.choc" loopSource = .ok program ∧
      program.check.errors = [] ∧ program.check.WellTyped program.hierarchy ∧
      program.check.outline.All Label.Known := by
  obtain ⟨program, read, quiet⟩ : ∃ program, Program.ofSource "loop.choc" loopSource =
      .ok program ∧ program.check.errors.isEmpty = true :=
    exists_ok_of_any (by decide +kernel)
  have accepted : program.check.errors = [] := List.isEmpty_iff.mp quiet
  exact ⟨program, read, accepted, Program.wellTyped_of_accepted read accepted⟩

end ChocoLang
