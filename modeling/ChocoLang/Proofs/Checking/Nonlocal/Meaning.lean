import ChocoLang.Proofs.Checking.Bare.Declaration
import ChocoLang.Proofs.Checking.Headings
import ChocoLang.Proofs.Syntax.Labels

/-!
# What names mean in functions

Also where a program is in error it is settled what a name means in a function.  The function may
bind the name to a variable, a parameter or a function of its own, or to a variable from outside,
provided that this is one.  Of several declarations the first one that can be followed counts, and
the name of a class is never bound.  What a function does not bind means in it what it means around
the function.

While the body of a function is checked, there is a frame for each function around it, and the
frames bind just the names that have a meaning in these functions.
-/

namespace ChocoLang

/-! ## Meanings -/

/-- What a name means: the sort of thing it is bound to, and the type of that. -/
structure Meaning where
  /-- What the name is bound to. -/
  kind : BindingKind
  /-- The type of what the name is bound to. -/
  type : ValueType
deriving DecidableEq, Repr

/-- What the name of a binding means by it. -/
def Binding.meaning (binding : Binding) : Meaning := ⟨binding.kind, binding.type⟩

/-- A variable of an allowed kind, as it is meant where it is referred to. -/
def Meaning.referred? (allowed : List BindingKind) (kind : BindingKind) (meaning : Meaning) :
    Option Meaning :=
  if allowed.contains meaning.kind then some { meaning with kind } else none

/-- What a declaration says about its name. -/
inductive Role where
  /-- The name is bound to what is declared. -/
  | own (meaning : Meaning)
  /-- The name is that of a variable of the program. -/
  | global
  /-- The name is that of a variable or parameter of a function around. -/
  | nonlocal

/-- What the name means by a declaration, given what it means in the program and around it. -/
def Role.meaning? (global around : Option Meaning) : Role → Option Meaning
  | .own meaning => some meaning
  | .global => global.bind (Meaning.referred? [.ownVariable] .globalReference)
  | .nonlocal => around.bind (Meaning.referred? [.ownVariable, .parameter] .nonlocalReference)

/-- The names that are declared in a body, each with what is said about it. -/
abbrev Roles := List (String × Role)

/-- What the name means by the first declaration that can be followed. -/
def Roles.meaning? (roles : Roles) (name : String) (global around : Option Meaning) :
    Option Meaning :=
  roles.findSome? fun role => if role.1 = name then role.2.meaning? global around else none

/-! ## Declarations -/

section

variable (classNames : List String)

/-- A parameter or variable is bound with the type written for it. -/
def TypedVar.role (kind : BindingKind) (var : TypedVar) : String × Role :=
  (var.identifier.name, .own ⟨kind, var.written.resolved classNames⟩)

/-- What a declaration says about its name. -/
def Decl.role : Decl → String × Role
  | .varDef _ var _ => var.role classNames .ownVariable
  | .funcDef _ heading _ _ _ =>
    (heading.name.name, .own ⟨.function, (heading.resolved classNames).type⟩)
  | .classDef _ name _ _ => (name.name, .own ⟨.classDef, .classType name.name⟩)
  | .globalDecl _ name => (name.name, .global)
  | .nonlocalDecl _ name => (name.name, .nonlocal)

/-- What the parameters of a function and the declarations in its body say about their names. -/
def FunctionHeading.roles (heading : FunctionHeading) (declarations : List Decl) : Roles :=
  heading.params.map (TypedVar.role classNames .parameter) ++
    declarations.map (Decl.role classNames)

end

/-- What is known of the names of a program outside of all functions. -/
structure Scoping where
  /-- The names of the classes, which written types may consist of and no function binds. -/
  classNames : List String
  /-- What is declared at the top level, or present in every program. -/
  program : Roles

namespace Scoping

variable (scoping : Scoping)

/-- What a name means at the top level. -/
def global? (name : String) : Option Meaning := scoping.program.meaning? name none none

/-- What a function binds a name to, given what the name means around the function. -/
def bound? (name : String) (around : Option Meaning) (roles : Roles) : Option Meaning :=
  if name ∈ scoping.classNames then none else roles.meaning? name (scoping.global? name) around

/-- What a name means in nested functions: the innermost one that binds the name decides. -/
def meaning? (name : String) : List Roles → Option Meaning
  | [] => none
  | roles :: around =>
    (scoping.bound? name (meaning? name around) roles).or (meaning? name around)

end Scoping

/-! ## One declaration more -/

section

variable {scoping : Scoping} {name other : String} {global around : Option Meaning} {roles : Roles}
  {role : Role}

theorem Roles.meaning?_append_one :
    Roles.meaning? (roles ++ [(other, role)]) name global around =
      (Roles.meaning? roles name global around).or
        (if other = name then role.meaning? global around else none) := by
  simp [meaning?, List.findSome?_append]

theorem Scoping.bound?_append_one :
    scoping.bound? name around (roles ++ [(other, role)]) =
      (scoping.bound? name around roles).or
        (if other = name ∧ name ∉ scoping.classNames then
          role.meaning? (scoping.global? name) around else none) := by
  unfold bound?
  rw [Roles.meaning?_append_one]
  by_cases ofClass : name ∈ scoping.classNames <;> simp [ofClass]

/-- The name of a class means nothing in functions. -/
theorem Scoping.not_mem_classNames {functions : List Roles} {meaning : Meaning}
    (found : scoping.meaning? name functions = some meaning) : name ∉ scoping.classNames := by
  intro ofClass
  induction functions with
  | nil => cases found
  | cons roles functions ih =>
      rw [meaning?, bound?, if_pos ofClass, Option.none_or] at found
      exact ih found

end

/-! ## Frames -/

/-- The frame binds the names that have a meaning, each to what it means. -/
def Frame.Shows (frame : Frame) (meaning? : String → Option Meaning) : Prop :=
  ∀ name, (frame.find? name).map Binding.meaning = meaning? name

/-- A name that was free means what it is bound to. -/
theorem Frame.Shows.define {frame : Frame} {before after : String → Option Meaning}
    (shows : frame.Shows before) (binding : Binding)
    (own : after binding.name = some binding.meaning)
    (others : ∀ name, name ≠ binding.name → after name = before name) :
    (frame.define binding).Shows after := by
  intro name
  rw [Frame.find?_define]
  split
  · next same =>
      obtain rfl := beq_iff_eq.mp same
      exact own.symm
  · next differ => rw [others name (by simpa using differ), shows name]

/-- The frames are those of nested functions, and each shows what names mean in its function. -/
inductive Scoping.Shown (scoping : Scoping) : List Frame → List Roles → Prop where
  | nil : Shown scoping [] []
  | cons {frame : Frame} {frames : List Frame} {roles : Roles} {around : List Roles}
      (kind : frame.kind = .function)
      (shows : frame.Shows fun name => scoping.bound? name (scoping.meaning? name around) roles)
      (rest : Shown scoping frames around) : Shown scoping (frame :: frames) (roles :: around)

/-- What is found in the frames of functions is what the name means in the functions. -/
theorem Scoping.Shown.findSome? {scoping : Scoping} {frames : List Frame} {functions : List Roles}
    (shown : scoping.Shown frames functions) {name : String} {look : Frame → Option Binding}
    (finds : ∀ frame : Frame, frame.kind = .function → look frame = frame.find? name) :
    (frames.findSome? look).map Binding.meaning = scoping.meaning? name functions := by
  induction shown with
  | nil => rfl
  | @cons frame frames roles around kind shows rest ih =>
      have own : _ = scoping.bound? name (scoping.meaning? name around) roles := shows name
      rw [List.findSome?_cons, finds frame kind, meaning?, ← own]
      cases frame.find? name with
      | none => simpa using ih
      | some binding => rfl

/-- The state between two declarations in a function shows what names mean in it and around it. -/
structure CheckState.Shows (scoping : Scoping) (functions : List Roles) (state : CheckState) :
    Prop where
  /-- The frames are those of the functions. -/
  functions : scoping.Shown state.scope.inner functions
  /-- The outermost frame is that of the program. -/
  program : state.scope.outermost.Shows scoping.global?
  /-- Names of classes are not bound in functions. -/
  classNames : state.classNames = scoping.classNames
  /-- Written types consist of the names of classes. -/
  typeNames : state.typeNames = scoping.classNames

namespace CheckState.Shows

variable {scoping : Scoping} {functions around : List Roles} {roles : Roles} {state : CheckState}

theorem reported {after : CheckState} (shows : state.Shows scoping functions)
    (reported : state.Reported after) : after.Shows scoping functions := by
  obtain ⟨found, rfl⟩ := reported
  exact ⟨shows.functions, shows.program, shows.classNames, shows.typeNames⟩

/-- At first a function binds no name. -/
theorem enter (shows : state.Shows scoping functions) (title : String) :
    ({ state with scope := state.scope.enter .function title } : CheckState).Shows scoping
      ([] :: functions) := by
  refine ⟨.cons rfl (fun name => ?_) shows.functions, shows.program, shows.classNames,
    shows.typeNames⟩
  simp only [Scoping.bound?]
  split <;> rfl

/-- In nested functions a name is read as what it means there, or else at the top level. -/
theorem lookup (shows : state.Shows scoping functions)
    (program : state.scope.outermost.kind = .program) (name : String) :
    (state.scope.lookup name).map Binding.meaning =
      (scoping.meaning? name functions).or (scoping.global? name) := by
  have outermost : Scope.readable? name state.scope.outermost =
      state.scope.outermost.find? name := by
    simp [Scope.readable?, program]
  have inner : (state.scope.inner.findSome? (Scope.readable? name)).map Binding.meaning =
      scoping.meaning? name functions :=
    shows.functions.findSome? fun frame kind => if_neg (by simp [kind])
  rw [← inner, ← shows.program name]
  unfold Scope.lookup Scope.frames
  rw [List.findSome?_append, Option.map_or, List.findSome?_cons, outermost]
  cases state.scope.outermost.find? name <;> rfl

theorem lookupGlobal (shows : state.Shows scoping functions) (name : String) :
    (state.scope.lookupGlobal name).map Binding.meaning = scoping.global? name :=
  shows.program name

/-- Outside of branches a variable is looked up in the functions around the one at hand. -/
theorem lookupNonlocal (shows : state.Shows scoping (roles :: around)) (name : String) :
    (state.scope.lookupNonlocal name).map Binding.meaning = scoping.meaning? name around := by
  obtain ⟨⟨frames, outermost⟩, _⟩ := state
  obtain ⟨functions, -, -, -⟩ := shows
  cases functions with
  | cons kind _ rest =>
      simp only [Scope.lookupNonlocal, Scope.enclosing, kind, List.dropWhile_cons,
        reduceCtorEq, beq_iff_eq, if_false, List.tail_cons]
      exact rest.findSome? fun frame ofFunction => if_pos ofFunction

theorem lookupLocal (shows : state.Shows scoping (roles :: around)) (name : String) :
    state.scope.body.kind = .function ∧ (state.scope.lookupLocal name).map Binding.meaning =
      scoping.bound? name (scoping.meaning? name around) roles := by
  obtain ⟨⟨frames, outermost⟩, _⟩ := state
  obtain ⟨functions, -, -, -⟩ := shows
  cases functions with
  | cons kind shows _ =>
      have own : _ = scoping.bound? name (scoping.meaning? name around) roles := shows name
      rw [← own]
      simp [Scope.lookupLocal, Scope.body, Scope.enclosing, kind]

end CheckState.Shows

/-!
## Functions in functions

A function may stand in another one.  What its name and those of its parameters mean is told from
the tree: from what the functions around it declare, from the innermost one outward, and from what
is declared outside of all of them.  Checking records errors and types in a tree, and leaves every
name with its meaning.
-/

/-- A function with the functions around it, innermost first. -/
structure NestedDef where
  /-- The function. -/
  function : FunctionDef
  /-- The functions around it; a class around it does not count. -/
  around : List FunctionDef

mutual

/-- The functions that a declaration defines in functions, at any depth. -/
def Decl.nestedDefs (around : List FunctionDef) : Decl → List NestedDef
  | .funcDef info heading declarations statements recovered =>
    let function : FunctionDef := ⟨info, heading, declarations, statements, recovered⟩
    ⟨function, around⟩ :: nestedDefsIn (function :: around) declarations
  | .classDef _ _ _ members => nestedDefsIn around members
  | .varDef _ _ _ | .globalDecl _ _ | .nonlocalDecl _ _ => []

/-- The functions that declarations define in functions, at any depth. -/
def nestedDefsIn (around : List FunctionDef) : List Decl → List NestedDef
  | [] => []
  | decl :: rest => decl.nestedDefs around ++ nestedDefsIn around rest

end

/-- The functions of a program, each with the functions around it. -/
def Program.nestedDefs (program : Program) : List NestedDef :=
  nestedDefsIn [] program.declarations

mutual

/-- These are the functions that are defined. -/
theorem Decl.map_nestedDefs (around : List FunctionDef) : (decl : Decl) →
    (decl.nestedDefs around).map NestedDef.function = decl.functionDefs
  | .funcDef _ _ declarations _ _ => by
      simp [Decl.nestedDefs, Decl.functionDefs, map_nestedDefsIn _ declarations]
  | .classDef _ _ _ members => map_nestedDefsIn around members
  | .varDef _ _ _ | .globalDecl _ _ | .nonlocalDecl _ _ => rfl

theorem map_nestedDefsIn (around : List FunctionDef) : (decls : List Decl) →
    (nestedDefsIn around decls).map NestedDef.function = functionDefsIn decls
  | [] => rfl
  | decl :: rest => by
      rw [nestedDefsIn, List.map_append, decl.map_nestedDefs, map_nestedDefsIn around rest,
        functionDefsIn]

end

mutual

/-- What is read in a function is read in the declaration that defines it. -/
theorem Decl.readsIn_subset {function : FunctionDef} : (decl : Decl) →
    function ∈ decl.functionDefs → Stmt.readsIn function.statements ⊆ decl.reads
  | .funcDef _ _ declarations _ _ => by
      intro among
      rw [Decl.functionDefs, List.mem_cons] at among
      rcases among with rfl | inside
      · exact List.subset_append_right _ _
      · have within := readsIn_subset_in declarations inside
        exact List.Subset.trans within (List.subset_append_left _ _)
  | .classDef _ _ _ members => readsIn_subset_in members
  | .varDef _ _ _ | .globalDecl _ _ | .nonlocalDecl _ _ => nofun

theorem readsIn_subset_in {function : FunctionDef} : (decls : List Decl) →
    function ∈ functionDefsIn decls → Stmt.readsIn function.statements ⊆ Decl.readsIn decls
  | [] => nofun
  | decl :: rest => by
      intro among
      rw [functionDefsIn, List.mem_append] at among
      rcases among with first | later
      · exact List.Subset.trans (decl.readsIn_subset first) (List.subset_append_left _ _)
      · exact List.Subset.trans (readsIn_subset_in rest later) (List.subset_append_right _ _)

end

/-! ## What names mean -/

/-- What a function declares. -/
def FunctionDef.roles (classNames : List String) (function : FunctionDef) : Roles :=
  function.heading.roles classNames function.declarations

/-- What is present in every program. -/
def builtinRoles : Roles :=
  ClassHierarchy.initial.builtinBindings.map fun binding => (binding.name, .own binding.meaning)

namespace Program

/-- What names mean outside of all functions of a program. -/
def scoping (program : Program) : Scoping where
  classNames := program.classNames
  program := builtinRoles ++ program.declarations.map (Decl.role program.classNames)

/-- What a name means around a function. -/
def meaningAround? (program : Program) (nested : NestedDef) (name : String) : Option Meaning :=
  program.scoping.meaning? name (nested.around.map (FunctionDef.roles program.classNames))

end Program

/-! ## Bare trees -/

section

variable (classNames : List String)

theorem WrittenType.resolved_bare (written : WrittenType) :
    written.bare.resolved classNames = written.resolved classNames := by
  induction written with
  | named info name => rfl
  | list info element ih => exact congrArg ValueType.list ih

theorem TypedVar.role_bare (kind : BindingKind) (var : TypedVar) :
    var.bare.role classNames kind = var.role classNames kind := by
  simp [role, relabel, Identifier.relabel, WrittenType.resolved_bare]

theorem FunctionHeading.resolved_bare (heading : FunctionHeading) :
    heading.bare.resolved classNames = heading.resolved classNames := by
  simp [resolved, relabel, TypedVar.relabel, WrittenType.resolved_bare, Function.comp_def]

theorem Decl.role_bare (decl : Decl) : decl.bare.role classNames = decl.role classNames := by
  cases decl with
  | varDef info var value => exact var.role_bare classNames .ownVariable
  | funcDef info heading declarations statements recovered =>
      have signature := heading.resolved_bare classNames
      simp only [role, relabel, signature]
      rfl
  | classDef | globalDecl | nonlocalDecl => rfl

/-- Declarations with the same bare trees say the same. -/
theorem roles_of_bare {decls others : List Decl}
    (same : decls.map Decl.bare = others.map Decl.bare) :
    decls.map (Decl.role classNames) = others.map (Decl.role classNames) := by
  have mapped := congrArg (List.map (Decl.role classNames)) same
  simpa [Function.comp_def, Decl.role_bare] using mapped

theorem params_of_bare {vars others : List TypedVar}
    (same : vars.map TypedVar.bare = others.map TypedVar.bare) (kind : BindingKind) :
    vars.map (TypedVar.role classNames kind) = others.map (TypedVar.role classNames kind) := by
  have mapped := congrArg (List.map (TypedVar.role classNames kind)) same
  simpa [Function.comp_def, TypedVar.role_bare] using mapped

theorem definedClasses_of_bare {decls others : List Decl}
    (same : decls.map Decl.bare = others.map Decl.bare) :
    definedClasses decls = definedClasses others := by
  have bare (decls : List Decl) : definedClasses (decls.map Decl.bare) = definedClasses decls := by
    unfold definedClasses
    rw [List.filterMap_map]
    congr
    funext decl
    cases decl <;> rfl
  rw [← bare decls, same, bare]

end

/-- Checking leaves the meanings of names outside of functions as they are. -/
theorem Program.scoping_check (program : Program) : program.check.scoping = program.scoping := by
  have same : program.check.declarations.map Decl.bare = program.declarations.map Decl.bare :=
    congrArg Program.declarations program.bare_check
  unfold scoping classNames
  rw [definedClasses_of_bare same, roles_of_bare _ same]

end ChocoLang
