import ChocoLang.Proofs.Syntax.Paths
import ChocoLang.Proofs.Typing.Narrowing
import ChocoLang.Proofs.Typing.Rules

/-!
# Lexical scoping

What a variable means is read off the tree.  Around each use of a name lie functions and, outside
all of them, the program.  The innermost function that declares the name decides; it declares its
parameters and whatever is declared in its body, and it may refer to the program or to a function
around it.  A class declares nothing that is meant by a name alone.
-/

namespace ChocoLang

/-! ## Declarations -/

/-- What a name is declared as. -/
inductive Declared where
  /-- A variable or parameter with its written type. -/
  | own (written : WrittenType)
  /-- A variable of the program. -/
  | global
  /-- A variable or parameter of a function around. -/
  | nonlocal
  /-- A function or class. -/
  | other

/-- The written type of what is declared as a variable. -/
def Declared.written? : Declared → Option WrittenType
  | .own written => some written
  | _ => none

/-- The names declared in a body, each with what it is declared as. -/
abbrev Declarations := List (String × Declared)

/-- A parameter or variable is declared with its written type. -/
def TypedVar.declared (var : TypedVar) : String × Declared :=
  (var.identifier.name, .own var.written)

/-- The name that a declaration declares in the body it stands in. -/
def Decl.declared : Decl → String × Declared
  | .varDef _ var _ => var.declared
  | .funcDef _ heading _ _ _ => (heading.name.name, .other)
  | .classDef _ name _ _ => (name.name, .other)
  | .globalDecl _ name => (name.name, .global)
  | .nonlocalDecl _ name => (name.name, .nonlocal)

/-- What the parameters of a function and the declarations in its body declare. -/
def FunctionHeading.declares (heading : FunctionHeading) (declarations : List Decl) :
    Declarations :=
  heading.params.map TypedVar.declared ++ declarations.map Decl.declared

/-- What lies around a place in a program. -/
structure Context where
  /-- What the program declares. -/
  program : Declarations
  /-- What the functions around the place declare, innermost first. -/
  functions : List Declarations := []
  /-- The conditions that hold in the body at hand. -/
  tests : List Expr := []

namespace Context

variable (around : Context)

/-- The context in the body of a function. -/
def inside (function : Declarations) : Context :=
  { program := around.program, functions := function :: around.functions }

/-- The context where a condition holds. -/
def holding (condition : Expr) : Context :=
  { around with tests := condition :: around.tests }

/-- The context without regard to conditions. -/
def untested : Context := { around with tests := [] }

/-- A condition says that the variable is absent. -/
def SaysAbsent (name : String) : Prop := ∃ condition ∈ around.tests, condition.SaysAbsent name

end Context

/-- The type written for a variable of the program. -/
def programType? (program : Declarations) (name : String) : Option WrittenType :=
  (program.lookup name).bind Declared.written?

/-- The type written for a variable in the innermost of the functions that declares the name. -/
def functionType? (functions : List Declarations) (name : String) : Option WrittenType :=
  (functions.findSome? (·.lookup name)).bind Declared.written?

/-- The type written where the name is declared that is meant in nested functions. -/
def selectedType? (program : Declarations) (name : String) : List Declarations → Option WrittenType
  | [] => programType? program name
  | function :: outer =>
    match function.lookup name with
    | none => selectedType? program name outer
    | some .global => programType? program name
    | some .nonlocal => functionType? outer name
    | some declared => declared.written?

/-! ## Uses -/

/-- A name that is read, assigned or bound by a loop, with what lies around it. -/
structure Use where
  /-- The name. -/
  identifier : Identifier
  /-- What lies around the name. -/
  around : Context

/--
The type recorded at the name is the one written where the name is declared, unless a condition says
that the variable is absent.
-/
def Use.Lexical (use : Use) : Prop :=
  use.around.SaysAbsent use.identifier.name ∧ use.identifier.info.type = some .none ∨
    ∃ written, selectedType? use.around.program use.identifier.name use.around.functions =
      some written ∧ use.identifier.info.type = some written.denoted

mutual

/-- The names that are read in an expression, those that are called left out. -/
def Expr.uses (around : Context) : Expr → List Use
  | .name identifier => [{ identifier, around }]
  | .integer _ _ | .boolean _ _ | .string _ _ | .none _ => []
  | .list _ elements => Expr.usesIn around elements
  | .binary _ left _ right => left.uses around ++ right.uses around
  | .unary _ _ operand => operand.uses around
  | .conditional _ condition thenExpr elseExpr =>
    condition.uses around ++ thenExpr.uses (around.holding condition) ++ elseExpr.uses around
  | .member _ object _ => object.uses around
  | .index _ container position => container.uses around ++ position.uses around
  | .call _ _ args => Expr.usesIn around args
  | .methodCall _ _ object _ args => object.uses around ++ Expr.usesIn around args

/-- The names that are read in expressions. -/
def Expr.usesIn (around : Context) : List Expr → List Use
  | [] => []
  | expr :: rest => expr.uses around ++ Expr.usesIn around rest

end

/-- A name that is assigned; what conditions say of the variable does not matter. -/
def Context.assigned (around : Context) (identifier : Identifier) : Use :=
  { identifier, around := around.untested }

/-- The name that is assigned if the target is one, and otherwise the names that are read in it. -/
def Expr.targetUses (around : Context) : Expr → List Use
  | .name identifier => [around.assigned identifier]
  | target => target.uses around

mutual

/-- The names that are read or assigned in a statement. -/
def Stmt.uses (around : Context) : Stmt → List Use
  | .expr _ value => value.uses around
  | .assign _ targets value => targets.flatMap (Expr.targetUses around) ++ value.uses around
  | .ifElse _ condition thenBody elseBody =>
    condition.uses around ++ Stmt.usesIn (around.holding condition) thenBody
      ++ Stmt.usesIn around elseBody
  | .whileLoop _ condition body => condition.uses around ++ Stmt.usesIn around body
  | .forLoop _ element iterable body =>
    around.assigned element :: (iterable.uses around ++ Stmt.usesIn around body)
  | .ret _ value => value.elim [] (Expr.uses around)

/-- The names that are read or assigned in statements. -/
def Stmt.usesIn (around : Context) : List Stmt → List Use
  | [] => []
  | stmt :: rest => stmt.uses around ++ Stmt.usesIn around rest

end

mutual

/-- The names that are read or assigned in a declaration. -/
def Decl.uses (around : Context) : Decl → List Use
  | .varDef _ _ value => value.uses around
  | .funcDef _ heading declarations statements _ =>
    Decl.usesIn (around.inside (heading.declares declarations)) declarations
      ++ Stmt.usesIn (around.inside (heading.declares declarations)) statements
  | .classDef _ _ _ members => Decl.usesIn around members
  | .globalDecl _ _ | .nonlocalDecl _ _ => []

/-- The names that are read or assigned in declarations. -/
def Decl.usesIn (around : Context) : List Decl → List Use
  | [] => []
  | decl :: rest => decl.uses around ++ Decl.usesIn around rest

end

/-- What the program declares lies around all of it. -/
def Program.context (program : Program) : Context :=
  { program := program.declarations.map Decl.declared }

/-- The names that are read or assigned in a program. -/
def Program.uses (program : Program) : List Use :=
  Decl.usesIn program.context program.declarations
    ++ Stmt.usesIn program.context program.statements

end ChocoLang

/-!
## Scopes and contexts

While a program is checked its scope mirrors the tree around the place at hand: there is a frame for
each function around the place, in their order, and each variable is bound in it to the type written
where the variable is declared, also when a function only refers to it.  So the scope answers what
the tree does.
-/

namespace ChocoLang

/-! ## Frames -/

/-- The binding of a name in the frame of a function is what the name is declared as. -/
inductive Declared.Binds (program : Declarations) (outer : List Declarations) (name : String)
    (binding : Binding) : Declared → Prop where
  /-- A variable or parameter is bound to its written type. -/
  | own {written : WrittenType}
      (kind : binding.kind = .ownVariable ∨ binding.kind = .parameter)
      (type : binding.type = written.denoted) : Binds program outer name binding (.own written)
  /-- A variable of the program is bound to the type written there. -/
  | global {written : WrittenType} (selected : programType? program name = some written)
      (kind : binding.kind = .globalReference) (type : binding.type = written.denoted) :
      Binds program outer name binding .global
  /-- A variable of a function around is bound to the type written there. -/
  | nonlocal {written : WrittenType} (selected : functionType? outer name = some written)
      (kind : binding.kind = .nonlocalReference) (type : binding.type = written.denoted) :
      Binds program outer name binding .nonlocal

/-- The frame binds what is declared, and variables to what they are declared as. -/
structure Frame.Mirrors (program : Declarations) (outer : List Declarations) (frame : Frame)
    (declarations : Declarations) : Prop where
  /-- What is declared is bound. -/
  bound : ∀ name declared, declarations.lookup name = some declared → (frame.find? name).isSome
  /-- A variable that is bound is declared. -/
  declared : ∀ name binding, frame.find? name = some binding → binding.kind.isVariable →
    ∃ declared, declarations.lookup name = some declared ∧
      declared.Binds program outer name binding

namespace Frame.Mirrors

variable {program : Declarations} {outer : List Declarations} {frame : Frame}
  {declarations : Declarations} {name : String}

theorem empty {kind : FrameKind} {title : String} :
    Frame.Mirrors program outer { kind, name := title } [] :=
  ⟨nofun, nofun⟩

theorem lookup_eq_none (mirrors : Frame.Mirrors program outer frame declarations)
    (free : frame.find? name = none) : declarations.lookup name = none := by
  cases found : declarations.lookup name with
  | none => rfl
  | some declared =>
      have bound := mirrors.bound name declared found
      rw [free] at bound
      cases bound

/-- A name that is free may be declared. -/
theorem define (mirrors : Frame.Mirrors program outer frame declarations) {binding : Binding}
    (free : frame.find? binding.name = none) {declared : Declared}
    (binds : binding.kind.isVariable → declared.Binds program outer binding.name binding) :
    Frame.Mirrors program outer (frame.define binding)
      (declarations ++ [(binding.name, declared)]) := by
  have undeclared := mirrors.lookup_eq_none free
  refine ⟨fun name found listed => ?_, fun name found bound isVariable => ?_⟩
  · rw [Frame.find?_define]
    split
    · rfl
    · next other =>
        rw [List.lookup_append, List.lookup_cons, Bool.eq_false_iff.mpr other] at listed
        exact mirrors.bound name found (by simpa using listed)
  · rw [Frame.find?_define] at bound
    split at bound
    · next same =>
        cases bound
        obtain rfl := beq_iff_eq.mp same
        exact ⟨declared, by simp [List.lookup_append, undeclared], binds isVariable⟩
    · obtain ⟨earlier, listed, binds⟩ := mirrors.declared name found bound isVariable
      exact ⟨earlier, by simp [List.lookup_append, listed], binds⟩

end Frame.Mirrors

/-- The frames are those of functions around a place, and each mirrors its function. -/
inductive Mirrored (program : Declarations) : List Frame → List Declarations → Prop where
  | nil : Mirrored program [] []
  | cons {frame : Frame} {frames : List Frame} {function : Declarations}
      {outer : List Declarations} (kind : frame.kind = .function)
      (mirrors : Frame.Mirrors program outer frame function)
      (rest : Mirrored program frames outer) :
      Mirrored program (frame :: frames) (function :: outer)

section

variable {program : Declarations} {frames : List Frame} {functions outer : List Declarations}
  {frame last : Frame} {name : String} {binding : Binding}

/-- In the frame of the program a variable has the type written for it. -/
theorem Frame.Mirrors.written (mirrors : Frame.Mirrors [] [] frame program)
    (found : frame.find? name = some binding) (isVariable : binding.kind.isVariable) :
    ∃ written, programType? program name = some written ∧ binding.type = written.denoted := by
  obtain ⟨declared, listed, binds⟩ := mirrors.declared name binding found isVariable
  cases binds with
  | own _ type => exact ⟨_, by simp [programType?, listed, Declared.written?], type⟩
  | global selected => cases selected
  | nonlocal selected => cases selected

/-- In the frame of a function a variable has the type that is selected there. -/
theorem Frame.Mirrors.selected {function : Declarations}
    (mirrors : Frame.Mirrors program outer frame function)
    (found : frame.find? name = some binding) (isVariable : binding.kind.isVariable) :
    ∃ written, selectedType? program name (function :: outer) = some written ∧
      binding.type = written.denoted := by
  obtain ⟨declared, listed, binds⟩ := mirrors.declared name binding found isVariable
  cases binds with
  | own _ type => exact ⟨_, by simp [selectedType?, listed, Declared.written?], type⟩
  | global selected _ type => exact ⟨_, by simpa [selectedType?, listed] using selected, type⟩
  | nonlocal selected _ type => exact ⟨_, by simpa [selectedType?, listed] using selected, type⟩

theorem Scope.find?_of_readable? (found : Scope.readable? name frame = some binding) :
    frame.find? name = some binding := by
  unfold Scope.readable? at found
  split at found
  · cases found
  · exact found

/-- A variable that is found from the inside outward has the type that is selected. -/
theorem Mirrored.read (mirrored : Mirrored program frames functions)
    (mirrors : Frame.Mirrors [] [] last program)
    (found : (frames ++ [last]).findSome? (Scope.readable? name) = some binding)
    (isVariable : binding.kind.isVariable) :
    ∃ written, selectedType? program name functions = some written ∧
      binding.type = written.denoted := by
  induction mirrored with
  | nil =>
      have readable : Scope.readable? name last = some binding := by simpa using found
      exact mirrors.written (Scope.find?_of_readable? readable) isVariable
  | @cons frame frames function outer kind inner rest ih =>
      have readable : Scope.readable? name frame = frame.find? name := by
        simp [Scope.readable?, kind]
      rw [List.cons_append, List.findSome?_cons, readable] at found
      cases bound : frame.find? name with
      | none =>
          rw [bound] at found
          simpa [selectedType?, inner.lookup_eq_none bound] using ih found
      | some own =>
          rw [bound] at found
          cases found
          exact inner.selected bound isVariable

/-- A variable of one of the functions has the type written there. -/
theorem Mirrored.function (mirrored : Mirrored program frames functions)
    (found : (frames.findSome? fun frame =>
      if frame.kind = .function then frame.find? name else none) = some binding)
    (kind : binding.kind = .ownVariable ∨ binding.kind = .parameter) :
    ∃ written, functionType? functions name = some written ∧ binding.type = written.denoted := by
  induction mirrored with
  | nil => cases found
  | @cons frame frames function outer ofFunction inner rest ih =>
      rw [List.findSome?_cons, if_pos ofFunction] at found
      cases bound : frame.find? name with
      | none =>
          rw [bound] at found
          simpa [functionType?, inner.lookup_eq_none bound] using ih found
      | some own =>
          rw [bound] at found
          cases found
          have isVariable : binding.kind.isVariable := by
            rcases kind with kind | kind <;> simp [kind, BindingKind.isVariable]
          obtain ⟨declared, listed, binds⟩ := inner.declared name binding bound isVariable
          -- A function around that only refers to the name does not have it.
          cases binds with
          | own _ type => exact ⟨_, by simp [functionType?, listed, Declared.written?], type⟩
          | global _ refers => simp [refers] at kind
          | nonlocal _ refers => simp [refers] at kind

end

/-! ## Scopes -/

/-- The scope mirrors the tree around a place. -/
structure Scope.Mirrors (around : Context) (scope : Scope) : Prop where
  /-- A variable is narrowed only where a condition says that it is absent. -/
  branches : ∀ frame ∈ scope.branches, ∀ name binding, frame.find? name = some binding →
    around.SaysAbsent name ∧ binding.type = .none
  /-- Where no condition holds there is no branch. -/
  unbranched : around.tests = [] → scope.branches = []
  /-- There is a frame for each function around the place. -/
  functions : Mirrored around.program scope.enclosing around.functions
  /-- The outermost frame mirrors what the program declares. -/
  program : Frame.Mirrors [] [] scope.outermost around.program

namespace Scope.Mirrors

variable {around : Context} {scope : Scope} {name : String} {binding : Binding}

/-- A variable is read with the type that is selected, unless it is said to be absent. -/
theorem lookup (mirrors : scope.Mirrors around) (found : scope.lookup name = some binding)
    (isVariable : binding.kind.isVariable) :
    around.SaysAbsent name ∧ binding.type = .none ∨
      ∃ written, selectedType? around.program name around.functions = some written ∧
        binding.type = written.denoted := by
  unfold Scope.lookup Scope.frames at found
  rw [← scope.branches_append_enclosing, List.append_assoc, List.findSome?_append,
    Option.or_eq_some_iff] at found
  rcases found with narrowed | ⟨-, found⟩
  · obtain ⟨frame, among, bound⟩ := List.exists_of_findSome?_eq_some narrowed
    exact .inl (mirrors.branches frame among name binding (find?_of_readable? bound))
  · exact .inr (mirrors.functions.read mirrors.program found isVariable)

/-- A variable of the function or program at hand has the type that is selected. -/
theorem lookupLocal (mirrors : scope.Mirrors around) (found : scope.lookupLocal name = some binding)
    (isVariable : binding.kind.isVariable) :
    ∃ written, selectedType? around.program name around.functions = some written ∧
      binding.type = written.denoted := by
  have functions := mirrors.functions
  unfold Scope.lookupLocal Scope.body at found
  generalize scope.enclosing = frames at functions found
  generalize around.functions = declared at functions ⊢
  cases functions with
  | nil => exact mirrors.program.written found isVariable
  | cons _ inner _ => exact inner.selected found isVariable

/-- A variable of the program has the type written for it. -/
theorem lookupGlobal (mirrors : scope.Mirrors around)
    (found : scope.lookupGlobal name = some binding) (isVariable : binding.kind.isVariable) :
    ∃ written, programType? around.program name = some written ∧
      binding.type = written.denoted :=
  mirrors.program.written found isVariable

/-- A variable of a function around the one at hand has the type written there. -/
theorem lookupNonlocal {function : Declarations} (mirrors : scope.Mirrors (around.inside function))
    (found : scope.lookupNonlocal name = some binding)
    (kind : binding.kind = .ownVariable ∨ binding.kind = .parameter) :
    ∃ written, functionType? around.functions name = some written ∧
      binding.type = written.denoted := by
  have functions := mirrors.functions
  unfold Scope.lookupNonlocal at found
  generalize scope.enclosing = frames at functions found
  cases functions with
  | cons _ _ rest => exact rest.function found kind

theorem forget (mirrors : scope.Mirrors around) (name : String) :
    (scope.forget name).Mirrors around := by
  obtain ⟨branches, enclosing⟩ := scope.forget_parts name
  refine ⟨?_, fun tests => ?_, enclosing ▸ mirrors.functions, mirrors.program⟩
  · rw [branches, List.forall_mem_map]
    exact fun frame among other binding found =>
      mirrors.branches frame among other binding (Frame.find?_of_forget found)
  · rw [branches, mirrors.unbranched tests, List.map_nil]

/-- Where a condition holds, nothing has to be known of its variable. -/
theorem holding (mirrors : scope.Mirrors around) (condition : Expr) :
    scope.Mirrors (around.holding condition) := by
  refine ⟨fun frame among name binding found => ?_, nofun, mirrors.functions, mirrors.program⟩
  obtain ⟨⟨test, holds, stated⟩, type⟩ := mirrors.branches frame among name binding found
  exact ⟨⟨test, List.mem_cons_of_mem _ holds, stated⟩, type⟩

/-- Where a condition says that a variable is absent, it may be known to be so. -/
theorem assumeAbsent (mirrors : scope.Mirrors around) {condition : Expr}
    (stated : condition.SaysAbsent name) :
    (scope.assumeAbsent name).Mirrors (around.holding condition) := by
  obtain ⟨branch, branches, bound⟩ := scope.branches_assumeAbsent name
  have enclosing := (scope.inside_assumeAbsent name).branch_parts.2
  refine ⟨?_, nofun, enclosing ▸ mirrors.functions, mirrors.program⟩
  rw [branches, List.forall_mem_cons]
  refine ⟨fun other binding found => ?_, (mirrors.holding condition).branches⟩
  rw [bound] at found
  split at found
  · next same =>
      cases found
      exact ⟨⟨condition, List.mem_cons_self, beq_iff_eq.mp same ▸ stated⟩, rfl⟩
  · cases found

/-! ## Bodies -/

/-- Outside all branches the frames inside the outermost one are those of functions. -/
theorem inner (mirrors : scope.Mirrors around) (untested : around.tests = []) :
    Mirrored around.program scope.inner around.functions := by
  have whole := scope.branches_append_enclosing
  rw [mirrors.unbranched untested, List.nil_append] at whole
  exact whole ▸ mirrors.functions

/-- A scope without branches mirrors a context without conditions. -/
theorem of_inner {program : Declarations} {functions : List Declarations}
    (inner : Mirrored program scope.inner functions)
    (outermost : Frame.Mirrors [] [] scope.outermost program) :
    scope.Mirrors { program, functions } := by
  have branches : scope.branches = [] := by
    unfold Scope.branches
    generalize scope.inner = frames at inner
    cases inner with
    | nil => rfl
    | cons kind _ _ => simp [kind]
  refine ⟨by simp [branches], fun _ => branches, ?_, outermost⟩
  have whole := scope.branches_append_enclosing
  rw [branches, List.nil_append] at whole
  exact whole ▸ inner

/-- The frame of a function begins empty. -/
theorem enter (mirrors : scope.Mirrors around) (untested : around.tests = []) (title : String) :
    (scope.enter .function title).Mirrors (around.inside []) :=
  of_inner (.cons rfl .empty (mirrors.inner untested)) mirrors.program

/-- A name that is free in a function is declared there. -/
theorem define_function {declarations : Declarations}
    (mirrors : scope.Mirrors (around.inside declarations))
    (free : scope.current.find? binding.name = none) {declared : Declared}
    (binds : binding.kind.isVariable →
      declared.Binds around.program around.functions binding.name binding) :
    (scope.define binding).Mirrors
      (around.inside (declarations ++ [(binding.name, declared)])) := by
  obtain ⟨frames, outermost⟩ := scope
  have inner := mirrors.inner rfl
  cases inner with
  | cons kind own rest =>
      exact of_inner (.cons kind (own.define free binds) rest) mirrors.program

/-- A name that is free at the top level is declared there. -/
theorem define_program {program : Declarations} (mirrors : scope.Mirrors { program })
    (free : scope.current.find? binding.name = none) {declared : Declared}
    (binds : binding.kind.isVariable → declared.Binds [] [] binding.name binding) :
    (scope.define binding).Mirrors { program := program ++ [(binding.name, declared)] } := by
  obtain ⟨frames, outermost⟩ := scope
  have inner := mirrors.inner rfl
  cases inner with
  | nil => exact of_inner .nil (mirrors.program.define free binds)

end Scope.Mirrors
end ChocoLang
