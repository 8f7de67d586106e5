import ChocoLang.Checking.Statement

/-!
# Checking declarations

A declaration is treated twice.  First its heading is looked at, where written types are resolved
and names are bound; at the top level this is done for all declarations before any body is checked,
and so it is in the body of a function.  Then its body is checked.
-/

namespace ChocoLang

/-- The part of a declaration that is looked at when its names are bound. -/
inductive Heading where
  /-- A variable with its written type. -/
  | variable (var : TypedVar)
  /-- The part of a function that others see. -/
  | function (heading : FunctionHeading)
  /-- A class with its superclass and the headings of its members. -/
  | ofClass (name superclass : Identifier) (members : List Heading)
  /-- A variable from outside that a function assigns. -/
  | outer (info : NodeInfo) (name : Identifier)

/-- The heading of a declaration. -/
def Decl.heading : Decl → Heading
  | .varDef _ var _ => .variable var
  | .funcDef _ heading _ _ _ => .function heading
  | .classDef _ name superclass _ => .ofClass name superclass []
  | .globalDecl info name | .nonlocalDecl info name => .outer info name

/-! ## Rules -/

/-- The type that a name stands for where a type is written. -/
def CheckState.namedType? (state : CheckState) (name : String) : Option ValueType :=
  if name = ValueType.none.display then some .none
  else if state.typeNames.contains name then some (.classType name)
  else none

/-- Why a name cannot be bound in the innermost frame, if it cannot. -/
def CheckState.clash? (state : CheckState) (name : String) (kind : BindingKind) :
    Option CheckError :=
  let frame := state.scope.current
  match frame.find? name with
  | some existing =>
    if existing.kind = .classDef && kind ≠ .classDef then some (.shadowsClass name)
    else some (.duplicate name)
  | none =>
    if frame.kind = .function && state.classNames.contains name then some (.shadowsClass name)
    else none

/-- Each parameter of an overriding method, its receiver aside, takes what the other one takes. -/
def ClassHierarchy.takesAll (hierarchy : ClassHierarchy) :
    (inherited override : List ValueType) → Bool
  | wide :: inherited, own :: override =>
    hierarchy.isAssignable wide own && hierarchy.takesAll inherited override
  | _, _ => true

/-- A method may override another: it takes as much and returns no more. -/
def ClassHierarchy.mayOverride (hierarchy : ClassHierarchy) (inherited override : Signature) :
    Bool :=
  inherited.params.length == override.params.length
    && hierarchy.takesAll inherited.params.tail override.params.tail
    && hierarchy.isAssignable override.result inherited.result

/-- What is wrong with a method of a class, its name being free. -/
def ClassHierarchy.methodError? (hierarchy : ClassHierarchy) (info : ClassInfo) (name : String)
    (signature : Signature) : Option CheckError :=
  if signature.params.head? ≠ some info.type then some (.invalidReceiver name info.name)
  else if info.attributes.contains name then some (.redefinedAttribute name)
  else
    match info.methods.find? name with
    | some inherited =>
      if hierarchy.mayOverride inherited signature then none
      else some (.incompatibleOverride name)
    | none => none

/-- What is wrong with a superclass, or else the class. -/
def CheckState.superclass (state : CheckState) (name : String) : Except CheckError ClassInfo :=
  if ValueType.specialClasses.contains name then .error (.specialSuperclass name)
  else
    match state.hierarchy.find? name with
    | some info => .ok info
    | none =>
      if (state.scope.lookupGlobal name).isNone then .error (.undefinedSuperclass name)
      else .error (.superclassNotClass name)

/-- A function that ends without a return does not have the result it should have. -/
def ClassHierarchy.needsReturn (hierarchy : ClassHierarchy) (result : ValueType) : Bool :=
  !result.isUnknown && !hierarchy.isAssignable .none result

namespace Check

/-! ## Headings -/

/-- Resolves a written type, reporting the names that are no classes. -/
def resolve : WrittenType → Check (WrittenType × ValueType)
  | .named info name => do
    match (← get).namedType? name with
    | some type => return (.named info name, type)
    | none => return (.named (← report (.unknownClass name) info) name, .unknown)
  | .list info element => do
    let (element, type) ← resolve element
    return (.list info element, .list type)

/-- Resolves the type of a variable or parameter. -/
def resolveVar (var : TypedVar) : Check (TypedVar × ValueType) := do
  let (written, type) ← resolve var.written
  return ({ var with written }, type)

/-- Resolves the types of parameters. -/
def resolveVars : List TypedVar → Check (List TypedVar × List ValueType)
  | [] => return ([], [])
  | var :: rest => do
    let (var, type) ← resolveVar var
    let (rest, types) ← resolveVars rest
    return (var :: rest, type :: types)

/-- Resolves the signature of a function. -/
def resolveSignature (heading : FunctionHeading) : Check (FunctionHeading × Signature) := do
  let (params, types) ← resolveVars heading.params
  let (returns, result) ← resolve heading.returns
  return ({ heading with params, returns }, { params := types, result })

/-- Binds a name in the innermost frame, and tells whether it could be bound. -/
def declare (name : Identifier) (type : ValueType) (kind : BindingKind) :
    Check (Identifier × Bool) := do
  match (← get).clash? name.name kind with
  | some error => return (← reportName error name, false)
  | none =>
    modifyScope (·.define { name := name.name, type, kind, span := some name.info.span })
    return (name, true)

/-- Binds a variable. -/
def declareVar (var : TypedVar) : Check TypedVar := do
  let (var, type) ← resolveVar var
  let (identifier, _) ← declare var.identifier type .ownVariable
  return { var with identifier }

/-- Binds a function. -/
def declareFunction (heading : FunctionHeading) : Check FunctionHeading := do
  let (heading, signature) ← resolveSignature heading
  let (name, _) ← declare heading.name signature.type .function
  return { heading with name }

/-! ## Classes -/

/-- Adds an attribute to a class. -/
def declareAttribute (info : ClassInfo) (var : TypedVar) : Check (ClassInfo × TypedVar) := do
  let (var, type) ← resolveVar var
  let (identifier, bound) ← declare var.identifier type .ownVariable
  let name := identifier.name
  if !bound then return (info, { var with identifier })
  else if info.hasMember name then
    let identifier ← reportName (.redefinedAttribute name) identifier
    return (info, { var with identifier })
  else
    let attributes := info.attributes.insert name type
    return ({ info with attributes }, { var with identifier })

/-- Adds a method to a class. -/
def declareMethod (info : ClassInfo) (heading : FunctionHeading) :
    Check (ClassInfo × FunctionHeading) := do
  let (heading, signature) ← resolveSignature heading
  let (name, bound) ← declare heading.name signature.type .function
  if !bound then return (info, { heading with name })
  else
    let name ←
      match (← get).hierarchy.methodError? info name.name signature with
      | some error => reportName error name
      | none => pure name
    let methods := info.methods.insert name.name signature
    return ({ info with methods }, { heading with name })

/-- Adds the members that declarations declare to a class. -/
def declareMembers (info : ClassInfo) : List Decl → Check (ClassInfo × List Heading)
  | [] => return (info, [])
  | decl :: rest => do
    let (info, heading) ←
      match decl with
      | .varDef _ var _ => do
        let (info, var) ← declareAttribute info var
        pure (info, Heading.variable var)
      | .funcDef _ heading _ _ _ => do
        let (info, heading) ← declareMethod info heading
        pure (info, Heading.function heading)
      | decl => pure (info, decl.heading)
    let (info, rest) ← declareMembers info rest
    return (info, heading :: rest)

/-- Looks up the superclass of a class; one in error is reported, and `object` takes its place. -/
def resolveSuperclass (name : Identifier) : Check (Identifier × ClassInfo) := do
  let state ← get
  match state.superclass name.name with
  | .ok info => return (name, info)
  | .error error =>
    let object := (state.hierarchy.find? "object").getD ClassHierarchy.objectInfo
    return (← reportName error name, object)

/-- Declares a class with its inherited and its own members. -/
def declareClass (name superclass : Identifier) (members : List Decl) : Check Heading := do
  let (superclass, parent) ← resolveSuperclass superclass
  let (name, bound) ← declare name (.classType name.name) .classDef
  let inherited : ClassInfo :=
    { name := name.name
      superclass := some parent.name
      attributes := parent.attributes
      methods := parent.methods }
  let (info, members) ← within .classBody name.name (declareMembers inherited members)
  if bound then modify fun state => { state with hierarchy := state.hierarchy.add info }
  return .ofClass name superclass members

/-- Declares what a declaration at the top level declares. -/
def declareGlobal : Decl → Check Heading
  | .varDef _ var _ => return .variable (← declareVar var)
  | .funcDef _ heading _ _ _ => return .function (← declareFunction heading)
  | .classDef _ name superclass members => declareClass name superclass members
  | decl => return decl.heading

/-- Declares what the declarations at the top level declare. -/
def declareGlobals : List Decl → Check (List Heading)
  | [] => return []
  | decl :: rest => do
    let heading ← declareGlobal decl
    let rest ← declareGlobals rest
    return heading :: rest

/-! ## Functions -/

/-- Makes a variable from outside assignable, provided that it is one. -/
def declareOuter (found : Option Binding) (allowed : List BindingKind) (kind : BindingKind)
    (error : CheckError) (info : NodeInfo) (name : Identifier) : Check Heading := do
  match found.filter fun binding => allowed.contains binding.kind with
  | none => return .outer (← report error info) name
  | some binding =>
    let (name, _) ← declare name binding.type kind
    return .outer info name

/-- Declares what a declaration in the body of a function declares. -/
def declareLocal : Decl → Check Heading
  | .varDef _ var _ => return .variable (← declareVar var)
  | .funcDef _ heading _ _ _ => return .function (← declareFunction heading)
  | .globalDecl info name => do
    let found ← view (·.scope.lookupGlobal name.name)
    declareOuter found [.ownVariable] .globalReference (.notGlobal name.name) info name
  | .nonlocalDecl info name => do
    let found ← view (·.scope.lookupNonlocal name.name)
    declareOuter found [.ownVariable, .parameter] .nonlocalReference (.notNonlocal name.name) info
      name
  | decl => return decl.heading

/-- Declares what the declarations in the body of a function declare. -/
def declareLocals : List Decl → Check (List Heading)
  | [] => return []
  | decl :: rest => do
    let heading ← declareLocal decl
    let rest ← declareLocals rest
    return heading :: rest

/-- Binds parameters to their types. -/
def declareParams : List TypedVar → List ValueType → Check (List TypedVar)
  | var :: rest, type :: types => do
    let (identifier, _) ← declare var.identifier type .parameter
    let rest ← declareParams rest types
    return { var with identifier } :: rest
  | vars, _ => return vars

/-- Checks something inside a function with a result. -/
def returning {α : Type} (result : ValueType) (inner : Check α) : Check α := do
  modify fun state => { state with results := result :: state.results }
  let value ← inner
  modify fun state => { state with results := state.results.tail }
  return value

/-- Reports a function whose end can be reached although it must have a result. -/
def demandReturn (result : ValueType) (statements : List Stmt) (recovered : Bool)
    (name : Identifier) : Check Identifier := do
  if !recovered && (← get).hierarchy.needsReturn result && !anyReturns statements then
    reportName (.missingReturn name.name) name
  else return name

/-- Checks the definition of a variable. -/
def checkVarDef (info : NodeInfo) (var : TypedVar) (value : Expr) : Check Decl := do
  let (var, declared) ← resolveVar var
  let value ← infer value
  return .varDef (← demandFit declared value.type info) var value

/-! ## Bodies -/

mutual

/-- Checks the body of a declaration whose heading has been looked at. -/
def checkDecl : Decl → Heading → Check Decl
  | .varDef info _ value, .variable var => checkVarDef info var value
  | .funcDef info _ declarations statements recovered, .function heading => do
    let (heading, signature) ← resolveSignature heading
    let (params, declarations, statements) ←
      within .function heading.name.name do
        let params ← declareParams heading.params signature.params
        let headings ← declareLocals declarations
        returning signature.result do
          let declarations ← checkDecls declarations headings
          let statements ← checkStmts statements
          pure (params, declarations, statements)
    let name ← demandReturn signature.result statements recovered heading.name
    return .funcDef info { heading with name, params } declarations statements recovered
  | .classDef info _ _ declarations, .ofClass name superclass members => do
    let declarations ← checkDecls declarations members
    return .classDef info name superclass declarations
  | .globalDecl _ _, .outer info name => return .globalDecl info name
  | .nonlocalDecl _ _, .outer info name => return .nonlocalDecl info name
  | decl, _ => return decl

/-- Checks the bodies of declarations whose headings have been looked at. -/
def checkDecls : List Decl → List Heading → Check (List Decl)
  | decl :: rest, heading :: headings => do
    let decl ← checkDecl decl heading
    let rest ← checkDecls rest headings
    return decl :: rest
  | decls, _ => return decls

end

end Check
end ChocoLang
