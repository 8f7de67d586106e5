import ChocoLang.Proofs.Syntax.Portable
import ChocoLang.Syntax.Encoding

/-!
# Records are decoded

A record is decoded from the inside out.  The kind of an object tells what its fields are parts of;
every part has been decoded by then, and is looked up by the name of its field.  What is recorded at
a node stands in fields of its own, of which some may be absent.  Decoding the record of a program
gives back the program without the names of files, the marks of functions and the remarks of
diagnostics.
-/

namespace ChocoLang

/-! ## Words -/

/-- All sorts of nodes. -/
def NodeKind.all : List NodeKind :=
  [program, classType, listType, typedVar, varDef, funcDef, classDef, globalDecl, nonlocalDecl,
    exprStmt, assignStmt, ifStmt, whileStmt, forStmt, returnStmt, identifier, integerLiteral,
    booleanLiteral, stringLiteral, noneLiteral, listExpr, binaryExpr, unaryExpr, ifExpr, memberExpr,
    indexExpr, callExpr, methodCallExpr]

/-- The sort of node that a tag stands for. -/
def NodeKind.ofTag? (tag : String) : Option NodeKind := all.find? fun kind => kind.tag == tag

theorem NodeKind.ofTag?_tag (kind : NodeKind) : ofTag? kind.tag = some kind := by
  cases kind <;> rfl

theorem BinaryOperator.ofSpelling?_spelling (operator : BinaryOperator) :
    ofSpelling? operator.spelling = some operator := by
  cases operator <;> rfl

/-- The operator with one operand that has a spelling. -/
def UnaryOperator.ofSpelling? (text : String) : Option UnaryOperator :=
  [neg, not].find? fun operator => operator.spelling == text

theorem UnaryOperator.ofSpelling?_spelling (operator : UnaryOperator) :
    ofSpelling? operator.spelling = some operator := by
  cases operator <;> rfl

/-- The kind of problem that a word stands for. -/
def DiagnosticKind.ofWord? (word : String) : Option DiagnosticKind :=
  [lexical, syntactic, name, type].find? fun kind => kind.word == word

theorem DiagnosticKind.ofWord?_word (kind : DiagnosticKind) : ofWord? kind.word = some kind := by
  cases kind <;> rfl

/-- The severity that a word stands for. -/
def Severity.ofName? (name : String) : Option Severity :=
  [error, warning].find? fun severity => severity.name == name

theorem Severity.ofName?_name (severity : Severity) : ofName? severity.name = some severity := by
  cases severity <;> rfl

namespace Decoding

/-! ## Decoded parts -/

/-- What a part of a record is decoded as. -/
inductive Part where
  | absent
  | flag (value : Bool)
  | number (value : Int)
  | text (value : String)
  | several (parts : List Part)
  | type (type : ValueType)
  | written (written : WrittenType)
  | expr (expr : Expr)
  | stmt (stmt : Stmt)
  | var (var : TypedVar)
  | decl (decl : Decl)
  | diagnostic (diagnostic : Diagnostic)
  | errors (diagnostics : List Diagnostic)
  | program (program : Program)

namespace Part

def flag? : Part → Option Bool
  | flag value => some value
  | _ => none

def number? : Part → Option Int
  | number value => some value
  | _ => none

def text? : Part → Option String
  | text value => some value
  | _ => none

def type? : Part → Option ValueType
  | type found => some found
  | _ => none

def written? : Part → Option WrittenType
  | written found => some found
  | _ => none

def expr? : Part → Option Expr
  | expr found => some found
  | _ => none

def name? : Part → Option Identifier
  | expr (.name identifier) => some identifier
  | _ => none

/-- An expression that may be left out. -/
def result? : Part → Option (Option Expr)
  | absent => some none
  | expr found => some (some found)
  | _ => none

def stmt? : Part → Option Stmt
  | stmt found => some found
  | _ => none

def var? : Part → Option TypedVar
  | var found => some found
  | _ => none

def decl? : Part → Option Decl
  | decl found => some found
  | _ => none

def diagnostic? : Part → Option Diagnostic
  | diagnostic found => some found
  | _ => none

def errors? : Part → Option (List Diagnostic)
  | errors diagnostics => some diagnostics
  | _ => none

def program? : Part → Option Program
  | program found => some found
  | _ => none

/-- Several parts of one sort. -/
def all? {α : Type} (as : Part → Option α) : Part → Option (List α)
  | several parts => parts.mapM as
  | _ => none

/-- The span with four coordinates. -/
def span? : Part → Option Span
  | several [number line, number column, number stopLine, number stopColumn] =>
    some { start := ⟨line, column⟩, stop := ⟨stopLine, stopColumn⟩ }
  | _ => none

/-- A span that may be missing; then all coordinates are zero. -/
def place? (part : Part) : Option (Option Span) :=
  part.span?.map fun span => if span.coordinates = [0, 0, 0, 0] then none else some span

attribute [simp] flag? number? text? type? written? expr? name? result? stmt? var? decl?
  diagnostic? errors? program?

/-- Parts of one sort are told together if each of them is told. -/
theorem all?_several {α : Type} (as : Part → Option α) (into : α → Part)
    (inverse : ∀ value, as (into value) = some value) (values : List α) :
    (several (values.map into)).all? as = some values := by
  rw [all?]
  induction values with
  | nil => rfl
  | cons value rest ih => rw [List.map_cons, List.mapM_cons, inverse, ih]; rfl

@[simp]
theorem all?_types (types : List ValueType) :
    (several (types.map type)).all? type? = some types :=
  all?_several type? type (fun _ => rfl) types

@[simp]
theorem all?_exprs (exprs : List Expr) : (several (exprs.map expr)).all? expr? = some exprs :=
  all?_several expr? expr (fun _ => rfl) exprs

@[simp]
theorem all?_stmts (stmts : List Stmt) : (several (stmts.map stmt)).all? stmt? = some stmts :=
  all?_several stmt? stmt (fun _ => rfl) stmts

@[simp]
theorem all?_vars (vars : List TypedVar) : (several (vars.map var)).all? var? = some vars :=
  all?_several var? var (fun _ => rfl) vars

@[simp]
theorem all?_decls (decls : List Decl) : (several (decls.map decl)).all? decl? = some decls :=
  all?_several decl? decl (fun _ => rfl) decls

@[simp]
theorem all?_diagnostics (diagnostics : List Diagnostic) :
    (several (diagnostics.map diagnostic)).all? diagnostic? = some diagnostics :=
  all?_several diagnostic? diagnostic (fun _ => rfl) diagnostics

end Part

/-- The decoded fields of a record. -/
abbrev Fields := List (String × Part)

/-- The part in the field of a name. -/
def Fields.get {α : Type} (fields : Fields) (name : String) (as : Part → Option α) : Option α :=
  (fields.lookup name).bind as

@[simp]
theorem Fields.get_cons_self {α : Type} (name : String) (part : Part) (rest : Fields)
    (as : Part → Option α) : Fields.get ((name, part) :: rest) name as = as part := by
  simp [get]

@[simp]
theorem Fields.get_cons_of_ne {α : Type} {name other : String} (differ : name ≠ other)
    (part : Part) (rest : Fields) (as : Part → Option α) :
    Fields.get ((other, part) :: rest) name as = Fields.get rest name as := by
  simp [get, List.lookup_cons, beq_false_of_ne differ]

/-- The names of the fields that tell what is recorded at a node. -/
def metadata : List String := ["kind", "location", "inferredType", "errorMsg"]

/-- The fields of the parts of a node. -/
def Fields.parts (fields : Fields) : Fields := fields.filter fun field => field.1 ∉ metadata

/-- What is recorded at a node; the type and the message may be absent. -/
def Fields.info? (fields : Fields) : Option ExprInfo :=
  (fields.get "location" Part.span?).map fun span =>
    { span, error := fields.get "errorMsg" Part.text?, type := fields.get "inferredType" Part.type? }

/-- The type of a class, or the unknown type under its name. -/
def typeOfName (name : String) : ValueType :=
  if name = ValueType.unknown.display then .unknown else .classType name

/-! ## Nodes -/

/-- The written type of a sort. -/
def written? (info : NodeInfo) (parts : Fields) : NodeKind → Option WrittenType
  | .classType => (parts.get "className" Part.text?).map (.named info)
  | .listType => (parts.get "elementType" Part.written?).map (.list info)
  | _ => none

/-- The expression of a sort. -/
def expr? (info : ExprInfo) (parts : Fields) : NodeKind → Option Expr
  | .identifier => do return .name ⟨info, ← parts.get "name" Part.text?⟩
  | .integerLiteral => do return .integer info (← parts.get "value" Part.number?)
  | .booleanLiteral => do return .boolean info (← parts.get "value" Part.flag?)
  | .stringLiteral => do return .string info (← parts.get "value" Part.text?)
  | .noneLiteral => some (.none info)
  | .listExpr => do return .list info (← parts.get "elements" (Part.all? Part.expr?))
  | .binaryExpr => do
    return .binary info (← parts.get "left" Part.expr?)
      (← BinaryOperator.ofSpelling? (← parts.get "operator" Part.text?))
      (← parts.get "right" Part.expr?)
  | .unaryExpr => do
    return .unary info (← UnaryOperator.ofSpelling? (← parts.get "operator" Part.text?))
      (← parts.get "operand" Part.expr?)
  | .ifExpr => do
    return .conditional info (← parts.get "condition" Part.expr?)
      (← parts.get "thenExpr" Part.expr?) (← parts.get "elseExpr" Part.expr?)
  | .memberExpr => do
    return .member info (← parts.get "object" Part.expr?) (← parts.get "member" Part.name?)
  | .indexExpr => do
    return .index info (← parts.get "list" Part.expr?) (← parts.get "index" Part.expr?)
  | .callExpr => do
    return .call info (← parts.get "function" Part.name?)
      (← parts.get "args" (Part.all? Part.expr?))
  | .methodCallExpr => do
    match ← parts.get "method" Part.expr? with
    | .member access object method =>
      return .methodCall info access object method (← parts.get "args" (Part.all? Part.expr?))
    | _ => none
  | _ => none

/-- The statement of a sort. -/
def stmt? (info : NodeInfo) (parts : Fields) : NodeKind → Option Stmt
  | .exprStmt => do return .expr info (← parts.get "expr" Part.expr?)
  | .assignStmt => do
    return .assign info (← parts.get "targets" (Part.all? Part.expr?))
      (← parts.get "value" Part.expr?)
  | .ifStmt => do
    return .ifElse info (← parts.get "condition" Part.expr?)
      (← parts.get "thenBody" (Part.all? Part.stmt?)) (← parts.get "elseBody" (Part.all? Part.stmt?))
  | .whileStmt => do
    return .whileLoop info (← parts.get "condition" Part.expr?)
      (← parts.get "body" (Part.all? Part.stmt?))
  | .forStmt => do
    return .forLoop info (← parts.get "identifier" Part.name?) (← parts.get "iterable" Part.expr?)
      (← parts.get "body" (Part.all? Part.stmt?))
  | .returnStmt => do return .ret info (← parts.get "value" Part.result?)
  | _ => none

/-- The declaration of a sort; no function is marked. -/
def decl? (info : NodeInfo) (parts : Fields) : NodeKind → Option Decl
  | .varDef => do
    return .varDef info (← parts.get "var" Part.var?) (← parts.get "value" Part.expr?)
  | .funcDef => do
    let heading : FunctionHeading :=
      { name := ← parts.get "name" Part.name?
        params := ← parts.get "params" (Part.all? Part.var?)
        returns := ← parts.get "returnType" Part.written? }
    return .funcDef info heading (← parts.get "declarations" (Part.all? Part.decl?))
      (← parts.get "statements" (Part.all? Part.stmt?)) false
  | .classDef => do
    return .classDef info (← parts.get "name" Part.name?) (← parts.get "superClass" Part.name?)
      (← parts.get "declarations" (Part.all? Part.decl?))
  | .globalDecl => do return .globalDecl info (← parts.get "variable" Part.name?)
  | .nonlocalDecl => do return .nonlocalDecl info (← parts.get "variable" Part.name?)
  | _ => none

/-- The node of a sort with the parts of its record. -/
def node? (kind : NodeKind) (info : ExprInfo) (parts : Fields) : Option Part :=
  match kind with
  | .classType | .listType => (written? info.toNodeInfo parts kind).map .written
  | .identifier | .integerLiteral | .booleanLiteral | .stringLiteral | .noneLiteral | .listExpr
  | .binaryExpr | .unaryExpr | .ifExpr | .memberExpr | .indexExpr | .callExpr | .methodCallExpr =>
    (expr? info parts kind).map .expr
  | .exprStmt | .assignStmt | .ifStmt | .whileStmt | .forStmt | .returnStmt =>
    (stmt? info.toNodeInfo parts kind).map .stmt
  | .varDef | .funcDef | .classDef | .globalDecl | .nonlocalDecl =>
    (decl? info.toNodeInfo parts kind).map .decl
  | .typedVar => do
    return .var ⟨info.toNodeInfo, ← parts.get "identifier" Part.name?,
      ← parts.get "type" Part.written?⟩
  | .program => do
    return .program ⟨info.toNodeInfo, ← parts.get "declarations" (Part.all? Part.decl?),
      ← parts.get "statements" (Part.all? Part.stmt?), ← parts.get "errors" Part.errors?⟩

/-! ## Types and diagnostics -/

/-- The type, diagnostic or list of diagnostics that a record is. -/
def other? (tag : String) (fields : Fields) : Option Part :=
  match tag with
  | "ClassValueType" => do return .type (typeOfName (← fields.get "className" Part.text?))
  | "ListValueType" => do return .type (.list (← fields.get "elementType" Part.type?))
  | "FuncType" => do
    return .type (.function (← fields.get "parameters" (Part.all? Part.type?))
      (← fields.get "returnType" Part.type?))
  | "CompilerError" => do
    return .diagnostic
      { code := ← fields.get "code" Part.text?
        severity := ← Severity.ofName? (← fields.get "severity" Part.text?)
        message := ← fields.get "message" Part.text?
        span := ← fields.get "location" Part.place?
        kind := ← DiagnosticKind.ofWord? (← fields.get "category" Part.text?) }
  | "Errors" => do return .errors (← fields.get "errors" (Part.all? Part.diagnostic?))
  | _ => none

/-- What the fields of a record make up. -/
def assemble (fields : Fields) : Option Part := do
  let tag ← fields.get "kind" Part.text?
  match NodeKind.ofTag? tag with
  | some kind => node? kind (← fields.info?) fields.parts
  | none => other? tag fields

mutual

/-- Decodes a record, the parts first. -/
def decode : Json → Option Part
  | .null => some .absent
  | .bool value => some (.flag value)
  | .integer value => some (.number value)
  | .string value => some (.text value)
  | .array items => (decodeAll items).map .several
  | .object fields => (decodeFields fields).bind assemble

/-- Decodes several records. -/
def decodeAll : List Json → Option (List Part)
  | [] => some []
  | item :: rest => do return (← decode item) :: (← decodeAll rest)

/-- Decodes the fields of a record. -/
def decodeFields : List (String × Json) → Option Fields
  | [] => some []
  | (name, value) :: rest => do return (name, ← decode value) :: (← decodeFields rest)

end

theorem decodeFields_append (first second : List (String × Json)) :
    decodeFields (first ++ second) = do
      return (← decodeFields first) ++ (← decodeFields second) := by
  induction first with
  | nil => cases decoded : decodeFields second <;> simp [decodeFields, decoded]
  | cons field rest ih =>
      obtain ⟨name, value⟩ := field
      rw [List.cons_append, decodeFields, decodeFields, ih]
      cases decode value <;> cases decodeFields rest <;> cases decodeFields second <;> rfl

/-- Records that are decoded each for itself are decoded in a row. -/
theorem decodeAll_map {α : Type} {write : α → Json} {into : α → Part} {values : List α}
    (each : ∀ value ∈ values, decode (write value) = some (into value)) :
    decodeAll (values.map write) = some (values.map into) := by
  induction values with
  | nil => rfl
  | cons value rest ih =>
      obtain ⟨first, others⟩ := List.forall_mem_cons.mp each
      simp [decodeAll, first, ih others]

/-! ## Types and diagnostics -/

/-- A record whose kind is no sort of node is a type, a diagnostic or a list of diagnostics. -/
theorem assemble_other (tag : String) (noNode : NodeKind.ofTag? tag = none) (fields : Fields) :
    assemble (("kind", .text tag) :: fields) = other? tag (("kind", .text tag) :: fields) := by
  simp [assemble, Part.text?, noNode]

mutual

/-- The record of a type tells the type, unless a class is named like the unknown type. -/
theorem decode_type : (type : ValueType) → type.Clear → decode type.toJson = some (.type type)
  | .classType name, clear => by
      rw [ValueType.Clear] at clear
      have told : typeOfName name = .classType name := if_neg clear
      simp [ValueType.toJson, decode, decodeFields, assemble_other "ClassValueType" rfl,
        other?, told]
  | .list element, clear => by
      have inner := decode_type element clear
      simp [ValueType.toJson, decode, decodeFields, inner, assemble_other "ListValueType" rfl,
        other?]
  | .function params result, clear => by
      rw [ValueType.Clear] at clear
      have inner := decodeAll_types params clear.1
      have last := decode_type result clear.2
      simp [ValueType.toJson, decode, decodeFields, inner, last, assemble_other "FuncType" rfl,
        other?]
  | .unknown, _ => rfl

theorem decodeAll_types : (types : List ValueType) → ValueType.AllClear types →
    decodeAll (ValueType.allToJson types) = some (types.map .type)
  | [], _ => rfl
  | type :: rest, clear => by
      rw [ValueType.AllClear] at clear
      simp [ValueType.allToJson, decodeAll, decode_type type clear.1, decodeAll_types rest clear.2]

end

/-- The coordinates of a span tell the span but for its file. -/
theorem decode_location (span : Span) :
    decode (Diagnostic.location (some span)) = some (.several (span.coordinates.map .number)) := by
  simp [Diagnostic.location, decode, Span.coordinates, decodeAll]

theorem span?_coordinates (span : Span) :
    (Part.several (span.coordinates.map .number)).span? = some span.portable :=
  rfl

/-- The record of a diagnostic with a place that is told tells the diagnostic. -/
theorem decode_diagnostic {diagnostic : Diagnostic} {span : Span}
    (placed : diagnostic.span = some span) (told : span.coordinates ≠ [0, 0, 0, 0]) :
    decode diagnostic.toJson = some (.diagnostic diagnostic.portable) := by
  have place : (Part.several (span.coordinates.map .number)).place? = some (some span.portable) := by
    rw [Part.place?, span?_coordinates, Option.map_some]
    exact congrArg some (if_neg told)
  simp [Diagnostic.toJson, decode, decodeFields, placed, decode_location,
    assemble_other "CompilerError" rfl, other?, place, Severity.ofName?_name,
    DiagnosticKind.ofWord?_word, Diagnostic.portable]

/-! ## Nodes -/

/-- The fields of the type and the message of a node, as far as it has them. -/
def recorded (type : Option ValueType) (error : Option String) : Fields :=
  (type.map fun found => ("inferredType", Part.type found)).toList ++
    (error.map fun message => ("errorMsg", Part.text message)).toList

theorem decodeFields_recorded {type : Option ValueType} (clear : ∀ found ∈ type, found.Clear)
    (error : Option String) :
    decodeFields ((type.map fun found => ("inferredType", found.toJson)).toList ++
      (error.map fun message => ("errorMsg", .string message)).toList) =
        some (recorded type error) := by
  cases type with
  | none => cases error <;> rfl
  | some type =>
      have told := decode_type type (clear type rfl)
      rw [Option.map_some, Option.toList_some, List.singleton_append, decodeFields, told]
      cases error <;> rfl

theorem Fields.get_append {α : Type} {name : String} {first : Fields}
    (apart : ∀ field ∈ first, field.1 ≠ name) (second : Fields) (as : Part → Option α) :
    Fields.get (first ++ second) name as = Fields.get second name as := by
  have missing : first.lookup name = none :=
    List.lookup_eq_none_iff.mpr fun field among => bne_iff_ne.mpr (apart field among).symm
  rw [get, get, List.lookup_append, missing, Option.none_or]

theorem get_recorded_message (type : Option ValueType) (error : Option String) :
    (recorded type error).get "errorMsg" Part.text? = error := by
  cases type <;> cases error <;> rfl

theorem get_recorded_type (type : Option ValueType) (error : Option String) :
    (recorded type error).get "inferredType" Part.type? = type := by
  cases type <;> cases error <;> rfl

/-- Decoding keeps the names of fields. -/
theorem names_decodeFields {fields : List (String × Json)} {decoded : Fields}
    (told : decodeFields fields = some decoded) :
    decoded.map Prod.fst = fields.map Prod.fst := by
  induction fields generalizing decoded with
  | nil => cases told; rfl
  | cons field rest ih =>
      obtain ⟨name, value⟩ := field
      simp only [decodeFields, Option.bind_eq_bind, Option.bind_eq_some_iff, Option.pure_def,
        Option.some.injEq] at told
      obtain ⟨part, -, others, among, rfl⟩ := told
      rw [List.map_cons, List.map_cons, ih among]

/-- What is recorded at a node is decoded apart from the parts of the node. -/
theorem decode_record (kind : NodeKind) (info : NodeInfo) {type : Option ValueType}
    (clear : ∀ found ∈ type, found.Clear) {parts : List (String × Json)}
    (apart : (parts.map Prod.fst).all (· ∉ metadata) = true) {decoded : Fields}
    (inner : decodeFields parts = some decoded) :
    decode (Encoding.record kind info type parts) =
      node? kind { Relabelling.portable.node info with type } decoded := by
  have apart : ∀ field ∈ decoded, field.1 ∉ metadata := fun field among =>
    of_decide_eq_true (List.all_eq_true.mp apart field.1
      (names_decodeFields inner ▸ List.mem_map_of_mem among))
  have away {name : String} (among : name ∈ metadata) : ∀ field ∈ decoded, field.1 ≠ name :=
    fun field inside same => apart field inside (same ▸ among)
  have fields : decodeFields (parts ++ (type.map fun type => ("inferredType", type.toJson)).toList
      ++ (info.error.map fun message => ("errorMsg", .string message)).toList) =
        some (decoded ++ recorded type info.error) := by
    simp [List.append_assoc, decodeFields_append, inner, decodeFields_recorded clear]
  have kept : Fields.parts (("kind", .text kind.tag) ::
      ("location", .several (info.span.coordinates.map .number)) ::
        (decoded ++ recorded type info.error)) = decoded := by
    have own : decoded.parts = decoded :=
      List.filter_eq_self.mpr fun field among => decide_eq_true (apart field among)
    have others : (recorded type info.error).parts = [] := by
      cases type <;> cases info.error <;> rfl
    rw [Fields.parts, List.filter_cons_of_neg (by simp [metadata]),
      List.filter_cons_of_neg (by simp [metadata]), List.filter_append]
    change decoded.parts ++ (recorded type info.error).parts = decoded
    rw [own, others, List.append_nil]
  have message : Fields.get (decoded ++ recorded type info.error) "errorMsg" Part.text? =
      info.error := by
    rw [Fields.get_append (away (by decide)), get_recorded_message]
  have typed : Fields.get (decoded ++ recorded type info.error) "inferredType" Part.type? =
      type := by
    rw [Fields.get_append (away (by decide)), get_recorded_type]
  rw [Encoding.record, decode, decodeFields, decode, decodeFields, decode_location, fields]
  simp [assemble, NodeKind.ofTag?_tag, kept, Fields.info?, message, typed, span?_coordinates]
  rfl

/-- The record of a node that is no expression is decoded likewise. -/
theorem decode_node (kind : NodeKind) (info : NodeInfo) {parts : List (String × Json)}
    (apart : (parts.map Prod.fst).all (· ∉ metadata) = true) {decoded : Fields}
    (inner : decodeFields parts = some decoded) :
    decode (Encoding.node kind info parts) =
      node? kind { Relabelling.portable.node info with type := none } decoded :=
  decode_record kind info (by simp) apart inner

/-- The record of an expression is decoded likewise. -/
theorem decode_expr (kind : NodeKind) {info : ExprInfo} (clear : ∀ found ∈ info.type, found.Clear)
    {parts : List (String × Json)} (apart : (parts.map Prod.fst).all (· ∉ metadata) = true)
    {decoded : Fields} (inner : decodeFields parts = some decoded) :
    decode (Encoding.expr kind info parts) = node? kind (Relabelling.portable.expr info) decoded :=
  decode_record kind info.toNodeInfo clear apart inner

end Decoding
end ChocoLang
