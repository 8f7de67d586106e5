import ChocoLang.Source.Span
import ChocoLang.Table
import ChocoLang.Typing.ValueType

/-!
# Scopes

Names are bound in frames, which are stacked as scopes are nested: the program, the functions
around the place in question, the body of a class, and the branches in which a variable is known to
be absent.  Names are read from the innermost frame outward, class frames left out, since members
of a class are reached only through an object.
-/

namespace ChocoLang

/-- What a name is bound to. -/
inductive BindingKind where
  /-- A variable declared in this frame. -/
  | ownVariable
  /-- A parameter of the function. -/
  | parameter
  /-- A function. -/
  | function
  /-- A class. -/
  | classDef
  /-- A variable of the program, made assignable here. -/
  | globalReference
  /-- A variable of an enclosing function, made assignable here. -/
  | nonlocalReference
  /-- A variable known to be absent in this branch. -/
  | narrowed
deriving DecidableEq, Repr

namespace BindingKind

/-- The name can be read as a variable. -/
def isVariable : BindingKind → Bool
  | function | classDef => false
  | _ => true

/-- The name can be assigned where it is bound. -/
def isAssignable : BindingKind → Bool
  | ownVariable | parameter | globalReference | nonlocalReference => true
  | _ => false

end BindingKind

/-- A bound name. -/
structure Binding where
  /-- The name. -/
  name : String
  /-- The declared type, for a function that of the function itself. -/
  type : ValueType
  /-- What the name is bound to. -/
  kind : BindingKind
  /-- Where the name is declared. -/
  span : Option Span := none
deriving DecidableEq, Repr

/-- What a frame belongs to. -/
inductive FrameKind where
  /-- The program. -/
  | program
  /-- The body of a class. -/
  | classBody
  /-- The body of a function. -/
  | function
  /-- A branch with a narrowed variable. -/
  | branch
deriving DecidableEq, Repr

/-- One level of nesting. -/
structure Frame where
  /-- What the frame belongs to. -/
  kind : FrameKind
  /-- The name of what the frame belongs to. -/
  name : String := ""
  /-- The names bound in the frame. -/
  bindings : Table Binding := {}
deriving Repr

namespace Frame

/-- The binding of a name in the frame. -/
def find? (frame : Frame) (name : String) : Option Binding := frame.bindings.find? name

/-- Binds a name in the frame. -/
def define (frame : Frame) (binding : Binding) : Frame :=
  { frame with bindings := frame.bindings.insert binding.name binding }

/-- Drops the binding of a name if it is a narrowing. -/
def forget (frame : Frame) (name : String) : Frame :=
  match frame.find? name with
  | some binding =>
    if binding.kind = .narrowed then { frame with bindings := frame.bindings.erase name }
    else frame
  | none => frame

end Frame

/-- The frames around a place in a program. -/
structure Scope where
  /-- The frames inside the outermost one, innermost first. -/
  inner : List Frame := []
  /-- The frame that is never left. -/
  outermost : Frame := { kind := .program, name := "global" }
deriving Repr

namespace Scope

/-- All frames, innermost first. -/
def frames (scope : Scope) : List Frame := scope.inner ++ [scope.outermost]

/-- The number of frames. -/
def depth (scope : Scope) : Nat := scope.inner.length + 1

/-- The innermost frame. -/
def current (scope : Scope) : Frame := scope.inner.headD scope.outermost

/-- Opens a frame. -/
def enter (scope : Scope) (kind : FrameKind) (name : String) : Scope :=
  { scope with inner := { kind, name } :: scope.inner }

/-- Leaves the innermost frame, unless it is the outermost one. -/
def leave (scope : Scope) : Scope := { scope with inner := scope.inner.tail }

/-- Binds a name in the innermost frame. -/
def define (scope : Scope) (binding : Binding) : Scope :=
  match scope.inner with
  | [] => { scope with outermost := scope.outermost.define binding }
  | frame :: rest => { scope with inner := frame.define binding :: rest }

/-- The branches between the place and the function or program around it. -/
def branches (scope : Scope) : List Frame := scope.inner.takeWhile (·.kind == .branch)

/-- The frames from the function around the place outward, the outermost one left out. -/
def enclosing (scope : Scope) : List Frame := scope.inner.dropWhile (·.kind == .branch)

/-- The frame of the function, or program, around the place. -/
def body (scope : Scope) : Frame := scope.enclosing.headD scope.outermost

/-- The place lies in the body of a function. -/
def inFunction (scope : Scope) : Bool := scope.body.kind == .function

/-- The binding of a name in a frame, none if the frame is that of a class. -/
def readable? (name : String) (frame : Frame) : Option Binding :=
  if frame.kind = .classBody then none else frame.find? name

/-- The binding of a name as it is read at the place. -/
def lookup (scope : Scope) (name : String) : Option Binding :=
  scope.frames.findSome? (readable? name)

/-- The binding of a name in the frame of the function or program around the place. -/
def lookupLocal (scope : Scope) (name : String) : Option Binding := scope.body.find? name

/-- The binding of a name in the outermost frame. -/
def lookupGlobal (scope : Scope) (name : String) : Option Binding := scope.outermost.find? name

/-- The binding of a name in the functions around the one at hand, innermost first. -/
def lookupNonlocal (scope : Scope) (name : String) : Option Binding :=
  scope.enclosing.tail.findSome? fun frame =>
    if frame.kind = .function then frame.find? name else none

/-- Notes in the innermost frame that a variable has a more special type. -/
def narrow (scope : Scope) (name : String) (type : ValueType) : Scope :=
  scope.define { name, type, kind := .narrowed }

/-- Drops what is noted about a variable in the branches around the place. -/
def forget (scope : Scope) (name : String) : Scope :=
  { scope with inner := scope.branches.map (·.forget name) ++ scope.enclosing }

/-- The names that can be read at the place, innermost first, each once. -/
def visibleNames (scope : Scope) : List String :=
  ((scope.frames.filter (·.kind != .classBody)).flatMap (·.bindings.names)).eraseDups

@[simp]
theorem branches_append_enclosing (scope : Scope) :
    scope.branches ++ scope.enclosing = scope.inner :=
  List.takeWhile_append_dropWhile

@[simp]
theorem leave_enter (scope : Scope) (kind : FrameKind) (name : String) :
    (scope.enter kind name).leave = scope :=
  rfl

end Scope
end ChocoLang
