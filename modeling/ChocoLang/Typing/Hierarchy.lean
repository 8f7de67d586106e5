import ChocoLang.Table
import ChocoLang.Typing.ValueType

/-!
# Class hierarchies

A hierarchy lists classes with their superclasses and members.  It determines which type is a
subtype of which, where a value of one type may be stored in a place of another, and the least type
that holds the values of two.  A class that is not listed counts as a direct subclass of `object`,
and a chain of superclasses that comes back to itself ends before it does.
-/

namespace ChocoLang

/-- What is known about a class; the members include the inherited ones. -/
structure ClassInfo where
  /-- The name of the class. -/
  name : String
  /-- The name of the superclass. -/
  superclass : Option String
  /-- The types of the attributes. -/
  attributes : Table ValueType := {}
  /-- The signatures of the methods. -/
  methods : Table Signature := {}
deriving Repr

namespace ClassInfo

/-- The type of the members of the class. -/
def type (info : ClassInfo) : ValueType := .classType info.name

/-- The class has an attribute or a method of the name. -/
def hasMember (info : ClassInfo) (name : String) : Bool :=
  info.attributes.contains name || info.methods.contains name

end ClassInfo

/-- The classes of a program. -/
structure ClassHierarchy where
  /-- The classes under their names. -/
  classes : Table ClassInfo
deriving Repr

namespace ClassHierarchy

/-- Adds a class, in the place of an earlier one of the same name. -/
def add (hierarchy : ClassHierarchy) (info : ClassInfo) : ClassHierarchy :=
  { classes := hierarchy.classes.insert info.name info }

/-- The class of a name. -/
def find? (hierarchy : ClassHierarchy) (name : String) : Option ClassInfo :=
  hierarchy.classes.find? name

/-- The methods of every class that inherits none: the constructor without arguments. -/
def initialMethods : Table Signature :=
  { entries := [("__init__", { params := [.object], result := .none })] }

/-- The class `object` itself. -/
def objectInfo : ClassInfo :=
  { name := "object", superclass := none, methods := initialMethods }

/-- A class that no program can extend. -/
def specialInfo (name : String) : ClassInfo :=
  { name, superclass := some "object", methods := initialMethods }

/-- The classes present in every program. -/
def initial : ClassHierarchy :=
  (ValueType.specialClasses.map specialInfo).foldl add (add ⟨{}⟩ objectInfo)

/-- The name of the direct superclass. -/
def superclassOf? (hierarchy : ClassHierarchy) (name : String) : Option String :=
  match hierarchy.find? name with
  | some info => info.superclass
  | none => if name = "object" then none else some "object"

/--
A class and its superclasses, as far as they are not among those seen before; `bound` limits their
number.
-/
def chain (hierarchy : ClassHierarchy) : (bound : Nat) → (seen : List String) → String → List String
  | 0, _, _ => []
  | bound + 1, seen, name =>
    match hierarchy.superclassOf? name with
    | none => [name]
    | some next =>
      if (name :: seen).contains next then [name]
      else name :: hierarchy.chain bound (name :: seen) next

/--
The class of a name followed by its superclasses, nearest first.  Besides the listed classes only
two names can occur: an unlisted one at the start and `object` at the end.
-/
def ancestors (hierarchy : ClassHierarchy) (name : String) : List String :=
  hierarchy.chain (hierarchy.classes.entries.length + 2) [] name

/-- Every value of the first type is a value of the second. -/
def isSubtype (hierarchy : ClassHierarchy) (sub sup : ValueType) : Bool :=
  if sub.isUnknown || sup.isUnknown then true
  else if sub = sup then true
  else if sup = .object then !sub.isFunction
  else
    match sub, sup with
    | .classType name, .classType other => (hierarchy.ancestors name).contains other
    | _, _ => false

/-- The absent value may be stored in a place of the type. -/
def acceptsNone (hierarchy : ClassHierarchy) (target : ValueType) : Bool :=
  hierarchy.isSubtype .none target || !target.isSpecial && !target.isFunction

/-- A value of the first type may be stored in a place of the second. -/
def isAssignable (hierarchy : ClassHierarchy) (source target : ValueType) : Bool :=
  if hierarchy.isSubtype source target then true
  else if source = .none then !target.isSpecial && !target.isFunction
  else if source = .empty then target.isList
  else
    match source, target with
    | .list element, .list wanted => element = .none && hierarchy.acceptsNone wanted
    | _, _ => false

/-- The nearest class that is a superclass of two classes, or else `object`. -/
def commonSuperclass (hierarchy : ClassHierarchy) (a b : String) : ValueType :=
  let others := hierarchy.ancestors b
  match (hierarchy.ancestors a).find? fun name => others.contains name with
  | some name => .classType name
  | none => .object

/-- The least type that holds the values of two types. -/
def join (hierarchy : ClassHierarchy) (a b : ValueType) : ValueType :=
  if a.isUnknown then b
  else if b.isUnknown then a
  else if hierarchy.isAssignable a b then b
  else if hierarchy.isAssignable b a then a
  else
    match a, b with
    | .classType m, .classType n => hierarchy.commonSuperclass m n
    | _, _ => .object

end ClassHierarchy
end ChocoLang
