/-!
# Types

A value is of a class or is a list of values of one type; a function has the types of its
parameters and of its result.  The unknown type stands for the type of an expression that is in
error.  `<None>` and `<Empty>` are classes of the type system that no program can name: the type of
the absent value and the type of the empty list.
-/

namespace ChocoLang

/-- A type. -/
inductive ValueType where
  /-- The class of a name. -/
  | classType (name : String)
  /-- The lists whose elements are of a type. -/
  | list (element : ValueType)
  /-- The functions from parameters to a result. -/
  | function (params : List ValueType) (result : ValueType)
  /-- The type of an expression in error. -/
  | unknown
deriving Repr

namespace ValueType

mutual

/-- Decides whether two types are the same. -/
def decEq : (a b : ValueType) → Decidable (a = b)
  | classType m, classType n =>
    if same : m = n then isTrue (congrArg classType same)
    else isFalse fun equal => same (by injection equal)
  | list a, list b =>
    match decEq a b with
    | isTrue same => isTrue (congrArg list same)
    | isFalse differ => isFalse fun equal => differ (by injection equal)
  | function as a, function bs b =>
    match decEqAll as bs, decEq a b with
    | isTrue sameParams, isTrue same => isTrue (by rw [sameParams, same])
    | isFalse differ, _ => isFalse fun equal => differ (by injection equal)
    | _, isFalse differ => isFalse fun equal => differ (by injection equal)
  | unknown, unknown => isTrue rfl
  | classType _, list _ | classType _, function _ _ | classType _, unknown
  | list _, classType _ | list _, function _ _ | list _, unknown
  | function _ _, classType _ | function _ _, list _ | function _ _, unknown
  | unknown, classType _ | unknown, list _ | unknown, function _ _ => isFalse (by simp)

/-- Decides whether two lists of types are the same. -/
def decEqAll : (as bs : List ValueType) → Decidable (as = bs)
  | [], [] => isTrue rfl
  | a :: as, b :: bs =>
    match decEq a b, decEqAll as bs with
    | isTrue same, isTrue rest => isTrue (by rw [same, rest])
    | isFalse differ, _ => isFalse fun equal => differ (by injection equal)
    | _, isFalse differ => isFalse fun equal => differ (by injection equal)
  | [], _ :: _ | _ :: _, [] => isFalse (by simp)

end

instance : DecidableEq ValueType := decEq

/-- The class of integers. -/
def int : ValueType := classType "int"

/-- The class of truth values. -/
def bool : ValueType := classType "bool"

/-- The class of strings. -/
def str : ValueType := classType "str"

/-- The class of all values. -/
def object : ValueType := classType "object"

/-- The class of the absent value. -/
def none : ValueType := classType "<None>"

/-- The class of the empty list. -/
def empty : ValueType := classType "<Empty>"

/-- The classes that the absent value is not a member of. -/
def specialClasses : List String := ["int", "bool", "str"]

/-- The type is a class that excludes the absent value. -/
def isSpecial : ValueType → Bool
  | classType name => specialClasses.contains name
  | _ => false

/-- The type is a type of lists. -/
def isList : ValueType → Bool
  | list _ => true
  | _ => false

/-- The type is a type of functions. -/
def isFunction : ValueType → Bool
  | function _ _ => true
  | _ => false

/-- The type is that of an expression in error. -/
def isUnknown : ValueType → Bool
  | unknown => true
  | _ => false

mutual

/-- The type as diagnostics show it. -/
def display : ValueType → String
  | classType name => name
  | list element => "[" ++ element.display ++ "]"
  | function params result => "(" ++ displayAll params ++ ") -> " ++ result.display
  | unknown => "<Unknown>"

/-- Types one after the other. -/
def displayAll : List ValueType → String
  | [] => ""
  | [last] => last.display
  | type :: rest => type.display ++ ", " ++ displayAll rest

end

end ValueType

/-- The parameters and the result of a function or method, the receiver among the parameters. -/
structure Signature where
  /-- The types of the parameters. -/
  params : List ValueType
  /-- The type of the result. -/
  result : ValueType
deriving DecidableEq, Repr

/-- The type of the functions with a signature. -/
def Signature.type (signature : Signature) : ValueType :=
  .function signature.params signature.result

end ChocoLang
