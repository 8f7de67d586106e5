import ChocoLang.Syntax.Encoding

/-!
# Records of artifacts

What a host asks to see as JSON is an artifact: a program, a type, a diagnostic, an operator, plain
data, or a list of artifacts.  A span, a fraction and a mapping are not written out on their own,
and an artifact that holds one of them has no record.
-/

namespace ChocoLang

/-- What has no record of its own. -/
inductive Unrecorded where
  /-- A number with a fraction. -/
  | fraction
  /-- Values under keys. -/
  | mapping
  /-- A stretch of source text. -/
  | span (place : Span)
deriving DecidableEq, Repr

/-- The word by which a host is told what has no record. -/
def Unrecorded.word : Unrecorded → String
  | fraction => "float"
  | mapping => "dict"
  | span _ => "SourceSpan"

/-- What a host is told when something has no record. -/
def Unrecorded.message (cause : Unrecorded) : String :=
  "Cannot serialize object of type " ++ cause.word

/-- What a host can ask to see as JSON. -/
inductive Artifact where
  | absent
  | truth (value : Bool)
  | integer (value : Int)
  | text (value : String)
  | type (valueType : ValueType)
  | diagnostic (problem : Diagnostic)
  | operator (symbol : BinaryOperator)
  | program (tree : Program)
  | list (items : List Artifact)
  | unrecorded (cause : Unrecorded)

namespace Artifact

mutual

/-- The record of an artifact, or else the first part of it that has none. -/
def toJson : Artifact → Except Unrecorded Json
  | absent => .ok .null
  | truth value => .ok (.bool value)
  | integer value => .ok (.integer value)
  | text value => .ok (.string value)
  | type valueType => .ok valueType.toJson
  | diagnostic problem => .ok problem.toJson
  | operator symbol => .ok (.string symbol.spelling)
  | program tree => .ok tree.toJson
  | list items => (allToJson items).map Json.array
  | unrecorded cause => .error cause

/-- The records of several artifacts. -/
def allToJson : List Artifact → Except Unrecorded (List Json)
  | [] => .ok []
  | item :: rest => do
    let first ← item.toJson
    let others ← allToJson rest
    return first :: others

end

/-- The text of an artifact: on one line, or spread over lines. -/
def render (indent : Option Int) (artifact : Artifact) : Except Unrecorded String :=
  artifact.toJson.map (Json.render indent)

end Artifact

/-! ## Text for a host -/

/-- The words with which every failure begins that a host is told of. -/
def failureOpening : String := "Serialization failed"

/-- A failure as a host is told of it; the opening words are put first unless they are there. -/
def failureMessage (message : String) : String :=
  if message.startsWith failureOpening then message else failureOpening ++ ": " ++ message

/-- The text a host receives: a record on one line, or the failure to make one. -/
def hostText : Except String Json → String
  | .ok record => record.render none
  | .error message =>
    (Json.object [("error", .string (failureMessage message))]).render none

end ChocoLang
