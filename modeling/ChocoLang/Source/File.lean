import ChocoLang.Text.Lines
import ChocoLang.Text.Quoted

/-!
# Source files

A program is read from a file or from the standard input.  A path is shown in its shortest form,
without steps that lead nowhere.  The bytes of either are UTF-8, and the line breaks of a file
are turned into line feeds as it is read.
-/

namespace ChocoLang

/-! ## Paths -/

namespace Path

/-- The mark between the steps of a path. -/
def separator : Char := '/'

/-- The separators at the head of a path that stay: all but two of them count as one. -/
def root (path : List Char) : List Char :=
  match (path.takeWhile (· == separator)).length with
  | 0 => []
  | 2 => [separator, separator]
  | _ => [separator]

/-- The step with the given characters in reverse, unless it leads nowhere. -/
def stepOf (reversed : List Char) : List (List Char) :=
  if reversed = [] || reversed = ['.'] then [] else [reversed.reverse]

/-- The steps of a path, the first of them begun with the characters of `step` in reverse. -/
def stepsFrom (step : List Char) : List Char → List (List Char)
  | [] => stepOf step
  | c :: rest =>
    if c = separator then stepOf step ++ stepsFrom [] rest else stepsFrom (c :: step) rest

/-- The steps of a path, those left out that stay where they are. -/
def steps (path : List Char) : List (List Char) := stepsFrom [] path

/-- The shortest form of a path. -/
def normalize (path : String) : String :=
  let chars := path.toList
  let shortest := root chars ++ [separator].intercalate (steps chars)
  if shortest = [] then "." else String.ofList shortest

end Path

/-! ## Where a program comes from -/

/-- Where a program is read from. -/
inductive SourceOrigin where
  /-- The standard input. -/
  | standardInput
  /-- The file of a path. -/
  | file (path : String)
deriving DecidableEq, Repr

namespace SourceOrigin

/-- The origin that a word on the command line names: a dash names the standard input. -/
def ofWord (word : String) : SourceOrigin :=
  if word = "-" then standardInput else file (Path.normalize word)

/-- The name of the origin in diagnostics. -/
def name : SourceOrigin → String
  | standardInput => "<stdin>"
  | file path => path

end SourceOrigin

/-! ## Reading -/

/-- Why a file could not be read, as the system tells it. -/
structure AccessError where
  /-- The number of the error. -/
  number : Nat
  /-- The error in words. -/
  reason : String
deriving DecidableEq, Repr

namespace AccessError

/-- There is no file of the name. -/
def missing : AccessError := { number := 2, reason := "No such file or directory" }

/-- A step of the path leads through a file. -/
def throughFile : AccessError := { number := 20, reason := "Not a directory" }

/-- The path leads to a directory. -/
def directory : AccessError := { number := 21, reason := "Is a directory" }

/-- The path, or a step of it, is longer than the system admits. -/
def overlongName : AccessError := { number := 36, reason := "File name too long" }

/-- The error and the path it is about. -/
def message (error : AccessError) (path : String) : String :=
  "[Errno " ++ toString error.number ++ "] " ++ error.reason ++ ": " ++ Text.quoted path

end AccessError

/-- The text that the bytes from an origin hold, if they are UTF-8. -/
def SourceOrigin.decode (origin : SourceOrigin) (bytes : ByteArray) : Option String :=
  (String.fromUTF8? bytes).map fun text =>
    match origin with
    | standardInput => text
    | file _ => String.ofList (Text.normalizeBreaks text.toList)

end ChocoLang
