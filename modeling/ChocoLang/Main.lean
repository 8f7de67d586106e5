import ChocoLang.CommandLine.Report

/-!
# The compiler as a program

The outermost layer: it takes the arguments of the process, reads the source they name, and prints
the report.
-/

namespace ChocoLang

/-- The error that the system met in reading a file. -/
def accessErrorOf (error : IO.Error) : AccessError :=
  match error with
  | .noFileOrDirectory .. => .missing
  | .inappropriateType .. => .directory
  | .permissionDenied .. => { number := 13, reason := "Permission denied" }
  | other => { number := 5, reason := toString other }

/-- The bytes of a source, or why it cannot be read. -/
def readBytes (origin : SourceOrigin) : IO (Except AccessError ByteArray) := do
  match origin with
  | .standardInput => return .ok (← (← IO.getStdin).readBinToEnd)
  | .file path =>
    try return .ok (← IO.FS.readBinFile path)
    catch error => return .error (accessErrorOf error)

/-- The circumstances in which the process runs. -/
def surroundings : IO Surroundings := do
  return { isTerminal := ← (← IO.getStdout).isTty
           declined := (← IO.getEnv "NO_COLOR").getD "" }

/-- Prints a report and tells its status. -/
def printReport (report : Report) : IO UInt32 := do
  (← IO.getStdout).putStr report.out
  (← IO.getStderr).putStr report.err
  return report.status.toUInt32

/-- Complains about an option without a value. -/
def printValueless (option : String) : IO UInt32 :=
  printReport { status := 2, err := "Error: " ++ option ++ " is left without a value\n" }

/-- Complains about a source that is refused. -/
def printRefusal (name reason : String) : IO UInt32 :=
  printReport { status := 2, err := "Error: cannot read " ++ name ++ ": " ++ reason ++ "\n" }

/-- Prints the report of an invocation on an input. -/
def runOn (invocation : Invocation) (input : Except AccessError String) : IO UInt32 := do
  match invocation.report (← surroundings) input with
  | .ok report => printReport report
  | .error (.refused .overlongInteger) =>
    printRefusal invocation.origin.name "an integer has too many digits"
  | .error (.valueless option) => printValueless option

/-- Does what an invocation asks for. -/
def runInvocation (invocation : Invocation) : IO UInt32 := do
  let origin := invocation.origin
  match (← readBytes origin).map origin.decode with
  | .ok none => printRefusal origin.name "it is not UTF-8"
  | .ok (some source) => runOn invocation (.ok source)
  | .error error => runOn invocation (.error error)

end ChocoLang

/-- The compiler. -/
def main (args : List String) : IO UInt32 := do
  match ChocoLang.Invocation.ofArguments args with
  | .error (.shown text) => ChocoLang.printReport { out := text }
  | .error (.misused complaint) => ChocoLang.printReport { status := 2, err := complaint }
  | .error (.valueless option) => ChocoLang.printValueless option
  | .ok none => ChocoLang.printReport .overview
  | .ok (some invocation) => ChocoLang.runInvocation invocation
