import ChocoLang.Parsing.Declaration
import ChocoLang.Token.Lexing

/-!
# Reading programs

A program is read from its first token to its end, whatever is wrong with it: every statement or
declaration in error is reported and left out.  The result is always a program.
-/

namespace ChocoLang

/-- What has been read of a program. -/
structure ProgramBody where
  /-- The declarations. -/
  declarations : List Decl := []
  /-- The statements. -/
  statements : List Stmt := []

namespace Parse

/-- Reads a declaration at the top level. -/
def topDeclaration : Parse Decl := do
  match ← look Cursor.kind with
  | .keyword .kwDef => functionDefinition nestingLimit
  | .keyword .kwClass => classDeclaration nestingLimit (functionDefinition nestingLimit)
  | _ => variableDefinition nestingLimit

/-- Puts a declaration into a program, unless there is a statement before it. -/
def declareIn (body : ProgramBody) (decl : Decl) :
    Parse ProgramBody := do
  if body.statements.isEmpty then
    return { body with declarations := body.declarations ++ [decl] }
  else
    record .lateDeclaration decl.info.span
    return body

/-- Reads one declaration or statement of a program; one in error is left out. -/
def programStep (body : ProgramBody) : Recovering ProgramBody := do
  let cursor ← get
  if cursor.kind == .dedent then
    set cursor.advance
    return body
  else if cursor.atDeclaration then
    recovering body do
      declareIn body (← topDeclaration)
  else
    recovering body do
      let read ← statement (expression nestingLimit) (block nestingLimit)
      return { body with statements := body.statements ++ read.toList }

/-- Reads declarations and statements to the end of the file. -/
def programBody : Recovering ProgramBody := do
  repeatUntil Cursor.atEnd programStep (← get).ahead.length {}

end Parse

namespace Cursor

/-- The problems recorded so far, as diagnostics. -/
def diagnostics (cursor : Cursor) : List Diagnostic := cursor.problems.map Located.toDiagnostic

/--
Reads the program ahead.  Its errors are the diagnostics known before, those recorded on the way
here, and those recorded in reading it.
-/
def readProgram (file : String) (known : List Diagnostic) (cursor : Cursor) :
    Program × Cursor :=
  let (body, after) := Parse.programBody.run cursor
  let span := if after.position = 0 then .point file 1 1 else after.spanFrom cursor.current.span
  ({ info := .ofSpan span
     declarations := body.declarations
     statements := body.statements
     errors := known ++ after.diagnostics },
    after)

end Cursor

/-- The program that some tokens make up, with the diagnostics known before put first. -/
def Program.ofTokens (file : String) (known : List Diagnostic) (tokens : List Token)
    (nonempty : tokens ≠ []) : Program :=
  ((Cursor.ofTokens tokens nonempty).readProgram file known).1

/-- The program that the tokens of a text make up, with the problems in them put first. -/
def Program.ofLexing (file : String) (lexing : Lexing) : Program :=
  .ofTokens file lexing.diagnostics lexing.tokens lexing.tokens_ne_nil

/-- The program that a text is, unless the text is refused. -/
def Program.ofSource (file source : String) : Except Refusal Program :=
  (Lexing.ofSource file source).map (Program.ofLexing file)

/-- A program is read off the tokens of its text. -/
theorem Program.exists_of_ofSource {file source : String} {program : Program}
    (read : Program.ofSource file source = .ok program) :
    ∃ lexing, Lexing.ofSource file source = .ok lexing ∧ program = .ofLexing file lexing :=
  exists_ok_of_map read

end ChocoLang
