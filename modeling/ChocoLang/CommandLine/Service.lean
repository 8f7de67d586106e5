import ChocoLang.CommandLine.Invocation
import ChocoLang.Editor.Session

/-!
# Starting the editor service

The service talks to an editor over its standard streams or over a connection; its arguments say
which.
-/

namespace ChocoLang

/-- How the service talks to an editor. -/
inductive Transport where
  /-- Over the standard streams. -/
  | streams
  /-- Over a connection to a port of a host, as far as these are settled. -/
  | connection (host : Option String) (port : Option Int)
deriving DecidableEq, Repr

/-- The settings of the service. -/
structure ServiceSettings where
  /-- The service talks over a connection. -/
  connected : Bool := false
  /-- The host to listen on; none if that was left open. -/
  host : Option String := some "127.0.0.1"
  /-- The port to listen on; none if that was left open. -/
  port : Option Int := some 2087
  /-- How much is logged; none if that was left open. -/
  logLevel : Option String := some "info"
deriving DecidableEq, Repr

namespace ServiceSettings

/-- The option that says how much is logged. -/
def logOption : String := "--log-level"

/-- How much can be logged. -/
def logLevels : List String := ["debug", "info", "warning", "error"]

/-- How the service is used. -/
def usage : Usage :=
  let levels := logOption ++ " " ++ choiceTerm logLevels
  let program := Session.serviceName
  { program
    synopsis :=
      ["usage: " ++ program ++ " [-h] [--tcp] [--host HOST] [--port PORT]",
        "                   [" ++ levels ++ "]"]
    about := some "ChocoPy Language Server"
    sections :=
      [{ heading := "options"
         entries :=
          [helpEntry,
            { term := "--tcp"
              explanation := some "Start server in TCP mode instead of stdio" },
            { term := "--host HOST"
              explanation := some "Host to bind to in TCP mode (default: 127.0.0.1)" },
            { term := "--port PORT"
              explanation := some "Port to listen on in TCP mode (default: 2087)" },
            { term := levels, explanation := some "Logging level (default: info)" }] }] }

/-- The arguments of the service. -/
def grammar : CommandGrammar ServiceSettings :=
  { usage
    options :=
      [helpOption usage,
        { spellings := ["--tcp"]
          effect := .mark fun settings => { settings with connected := true } },
        { spellings := ["--host"]
          effect := .text fun host settings => { settings with host } },
        { spellings := ["--port"]
          effect := .integer fun port settings => { settings with port } },
        { spellings := [logOption]
          effect := .choice logLevels fun logLevel settings => { settings with logLevel } }]
    form := .absent }

/-- How the service talks to an editor with certain settings. -/
def transport (settings : ServiceSettings) : Transport :=
  if settings.connected then .connection settings.host settings.port else .streams

end ServiceSettings

/-- How the service is to talk to an editor according to its arguments. -/
def Transport.ofArguments (args : List String) : Except Exit Transport := do
  let (settings, operands) ← ServiceSettings.grammar.readOrExit {} args
  match operands.extras, settings.logLevel with
  | [], some _ => return settings.transport
  | [], none => .error (.valueless ServiceSettings.logOption)
  | extras, _ => .error (.misused (ServiceSettings.usage.complaint (.unrecognized extras)))

end ChocoLang
