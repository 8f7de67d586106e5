import ChocoLang.Compilation
import ChocoLang.Editor.Analysis

/-!
# Editing sessions

During a session documents are opened, changed, saved and closed, and an editor asks what to show
at places of them.  The session knows the current text of every open document and holds its
analysis; each notice about a document publishes its markers anew, and closing it publishes that
there are none.

A notice about a text that is refused fails.  By then the text is known, but it has no analysis and
nothing is published; the session goes on with what it has.
-/

namespace ChocoLang

/-- What an editor tells about a document. -/
inductive Notice where
  /-- The document was opened with a text. -/
  | opened (uri text : String)
  /-- The document now has another text. -/
  | changed (uri text : String)
  /-- The document was saved as it is. -/
  | saved (uri : String)
  /-- The document was closed. -/
  | closed (uri : String)
deriving DecidableEq, Repr

/-- The markers that a document has from now on. -/
structure Publication where
  /-- The address of the document. -/
  uri : String
  /-- All its markers. -/
  markers : List Marker
deriving DecidableEq, Repr

/-- What an editor sends. -/
inductive Message where
  /-- It tells something about a document. -/
  | notice (notice : Notice)
  /-- It asks what to show at a place of a document. -/
  | hover (uri : String) (line character : Int)
deriving DecidableEq, Repr

/-- What the service sends on a message. -/
structure Reply where
  /-- What it publishes. -/
  published : List Publication := []
  /-- What is to be shown, if that was asked. -/
  shown : Option Hover := none
deriving DecidableEq, Repr

/-- The open documents of an editor. -/
structure Session where
  /-- The current text of each open document, under its address. -/
  texts : Table String := {}
  /-- The analysis of each open document, under its address. -/
  analyses : Table Analysis := {}

namespace Session

/-- The name by which an editor knows the service. -/
def serviceName : String := "chocopy-lsp"

/-- The version by which an editor knows the service. -/
def serviceVersion : String := "v" ++ compilerVersion

/-- The current text of a document, if it is open. -/
def text? (session : Session) (uri : String) : Option String := session.texts.find? uri

/-- The analysis of a document, if there is one. -/
def analysis? (session : Session) (uri : String) : Option Analysis := session.analyses.find? uri

/-- Notes what a notice says about the current texts. -/
def note (session : Session) : Notice → Session
  | .opened uri text | .changed uri text =>
    { session with texts := session.texts.insert uri text }
  | .saved _ => session
  | .closed uri => { session with texts := session.texts.erase uri }

/-- Analyses a text of a document and publishes its markers. -/
def analyze (session : Session) (uri text : String) :
    Except Refusal (Session × List Publication) := do
  let analysis ← Analysis.ofText uri text
  return ({ session with analyses := session.analyses.insert uri analysis },
    [⟨uri, analysis.markers⟩])

/-- Analyses the current text of a document. -/
def refresh (session : Session) (uri : String) : Except Refusal (Session × List Publication) :=
  match session.text? uri with
  | some text => session.analyze uri text
  | none => return (session, [])

/-- Acts on a notice that has been noted. -/
def handle (session : Session) : Notice → Except Refusal (Session × List Publication)
  | .opened uri text => session.analyze uri text
  | .changed uri _ | .saved uri => session.refresh uri
  | .closed uri =>
    return ({ session with analyses := session.analyses.erase uri }, [⟨uri, []⟩])

/-- Takes a notice, and publishes what follows from it. -/
def receive (session : Session) (notice : Notice) :
    Except Refusal (Session × List Publication) :=
  (session.note notice).handle notice

/-- What is shown at a place of a document, if the document has an analysis. -/
def hover? (session : Session) (uri : String) (line character : Int) : Option Hover :=
  (session.analysis? uri).bind (·.hover? line character)

/-- Answers a message, and goes on. -/
def step (session : Session) : Message → Session × Reply
  | .notice notice =>
    match session.receive notice with
    | .ok (session, published) => (session, { published })
    | .error _ => (session.note notice, {})
  | .hover uri line character => (session, { shown := session.hover? uri line character })

/-- Answers messages one after the other. -/
def run (session : Session) : List Message → Session × List Reply
  | [] => (session, [])
  | message :: rest =>
    let (next, reply) := session.step message
    let (last, replies) := next.run rest
    (last, reply :: replies)

end Session
end ChocoLang
