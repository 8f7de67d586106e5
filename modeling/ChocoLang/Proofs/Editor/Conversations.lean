import ChocoLang.Proofs.Editor.Steps
import ChocoLang.Proofs.Token.Refusal
import Mathlib.Data.List.Induction

/-!
# Conversations with an editor

After any messages, what an editor presents of a document depends on the messages about this
document only.  If it is closed, nothing is presented; if it is open, what is presented is what an
analysis of its current text says, whatever came before.  The one exception is a text that is
refused: then the document is presented as it was before.
-/

namespace ChocoLang

/-! ## What the messages say -/

namespace Notice

/-- The text that a notice gives to its document. -/
def text? : Notice → Option String
  | opened _ text | changed _ text => some text
  | saved _ | closed _ => none

/-- Whether the document is open from the notice on, if the notice is about that. -/
def opens? : Notice → Option Bool
  | opened _ _ => some true
  | closed _ => some false
  | changed _ _ | saved _ => none

/-- Only an open document can be changed or saved. -/
def needsOpen (notice : Notice) : Bool := notice.opens?.isNone

end Notice

namespace Message

/-- The notice that a message is. -/
def notice? : Message → Option Notice
  | .notice told => some told
  | .hover _ _ _ => none

/-- The messages about one document. -/
def about (uri : String) (messages : List Message) : List Message :=
  messages.filter (·.uri == uri)

/-- The notices about one document. -/
def notices (uri : String) (messages : List Message) : List Notice :=
  (about uri messages).filterMap notice?

/-- The text of a document that was opened or changed: the one it was given last. -/
def currentText? (uri : String) (messages : List Message) : Option String :=
  ((notices uri messages).filterMap Notice.text?).getLast?

/-- A document is open if it was opened and has not been closed since. -/
def isOpen (uri : String) (messages : List Message) : Bool :=
  ((notices uri messages).filterMap Notice.opens?).getLast?.getD false

/-- Changes and savings are about documents that are open when they come. -/
def Orderly (messages : List Message) : Prop :=
  ∀ index (_ : index < messages.length), ∀ notice ∈ messages[index].notice?,
    notice.needsOpen = true → isOpen notice.uri (messages.take index) = true

instance (messages : List Message) : Decidable (Orderly messages) :=
  inferInstanceAs (Decidable (∀ index (_ : index < messages.length), _))

variable {messages : List Message} {message : Message} {uri : String}

theorem Orderly.init (orderly : Orderly (messages ++ [message])) : Orderly messages := by
  intro index inside
  have within : index < (messages ++ [message]).length := by
    rw [List.length_append]
    omega
  have this := orderly index within
  rwa [List.getElem_append_left inside, List.take_append_of_le_length inside.le] at this

theorem Orderly.isOpen {told : Notice} (orderly : Orderly (messages ++ [.notice told]))
    (needs : told.needsOpen = true) : isOpen told.uri messages = true := by
  have this := orderly messages.length (by simp)
  rw [List.getElem_concat_length rfl, List.take_left] at this
  exact this told rfl needs

theorem about_cons_self (message : Message) (messages : List Message) :
    about message.uri (message :: messages) = message :: about message.uri messages := by
  simp [about]

theorem about_cons_of_ne (other : message.uri ≠ uri) :
    about uri (message :: messages) = about uri messages := by
  simp [about, other]

theorem notices_append_hover (about : String) (line character : Int) :
    notices uri (messages ++ [.hover about line character]) = notices uri messages := by
  by_cases same : about = uri <;> simp [notices, Message.about, Message.uri, notice?, same]

theorem notices_append_of_ne (other : message.uri ≠ uri) :
    notices uri (messages ++ [message]) = notices uri messages := by
  simp [notices, about, other]

theorem notices_append_notice (told : Notice) :
    notices told.uri (messages ++ [.notice told]) = notices told.uri messages ++ [told] := by
  simp [notices, about, Message.uri, notice?]

theorem currentText?_append_notice (told : Notice) :
    currentText? told.uri (messages ++ [.notice told]) =
      told.text?.or (currentText? told.uri messages) := by
  rw [currentText?, notices_append_notice, List.filterMap_append, List.getLast?_append]
  cases shape : told.text? <;> simp [shape, currentText?]

theorem isOpen_append_notice (told : Notice) :
    isOpen told.uri (messages ++ [.notice told]) =
      told.opens?.getD (isOpen told.uri messages) := by
  rw [isOpen, notices_append_notice, List.filterMap_append, List.getLast?_append]
  cases shape : told.opens? <;> simp [shape, isOpen]

end Message

/-! ## Runs -/

namespace Session

variable {session other : Session} {uri : String}

theorem run_cons (session : Session) (message : Message) (rest : List Message) :
    session.run (message :: rest) = (((session.step message).1.run rest).1,
      (session.step message).2 :: ((session.step message).1.run rest).2) := rfl

theorem run_append_singleton (session : Session) (messages : List Message) (message : Message) :
    session.run (messages ++ [message]) = (((session.run messages).1.step message).1,
      (session.run messages).2 ++ [((session.run messages).1.step message).2]) := by
  induction messages generalizing session with
  | nil => rfl
  | cons first rest ih => rw [List.cons_append, run_cons, ih, run_cons, List.cons_append]

/-- A run does to a document what it does by the messages about it alone. -/
theorem Agree.run (agree : Agree uri session other) (messages : List Message) :
    Agree uri (session.run messages).1 (other.run (Message.about uri messages)).1 ∧
      (session.run messages).2.flatMap (Reply.markersOf uri) =
        (other.run (Message.about uri messages)).2.flatMap (Reply.markersOf uri) := by
  induction messages generalizing session other with
  | nil => exact ⟨agree, rfl⟩
  | cons message rest ih =>
      rw [run_cons, List.flatMap_cons]
      by_cases same : message.uri = uri
      · subst same
        obtain ⟨next, reply⟩ := agree.step
        obtain ⟨last, replies⟩ := ih next
        rw [Message.about_cons_self, run_cons, List.flatMap_cons, reply, replies]
        exact ⟨last, rfl⟩
      · obtain ⟨unchanged, quiet⟩ := step_of_ne session same
        rw [Message.about_cons_of_ne same, quiet]
        exact ih (unchanged.trans agree)

/-- The session after messages from the beginning on. -/
def reached (messages : List Message) : Session := (Session.run {} messages).1

@[simp]
theorem reached_append_singleton (messages : List Message) (message : Message) :
    reached (messages ++ [message]) = ((reached messages).step message).1 := by
  rw [reached, run_append_singleton, reached]

end Session

/-! ## What is presented of a document -/

/-- What an editor presents of a document. -/
structure Presentation where
  /-- The markers that were published last, if any were. -/
  markers : Option (List Marker)
  /-- What is shown at each place, as lines and characters count from zero. -/
  hover : Int → Int → Option Hover

/-- What an analysis of a document has to present. -/
def Analysis.presentation (analysis : Analysis) : Presentation :=
  { markers := some analysis.markers, hover := analysis.hover? }

/-- What is presented of a document after messages from the beginning on. -/
def presentation (uri : String) (messages : List Message) : Presentation :=
  { markers := ((Session.run {} messages).2.flatMap (Reply.markersOf uri)).getLast?
    hover := fun line character =>
      ((Session.reached messages).step (.hover uri line character)).2.shown }

section Presentation

open Session

variable {messages : List Message} {message : Message} {uri text : String}

theorem presentation_append_singleton (uri : String) (messages : List Message)
    (message : Message) :
    presentation uri (messages ++ [message]) =
      { markers := (((reached messages).step message).2.markersOf uri).getLast?.or
          (presentation uri messages).markers
        hover := fun line character =>
          (((reached messages).step message).1.analysis? uri).bind (·.hover? line character) } := by
  simp only [presentation, reached_append_singleton, run_append_singleton, List.flatMap_append,
    List.flatMap_singleton, List.getLast?_append]
  rfl

theorem presentation_append_of_quiet
    (held : ((reached messages).step message).1.analysis? uri = (reached messages).analysis? uri)
    (quiet : ((reached messages).step message).2.markersOf uri = []) :
    presentation uri (messages ++ [message]) = presentation uri messages := by
  rw [presentation_append_singleton, held, quiet]
  rfl

theorem presentation_append_of_published {markers : List Marker}
    (published : ((reached messages).step message).2.markersOf uri = [markers]) :
    presentation uri (messages ++ [message]) =
      { markers := some markers
        hover := fun line character =>
          (((reached messages).step message).1.analysis? uri).bind (·.hover? line character) } := by
  rw [presentation_append_singleton, published]
  rfl

/-- What is presented of a document depends on the messages about it alone. -/
theorem presentation_about (uri : String) (messages : List Message) :
    presentation uri (Message.about uri messages) = presentation uri messages := by
  have start : Agree uri {} {} := ⟨rfl, rfl⟩
  obtain ⟨agree, published⟩ := start.run messages
  have analysis : (reached messages).analysis? uri =
      (reached (Message.about uri messages)).analysis? uri := agree.analysis
  simp only [presentation, published, step, hover?, analysis]

/-- What is presented of a document with an accepted text is what an analysis of it presents. -/
theorem presentation_of_ofText {analysis : Analysis}
    (known : (reached messages).text? uri = some text)
    (read : Analysis.ofText uri text = .ok analysis) :
    presentation uri messages = analysis.presentation := by
  -- Only the last message that does something to the document counts: what is idle goes back to it.
  induction messages using List.reverseRecOn with
  | nil => cases known
  | append_singleton messages message ih =>
      rw [reached_append_singleton] at known
      cases outcome (reached messages) message uri with
      | analyzed known' read' held published =>
          obtain rfl := Option.some.inj (known'.symm.trans known)
          obtain rfl := Except.ok.inj (read'.symm.trans read)
          rw [presentation_append_of_published published, held]
          rfl
      | refused known' refused =>
          obtain rfl := Option.some.inj (known'.symm.trans known)
          cases refused.symm.trans read
      | closed _ unknown => cases unknown.symm.trans known
      | idle _ unchanged quiet =>
          rw [presentation_append_of_quiet unchanged.analysis quiet]
          exact ih (unchanged.text ▸ known)

/-- Nothing is presented of a document without a text, apart from its having been closed. -/
theorem presentation_of_unknown (unknown : (reached messages).text? uri = none) :
    presentation uri messages =
      { markers := if .notice (.closed uri) ∈ messages then some [] else none
        hover := fun _ _ => none } := by
  induction messages using List.reverseRecOn with
  | nil => rfl
  | append_singleton messages message ih =>
      rw [reached_append_singleton] at unknown
      cases outcome (reached messages) message uri with
      | analyzed known | refused known => cases known.symm.trans unknown
      | closed told _ held published =>
          rw [presentation_append_of_published published, held, told]
          simp
      | idle other unchanged quiet =>
          rw [presentation_append_of_quiet unchanged.analysis quiet,
            ih (unchanged.text ▸ unknown)]
          simp [Ne.symm other]

/-- A message after which the text of a document is refused changes nothing in what is presented. -/
theorem presentation_append_of_refused {refusal : Refusal}
    (known : (reached (messages ++ [message])).text? uri = some text)
    (refused : Analysis.ofText uri text = .error refusal) :
    presentation uri (messages ++ [message]) = presentation uri messages := by
  rw [reached_append_singleton] at known
  cases outcome (reached messages) message uri with
  | analyzed known' read =>
      obtain rfl := Option.some.inj (known'.symm.trans known)
      cases refused.symm.trans read
  | refused _ _ held quiet => exact presentation_append_of_quiet held quiet
  | closed _ unknown => cases unknown.symm.trans known
  | idle _ unchanged quiet => exact presentation_append_of_quiet unchanged.analysis quiet

/-- The session knows the texts of the open documents, and no others. -/
theorem text?_reached (orderly : Message.Orderly messages) (uri : String) :
    (Message.isOpen uri messages = true ∧ ∃ text, Message.currentText? uri messages = some text ∧
        (reached messages).text? uri = some text) ∨
      (Message.isOpen uri messages = false ∧ (reached messages).text? uri = none) := by
  induction messages using List.reverseRecOn with
  | nil => exact .inr ⟨rfl, rfl⟩
  | append_singleton messages message ih =>
      rw [reached_append_singleton]
      have before := ih orderly.init
      cases message with
      | hover about line character =>
          rw [Message.isOpen, Message.currentText?, Message.notices_append_hover]
          exact before
      | notice told =>
          by_cases same : told.uri = uri
          · subst same
            rw [Message.isOpen_append_notice, Message.currentText?_append_notice,
              text?_step_notice]
            cases told with
            | opened uri text => exact .inl ⟨rfl, text, rfl, by simp [Notice.uri]⟩
            | changed uri text =>
                -- Only here the order matters: a change alone would make a text known, too.
                exact .inl ⟨orderly.isOpen rfl, text, rfl, by simp [Notice.uri]⟩
            | saved => exact before
            | closed => exact .inr ⟨rfl, by simp [Notice.uri]⟩
          · have apart : (Message.notice told).uri ≠ uri := same
            rw [Message.isOpen, Message.currentText?, Message.notices_append_of_ne apart,
              (step_of_ne _ apart).1.text]
            exact before

theorem text?_of_isOpen (orderly : Message.Orderly messages)
    (opened : Message.isOpen uri messages = true) :
    ∃ text, Message.currentText? uri messages = some text ∧
      (reached messages).text? uri = some text := by
  obtain ⟨-, found⟩ | ⟨shut, -⟩ := text?_reached orderly uri
  · exact found
  · exact absurd (opened.symm.trans shut) (by decide)

theorem text?_of_not_isOpen (orderly : Message.Orderly messages)
    (shut : Message.isOpen uri messages = false) : (reached messages).text? uri = none := by
  obtain ⟨opened, -⟩ | ⟨-, unknown⟩ := text?_reached orderly uri
  · exact absurd (opened.symm.trans shut) (by decide)
  · exact unknown

/-- A text is analysed unless an integer literal in it has more digits than the limit. -/
theorem Analysis.exists_ofText_iff (uri text : String) :
    (∃ analysis, Analysis.ofText uri text = .ok analysis) ↔
      ¬ ∃ tile ∈ programTiles uri text, tile.Overlong := by
  rw [← Lexing.ofSource_eq_error_iff]
  cases read : Lexing.ofSource uri text with
  | ok lexing =>
      obtain ⟨_, checked, compiles⟩ := Compiles.of_lexing read
      refine iff_of_true ⟨⟨uri, text, checked⟩, ?_⟩ nofun
      rw [Analysis.ofText, compiles.typed]
      rfl
  | error refusal =>
      cases refusal
      refine iff_of_false ?_ fun accepted => accepted rfl
      rintro ⟨analysis, read'⟩
      rw [Analysis.ofText, (Refused.of_lexing read).typed] at read'
      cases read'

/-- What is presented of a document is what an analysis of its current text presents. -/
def UpToDate (uri : String) (messages : List Message) : Prop :=
  ∃ text analysis, Message.currentText? uri messages = some text ∧
    Analysis.ofText uri text = .ok analysis ∧ presentation uri messages = analysis.presentation

/--
What is presented of a document depends on the messages about it alone.  If it is closed or was
never opened, nothing is shown of it, and the markers published last are none.  If it is open, what
is presented is up to date unless an integer literal in its current text has more digits than the
limit; then the last message has changed nothing.
-/
theorem presentation_of_orderly (orderly : Message.Orderly messages) (uri : String) :
    presentation uri messages = presentation uri (Message.about uri messages) ∧
    (Message.isOpen uri messages = false →
      presentation uri messages =
        { markers := if .notice (.closed uri) ∈ messages then some [] else none
          hover := fun _ _ => none }) ∧
    (Message.isOpen uri messages = true →
      ∃ text, Message.currentText? uri messages = some text ∧
        (UpToDate uri messages ↔ ¬ ∃ tile ∈ programTiles uri text, tile.Overlong) ∧
        ((∃ tile ∈ programTiles uri text, tile.Overlong) →
          ∀ earlier last, messages = earlier ++ [last] →
            presentation uri messages = presentation uri earlier)) := by
  refine ⟨(presentation_about uri messages).symm,
    fun shut => presentation_of_unknown (text?_of_not_isOpen orderly shut), fun opened => ?_⟩
  obtain ⟨text, current, known⟩ := text?_of_isOpen orderly opened
  refine ⟨text, current, ?_, fun overlong earlier last shape => ?_⟩
  · rw [← Analysis.exists_ofText_iff]
    constructor
    · rintro ⟨text', analysis, current', read, -⟩
      obtain rfl := Option.some.inj (current.symm.trans current')
      exact ⟨analysis, read⟩
    · rintro ⟨analysis, read⟩
      exact ⟨text, analysis, current, read, presentation_of_ofText known read⟩
  · subst shape
    cases read : Analysis.ofText uri text with
    | ok analysis => exact absurd overlong ((Analysis.exists_ofText_iff uri text).mp ⟨_, read⟩)
    | error => exact presentation_append_of_refused known read

/-- Messages about two documents: one is changed and saved, the other is closed in between. -/
def twoDocuments : List Message :=
  [.notice (.opened "a.choc" "x: int = 1\n"), .notice (.opened "b.choc" "y: str = 1\n"),
    .hover "b.choc" 0 0, .notice (.changed "a.choc" "x: str = \"\"\nx\ny\n"),
    .notice (.saved "b.choc"), .notice (.closed "b.choc"), .notice (.saved "a.choc"),
    .hover "a.choc" 1 0]

/-- The changed text is presented, with its unknown name, and nothing of the closed document. -/
theorem presentation_twoDocuments :
    Message.Orderly twoDocuments ∧
      (∃ analysis, Analysis.ofText "a.choc" "x: str = \"\"\nx\ny\n" = .ok analysis ∧
        presentation "a.choc" twoDocuments = analysis.presentation ∧
          analysis.markers.map Marker.code = ["E0301"] ∧
            (analysis.hover? 1 0).map Hover.contents = some "```chocopy\nx: str\n```") ∧
      presentation "b.choc" twoDocuments = { markers := some [], hover := fun _ _ => none } := by
  have orderly : Message.Orderly twoDocuments := by decide
  obtain ⟨analysis, read, shown⟩ : ∃ analysis,
      Analysis.ofText "a.choc" "x: str = \"\"\nx\ny\n" = .ok analysis ∧
        (decide (analysis.markers.map Marker.code = ["E0301"]) &&
          decide ((analysis.hover? 1 0).map Hover.contents =
            some "```chocopy\nx: str\n```")) = true :=
    exists_ok_of_any (by decide +kernel)
  rw [Bool.and_eq_true, decide_eq_true_eq, decide_eq_true_eq] at shown
  obtain ⟨-, -, opened⟩ := presentation_of_orderly orderly "a.choc"
  obtain ⟨text, current, upToDate, -⟩ := opened (by decide)
  obtain rfl : "x: str = \"\"\nx\ny\n" = text := Option.some.inj current
  obtain ⟨_, _, current', read', presented⟩ :=
    upToDate.mpr ((Analysis.exists_ofText_iff _ _).mp ⟨analysis, read⟩)
  obtain rfl := Option.some.inj (current.symm.trans current')
  obtain rfl := Except.ok.inj (read.symm.trans read')
  obtain ⟨-, closed, -⟩ := presentation_of_orderly orderly "b.choc"
  exact ⟨orderly, ⟨analysis, read, presented, shown⟩, closed (by decide)⟩

/-- A document with a variable is opened. -/
def variableOpened : List Message := [.notice (.opened "a.choc" "x: int = 1\nx\n")]

/-- Then its text is replaced by a text that is refused. -/
def variableReplaced : List Message :=
  variableOpened ++ [.notice (.changed "a.choc" overlongSource)]

/-- The document is an integer by then, and what is shown of it is the variable still. -/
theorem not_upToDate_variableReplaced :
    Message.Orderly variableReplaced ∧ Message.isOpen "a.choc" variableReplaced = true ∧
      Message.currentText? "a.choc" variableReplaced = some overlongSource ∧
      ¬ UpToDate "a.choc" variableReplaced ∧
      ((presentation "a.choc" variableReplaced).hover 1 0).map Hover.contents =
        some "```chocopy\nx: int\n```" := by
  have orderly : Message.Orderly variableReplaced := by decide
  have opened : Message.isOpen "a.choc" variableReplaced = true := by decide
  have current : Message.currentText? "a.choc" variableReplaced = some overlongSource := rfl
  have refused : Analysis.ofText "a.choc" overlongSource = .error .overlongInteger := by
    rw [Analysis.ofText, (Refused.of_lexing (Lexing.ofSource_overlongSource "a.choc")).typed]
    rfl
  refine ⟨orderly, opened, current, ?_, ?_⟩
  · rintro ⟨text, analysis, current', read, -⟩
    obtain rfl := Option.some.inj (current.symm.trans current')
    cases refused.symm.trans read
  · obtain ⟨analysis, read, shown⟩ : ∃ analysis, Analysis.ofText "a.choc" "x: int = 1\nx\n" =
        .ok analysis ∧ decide ((analysis.hover? 1 0).map Hover.contents =
          some "```chocopy\nx: int\n```") = true :=
      exists_ok_of_any (by decide +kernel)
    obtain ⟨text, current', known⟩ := text?_of_isOpen orderly opened
    obtain rfl := Option.some.inj (current.symm.trans current')
    have openedBefore : Message.isOpen "a.choc" variableOpened = true := by decide
    obtain ⟨former, formerly, known'⟩ := text?_of_isOpen orderly.init openedBefore
    obtain rfl : "x: int = 1\nx\n" = former := Option.some.inj formerly
    have kept : presentation "a.choc" variableReplaced = presentation "a.choc" variableOpened :=
      presentation_append_of_refused known refused
    rw [kept, presentation_of_ofText known' read]
    exact of_decide_eq_true shown

end Presentation
end ChocoLang
