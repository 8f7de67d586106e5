import ChocoLang.Editor.Session

/-!
# One message to the service

A message changes what a session holds of the document that it is about, and publishes markers of
this document only; what it does there depends only on what the session holds of the document.  It
has one of four outcomes: the current text of the document is analysed anew, the text is refused,
the document is closed, or nothing happens to it.
-/

namespace ChocoLang

/-- The document that a notice is about. -/
def Notice.uri : Notice → String
  | opened uri _ | changed uri _ | saved uri | closed uri => uri

/-- The document that a message is about. -/
def Message.uri : Message → String
  | .notice told => told.uri
  | .hover uri _ _ => uri

/-- The markers of a document that a reply publishes, each time it does. -/
def Reply.markersOf (uri : String) (reply : Reply) : List (List Marker) :=
  (reply.published.filter (·.uri == uri)).map Publication.markers

namespace Session

/-- Two sessions hold the same about a document. -/
structure Agree (uri : String) (session other : Session) : Prop where
  text : session.text? uri = other.text? uri
  analysis : session.analysis? uri = other.analysis? uri

/-- Analyses a text that is known: one that is refused leaves the session as it is. -/
def attempt (session : Session) (uri text : String) : Session × Reply :=
  match Analysis.ofText uri text with
  | .ok analysis =>
    ({ session with analyses := session.analyses.insert uri analysis },
      { published := [⟨uri, analysis.markers⟩] })
  | .error _ => (session, {})

variable {session other : Session} {uri text : String}

/-- Where a notice makes a text be analysed, a step attempts that. -/
theorem step_of_receive {notice : Notice}
    (analyzed : session.receive notice = (session.note notice).analyze uri text) :
    session.step (.notice notice) = (session.note notice).attempt uri text := by
  rw [step, analyzed, analyze, attempt]
  cases Analysis.ofText uri text <;> rfl

theorem refresh_of_text? (known : session.text? uri = some text) :
    session.refresh uri = session.analyze uri text := by
  rw [refresh, known]

@[simp]
theorem text?_note_opened (about : String) : (session.note (.opened uri text)).text? about =
    if about == uri then some text else session.text? about := Table.find?_insert _ _ _ _

@[simp]
theorem text?_note_changed (about : String) : (session.note (.changed uri text)).text? about =
    if about == uri then some text else session.text? about := Table.find?_insert _ _ _ _

@[simp]
theorem text?_note_saved (about : String) :
    (session.note (.saved uri)).text? about = session.text? about := rfl

@[simp]
theorem text?_note_closed (about : String) : (session.note (.closed uri)).text? about =
    if about == uri then none else session.text? about := Table.find?_erase _ _ _

theorem step_opened : session.step (.notice (.opened uri text)) =
    (session.note (.opened uri text)).attempt uri text :=
  step_of_receive rfl

theorem step_changed : session.step (.notice (.changed uri text)) =
    (session.note (.changed uri text)).attempt uri text :=
  step_of_receive (refresh_of_text? (by simp))

theorem step_saved_of_text? (known : session.text? uri = some text) :
    session.step (.notice (.saved uri)) = session.attempt uri text :=
  step_of_receive (refresh_of_text? known)

theorem step_saved_of_unknown (unknown : session.text? uri = none) :
    session.step (.notice (.saved uri)) = (session, {}) := by
  rw [step, receive, handle, refresh, note, unknown]
  rfl

theorem step_closed : session.step (.notice (.closed uri)) =
    ({ texts := session.texts.erase uri, analyses := session.analyses.erase uri },
      { published := [⟨uri, []⟩] }) := rfl

@[simp]
theorem text?_attempt (about : String) :
    (session.attempt uri text).1.text? about = session.text? about := by
  unfold attempt
  split <;> rfl

theorem attempt_of_ofText {analysis : Analysis} (session : Session)
    (read : Analysis.ofText uri text = .ok analysis) :
    (session.attempt uri text).1.analysis? uri = some analysis ∧
      (session.attempt uri text).2.markersOf uri = [analysis.markers] := by
  simp [attempt, read, analysis?, Reply.markersOf]

theorem attempt_of_refused {refusal : Refusal}
    (refused : Analysis.ofText uri text = .error refusal) :
    session.attempt uri text = (session, {}) := by
  rw [attempt, refused]

/-- A notice settles the text of its document before anything else is done. -/
theorem text?_step_notice (session : Session) (told : Notice) :
    (session.step (.notice told)).1.text? told.uri = (session.note told).text? told.uri := by
  cases told with
  | opened => rw [step_opened, text?_attempt]
  | changed => rw [step_changed, text?_attempt]
  | saved about =>
      cases known : session.text? about with
      | some text =>
          rw [step_saved_of_text? known, text?_attempt]
          rfl
      | none =>
          rw [step_saved_of_unknown known]
          rfl
  | closed => rfl

/-! ## Messages about other documents -/

theorem Agree.trans {third : Session} (first : Agree uri session other)
    (second : Agree uri other third) : Agree uri session third :=
  ⟨first.text.trans second.text, first.analysis.trans second.analysis⟩

theorem note_of_ne {notice : Notice} (apart : notice.uri ≠ uri) :
    Agree uri (session.note notice) session := by
  have apart : (uri == notice.uri) = false := beq_eq_false_iff_ne.mpr apart.symm
  cases notice <;> constructor <;> simp_all [note, Notice.uri, Session.text?, analysis?]

theorem attempt_of_ne {about : String} (apart : uri ≠ about) (session : Session) :
    Agree about (session.attempt uri text).1 session ∧
      (session.attempt uri text).2.markersOf about = [] := by
  unfold attempt
  split
  · exact ⟨⟨rfl, by simp [analysis?, apart.symm]⟩, by simp [Reply.markersOf, apart]⟩
  · exact ⟨⟨rfl, rfl⟩, rfl⟩

/-- A message about a document changes nothing for any other, and publishes nothing about it. -/
theorem step_of_ne {message : Message} (session : Session) (apart : message.uri ≠ uri) :
    Agree uri (session.step message).1 session ∧ (session.step message).2.markersOf uri = [] := by
  cases message with
  | hover => exact ⟨⟨rfl, rfl⟩, rfl⟩
  | notice told =>
      have noted : Agree uri (session.note told) session := note_of_ne apart
      cases told with
      | opened =>
          rw [step_opened]
          exact (attempt_of_ne apart _).imp_left (·.trans noted)
      | changed =>
          rw [step_changed]
          exact (attempt_of_ne apart _).imp_left (·.trans noted)
      | saved about =>
          cases known : session.text? about with
          | some text =>
              rw [step_saved_of_text? known]
              exact attempt_of_ne apart _
          | none =>
              rw [step_saved_of_unknown known]
              exact ⟨⟨rfl, rfl⟩, rfl⟩
      | closed about =>
          have other : uri ≠ about := fun same => apart same.symm
          rw [step_closed]
          exact ⟨⟨noted.text, by simp [analysis?, other]⟩, by simp [Reply.markersOf, other.symm]⟩

theorem Agree.note (agree : Agree uri session other) {notice : Notice} (same : notice.uri = uri) :
    Agree uri (session.note notice) (other.note notice) := by
  subst same
  cases notice with
  | opened | changed | closed =>
      exact ⟨by simp [Session.note, Session.text?, Notice.uri], agree.analysis⟩
  | saved => exact agree

theorem Agree.attempt (agree : Agree uri session other) (text : String) :
    Agree uri (session.attempt uri text).1 (other.attempt uri text).1 ∧
      (session.attempt uri text).2 = (other.attempt uri text).2 := by
  unfold Session.attempt
  split
  · exact ⟨⟨agree.text, by simp [analysis?]⟩, rfl⟩
  · exact ⟨agree, rfl⟩

/-- What a message about a document does there depends only on what the session holds of it. -/
theorem Agree.step {message : Message} (agree : Agree message.uri session other) :
    Agree message.uri (session.step message).1 (other.step message).1 ∧
      (session.step message).2 = (other.step message).2 := by
  cases message with
  | hover about line character =>
      have analysis : session.analysis? about = other.analysis? about := agree.analysis
      exact ⟨agree, by simp only [Session.step, hover?, analysis]⟩
  | notice told =>
      have noted : Agree told.uri (session.note told) (other.note told) := agree.note rfl
      cases told with
      | opened about text =>
          rw [step_opened, step_opened]
          exact noted.attempt text
      | changed about text =>
          rw [step_changed, step_changed]
          exact noted.attempt text
      | saved about =>
          cases known : session.text? about with
          | some text =>
              rw [step_saved_of_text? known, step_saved_of_text? (agree.text ▸ known)]
              exact agree.attempt text
          | none =>
              rw [step_saved_of_unknown known, step_saved_of_unknown (agree.text ▸ known)]
              exact ⟨agree, rfl⟩
      | closed about =>
          rw [step_closed, step_closed]
          exact ⟨⟨noted.text, by simp [analysis?, Message.uri, Notice.uri]⟩, rfl⟩

/-! ## What a step leads to -/

/-- What a message leads to for a document. -/
inductive Outcome (uri : String) (session : Session) (message : Message) (next : Session)
    (reply : Reply) : Prop where
  /-- The current text of the document is analysed anew. -/
  | analyzed {text : String} {analysis : Analysis} (known : next.text? uri = some text)
      (read : Analysis.ofText uri text = .ok analysis) (held : next.analysis? uri = some analysis)
      (published : reply.markersOf uri = [analysis.markers])
  /-- The current text of the document is refused. -/
  | refused {text : String} {refusal : Refusal} (known : next.text? uri = some text)
      (refused : Analysis.ofText uri text = .error refusal)
      (held : next.analysis? uri = session.analysis? uri) (quiet : reply.markersOf uri = [])
  /-- The document is closed. -/
  | closed (told : message = .notice (.closed uri)) (unknown : next.text? uri = none)
      (held : next.analysis? uri = none) (published : reply.markersOf uri = [[]])
  /-- Nothing happens to the document. -/
  | idle (other : message ≠ .notice (.closed uri)) (unchanged : Agree uri next session)
      (quiet : reply.markersOf uri = [])

theorem Outcome.of_attempt {message : Message} {noted : Session}
    (known : noted.text? uri = some text) (held : noted.analysis? uri = session.analysis? uri) :
    Outcome uri session message (noted.attempt uri text).1 (noted.attempt uri text).2 := by
  cases read : Analysis.ofText uri text with
  | ok analysis =>
      obtain ⟨held, published⟩ := attempt_of_ofText noted read
      exact .analyzed ((text?_attempt uri).trans known) read held published
  | error refusal =>
      rw [attempt_of_refused read]
      exact .refused known read held rfl

/-- There are no other outcomes. -/
theorem outcome (session : Session) (message : Message) (uri : String) :
    Outcome uri session message (session.step message).1 (session.step message).2 := by
  by_cases same : message.uri = uri
  · subst same
    cases message with
    | hover => exact .idle (by simp) ⟨rfl, rfl⟩ rfl
    | notice told =>
        cases told with
        | opened about text =>
            rw [step_opened]
            exact .of_attempt (by simp [Message.uri, Notice.uri]) rfl
        | changed about text =>
            rw [step_changed]
            exact .of_attempt (by simp [Message.uri, Notice.uri]) rfl
        | saved about =>
            cases known : session.text? about with
            | some text =>
                rw [step_saved_of_text? known]
                exact .of_attempt known rfl
            | none =>
                rw [step_saved_of_unknown known]
                exact .idle (by simp) ⟨rfl, rfl⟩ rfl
        | closed about =>
            rw [step_closed]
            refine .closed rfl ?_ ?_ ?_ <;>
              simp [Message.uri, Notice.uri, text?, analysis?, Reply.markersOf]
  · obtain ⟨unchanged, quiet⟩ := step_of_ne session same
    refine .idle ?_ unchanged quiet
    rintro rfl
    exact same rfl

end Session
end ChocoLang
