import Weave.Document
import Weave.Text.Quoted

namespace Weave

/-- A document being fed line by line. -/
structure Session where
  subject : Subject
  state : Document.State := {}
  finished : Bool := false
  deriving DecidableEq, Repr

namespace Session

inductive Request
  | feed (line : Line)
  | finish (moment : Moment)
  deriving DecidableEq, Repr

/-- A finished session refuses every further request. -/
structure Closed where
  name : Text
  deriving DecidableEq, Repr

def Closed.message (closed : Closed) : Text :=
  "Transform for ".toList ++ Text.quoted closed.name ++
    " is already finished".toList

def answer (session : Session) (request : Request) : Except Closed (List Line) :=
  if session.finished then .error ⟨session.subject.name⟩
  else
    match request with
    | .feed line => .ok (session.state.emit session.subject line)
    | .finish moment => .ok (session.state.closing session.subject moment)

def after (session : Session) (request : Request) : Session :=
  if session.finished then session
  else
    match request with
    | .feed line => { session with state := session.state.next line }
    | .finish _ => { session with finished := true }

/-- The answer to one request, with the session as it is afterwards. -/
structure Reply where
  answer : Except Closed (List Line)
  session : Session

def reply (session : Session) (request : Request) : Reply :=
  ⟨session.answer request, session.after request⟩

def replies (session : Session) : List Request → List Reply
  | [] => []
  | request :: rest => session.reply request :: (session.after request).replies rest

/-! Several sessions side by side. Each request is addressed to one of them by
its position; a request to a position without a session has no reply. -/

def interleave (sessions : List Session) :
    List (Nat × Request) → List (Option Reply)
  | [] => []
  | (index, request) :: rest =>
      (sessions[index]?.map fun session => session.reply request) ::
        interleave (sessions.modify index fun session => session.after request) rest

theorem after_of_finished {session : Session} (hfinished : session.finished = true)
    (request : Request) : session.after request = session := by
  simp [after, hfinished]

@[simp] theorem subject_after (session : Session) (request : Request) :
    (session.after request).subject = session.subject := by
  unfold after
  split
  · rfl
  · split <;> rfl

end Session

end Weave
