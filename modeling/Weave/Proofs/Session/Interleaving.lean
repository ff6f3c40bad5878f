import Weave.Session

namespace Weave.Session

/-! One session by itself. Until it is finished it gives the document piece by piece;
from then on it refuses every request and stays as it is. -/

def fresh (subject : Subject) : Session where
  subject := subject

def afterAll (session : Session) (requests : List Request) : Session :=
  requests.foldl after session

@[simp] theorem afterAll_nil (session : Session) : session.afterAll [] = session := rfl

@[simp] theorem afterAll_cons (session : Session) (request : Request)
    (rest : List Request) :
    session.afterAll (request :: rest) = (session.after request).afterAll rest := rfl

theorem afterAll_append (session : Session) (front back : List Request) :
    session.afterAll (front ++ back) = (session.afterAll front).afterAll back := by
  simp [afterAll]

@[simp] theorem replies_nil (session : Session) : session.replies [] = [] := rfl

@[simp] theorem replies_cons (session : Session) (request : Request)
    (rest : List Request) :
    session.replies (request :: rest) =
      session.reply request :: (session.after request).replies rest := rfl

theorem replies_append (session : Session) (front back : List Request) :
    session.replies (front ++ back) =
      session.replies front ++ (session.afterAll front).replies back := by
  induction front generalizing session with
  | nil => rfl
  | cons request front ih => simp [ih]

@[simp] theorem length_replies (session : Session) (requests : List Request) :
    (session.replies requests).length = requests.length := by
  induction requests generalizing session with
  | nil => rfl
  | cons request rest ih => simp [ih]

theorem afterAll_feeds (subject : Subject) (state : Document.State) (lines : List Line) :
    afterAll ⟨subject, state, false⟩ (lines.map .feed) =
      ⟨subject, state.after lines, false⟩ := by
  induction lines generalizing state with
  | nil => rfl
  | cons line lines ih => exact ih (state.next line)

theorem answers_feeds (subject : Subject) (state : Document.State) (lines : List Line) :
    (replies ⟨subject, state, false⟩ (lines.map .feed)).map Reply.answer =
      (state.outputs subject lines).map .ok := by
  induction lines generalizing state with
  | nil => rfl
  | cons line lines ih => exact congrArg _ (ih (state.next line))

theorem replies_of_finished {session : Session} (hfinished : session.finished = true)
    (requests : List Request) :
    session.replies requests =
      requests.map fun _ => ⟨.error ⟨session.subject.name⟩, session⟩ := by
  induction requests with
  | nil => rfl
  | cons request rest ih =>
      have hreply : session.reply request =
          ⟨.error ⟨session.subject.name⟩, session⟩ := by
        simp [reply, answer, after, hfinished]
      rw [replies_cons, after_of_finished hfinished, ih, hreply, List.map_cons]

/-- The replies to lines, to a finish after them and to whatever is asked later: the
document comes first, then refusals that leave the session as it is. -/
def Completed (subject : Subject) (lines : List Line) (moment : Moment)
    (later : List Request) (replies : List Reply) : Prop :=
  ∃ (given : List Reply) (outputs : List (List Line)),
    replies = given ++ later.map (fun _ =>
        ⟨.error ⟨subject.name⟩, ⟨subject, Document.State.after {} lines, true⟩⟩) ∧
      given.length = lines.length + 1 ∧ given.map Reply.answer = outputs.map .ok ∧
      outputs.flatten = document subject moment lines

theorem afterAll_finish (subject : Subject) (lines : List Line) (moment : Moment) :
    (fresh subject).afterAll (lines.map .feed ++ [.finish moment]) =
      ⟨subject, Document.State.after {} lines, true⟩ := by
  rw [afterAll_append, fresh, afterAll_feeds]
  rfl

theorem answers_finish (subject : Subject) (lines : List Line) (moment : Moment) :
    ((fresh subject).replies (lines.map .feed ++ [.finish moment])).map Reply.answer =
      (Document.State.outputs subject {} lines ++
        [(Document.State.after {} lines).closing subject moment]).map .ok := by
  rw [replies_append, fresh, afterAll_feeds, List.map_append, answers_feeds,
    List.map_append]
  rfl

theorem completed_replies (subject : Subject) (lines : List Line) (moment : Moment)
    (later : List Request) :
    Completed subject lines moment later
      ((fresh subject).replies (lines.map .feed ++ .finish moment :: later)) := by
  refine ⟨(fresh subject).replies (lines.map .feed ++ [.finish moment]),
    Document.State.outputs subject {} lines ++
      [(Document.State.after {} lines).closing subject moment], ?_, ?_, ?_, ?_⟩
  · rw [List.append_cons, replies_append, afterAll_finish]
    exact congrArg _ (replies_of_finished rfl later)
  · simp
  · exact answers_finish subject lines moment
  · simp [document, Document.body]

/-! Several sessions side by side. -/

/-- What is addressed to one position, in its order. -/
def own {α : Type} (index : Nat) (items : List (Nat × α)) : List α :=
  (items.filter fun item => item.1 = index).map Prod.snd

theorem own_cons_self {α : Type} (index : Nat) (item : α) (items : List (Nat × α)) :
    own index ((index, item) :: items) = item :: own index items := by
  simp [own]

theorem own_cons_of_ne {α : Type} {index other : Nat} (hne : other ≠ index) (item : α)
    (items : List (Nat × α)) : own index ((other, item) :: items) = own index items := by
  simp [own, hne]

/-- The sessions as they are after some steps. -/
def standing (sessions : List Session) (steps : List (Nat × Request)) : List Session :=
  steps.foldl (fun sessions step => sessions.modify step.1 fun session =>
    session.after step.2) sessions

theorem getElem?_standing (sessions : List Session) (steps : List (Nat × Request))
    (index : Nat) :
    (standing sessions steps)[index]? =
      sessions[index]?.map fun session => session.afterAll (own index steps) := by
  induction steps generalizing sessions with
  | nil => simp [standing, own]
  | cons step steps ih =>
      obtain ⟨place, request⟩ := step
      have hrest := ih (sessions.modify place fun session => session.after request)
      refine hrest.trans ?_
      by_cases hplace : place = index
      · subst hplace
        simp [own_cons_self, Function.comp_def]
      · simp [own_cons_of_ne hplace, hplace]

/-- The replies of one session do not depend on the steps in between that are meant for
others. -/
theorem own_interleave {sessions : List Session} {index : Nat} {session : Session}
    (hsession : sessions[index]? = some session) (steps : List (Nat × Request)) :
    own index ((steps.map Prod.fst).zip (interleave sessions steps)) =
      (session.replies (own index steps)).map some := by
  induction steps generalizing sessions session with
  | nil => rfl
  | cons step steps ih =>
      obtain ⟨place, request⟩ := step
      rw [interleave, List.map_cons, List.zip_cons_cons]
      by_cases hplace : place = index
      · subst hplace
        have hnext : (sessions.modify place fun session => session.after request)[place]? =
            some (session.after request) := by
          simp [hsession]
        rw [own_cons_self, own_cons_self, ih hnext, hsession]
        rfl
      · have hnext : (sessions.modify place fun session => session.after request)[index]? =
            some session := by
          simp [hplace, hsession]
        rw [own_cons_of_ne hplace, own_cons_of_ne hplace, ih hnext]

/-- Whatever the steps and their order, each session answers and stands as if it were
alone, and one that is finished has given the document of the lines it was fed. -/
theorem interleave_refines {subjects : List Subject} {index : Nat} {subject : Subject}
    (hsubject : subjects[index]? = some subject) (steps : List (Nat × Request)) :
    own index ((steps.map Prod.fst).zip (interleave (subjects.map fresh) steps)) =
        ((fresh subject).replies (own index steps)).map some ∧
      (standing (subjects.map fresh) steps)[index]? =
        some ((fresh subject).afterAll (own index steps)) ∧
      ∀ (lines : List Line) (moment : Moment) (later : List Request),
        own index steps = lines.map .feed ++ .finish moment :: later →
        Completed subject lines moment later
          ((fresh subject).replies (own index steps)) := by
  have hsession : (subjects.map fresh)[index]? = some (fresh subject) := by
    simp [hsubject]
  refine ⟨own_interleave hsession steps, ?_, ?_⟩
  · rw [getElem?_standing, hsession]
    rfl
  · intro lines moment later hown
    rw [hown]
    exact completed_replies subject lines moment later

def pair : List Subject :=
  [⟨['j', 's'], "a.js".toList⟩, ⟨['p', 'y'], "b.py".toList⟩]

def noon : Moment := { date := ⟨2026, 10, 17⟩, hour := 12, minute := 0, second := 0 }

/-- Two sessions in turn. The second is finished first and then asked twice more. -/
def pairSteps : List (Nat × Request) :=
  [(1, .feed "x".toList), (0, .feed "// a".toList), (1, .finish noon),
    (0, .feed "b".toList), (1, .feed "late".toList), (0, .finish noon), (1, .finish noon)]

theorem interleave_refines_pair :
    pair[1]? = some ⟨['p', 'y'], "b.py".toList⟩ ∧
      own 1 pairSteps = [.feed "x".toList, .finish noon, .feed "late".toList,
        .finish noon] ∧
      own 1 ((pairSteps.map Prod.fst).zip (interleave (pair.map fresh) pairSteps)) =
        ((fresh ⟨['p', 'y'], "b.py".toList⟩).replies (own 1 pairSteps)).map some ∧
      Completed ⟨['p', 'y'], "b.py".toList⟩ ["x".toList] noon
        [.feed "late".toList, .finish noon]
        ((fresh ⟨['p', 'y'], "b.py".toList⟩).replies (own 1 pairSteps)) := by
  have hsubject : pair[1]? = some ⟨['p', 'y'], "b.py".toList⟩ := rfl
  obtain ⟨hreplies, -, hcompleted⟩ := interleave_refines hsubject pairSteps
  refine ⟨hsubject, rfl, hreplies, ?_⟩
  exact hcompleted ["x".toList] noon [.feed "late".toList, .finish noon] rfl

end Weave.Session
