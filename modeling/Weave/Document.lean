import Weave.Line
import Weave.Time.Moment

namespace Weave

/-- The file being documented: the language of its fences and its shown name. -/
structure Subject where
  language : Text := []
  name : Text := []
  deriving DecidableEq, Repr

inductive Role
  | prose
  | code
  deriving DecidableEq, Repr

namespace Document

def fence : Line := ['\x60', '\x60', '\x60']

def opening (subject : Subject) : Line :=
  fence ++ subject.language

def rule : Line := List.replicate 24 '-'

def credit (name : Text) (moment : Moment) : Line :=
  "Generated _".toList ++ moment.write ++ "_ from [&#x24C8; ".toList ++ name ++
    "](".toList ++ name ++ " \"View in source\")".toList

def footer (name : Text) (moment : Moment) : List Line :=
  [rule, credit name moment, []]

/-- The fence between a line of one role and a line of the next. -/
def edge (subject : Subject) : Role → Role → List Line
  | .prose, .code => [opening subject]
  | .code, .prose => [fence]
  | .prose, .prose => []
  | .code, .code => []

/-- What is remembered between lines: whether any came, and the role of the
last one that had a role. -/
structure State where
  started : Bool := false
  role : Role := .prose
  deriving DecidableEq, Repr

def State.next (state : State) (line : Line) : State :=
  match line.kind !state.started with
  | .dropped => { state with started := true }
  | .blank => { state with started := true }
  | .comment => ⟨true, .prose⟩
  | .code => ⟨true, .code⟩

def State.emit (subject : Subject) (state : State) (line : Line) : List Line :=
  match line.kind !state.started with
  | .dropped => []
  | .blank => [line]
  | .comment => edge subject state.role .prose ++ [line.uncomment]
  | .code => edge subject state.role .code ++ [line]

def State.after (state : State) (lines : List Line) : State :=
  lines.foldl State.next state

/-- The output of each line in turn. -/
def State.outputs (subject : Subject) (state : State) : List Line → List (List Line)
  | [] => []
  | line :: rest =>
      state.emit subject line :: (state.next line).outputs subject rest

def State.closing (subject : Subject) (moment : Moment) (state : State) : List Line :=
  edge subject state.role .prose ++ footer subject.name moment

/-- The lines before the first line of code. -/
def State.prose (state : State) : List Line → List Line
  | [] => []
  | line :: rest =>
      if line.kind (!state.started) = .code then []
      else line :: (state.next line).prose rest

def body (subject : Subject) (lines : List Line) : List Line :=
  (State.outputs subject {} lines).flatten

end Document

/-- The document of a list of lines: the output of each line, a fence if code
is still open, and the footer. -/
def document (subject : Subject) (moment : Moment) (lines : List Line) : List Line :=
  Document.body subject lines ++
    (Document.State.after {} lines).closing subject moment

namespace Document

/-! Lines are taken from the source one at a time, and everything a line causes
is written before the next is taken. A schedule pairs each line of the document
with the number of source lines taken by then. -/

def scheduleFrom (taken : Nat) : List (List Line) → List (Nat × Line)
  | [] => []
  | output :: rest =>
      output.map (fun line => (taken + 1, line)) ++ scheduleFrom (taken + 1) rest

def schedule (subject : Subject) (moment : Moment) (lines : List Line) :
    List (Nat × Line) :=
  scheduleFrom 0 (State.outputs subject {} lines) ++
    ((State.after {} lines).closing subject moment).map
      fun line => (lines.length, line)

@[simp] theorem State.after_nil (state : State) : state.after [] = state := rfl

@[simp] theorem State.after_cons (state : State) (line : Line) (rest : List Line) :
    state.after (line :: rest) = (state.next line).after rest := rfl

@[simp] theorem State.after_append (state : State) (front back : List Line) :
    state.after (front ++ back) = (state.after front).after back := by
  simp [State.after]

@[simp] theorem State.outputs_nil (subject : Subject) (state : State) :
    state.outputs subject [] = [] := rfl

@[simp] theorem State.outputs_cons (subject : Subject) (state : State)
    (line : Line) (rest : List Line) :
    state.outputs subject (line :: rest) =
      state.emit subject line :: (state.next line).outputs subject rest := rfl

theorem State.outputs_append (subject : Subject) (state : State)
    (front back : List Line) :
    state.outputs subject (front ++ back) =
      state.outputs subject front ++ (state.after front).outputs subject back := by
  induction front generalizing state with
  | nil => rfl
  | cons line front ih => simp [ih]

@[simp] theorem State.started_next (state : State) (line : Line) :
    (state.next line).started = true := by
  unfold State.next
  split <;> rfl

theorem map_snd_scheduleFrom (taken : Nat) (outputs : List (List Line)) :
    (scheduleFrom taken outputs).map Prod.snd = outputs.flatten := by
  induction outputs generalizing taken with
  | nil => rfl
  | cons output rest ih => simp [scheduleFrom, ih, Function.comp_def]

theorem map_snd_schedule (subject : Subject) (moment : Moment) (lines : List Line) :
    (schedule subject moment lines).map Prod.snd = document subject moment lines := by
  simp [schedule, document, body, map_snd_scheduleFrom, Function.comp_def]

end Document

end Weave
