import Weave.Line

namespace Weave

/-! A text is a list of lines, each with its ending. Only a newline ends a
line; a carriage return right before it belongs to the ending. The last line
may have no ending, and then it is not empty. -/

inductive Ending
  | missing
  | newline
  | returnNewline
  deriving DecidableEq, Repr

def Ending.text : Ending → Text
  | .missing => []
  | .newline => ['\n']
  | .returnNewline => ['\r', '\n']

structure EndedLine where
  line : Line
  ending : Ending
  deriving DecidableEq, Repr

namespace EndedLine

def text (ended : EndedLine) : Text :=
  ended.line ++ ended.ending.text

def isComplete (ended : EndedLine) : Bool :=
  ended.ending ≠ .missing

end EndedLine

namespace Lines

/-- Put a character in front of a text already cut into lines. -/
def attach (character : Char) (rest : List EndedLine) : List EndedLine :=
  if character = '\n' then ⟨[], .newline⟩ :: rest
  else
    match rest with
    | [] => [⟨[character], .missing⟩]
    | ⟨line, ending⟩ :: rest =>
        if character = '\r' ∧ line = [] ∧ ending = .newline then
          ⟨[], .returnNewline⟩ :: rest
        else ⟨character :: line, ending⟩ :: rest

def ended (text : Text) : List EndedLine :=
  text.foldr attach []

def ofText (text : Text) : List Line :=
  (ended text).map EndedLine.line

def complete (text : Text) : List Line :=
  ((ended text).filter EndedLine.isComplete).map EndedLine.line

def toText (lines : List Line) : Text :=
  lines.flatMap fun line => line ++ ['\n']

@[simp] theorem ended_nil : ended [] = [] := rfl

@[simp] theorem ended_cons (character : Char) (text : Text) :
    ended (character :: text) = attach character (ended text) := rfl

@[simp] theorem toText_nil : toText [] = [] := rfl

@[simp] theorem toText_cons (line : Line) (rest : List Line) :
    toText (line :: rest) = line ++ '\n' :: toText rest := by
  simp [toText]

@[simp] theorem toText_append (front back : List Line) :
    toText (front ++ back) = toText front ++ toText back := by
  simp [toText]

theorem flatMap_text_attach (character : Char) (rest : List EndedLine) :
    (attach character rest).flatMap EndedLine.text =
      character :: rest.flatMap EndedLine.text := by
  unfold attach
  split
  · simp_all [EndedLine.text, Ending.text]
  · split
    · simp [EndedLine.text, Ending.text]
    · split <;> simp_all [EndedLine.text, Ending.text]

/-- Cutting a text into lines loses nothing. -/
theorem flatMap_text_ended (text : Text) :
    (ended text).flatMap EndedLine.text = text := by
  induction text with
  | nil => rfl
  | cons character text ih => simp [flatMap_text_attach, ih]

end Lines

end Weave
