import Weave.Text.Blank

namespace Weave

/-- A line of a source file, without its ending. -/
abbrev Line := Text

namespace Line

def marker : Text := ['/', '/']

def shebang : Text := ['#', '!']

def silencer : Text :=
  ['j', 'd', 'i', '-', 'd', 'i', 's', 'a', 'b', 'l', 'e', '-', 'l', 'i', 'n', 'e']

def isBlank (line : Line) : Bool :=
  line.all Text.isBlank

def isShebang (line : Line) : Bool :=
  shebang.isPrefixOf line

def isSilenced (line : Line) : Bool :=
  silencer.isSuffixOf line

def isComment (line : Line) : Bool :=
  marker.isPrefixOf (Text.trimLeft line)

/-- A comment loses its indentation, its marker and one blank after it. -/
def uncomment (line : Line) : Line :=
  match (Text.trimLeft line).drop marker.length with
  | [] => []
  | first :: rest => if Text.isBlank first then rest else first :: rest

/-! What a line means for the document. A shebang counts only on the first
line; a blank line is never silenced. -/

inductive Kind
  | dropped
  | blank
  | comment
  | code
  deriving DecidableEq, Repr

def kind (first : Bool) (line : Line) : Kind :=
  if first && isShebang line then .dropped
  else if isBlank line then .blank
  else if isSilenced line then .dropped
  else if isComment line then .comment
  else .code

@[simp] theorem isBlank_nil : isBlank [] = true := rfl

@[simp] theorem isBlank_cons (character : Char) (line : Line) :
    isBlank (character :: line) = (Text.isBlank character && isBlank line) := rfl

theorem not_isBlank_of_isComment {line : Line} (hcomment : isComment line = true) :
    isBlank line = false := by
  cases hblank : isBlank line with
  | false => rfl
  | true =>
      have htrim : Text.trimLeft line = [] := by
        simpa [Text.trimLeft_eq_nil_iff, isBlank] using hblank
      simp [isComment, htrim, marker] at hcomment

end Line

end Weave
