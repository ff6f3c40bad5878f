import Weave.Text.Quoted

namespace Weave

abbrev Assignment := Text × Text

namespace EnvFile

/-! A `.env` text is a list of lines, each blank, a comment, or an assignment
with an optional `export` in front. A value is quoted, or runs to the end of
its line or to a `#` after a blank. Any other line assigns nothing.

This is the form that settings files are taken to have. The library the program reads
them with has rules of its own: escapes in double quotes, values over several lines,
references to other variables. Where `KEY= # c` stands it keeps `# c`, and here the
value is empty. -/

def isLineEnd (character : Char) : Bool :=
  character = '\n' || character = '\r'

def exportWord : Text := ['e', 'x', 'p', 'o', 'r', 't']

def dropExport (line : Text) : Text :=
  let rest := line.drop exportWord.length
  if exportWord.isPrefixOf line && rest.head?.any Text.isBlank then Text.trimLeft rest
  else line

def isKeyCharacter (character : Char) : Bool :=
  character ≠ '=' && character ≠ '#' && !Text.isBlank character

/-- The text up to a `#` that stands after a blank. -/
def beforeComment : Text → Text
  | [] => []
  | first :: rest =>
      if Text.isBlank first && rest.head? = some '#' then []
      else first :: beforeComment rest

/-- The blanks after the `=` count, so that a `#` right after them leaves an empty
value. -/
def unquotedValue (text : Text) : Text :=
  Text.trim (beforeComment text)

def isIgnorable (text : Text) : Bool :=
  match Text.trimLeft text with
  | [] => true
  | first :: _ => first = '#'

def quotedValue? (mark : Char) (text : Text) : Option Text :=
  match text.dropWhile (· ≠ mark) with
  | [] => none
  | _ :: rest => if isIgnorable rest then some (text.takeWhile (· ≠ mark)) else none

/-- The value in the text after the `=`. -/
def value? (text : Text) : Option Text :=
  match Text.trimLeft text with
  | [] => some []
  | first :: rest =>
      if first = Text.singleQuote || first = Text.doubleQuote then
        quotedValue? first rest
      else some (unquotedValue text)

def assignment? (line : Text) : Option Assignment :=
  let text := dropExport (Text.trimLeft line)
  let key := text.takeWhile isKeyCharacter
  match key, Text.trimLeft (text.dropWhile isKeyCharacter) with
  | _ :: _, '=' :: rest => (value? rest).map fun value => (key, value)
  | _, _ => none

def assignments (text : Text) : List Assignment :=
  (List.splitOnP isLineEnd text).filterMap assignment?

end EnvFile

end Weave
