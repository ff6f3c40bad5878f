import Weave.Command.Switch
import Weave.Settings
import Weave.Text.Template
import Weave.Text.Wrap

namespace Weave.Command

def program : Text := ['j', 'd', 'i']

def programVersion : Text := "0.1.0".toList

def usage : Text :=
  ("usage: jdi [-h] [--language LANGUAGE] [--output-dir OUTPUT_DIR] [--stdout]\n" ++
   "           [--jobs JOBS] [--verbose] [--version]\n" ++
   "           files [files ...]\n").toList

namespace Help

/-! The help screen. Explanations stand in a column of their own, on the line
of the term they explain if that is short enough. -/

def column : Nat := 24

def width : Nat := 54

def indent (count : Nat) : Text :=
  List.replicate count ' '

def entry (term explanation : Text) : Text :=
  let lines := (Text.wrap width explanation).map fun line => indent column ++ line ++ ['\n']
  let head := indent 2 ++ term
  if head.length + 2 ≤ column then
    head ++ indent (column - head.length) ++ lines.flatten.drop column
  else head ++ '\n' :: lines.flatten

def filesText (settings : Settings) : Text :=
  "Source files to document. Each FILE is written to FILE".toList ++
    settings.suffix ++ ['.']

def filesTable (settings : Settings) : Template.Table :=
  [("option_strings".toList, .other "list".toList "[]".toList),
   ("dest".toList, .text "files".toList),
   ("nargs".toList, .text ['+']),
   ("const".toList, .nothing),
   ("default".toList, .nothing),
   ("type".toList, .nothing),
   ("choices".toList, .nothing),
   ("required".toList, .truth true),
   ("help".toList, .text (filesText settings)),
   ("metavar".toList, .nothing),
   ("container".toList, .other "_ArgumentGroup".toList "<_ArgumentGroup>".toList),
   ("prog".toList, .text program)]

/-- The suffix is part of a text with fields, so a percent sign in it begins
one. -/
def files (settings : Settings) : Except Template.Flaw Text := do
  return entry "files".toList (← Template.expand (filesTable settings) (filesText settings))

def options (settings : Settings) : Text :=
  entry "-h, --help".toList "show this help message and exit".toList ++
  entry "--language LANGUAGE".toList
    "Fence language tag for all files (default: each file's extension).".toList ++
  entry "--output-dir OUTPUT_DIR".toList
    "Directory to save output files (default: next to each source file).".toList ++
  entry "--stdout".toList
    "Print the documents to stdout instead of writing files.".toList ++
  entry "--jobs JOBS".toList
    ("Number of files processed concurrently (default: ".toList ++
      Text.decimal settings.jobs ++ ").".toList) ++
  entry "--verbose".toList "Enable debug logging.".toList ++
  entry "--version".toList "show program's version number and exit".toList

def description : Text :=
  ("Generate literate Markdown documentation from source files: // comments become\n" ++
   "prose, code becomes fenced blocks.\n").toList

def screen (settings : Settings) : Except Template.Flaw Text := do
  return usage ++ '\n' :: description ++ "\npositional arguments:\n".toList ++
    (← files settings) ++ "\noptions:\n".toList ++ options settings

end Help

def Query.answer (settings : Settings) : Query → Except Template.Flaw Text
  | .help => Help.screen settings
  | .version => .ok (program ++ ' ' :: programVersion ++ ['\n'])

end Weave.Command
