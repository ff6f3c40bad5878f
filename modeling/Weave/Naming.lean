import Weave.Document
import Weave.Path.Basic
import Weave.Settings

namespace Weave

namespace Subject

def ownLanguage (settings : Settings) (path : Path) : Text :=
  let extension := Path.extension path.name
  if extension = [] then settings.language else extension

/-- A language given by the caller wins, then the extension of the name, then
the default language. -/
def ofPath (settings : Settings) (language : Option Text) (path : Path) : Subject where
  language := language.getD (ownLanguage settings path)
  name := path.name

end Subject

namespace Path

/-- The document of a file is named after it and lies beside it, or in a given
directory. -/
def output (suffix : Text) (directory : Option Path) (source : Path) :
    Except NameFault Path :=
  match directory with
  | some directory => .ok (directory.join (source.name ++ suffix))
  | none => source.withName (source.name ++ suffix)

def draftSuffix : Text := ['.', 'p', 'a', 'r', 't']

/-- The document is written to a draft beside its place and then moved there. -/
def draft (output : Path) : Except NameFault Path :=
  output.withName (output.name ++ draftSuffix)

end Path

end Weave
