import Weave.Disk.Basic
import Weave.Text.Template

namespace Weave

/-- What may go wrong: with a name, with the disk, with the bytes of a file, with
a document that has no language for its code, or with a text for the user. -/
inductive Fault
  | name (fault : Path.NameFault)
  | disk (fault : Disk.Fault)
  | text (fault : Utf8.Fault)
  | noLanguage
  | template (flaw : Template.Flaw)
  deriving DecidableEq, Repr

namespace Fault

def message : Fault → Text
  | .name fault => fault.message
  | .disk fault => fault.message
  | .text fault => fault.message
  | .noLanguage => "can only concatenate str (not \"list\") to str".toList
  | .template flaw => flaw.message

/-- Faults of the disk and of a file's bytes are reported to the user; all others,
and a null byte in a path, are mistakes of the caller. -/
def isReported : Fault → Bool
  | .name _ => false
  | .disk .nullByte => false
  | .disk _ => true
  | .text _ => true
  | .noLanguage => false
  | .template _ => false

end Fault

end Weave
