import Weave.Text.Quoted

namespace Weave.Command

/-! The options of the command line: questions that are answered at once,
flags, and settings that take a value. -/

inductive Query
  | help
  | version
  deriving DecidableEq, Repr

inductive Flag
  | stdout
  | verbose
  deriving DecidableEq, Repr

inductive Setting
  | language
  | outputDir
  | jobs
  deriving DecidableEq, Repr

inductive Switch
  | query (query : Query)
  | flag (flag : Flag)
  | setting (setting : Setting)
  deriving DecidableEq, Repr

namespace Switch

abbrev help : Switch := .query .help

abbrev version : Switch := .query .version

abbrev stdout : Switch := .flag .stdout

abbrev verbose : Switch := .flag .verbose

abbrev language : Switch := .setting .language

abbrev outputDir : Switch := .setting .outputDir

abbrev jobs : Switch := .setting .jobs

def all : List Switch :=
  [help, language, outputDir, stdout, jobs, verbose, version]

def name : Switch → Text
  | .query .help => "--help".toList
  | .query .version => "--version".toList
  | .flag .stdout => "--stdout".toList
  | .flag .verbose => "--verbose".toList
  | .setting .language => "--language".toList
  | .setting .outputDir => "--output-dir".toList
  | .setting .jobs => "--jobs".toList

def label : Switch → Text
  | .query .help => "-h/--help".toList
  | switch => switch.name

def named (text : Text) : List Switch :=
  all.filter fun switch => text.isPrefixOf switch.name

theorem mem_all (switch : Switch) : switch ∈ all := by
  rcases switch with query | flag | setting
  · cases query <;> decide
  · cases flag <;> decide
  · cases setting <;> decide

end Switch

/-! What is wrong with a list of arguments. -/

inductive Complaint
  | ambiguous (argument : Text) (candidates : List Switch)
  | valueMissing (switch : Switch)
  | valueIgnored (switch : Switch) (value : Text)
  | jobsInvalid (value : Text)
  | jobsTooSmall (value : Text)
  | filesMissing
  | unrecognized (arguments : List Text)
  deriving DecidableEq, Repr

namespace Complaint

private def about (switch : Switch) (text : Text) : Text :=
  "argument ".toList ++ switch.label ++ [':', ' '] ++ text

def message : Complaint → Text
  | .ambiguous argument candidates =>
      "ambiguous option: ".toList ++ argument ++ " could match ".toList ++
        List.intercalate [',', ' '] (candidates.map Switch.name)
  | .valueMissing switch => about switch "expected one argument".toList
  | .valueIgnored switch value =>
      about switch ("ignored explicit argument ".toList ++ Text.quoted value)
  | .jobsInvalid value =>
      about .jobs ("invalid _positive_int value: ".toList ++ Text.quoted value)
  | .jobsTooSmall value => about .jobs ("must be at least 1, got ".toList ++ value)
  | .filesMissing => "the following arguments are required: files".toList
  | .unrecognized arguments =>
      "unrecognized arguments: ".toList ++ List.intercalate [' '] arguments

end Complaint

end Weave.Command
