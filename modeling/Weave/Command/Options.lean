import Weave.Choice
import Weave.Command.Token
import Weave.Settings

namespace Weave.Command

structure Options where
  language : Choice Text := .unset
  outputDir : Choice Text := .unset
  stdout : Bool := false
  jobs : Choice Nat := .unset
  verbose : Bool := false
  deriving DecidableEq, Repr

inductive Request
  | query (query : Query)
  | weave (files : List Text) (options : Options)
  deriving DecidableEq, Repr

namespace Options

def workers (settings : Settings) (options : Options) : Nat :=
  options.jobs.getD settings.jobs

def raise (options : Options) : Flag → Options
  | .stdout => { options with stdout := true }
  | .verbose => { options with verbose := true }

def jobsOf (value : Text) : Except Complaint Nat :=
  match Text.integer? value with
  | none => .error (.jobsInvalid value)
  | some number =>
      if number < 1 then .error (.jobsTooSmall value) else .ok number.toNat

def assign (options : Options) (value : Text) : Setting → Except Complaint Options
  | .language => .ok { options with language := .made value }
  | .outputDir => .ok { options with outputDir := .made value }
  | .jobs =>
      match jobsOf value with
      | .error complaint => .error complaint
      | .ok jobs => .ok { options with jobs := .made jobs }

def empty (options : Options) : Setting → Options
  | .language => { options with language := .emptied }
  | .outputDir => { options with outputDir := .emptied }
  | .jobs => { options with jobs := .emptied }

/-- A separator joined to an option is taken away, which leaves the option
without a value. -/
def assignJoined (options : Options) (value : Text) (setting : Setting) :
    Except Complaint Options :=
  if value = Token.separatorText then .ok (options.empty setting)
  else options.assign value setting

end Options

/-! Reading arguments from left to right. The plain arguments between two
options form a run; the first run that has a file is the list of files, and all
other runs are left over. -/

structure Progress where
  options : Options := {}
  files : List Text := []
  extras : List Text := []
  run : List Text := []
  runFiles : List Text := []
  deriving DecidableEq, Repr

namespace Progress

def hold (progress : Progress) (argument : Text) : Progress :=
  { progress with
    run := progress.run ++ [argument], runFiles := progress.runFiles ++ [argument] }

def holdSeparator (progress : Progress) : Progress :=
  { progress with run := progress.run ++ [Token.separatorText] }

def close (progress : Progress) : Progress :=
  if progress.files = [] ∧ progress.runFiles ≠ [] then
    { progress with files := progress.runFiles, run := [], runFiles := [] }
  else
    { progress with extras := progress.extras ++ progress.run, run := [], runFiles := [] }

def leave (progress : Progress) (argument : Text) : Progress :=
  { progress with extras := progress.extras ++ [argument] }

def finish (progress : Progress) : Except Complaint Request :=
  if progress.files = [] then .error .filesMissing
  else if progress.extras ≠ [] then .error (.unrecognized progress.extras)
  else .ok (.weave progress.files progress.options)

/-- What `-h` with more characters behind it asks for: help, if they are all
`h` again. -/
def shortHelp (tail : Text) : Except Complaint Request :=
  match tail.dropWhile (· = 'h') with
  | [] =>
      if tail = [] then .error (.valueIgnored .help [])
      else .ok (.query .help)
  | rest => .error (.valueIgnored .help rest)

def read (progress : Progress) : List Token → Except Complaint Request
  | [] => progress.close.finish
  | .plain argument :: rest => (progress.hold argument).read rest
  | .separator :: rest => progress.holdSeparator.read rest
  | .unknown argument :: rest => (progress.close.leave argument).read rest
  | .shortHelp tail :: _ => shortHelp tail
  | .switch (.query query) none :: _ => .ok (.query query)
  | .switch (.query query) (some value) :: _ =>
      .error (.valueIgnored (.query query) value)
  | .switch (.flag flag) none :: rest =>
      let closed := progress.close
      { closed with options := closed.options.raise flag }.read rest
  | .switch (.flag flag) (some value) :: _ => .error (.valueIgnored (.flag flag) value)
  | .switch (.setting setting) (some value) :: rest =>
      let closed := progress.close
      match closed.options.assignJoined value setting with
      | .error complaint => .error complaint
      | .ok options => { closed with options := options }.read rest
  | .switch (.setting setting) none :: .plain value :: rest =>
      let closed := progress.close
      match closed.options.assign value setting with
      | .error complaint => .error complaint
      | .ok options => { closed with options := options }.read rest
  | .switch (.setting setting) none :: _ => .error (.valueMissing (.setting setting))

end Progress

def Request.ofArguments (arguments : List Text) : Except Complaint Request :=
  match Token.ofArguments arguments with
  | .error complaint => .error complaint
  | .ok tokens => Progress.read {} tokens

end Weave.Command
