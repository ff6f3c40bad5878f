import Weave.Batch
import Weave.Command.Help
import Weave.Command.Options

namespace Weave.Command

/-! What the command says on standard error. -/

inductive Notice
  | logged (event : Event)
  | wrote (size : Nat) (path : Text)
  | error (message : Text)
  | misuse (complaint : Complaint)
  deriving DecidableEq, Repr

/-- The text of a notice; log records begin with the time. -/
def Notice.text (time : Text) : Notice → Text
  | .logged event => time ++ ' ' :: event.record ++ ['\n']
  | .wrote size path =>
      "wrote ".toList ++ Text.decimal size ++ " bytes to ".toList ++ path ++ ['\n']
  | .error message => "Error: ".toList ++ message ++ ['\n']
  | .misuse complaint =>
      usage ++ "jdi: error: ".toList ++ complaint.message ++ ['\n']

/-- The command ends with an exit code, or with a fault it does not report. -/
inductive Verdict
  | exit (code : Nat)
  | escaped (fault : Fault)
  deriving DecidableEq, Repr

/-- Standard output and standard error take every text: a stream in an encoding that has
no form for some character, and names that are no text, are left out. -/
structure Outcome where
  disk : Disk
  stdout : Text := []
  notices : List Notice := []
  verdict : Verdict := .exit 0

namespace Outcome

def fail (disk : Disk) (stdout : Text) (notices : List Notice) (message : Text) :
    Outcome where
  disk := disk
  stdout := stdout
  notices := notices ++ [.error message]
  verdict := .exit 1

/-- A fault that is not reported leaves the command as it is. -/
def ofFault (disk : Disk) (stdout : Text) (notices : List Notice) (fault : Fault) :
    Outcome :=
  if fault.isReported then fail disk stdout notices fault.message
  else ⟨disk, stdout, notices, .escaped fault⟩

end Outcome

def workingDirectory (disk : Disk) : Path :=
  ⟨.single, disk.cwd⟩

/-- The first path without a file, or the fault that kept it from being looked
for. -/
def firstAbsent (disk : Disk) : List Path → Except Disk.Fault (Option Path)
  | [] => .ok none
  | path :: rest =>
      match disk.isFile path with
      | .error fault => .error fault
      | .ok false => .ok (some path)
      | .ok true => firstAbsent disk rest

/-- The documents of files one after another, up to the first fault. -/
def printAll (order : Order) (disk : Disk) : List Path → Source.Produced Fault
  | [] => ⟨[], none⟩
  | path :: rest =>
      match order.openedDocument disk path with
      | ⟨lines, some fault⟩ => ⟨lines, some fault⟩
      | ⟨lines, none⟩ =>
          let others := printAll order disk rest
          ⟨lines ++ others.lines, others.fault⟩

def runPrinting (settings : Settings) (moment : Moment) (disk : Disk)
    (files : List Path) (options : Options) : Outcome :=
  let order : Order := ⟨settings, moment, options.language, none⟩
  let produced := printAll order disk files
  let stdout := Lines.toText produced.lines
  match produced.fault with
  | none => ⟨disk, stdout, [], .exit 0⟩
  | some fault => .ofFault disk stdout [] fault

def batch (settings : Settings) (disk : Disk) (files : List Text)
    (options : Options) (directory : Option Path) : Batch where
  base := workingDirectory disk
  files := files
  directory := directory
  language := options.language
  jobs := some (options.workers settings)

def wrote (disk : Disk) (publication : Publication) : Notice :=
  .wrote publication.size
    (Path.relativeText disk.cwd (workingDirectory disk) publication.output)

def runWriting (settings : Settings) (moment : Moment) (disk : Disk)
    (files : List Text) (options : Options) (directory : Option Path) : Outcome :=
  let report := (batch settings disk files options directory).run settings moment disk
  let log := if options.verbose then report.events.map .logged else []
  match report.outcome with
  | .error fault => .ofFault report.disk [] log fault
  | .ok publications =>
      ⟨report.disk, [], log ++ publications.map (wrote disk), .exit 0⟩

/-- The directory for the documents, if one is asked for; an empty name asks
for none. -/
def outputDirectory (disk : Disk) (options : Options) : Option Path :=
  match options.outputDir.getD [] with
  | [] => none
  | text => some ((workingDirectory disk).join text)

def runChecked (settings : Settings) (moment : Moment) (disk : Disk)
    (files : List Text) (options : Options) : Outcome :=
  match outputDirectory disk options with
  | none => runWriting settings moment disk files options none
  | some directory =>
      match disk.isDirectory directory with
      | .error fault => .ofFault disk [] [] (.disk fault)
      | .ok false =>
          .fail disk [] []
            ("Output directory does not exist: ".toList ++ directory.text)
      | .ok true => runWriting settings moment disk files options (some directory)

/-- Every named file has to exist before anything is written. -/
def runFiles (settings : Settings) (moment : Moment) (disk : Disk)
    (files : List Text) (options : Options) : Outcome :=
  let paths := files.map (workingDirectory disk).join
  if !disk.hasCurrentDirectory then ⟨disk, [], [], .escaped (.disk .noCurrentDirectory)⟩
  else
    match firstAbsent disk paths with
    | .error fault => ⟨disk, [], [], .escaped (.disk fault)⟩
    | .ok (some path) => .fail disk [] [] ("File not found: ".toList ++ path.text)
    | .ok none =>
        if options.stdout then runPrinting settings moment disk paths options
        else runChecked settings moment disk files options

def runQuery (settings : Settings) (disk : Disk) (query : Query) : Outcome :=
  match query.answer settings with
  | .error flaw => ⟨disk, [], [], .escaped (.template flaw)⟩
  | .ok answer => ⟨disk, answer, [], .exit 0⟩

def run (settings : Settings) (moment : Moment) (disk : Disk)
    (arguments : List Text) : Outcome :=
  match Request.ofArguments arguments with
  | .error complaint => ⟨disk, [], [.misuse complaint], .exit 2⟩
  | .ok (.query query) => runQuery settings disk query
  | .ok (.weave files options) => runFiles settings moment disk files options

end Weave.Command
