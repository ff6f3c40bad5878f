import Weave.Publication

namespace Weave

/-! What a batch records as it goes. -/

inductive Event
  | started (files workers : Nat)
  | documenting (source : Path) (language : Option Text) (output : Path)
  | finished (output : Text) (size : Nat)
  deriving DecidableEq, Repr

namespace Event

def languageText : Option Text → Text
  | some language => Text.quoted language
  | none => ['[', ']']

def message : Event → Text
  | .started files workers =>
      "Documenting ".toList ++ Text.decimal files ++ " file(s) with ".toList ++
        Text.decimal workers ++ " worker(s)".toList
  | .documenting source language output =>
      "Documenting ".toList ++ source.text ++ " as ".toList ++ languageText language ++
        " → ".toList ++ output.text
  | .finished output size =>
      "Finished ".toList ++ output ++ " (".toList ++ Text.decimal size ++
        " bytes)".toList

/-- An event as it stands in a log. -/
def record (event : Event) : Text :=
  "jdi.runner DEBUG ".toList ++ event.message

end Event

/-- A list of files named relative to a base directory. -/
structure Batch where
  base : Path
  files : List Text
  directory : Option Path := none
  language : Choice Text := .unset
  jobs : Option Int := none

namespace Batch

def sources (batch : Batch) : List Path :=
  batch.files.map batch.base.join

def order (batch : Batch) (settings : Settings) (moment : Moment) : Order where
  settings := settings
  moment := moment
  language := batch.language
  directory := batch.directory.map batch.base.append

/-- No count, or a count of zero, stands for the setting; there is always at
least one worker. -/
def workers (settings : Settings) : Option Int → Nat
  | none => max 1 settings.jobs
  | some count => if count = 0 then max 1 settings.jobs else max 1 count.toNat

/-- Every source is published, whatever becomes of the others. -/
def publishAll (order : Order) (disk : Disk) :
    List Path → Disk × List (Except Fault Publication)
  | [] => (disk, [])
  | source :: rest =>
      let (next, result) := publish order disk source
      let (final, results) := publishAll order next rest
      (final, result :: results)

/-- All the values, or the first fault. -/
def collect : List (Except Fault Publication) → Except Fault (List Publication)
  | [] => .ok []
  | .error fault :: _ => .error fault
  | .ok publication :: rest =>
      match collect rest with
      | .error fault => .error fault
      | .ok publications => .ok (publication :: publications)

def announcement (order : Order) (source : Path) : Option Event :=
  match order.output source with
  | .error _ => none
  | .ok output =>
      some (.documenting source ((order.subject? source).map Subject.language) output)

structure Report where
  disk : Disk
  events : List Event
  outcome : Except Fault (List Publication)

def completion (batch : Batch) (disk : Disk) (publication : Publication) : Event :=
  .finished (Path.relativeText disk.cwd batch.base publication.output) publication.size

/-- Whether the base cannot be told from the top of the tree down, the current
directory being gone. -/
def isLost (batch : Batch) (disk : Disk) : Bool :=
  batch.base.root = .relative && !disk.hasCurrentDirectory

/-- The report on a batch, given what the disk has become and the results of its
sources in their order. -/
def conclude (settings : Settings) (moment : Moment) (disk : Disk) (batch : Batch)
    (final : Disk) (results : List (Except Fault Publication)) : Report :=
  let outcome := collect results
  let announced :=
    .started batch.files.length (workers settings batch.jobs) ::
      batch.sources.filterMap (announcement (batch.order settings moment))
  match outcome with
  | .error _ => ⟨final, announced, outcome⟩
  | .ok publications =>
      if publications ≠ [] ∧ batch.isLost disk then
        ⟨final, announced, .error (.disk .noCurrentDirectory)⟩
      else ⟨final, announced ++ publications.map (batch.completion disk), outcome⟩

/-! The workers may take the sources in any order. A schedule is that order, each
source with its position in the batch.

A source is published from its first step to its last before the next is taken. What
two workers do at the same time, with steps of one publication between those of another,
is not described here. -/

abbrev Schedule := List (Path × Nat)

def inOrder (batch : Batch) : Schedule :=
  batch.sources.zipIdx

/-- The results of a schedule, by the positions of their sources. -/
def gather (schedule : Schedule) (results : List (Except Fault Publication)) :
    List (Except Fault Publication) :=
  (List.range schedule.length).filterMap fun position =>
    ((schedule.map Prod.snd).zip results).lookup position

def runScheduled (settings : Settings) (moment : Moment) (disk : Disk) (batch : Batch)
    (schedule : Schedule) : Report :=
  let (final, results) :=
    publishAll (batch.order settings moment) disk (schedule.map Prod.fst)
  conclude settings moment disk batch final (gather schedule results)

def run (settings : Settings) (moment : Moment) (disk : Disk) (batch : Batch) : Report :=
  runScheduled settings moment disk batch batch.inOrder

end Batch

end Weave
