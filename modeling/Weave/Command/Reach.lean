import Weave.Command.Run

namespace Weave

namespace Command

def outputsOf (order : Order) (source : Path) : List Path :=
  match order.output source with
  | .error _ => []
  | .ok output =>
      match output.draft with
      | .error _ => [output]
      | .ok draft => [output, draft]

/-- Every path that a request may look at or change. -/
def reach (settings : Settings) (moment : Moment) (disk : Disk) (files : List Text)
    (options : Options) : List Path :=
  let directory := outputDirectory disk options
  let order : Order := ⟨settings, moment, options.language, directory⟩
  let sources := files.map (workingDirectory disk).join
  workingDirectory disk :: directory.toList ++ sources ++
    sources.flatMap (outputsOf order)

/-- Every location that a list of arguments may look at or change. -/
def locations (settings : Settings) (moment : Moment) (disk : Disk)
    (arguments : List Text) : List Location :=
  match Request.ofArguments arguments with
  | .ok (.weave files options) =>
      ((reach settings moment disk files options).flatMap (Path.visited disk.cwd)).eraseDups
  | _ => []

end Command

end Weave
