import Weave.Choice
import Weave.Naming
import Weave.Source
import Weave.Text.Writer

namespace Weave

/-- A document that has been put in its place. -/
structure Publication where
  source : Path
  output : Path
  size : Nat
  deriving DecidableEq, Repr

/-- How documents are to be published: when, in which language if not their
own, and in which directory if not beside their sources. -/
structure Order where
  settings : Settings
  moment : Moment
  language : Choice Text := .unset
  directory : Option Path := none

namespace Order

/-- The subject of a source; there is none if its language was emptied. -/
def subject? (order : Order) (source : Path) : Option Subject :=
  match order.language with
  | .unset => some (Subject.ofPath order.settings none source)
  | .made language => some (Subject.ofPath order.settings (some language) source)
  | .emptied => none

/-- The document of a source with the given content. -/
def document (order : Order) (source : Path) (content : Bytes) :
    Source.Produced Fault :=
  match order.subject? source with
  | some subject => (Source.document subject order.moment content).mapFault .text
  | none => Source.proseDocument source.name order.moment content

def openedDocument (order : Order) (disk : Disk) (source : Path) :
    Source.Produced Fault :=
  match disk.openFile source with
  | .error fault => ⟨[], some (.disk fault)⟩
  | .ok location => order.document source (disk.tree.content location)

def output (order : Order) (source : Path) : Except Path.NameFault Path :=
  source.output order.settings.suffix order.directory

end Order

namespace Publication

/-- Give up: remove the draft. If that fails too, its fault is the one that
counts. -/
def abandon (disk : Disk) (draft : Path) (fault : Fault) :
    Disk × Except Fault Publication :=
  match disk.remove draft with
  | .ok cleared => (cleared, .error fault)
  | .error failure => (disk, .error (.disk failure))

/-- Write the document of an opened source to the draft and move the draft into
place. -/
def commit (order : Order) (disk : Disk) (source output draft : Path)
    (location : Location) : Disk × Except Fault Publication :=
  match disk.create draft with
  | .error fault => abandon disk draft (.disk fault)
  | .ok (place, opened) =>
      match order.document source (opened.tree.content location) with
      | ⟨_, some fault⟩ => abandon opened draft fault
      | ⟨lines, none⟩ =>
          let writer := Writer.ofLines lines
          let written := opened.insert place (.file writer.content)
          match written.move draft output with
          | .error fault => abandon written draft (.disk fault)
          | .ok moved => (moved, .ok ⟨source, output, writer.size⟩)

end Publication

/-- Publish the document of one source: all of it or none of it. -/
def publish (order : Order) (disk : Disk) (source : Path) :
    Disk × Except Fault Publication :=
  match order.output source with
  | .error fault => (disk, .error (.name fault))
  | .ok output =>
      match output.draft with
      | .error fault => (disk, .error (.name fault))
      | .ok draft =>
          match disk.openFile source with
          | .error fault => (disk, .error (.disk fault))
          | .ok location =>
              Publication.commit order disk source output draft location

end Weave
