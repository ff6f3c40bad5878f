import Weave.Main
import Weave.Session
import Weave.Proofs.Disk.Resolution
import Weave.Proofs.Document.Runs
import Weave.Proofs.Disk.Effect
import Weave.Proofs.Publication.Frame
import Weave.Proofs.Disk.WellFormed
import Weave.Proofs.Path.Naming
import Weave.Proofs.Path.Parts
import Weave.Proofs.Publication.Atomic
import Weave.Proofs.Batch.Schedule
import Weave.Proofs.Batch.Independence
import Weave.Proofs.Batch.Keeping
import Weave.Proofs.Document.Reading
import Weave.Proofs.Session.Interleaving
import Weave.Proofs.Batch.Sources
import Weave.Proofs.Command.Flags
import Weave.Proofs.Command.Printing
import Weave.Proofs.Document.Neutral
import Weave.Proofs.Text.Spelling
import Weave.Proofs.Text.Decoding
import Weave.Proofs.Text.Cutting
import Weave.Proofs.Source.Blocks
import Weave.Proofs.Publication.Faults
import Weave.Proofs.Command.Checking
import Weave.Proofs.Command.Reporting
import Weave.Proofs.Text.Endings
import Weave.Proofs.Source.RoundTrip
import Weave.Proofs.Document.Causality
import Weave.Proofs.Document.Outline
import Weave.Proofs.Path.Collision
import Weave.Proofs.Command.Workers
import Weave.Proofs.Command.Phrases
import Weave.Proofs.Command.Placement
import Weave.Proofs.Text.Fields
import Weave.Proofs.Time.Calendar
import Weave.Proofs.Time.Stamp
import Weave.Proofs.Settings.Rendering
import Weave.Proofs.Path.Relative
import Weave.Proofs.Command.Status
import Weave.Proofs.Session.Memory
import Weave.Proofs.Line.Dressing
