import Weave.Document
import Weave.Fault
import Weave.Text.Lines

namespace Weave

namespace Source

def blockSize : Nat := 8192

/-- Lines produced in order, and what stopped them early, if anything did. -/
structure Produced (cause : Type) where
  lines : List Line
  fault : Option cause

def Produced.mapFault {cause other : Type} (change : cause → other)
    (produced : Produced cause) : Produced other :=
  ⟨produced.lines, produced.fault.map change⟩

theorem Produced.exists_of_mapFault {cause other : Type} {change : cause → other}
    {produced : Produced cause} {fault : other}
    (hfault : (produced.mapFault change).fault = some fault) :
    ∃ flaw, fault = change flaw := by
  obtain ⟨flaw, -, hflaw⟩ := Option.map_eq_some_iff.mp hfault
  exact ⟨flaw, hflaw.symm⟩

/-- The lines of a file's content. A fault lets through only lines that were
complete in the blocks before it. -/
def lines (content : Bytes) : Produced Utf8.Fault :=
  match Utf8.decode blockSize content with
  | (text, none) => ⟨Lines.ofText text, none⟩
  | (text, some fault) => ⟨Lines.complete text, some fault⟩

/-- What is made of lines as they come, until they end or a fault comes in place of the
next. Only the end is followed by what closes a document. -/
def weave {cause : Type} (subject : Subject) (moment : Moment) (fault : Option cause)
    (state : Document.State) : List Line → Produced cause
  | [] =>
      match fault with
      | none => ⟨state.closing subject moment, none⟩
      | some fault => ⟨[], some fault⟩
  | line :: rest =>
      let later := weave subject moment fault (state.next line) rest
      ⟨state.emit subject line ++ later.lines, later.fault⟩

/-- The document of a file's content, as far as its lines can be read. -/
def document (subject : Subject) (moment : Moment) (content : Bytes) :
    Produced Utf8.Fault :=
  weave subject moment (lines content).fault {} (lines content).lines

/-- The document of a file's content when there is no language for its fences: it
stops at the first line of code. -/
def proseDocument (name : Text) (moment : Moment) (content : Bytes) : Produced Fault :=
  let all := (lines content).lines
  let prose := Document.State.prose {} all
  if prose = all then (document ⟨[], name⟩ moment content).mapFault .text
  else ⟨Document.body ⟨[], name⟩ prose, some .noLanguage⟩

def openedLines (disk : Disk) (path : Path) : Produced Fault :=
  match disk.openFile path with
  | .error fault => ⟨[], some (.disk fault)⟩
  | .ok location =>
      (lines (disk.tree.content location)).mapFault .text

section Weave

variable {cause : Type} (subject : Subject) (moment : Moment) (state : Document.State)
  (lines : List Line)

theorem weave_none :
    weave subject moment (none : Option cause) state lines =
      ⟨(state.outputs subject lines).flatten ++ (state.after lines).closing subject moment,
        none⟩ := by
  induction lines generalizing state with
  | nil => rfl
  | cons line lines ih => simp [weave, ih]

theorem weave_some (fault : cause) :
    weave subject moment (some fault) state lines =
      ⟨(state.outputs subject lines).flatten, some fault⟩ := by
  induction lines generalizing state with
  | nil => rfl
  | cons line lines ih => simp [weave, ih]

theorem mapFault_weave {other : Type} (change : cause → other) (fault : Option cause) :
    (weave subject moment fault state lines).mapFault change =
      weave subject moment (fault.map change) state lines := by
  cases fault with
  | none => simp [weave_none, Produced.mapFault]
  | some fault => simp [weave_some, Produced.mapFault]

end Weave

end Source

end Weave
