import Weave.Proofs.Batch.Schedule
import Weave.Proofs.Publication.Atomic

namespace Weave

/-- Publishing a source on a disk writes at a location: its document is put there, or it
can be read and its draft goes there. -/
def Order.WritesAt (order : Order) (disk : Disk) (source : Path) (location : Location) :
    Prop :=
  (∃ publication, (publish order disk source).2 = .ok publication ∧
      publication.output.location disk.cwd = location) ∨
    ∃ output draft opened, order.names source = some (output, draft) ∧
      disk.openFile source = .ok opened ∧ draft.location disk.cwd = location

theorem Order.WritesAt.mem_touched {order : Order} {disk : Disk} {source : Path}
    {location : Location} (hwrites : order.WritesAt disk source location) :
    location ∈ order.touched disk.cwd source := by
  rcases hwrites with ⟨publication, hresult, rfl⟩ | ⟨output, draft, opened, hnames, -, rfl⟩
  · obtain ⟨output, draft, opened, hnames, -, hcommit⟩ :=
      Publication.commit_of_publish_ok (Prod.ext rfl hresult)
    obtain ⟨-, hdraft⟩ := names_iff.mp hnames
    obtain ⟨_, lines, -, -, -, -, -, hpublication⟩ := Publication.commit_ok hdraft hcommit
    simp [touched, hnames, hpublication]
  · simp [touched, hnames]

theorem get?_publish_of_not_writesAt {order : Order} {disk : Disk} {source : Path}
    {location : Location} (hfree : ¬ order.WritesAt disk source location) :
    (publish order disk source).1.tree.get? location = disk.tree.get? location := by
  rcases publish_cases order disk source with ⟨-, fault, hpublish⟩ |
      ⟨fault, -, hpublish⟩ | ⟨output, draft, opened, hnames, hopen, hpublish⟩
  · rw [hpublish]
  · rw [hpublish]
  · obtain ⟨-, hdraft⟩ := Order.names_iff.mp hnames
    have hdrafted : location ≠ draft.location disk.cwd := fun heq =>
      hfree (.inr ⟨output, draft, opened, hnames, hopen, heq.symm⟩)
    rw [Order.WritesAt, hpublish] at hfree
    rw [hpublish]
    -- Only a commit that succeeds has been at the place of the document.
    cases hresult : (Publication.commit order disk source output draft opened).2 with
    | error fault =>
        have hsame : Disk.SameBut [draft.location disk.cwd] disk
            (Publication.commit order disk source output draft opened).1 := by
          apply Publication.commit_sameBut
          · intro publication hok
            cases hresult.symm.trans hok
          · exact List.mem_singleton_self _
        exact hsame.get? location (by simpa using hdrafted)
    | ok publication =>
        have hoff : location ≠ output.location disk.cwd := by
          intro heq
          obtain ⟨_, lines, -, -, -, -, -, hpublication⟩ :=
            Publication.commit_ok hdraft (Prod.ext rfl hresult)
          refine hfree (.inl ⟨publication, hresult, ?_⟩)
          rw [hpublication, heq]
        have hsame : Disk.SameBut [output.location disk.cwd, draft.location disk.cwd] disk
            (Publication.commit order disk source output draft opened).1 := by
          apply Publication.commit_sameBut
          · intro other _
            exact List.mem_cons_self
          · exact List.mem_cons_of_mem _ List.mem_cons_self
        exact hsame.get? location (by simp [hoff, hdrafted])

/-- With a suffix that makes one longer name, a source is never in the way of its own
document or draft. -/
theorem Order.not_writesAt_own {order : Order} {disk turn : Disk} {source : Path}
    {location : Location} (hdisk : disk.WellFormed) (hcwd : turn.cwd = disk.cwd)
    (hsource : source.Proper) (hlonger : order.settings.suffix ≠ [])
    (hsuffix : '/' ∉ order.settings.suffix) (hopen : disk.openFile source = .ok location) :
    ¬ order.WritesAt turn source location := by
  rintro (⟨publication, hresult, hplace⟩ | ⟨output, draft, opened, hnames, -, hplace⟩)
  · obtain ⟨output, draft, opened, hnames, -, hcommit⟩ :=
      Publication.commit_of_publish_ok (Prod.ext rfl hresult)
    obtain ⟨houtput, hdraft⟩ := names_iff.mp hnames
    obtain ⟨_, lines, -, -, hparent, -, -, hpublication⟩ := Publication.commit_ok hdraft hcommit
    obtain ⟨folder, hlocation⟩ := hdisk.location_of_openFile hopen
    have hname : source.name ≠ [] := by
      intro hempty
      have hfile := (Disk.file_of_openFile hopen).2
      exact hdisk.named hfile (by simp [hlocation, hempty])
    have hgrown := Path.name_output hsuffix hlonger hsource.slash_not_mem_name hname houtput
    obtain ⟨front, last, hparts, -, -⟩ := Path.exists_of_draft hdraft
    have hlast : output.name = last := by simp [Path.name, hparts]
    rw [hlast] at hparent hgrown
    rw [hpublication, Path.location_concat hparts hparent, hlocation] at hplace
    have hsame := List.singleton_inj.mp (List.append_inj' hplace rfl).2
    rw [hgrown] at hsame
    exact hlonger (by simpa using hsame)
  · rw [hcwd] at hplace
    exact source_ne_draft hdisk hsuffix hnames hopen hplace.symm

namespace Batch

/-- A source is published on a disk that the sources before it have left, and writes at a
location there. -/
def WritesInTurn (order : Order) (disk : Disk) (sources : List Path) (source : Path)
    (location : Location) : Prop :=
  ∃ front back, sources = front ++ source :: back ∧
    order.WritesAt (publishAll order disk front).1 source location

theorem WritesInTurn.mem_touched {order : Order} {disk : Disk} {sources : List Path}
    {source : Path} {location : Location}
    (hturn : WritesInTurn order disk sources source location) :
    location ∈ order.touched disk.cwd source := by
  obtain ⟨front, back, -, hwrites⟩ := hturn
  rw [← (publishAll_sameBut order disk front).cwd]
  exact hwrites.mem_touched

theorem get?_publishAll (order : Order) (disk : Disk) (sources : List Path)
    (location : Location) :
    (publishAll order disk sources).1.tree.get? location = disk.tree.get? location ∨
      ∃ source ∈ sources, WritesInTurn order disk sources source location := by
  induction sources generalizing disk with
  | nil => exact .inl rfl
  | cons source rest ih =>
      by_cases hwrites : order.WritesAt disk source location
      · exact .inr ⟨source, List.mem_cons_self, [], rest, rfl, hwrites⟩
      · rcases ih (publish order disk source).1 with hsame |
            ⟨other, hother, front, back, hsplit, hturn⟩
        · exact .inl (hsame.trans (get?_publish_of_not_writesAt hwrites))
        · refine .inr ⟨other, List.mem_cons_of_mem source hother, source :: front, back,
            ?_, hturn⟩
          rw [hsplit, List.cons_append]

/-- A batch leaves a source as it was, unless the document or the draft of one of its
sources lands on it; and that is a source in another file, if the suffix makes one longer
name. -/
theorem source_unchanged_or_written {settings : Settings} {moment : Moment} {disk : Disk}
    {batch : Batch} {schedule : Schedule} (hdisk : disk.WellFormed)
    (hbase : batch.base.Proper) (hschedule : schedule.Perm batch.inOrder) :
    ∀ source ∈ batch.sources, ∀ location, disk.openFile source = .ok location →
      (runScheduled settings moment disk batch schedule).disk.tree.get? location =
          disk.tree.get? location ∨
        ∃ other ∈ batch.sources,
          WritesInTurn (batch.order settings moment) disk (schedule.map Prod.fst) other
            location ∧
          (settings.suffix ≠ [] → '/' ∉ settings.suffix →
            disk.openFile other ≠ disk.openFile source) := by
  intro source _ location hopen
  have hperm : (schedule.map Prod.fst).Perm batch.sources := by
    simpa [inOrder] using hschedule.map Prod.fst
  rw [disk_runScheduled]
  rcases get?_publishAll (batch.order settings moment) disk (schedule.map Prod.fst) location
    with hsame | ⟨other, hother, hturn⟩
  · exact .inl hsame
  · refine .inr ⟨other, hperm.mem_iff.mp hother, hturn, ?_⟩
    intro hlonger hsuffix hsame
    obtain ⟨front, back, -, hwrites⟩ := hturn
    obtain ⟨file, -, rfl⟩ := List.mem_map.mp (hperm.mem_iff.mp hother)
    have hcwd := (publishAll_sameBut (batch.order settings moment) disk front).cwd
    exact Order.not_writesAt_own hdisk hcwd (hbase.join file) hlonger hsuffix
      (hsame.trans hopen) hwrites

def plain : Settings := Settings.ofEnvironment [] []

/-- The settings of an environment that asks for an empty suffix. -/
def unsuffixed : Settings := Settings.ofEnvironment [(Settings.suffixKey, [])] []

def ofNames (files : List String) : Batch where
  base := Sample.path "."
  files := files.map String.toList

/-- The settings of an environment that asks for documents of plain text. -/
def texted : Settings := Settings.ofEnvironment [(Settings.suffixKey, ".txt".toList)] []

def mixed : Batch := ofNames ["c.py", "a.js", "b.js"]

/-- Of three sources beside one another, taken from the last to the first, one fails; none
is changed. -/
theorem sources_unchanged_mixed :
    Sample.disk.WellFormed ∧ mixed.base.Proper ∧
      mixed.inOrder.reverse.Perm mixed.inOrder ∧
      ∀ source ∈ mixed.sources,
        Sample.disk.openFile source = .ok (source.location Sample.disk.cwd) ∧
          (runScheduled texted Sample.order.moment Sample.disk mixed
              mixed.inOrder.reverse).disk.tree.get? (source.location Sample.disk.cwd) =
            Sample.disk.tree.get? (source.location Sample.disk.cwd) := by
  have hbase : mixed.base.Proper := Path.proper_parse _
  have hperm := List.reverse_perm mixed.inOrder
  have hopen : ∀ source ∈ mixed.sources,
      Sample.disk.openFile source = .ok (source.location Sample.disk.cwd) := by
    decide
  have hapart : ∀ source ∈ mixed.sources, ∀ other ∈ mixed.sources,
      source.location Sample.disk.cwd ∉
        (mixed.order texted Sample.order.moment).touched Sample.disk.cwd other := by
    decide
  refine ⟨Sample.wellFormed_disk, hbase, hperm, fun source hsource =>
    ⟨hopen source hsource, ?_⟩⟩
  rcases @source_unchanged_or_written texted Sample.order.moment _ _ _
      Sample.wellFormed_disk hbase hperm source hsource _ (hopen source hsource) with
    hsame | ⟨other, hother, hturn, -⟩
  · exact hsame
  · exact absurd hturn.mem_touched (hapart source hsource other hother)

/-- A source of a batch that is not what it was once the batch has run. -/
def Spoiled (settings : Settings) (batch : Batch) (source : Path) : Prop :=
  source ∈ batch.sources ∧ ∃ location, Sample.disk.openFile source = .ok location ∧
    (run settings Sample.order.moment Sample.disk batch).disk.tree.get? location ≠
      Sample.disk.tree.get? location

/-- A source may be its own document, or lie where the document or the draft of another
source goes. -/
theorem sources_spoiled :
    Spoiled unsuffixed (ofNames ["a.js"]) (Sample.path "a.js") ∧
      Spoiled plain (ofNames ["a.js", "a.js.md"]) (Sample.path "a.js.md") ∧
      Spoiled plain (ofNames ["a.js", "a.js.md.part"]) (Sample.path "a.js.md.part") := by
  refine ⟨⟨by decide, _, rfl, ?_⟩, ⟨by decide, _, rfl, ?_⟩, ⟨by decide, _, rfl, ?_⟩⟩
  · decide +kernel
  · decide +kernel
  · decide +kernel

end Batch

end Weave
