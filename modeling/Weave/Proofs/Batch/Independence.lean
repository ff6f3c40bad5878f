import Weave.Proofs.Batch.Schedule
import Weave.Proofs.Publication.Atomic

namespace Weave

/-- Neither of two sources, when it is published, changes a place on the way to the
other, to its document or to its draft. -/
def Order.Independent (order : Order) (cwd : Location) (first second : Path) : Prop :=
  (∀ location ∈ order.touched cwd first, location ∉ order.visited cwd second) ∧
    ∀ location ∈ order.touched cwd second, location ∉ order.visited cwd first

instance (order : Order) (cwd : Location) (first second : Path) :
    Decidable (order.Independent cwd first second) :=
  inferInstanceAs (Decidable (_ ∧ _))

namespace Order.Independent

variable {order : Order} {cwd : Location} {first second : Path}

theorem symm (hfirst : order.Independent cwd first second) :
    order.Independent cwd second first :=
  ⟨hfirst.2, hfirst.1⟩

theorem not_touched (hfirst : order.Independent cwd first second) {location : Location}
    (hlocation : location ∈ order.touched cwd first) :
    location ∉ order.touched cwd second := by
  intro hboth
  exact hfirst.1 location hlocation (order.touched_subset_visited cwd second hboth)

end Order.Independent

namespace Batch

/-- The disk that publications of their own would leave, put together: where a source
writes, what it writes alone, and elsewhere what was there. -/
structure Merged (order : Order) (disk : Disk) (sources : List Path) (final : Disk) :
    Prop where
  cwd : final.cwd = disk.cwd
  own : ∀ source ∈ sources, ∀ location ∈ order.touched disk.cwd source,
    final.tree.get? location = (publish order disk source).1.tree.get? location
  others : ∀ location, (∀ source ∈ sources, location ∉ order.touched disk.cwd source) →
    final.tree.get? location = disk.tree.get? location

theorem agree_after {order : Order} {disk : Disk} {first second : Path}
    (hindependent : order.Independent disk.cwd first second) :
    Disk.Agree (order.visited disk.cwd second) disk (publish order disk first).1 := by
  have hsame := publish_sameBut order disk first
  constructor
  · exact hsame.cwd.symm
  · intro location hlocation
    have hfree : location ∉ order.touched disk.cwd first := by
      intro htouched
      exact hindependent.1 location htouched hlocation
    exact (hsame.get? location hfree).symm

theorem publish_after {order : Order} {disk : Disk} {first second : Path}
    (hindependent : order.Independent disk.cwd first second) :
    Publication.Alike (order.visited disk.cwd second) (publish order disk second)
      (publish order (publish order disk first).1 second) :=
  publish_alike (agree_after hindependent) (List.Subset.refl _)

theorem publishAll_of_independent {order : Order} {disk : Disk} {sources : List Path}
    (hindependent : sources.Pairwise (order.Independent disk.cwd)) :
    (publishAll order disk sources).2 =
        sources.map (fun source => (publish order disk source).2) ∧
      Merged order disk sources (publishAll order disk sources).1 := by
  induction sources generalizing disk with
  | nil => exact ⟨rfl, rfl, by simp, fun _ _ => rfl⟩
  | cons source rest ih =>
      obtain ⟨hsource, hrest⟩ := List.pairwise_cons.mp hindependent
      have hsame := publish_sameBut order disk source
      rw [← hsame.cwd] at hrest
      obtain ⟨hresults, hmerged⟩ := ih hrest
      rw [publishAll_cons]
      constructor
      · have hlater : ∀ other ∈ rest, (publish order (publish order disk source).1 other).2 =
            (publish order disk other).2 := by
          intro other hother
          exact (publish_after (hsource other hother)).1.symm
        simp only [List.map_cons, hresults, List.map_congr_left hlater]
      · have hown := hmerged.own
        have hothers := hmerged.others
        rw [hsame.cwd] at hown hothers
        refine ⟨hmerged.cwd.trans hsame.cwd, ?_, ?_⟩
        · intro other hother location hlocation
          rcases List.mem_cons.mp hother with rfl | hlater
          · apply hothers
            intro later hlater
            exact (hsource later hlater).not_touched hlocation
          · rw [hown other hlater location hlocation]
            exact ((publish_after (hsource other hlater)).2.get? location
              (order.touched_subset_visited disk.cwd other hlocation)).symm
        · intro location hlocation
          have hfirst := hlocation source List.mem_cons_self
          rw [hothers location fun later hlater =>
            hlocation later (List.mem_cons_of_mem source hlater)]
          exact hsame.get? location hfirst

namespace Merged

variable {order : Order} {disk final other : Disk} {sources : List Path}

theorem unchanged (hmerged : Merged order disk sources final) {location : Location}
    (halone : ∀ source ∈ sources,
      (publish order disk source).1.tree.get? location = disk.tree.get? location) :
    final.tree.get? location = disk.tree.get? location := by
  by_cases htouched : ∃ source ∈ sources, location ∈ order.touched disk.cwd source
  · obtain ⟨source, hsource, hlocation⟩ := htouched
    exact (hmerged.own source hsource location hlocation).trans (halone source hsource)
  · apply hmerged.others
    intro source hsource hlocation
    exact htouched ⟨source, hsource, hlocation⟩

theorem changed (hmerged : Merged order disk sources final) {source : Path}
    (hsource : source ∈ sources) {location : Location}
    (halone : (publish order disk source).1.tree.get? location ≠
      disk.tree.get? location) :
    final.tree.get? location = (publish order disk source).1.tree.get? location := by
  by_cases hlocation : location ∈ order.touched disk.cwd source
  · exact hmerged.own source hsource location hlocation
  · exact absurd ((publish_sameBut order disk source).get? location hlocation) halone

theorem unique (hmerged : Merged order disk sources final)
    (hother : Merged order disk sources other) (location : Location) :
    final.tree.get? location = other.tree.get? location := by
  by_cases htouched : ∃ source ∈ sources, location ∈ order.touched disk.cwd source
  · obtain ⟨source, hsource, hlocation⟩ := htouched
    rw [hmerged.own source hsource location hlocation,
      hother.own source hsource location hlocation]
  · have hfree : ∀ source ∈ sources, location ∉ order.touched disk.cwd source := by
      intro source hsource hlocation
      exact htouched ⟨source, hsource, hlocation⟩
    rw [hmerged.others location hfree, hother.others location hfree]

theorem of_perm {arranged : List Path} (hperm : arranged.Perm sources)
    (hmerged : Merged order disk arranged final) : Merged order disk sources final where
  cwd := hmerged.cwd
  own := fun source hsource => hmerged.own source (hperm.mem_iff.mpr hsource)
  others := fun location hlocation => hmerged.others location fun source hsource =>
    hlocation source (hperm.mem_iff.mp hsource)

end Merged

/-- What becomes of a batch when its sources are published in the order of a schedule:
each source fares as it would alone, and the whole as the sources together. -/
structure Undisturbed (settings : Settings) (moment : Moment) (disk : Disk)
    (batch : Batch) (schedule : Schedule) : Prop where
  results : (publishAll (batch.order settings moment) disk (schedule.map Prod.fst)).2 =
    schedule.map fun item => (publish (batch.order settings moment) disk item.1).2
  same : ∀ location,
    (runScheduled settings moment disk batch schedule).disk.tree.get? location =
      (run settings moment disk batch).disk.tree.get? location
  unchanged : ∀ location,
    (∀ source ∈ batch.sources,
      (publish (batch.order settings moment) disk source).1.tree.get? location =
        disk.tree.get? location) →
    (runScheduled settings moment disk batch schedule).disk.tree.get? location =
      disk.tree.get? location
  changed : ∀ source ∈ batch.sources, ∀ location,
    (publish (batch.order settings moment) disk source).1.tree.get? location ≠
      disk.tree.get? location →
    (runScheduled settings moment disk batch schedule).disk.tree.get? location =
      (publish (batch.order settings moment) disk source).1.tree.get? location
  succeeded :
    (batch.files ≠ [] → batch.base.root = .relative → disk.hasCurrentDirectory = true) →
    ∀ publications : List Publication,
    (batch.sources.map fun source =>
      (publish (batch.order settings moment) disk source).2) = publications.map .ok →
    (runScheduled settings moment disk batch schedule).outcome = .ok publications
  failed : ∀ (front : List Path) (source : Path) (back : List Path)
      (publications : List Publication) (fault : Fault),
    batch.sources = front ++ source :: back →
    (front.map fun other =>
      (publish (batch.order settings moment) disk other).2) = publications.map .ok →
    (publish (batch.order settings moment) disk source).2 = .error fault →
    (runScheduled settings moment disk batch schedule).outcome = .error fault

theorem merged_of_schedule {settings : Settings} {moment : Moment} {disk : Disk}
    {batch : Batch} {schedule : Schedule} (hschedule : schedule.Perm batch.inOrder)
    (hindependent : batch.sources.Pairwise
      ((batch.order settings moment).Independent disk.cwd)) :
    (publishAll (batch.order settings moment) disk (schedule.map Prod.fst)).2 =
        (schedule.map fun item => (publish (batch.order settings moment) disk item.1).2) ∧
      Merged (batch.order settings moment) disk batch.sources
        (runScheduled settings moment disk batch schedule).disk := by
  have hperm : (schedule.map Prod.fst).Perm batch.sources := by
    simpa [inOrder] using hschedule.map Prod.fst
  have harranged : (schedule.map Prod.fst).Pairwise
      ((batch.order settings moment).Independent disk.cwd) :=
    (hperm.pairwise_iff fun hfirst => hfirst.symm).mpr hindependent
  obtain ⟨hresults, hmerged⟩ := publishAll_of_independent harranged
  constructor
  · rw [hresults, List.map_map]
    rfl
  · rw [disk_runScheduled]
    exact hmerged.of_perm hperm

theorem Merged.delivered {order : Order} {disk final : Disk} {sources : List Path}
    (hmerged : Merged order disk sources final) (hdisk : disk.WellFormed)
    (hsuffix : '/' ∉ order.settings.suffix) {source : Path} (hsource : source ∈ sources)
    {publication : Publication}
    (hpublish : (publish order disk source).2 = .ok publication) :
    publication.source = source ∧ (order.openedDocument disk source).fault = none ∧
      final.tree.get? (publication.output.location disk.cwd) =
        some (.file (Utf8.encode (Lines.toText
          (order.openedDocument disk source).lines))) := by
  obtain ⟨draft, lines, hcommitted⟩ := Publication.committed_of_publish
    (fun _ _ _ hnames hopen => Order.source_ne_draft hdisk hsuffix hnames hopen)
    (Prod.ext rfl hpublish)
  have htouched : publication.output.location disk.cwd ∈
      order.touched disk.cwd source := by
    simp [Order.touched, hcommitted.names_eq]
  refine ⟨hcommitted.source_eq, ?_, ?_⟩
  · rw [hcommitted.document_eq]
  · rw [hmerged.own source hsource _ htouched, hcommitted.placed, hcommitted.document_eq]

private theorem map_eq_of_results {α : Type} {result : Path → Except Fault Publication}
    {sources : List Path} {publications : List Publication}
    (hresults : sources.map result = publications.map .ok) {left : Publication → α}
    {right : Path → α} (hsame : ∀ source ∈ sources, ∀ publication,
      result source = .ok publication → left publication = right source) :
    publications.map left = sources.map right := by
  induction sources generalizing publications with
  | nil =>
      cases publications with
      | nil => rfl
      | cons publication rest => cases hresults
  | cons source sources ih =>
      cases publications with
      | nil => cases hresults
      | cons publication rest =>
          rw [List.map_cons, List.map_cons, List.cons.injEq] at hresults
          have hfirst := hsame source List.mem_cons_self publication hresults.1
          have hrest := ih hresults.2 fun other hother =>
            hsame other (List.mem_cons_of_mem source hother)
          rw [List.map_cons, List.map_cons, hfirst, hrest]

/-- Independent sources that are all published: each document stands in its place, made
from what its source held at first. -/
theorem delivered_of_outcome {settings : Settings} {moment : Moment} {disk : Disk}
    {batch : Batch} {publications : List Publication} (hdisk : disk.WellFormed)
    (hsuffix : '/' ∉ settings.suffix)
    (hindependent : batch.sources.Pairwise
      ((batch.order settings moment).Independent disk.cwd))
    (houtcome : (run settings moment disk batch).outcome = .ok publications) :
    publications.map Publication.source = batch.sources ∧
      (∀ source ∈ batch.sources,
        ((batch.order settings moment).openedDocument disk source).fault = none) ∧
      publications.map (fun publication => (run settings moment disk batch).disk.tree.get?
          (publication.output.location disk.cwd)) =
        batch.sources.map fun source => some (.file (Utf8.encode (Lines.toText
          ((batch.order settings moment).openedDocument disk source).lines))) := by
  obtain ⟨hresults, hmerged⟩ :=
    merged_of_schedule (List.Perm.refl batch.inOrder) hindependent
  have halone : (batch.sources.map fun source =>
      (publish (batch.order settings moment) disk source).2) = publications.map .ok := by
    apply eq_map_of_collect
    have hcollect := collect_of_outcome settings moment disk batch _ _ houtcome
    rw [hresults] at hcollect
    rwa [gather_map (List.Perm.refl batch.inOrder) fun source =>
      (publish (batch.order settings moment) disk source).2] at hcollect
  refine ⟨?_, ?_, ?_⟩
  · rw [map_eq_of_results halone fun source hsource publication hpublish =>
      (hmerged.delivered hdisk hsuffix hsource hpublish).1, List.map_id']
  · intro source hsource
    obtain ⟨publication, -, hpublish⟩ := List.mem_map.mp
      (halone ▸ List.mem_map_of_mem hsource)
    exact (hmerged.delivered hdisk hsuffix hsource hpublish.symm).2.1
  · exact map_eq_of_results halone fun source hsource publication hpublish =>
      (hmerged.delivered hdisk hsuffix hsource hpublish).2.2

/-- Documents can be named from a base that is rooted, or while the current directory
stands. -/
theorem not_lost_of_base {batch : Batch} {disk : Disk} {publications : List Publication}
    {result : Path → Except Fault Publication}
    (hbase : batch.files ≠ [] → batch.base.root = .relative →
      disk.hasCurrentDirectory = true)
    (hresults : batch.sources.map result = publications.map .ok) :
    ¬(publications ≠ [] ∧ batch.isLost disk) := by
  rintro ⟨hsome, hlost⟩
  simp only [isLost, Bool.and_eq_true, decide_eq_true_eq, Bool.not_eq_true'] at hlost
  have hfiles : batch.files ≠ [] := by
    intro hnone
    rw [sources, hnone, List.map_nil, List.map_nil, eq_comm, List.map_eq_nil_iff] at hresults
    exact hsome hresults
  rw [hbase hfiles hlost.1] at hlost
  cases hlost.2

/-- Independent sources may be published in any order: every schedule gives each its own
result, the same disk and the same outcome. -/
theorem undisturbed_of_independent {settings : Settings} {moment : Moment} {disk : Disk}
    {batch : Batch} {schedule : Schedule} (hschedule : schedule.Perm batch.inOrder)
    (hindependent : batch.sources.Pairwise
      ((batch.order settings moment).Independent disk.cwd)) :
    Undisturbed settings moment disk batch schedule := by
  obtain ⟨hresults, hmerged⟩ := merged_of_schedule hschedule hindependent
  obtain ⟨-, hsequence⟩ := merged_of_schedule (List.Perm.refl batch.inOrder) hindependent
  have hgather : gather schedule
      (publishAll (batch.order settings moment) disk (schedule.map Prod.fst)).2 =
        batch.sources.map fun source =>
          (publish (batch.order settings moment) disk source).2 := by
    rw [hresults]
    exact gather_map hschedule fun source =>
      (publish (batch.order settings moment) disk source).2
  refine ⟨hresults, hmerged.unique hsequence, fun location => hmerged.unchanged,
    fun source hsource location => hmerged.changed hsource, ?_, ?_⟩
  · intro hbase publications halone
    simp only [runScheduled, hgather, halone]
    rw [outcome_conclude_ok _ _ _ _ _ _ (collect_map_ok publications),
      if_neg (not_lost_of_base hbase halone)]
  · intro front source back publications fault hsplit hfront hfault
    simp only [runScheduled, hgather]
    apply outcome_conclude_error
    rw [hsplit, List.map_append, hfront, List.map_cons, hfault]
    exact collect_error publications fault _

/-- Three sources, the second of which cannot be read. -/
def sample : Batch where
  base := Sample.path "."
  files := ["a.js".toList, "b.js".toList, "c.py".toList]

/-- The sources of the sample that can be read. -/
def readableSample : Batch where
  base := Sample.path "."
  files := ["a.js".toList, "c.py".toList]

theorem undisturbed_sample :
    Undisturbed Sample.order.settings Sample.order.moment Sample.disk sample
        sample.inOrder.reverse ∧
      (runScheduled Sample.order.settings Sample.order.moment Sample.disk sample
        sample.inOrder.reverse).outcome = .error (.text ⟨0, [255], .badStart⟩) ∧
      (runScheduled Sample.order.settings Sample.order.moment Sample.disk readableSample
        readableSample.inOrder.reverse).outcome =
        .ok [⟨Sample.path "a.js", Sample.path "a.js.md", 115⟩,
          ⟨Sample.path "c.py", Sample.path "c.py.md", 126⟩] := by
  have hundisturbed : Undisturbed Sample.order.settings Sample.order.moment Sample.disk
      sample sample.inOrder.reverse :=
    undisturbed_of_independent (List.reverse_perm sample.inOrder) (by decide)
  have hreadable : Undisturbed Sample.order.settings Sample.order.moment Sample.disk
      readableSample readableSample.inOrder.reverse :=
    undisturbed_of_independent (List.reverse_perm readableSample.inOrder) (by decide)
  refine ⟨hundisturbed, ?_, ?_⟩
  · exact hundisturbed.failed [Sample.path "a.js"] (Sample.path "b.js")
      [Sample.path "c.py"] [⟨Sample.path "a.js", Sample.path "a.js.md", 115⟩] _ rfl rfl rfl
  · exact hreadable.succeeded (fun _ _ => rfl) _ rfl

/-- A source named from the top of the tree, in a batch that starts where the command
stands. -/
def strayBatch : Batch where
  base := Sample.path "."
  files := ["/c.py".toList]

/-- In a current directory that has been taken away every source of a batch can be
published and the batch fail all the same. -/
theorem published_but_refused :
    Sample.strayDisk.WellFormed ∧ '/' ∉ Sample.order.settings.suffix ∧
      strayBatch.sources.Pairwise
        ((strayBatch.order Sample.order.settings Sample.order.moment).Independent
          Sample.strayDisk.cwd) ∧
      (strayBatch.sources.map fun source =>
        (publish (strayBatch.order Sample.order.settings Sample.order.moment)
          Sample.strayDisk source).2) =
        [.ok ⟨Path.parse "/c.py".toList, Path.parse "/c.py.md".toList, 126⟩] ∧
      (run Sample.order.settings Sample.order.moment Sample.strayDisk strayBatch).outcome =
        .error (.disk .noCurrentDirectory) :=
  ⟨Sample.wellFormed_strayDisk, by decide, by decide, rfl, rfl⟩

end Batch

end Weave
