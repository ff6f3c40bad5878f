import Weave.Proofs.Batch.Schedule
import Weave.Proofs.Publication.Atomic

namespace Weave.Batch

/-- The document of what a source held stands whole where it was published. -/
structure Kept (order : Order) (disk final : Disk) (source : Path)
    (publication : Publication) : Prop where
  source_eq : publication.source = source
  named : ∃ draft, order.names source = some (publication.output, draft)
  document : ∃ content lines,
    disk.tree.get? (source.location disk.cwd) = some (.file content) ∧
    order.document source content = ⟨lines, none⟩ ∧
    final.tree.get? (publication.output.location disk.cwd) =
      some (.file (Utf8.encode (Lines.toText lines))) ∧
    publication.size = (Utf8.encode (Lines.toText lines)).length

namespace Kept

variable {order : Order} {disk middle final : Disk} {source : Path}
  {publication other : Publication}

theorem of_sameBut {places : List Location}
    (hkept : Kept order disk middle source publication)
    (hsame : Disk.SameBut places middle final)
    (houtput : publication.output.location disk.cwd ∉ places) :
    Kept order disk final source publication := by
  obtain ⟨content, lines, hcontent, hdocument, hplaced, hsize⟩ := hkept.document
  refine ⟨hkept.source_eq, hkept.named, content, lines, hcontent, hdocument, ?_, hsize⟩
  rw [hsame.get? _ houtput, hplaced]

theorem unique (hkept : Kept order disk middle source publication)
    (hother : Kept order disk final source other) : publication = other := by
  obtain ⟨content, lines, hcontent, hdocument, -, hsize⟩ := hkept.document
  obtain ⟨content', lines', hcontent', hdocument', -, hsize'⟩ := hother.document
  cases hcontent.symm.trans hcontent'
  cases hdocument.symm.trans hdocument'
  have hsource := hkept.source_eq.trans hother.source_eq.symm
  obtain ⟨draft, hnames⟩ := hkept.named
  obtain ⟨draft', hnames'⟩ := hother.named
  have houtput := congrArg Prod.fst (Option.some.inj (hnames.symm.trans hnames'))
  cases publication
  cases other
  rw [Publication.mk.injEq]
  exact ⟨hsource, houtput, hsize.trans hsize'.symm⟩

end Kept

/-- No other source of a list is published over this one or over its document. This one is
not its own draft and, if it is listed again, not its own document. -/
def Unshared (order : Order) (cwd : Location) (sources : List Path) (source : Path) :
    Prop :=
  ∀ paths ∈ order.names source,
    source.location cwd ≠ paths.2.location cwd ∧
    (1 < sources.count source → source.location cwd ≠ paths.1.location cwd) ∧
    ∀ other ∈ sources, other ≠ source →
      source.location cwd ∉ order.touched cwd other ∧
        paths.1.location cwd ∉ order.touched cwd other

instance (order : Order) (cwd : Location) (sources : List Path) (source : Path) :
    Decidable (Unshared order cwd sources source) :=
  inferInstanceAs (Decidable (∀ paths ∈ order.names source, _ ∧ _ ∧ _))

namespace Unshared

variable {order : Order} {cwd : Location} {sources front back : List Path} {source : Path}

theorem of_perm {arranged : List Path} (hperm : arranged.Perm sources)
    (hunshared : Unshared order cwd sources source) :
    Unshared order cwd arranged source := by
  intro paths hpaths
  obtain ⟨hdraft, hagain, hothers⟩ := hunshared paths hpaths
  refine ⟨hdraft, ?_, ?_⟩
  · rwa [hperm.count_eq]
  · intro other hother
    exact hothers other (hperm.mem_iff.mp hother)

theorem source_not_touched (hunshared : Unshared order cwd (front ++ source :: back) source)
    {paths : Path × Path} (hpaths : paths ∈ order.names source) :
    source.location cwd ∉ front.flatMap (order.touched cwd) := by
  obtain ⟨hdraft, hagain, hothers⟩ := hunshared paths hpaths
  rw [List.mem_flatMap]
  rintro ⟨other, hother, htouched⟩
  by_cases hsame : other = source
  · subst hsame
    have hcount : 1 < (front ++ other :: back).count other := by
      have hfront := List.count_pos_iff.mpr hother
      rw [List.count_append, List.count_cons_self]
      omega
    have hpair : order.touched cwd other = [paths.1.location cwd, paths.2.location cwd] := by
      rw [Order.touched, Option.mem_def.mp hpaths]
    rw [hpair] at htouched
    rcases List.mem_pair.mp htouched with houtput | hown
    · exact hagain hcount houtput
    · exact hdraft hown
  · exact (hothers other (List.mem_append_left _ hother) hsame).1 htouched

theorem output_not_touched (hunshared : Unshared order cwd (front ++ source :: back) source)
    {paths : Path × Path} (hpaths : paths ∈ order.names source) (hlast : source ∉ back) :
    paths.1.location cwd ∉ back.flatMap (order.touched cwd) := by
  obtain ⟨-, -, hothers⟩ := hunshared paths hpaths
  rw [List.mem_flatMap]
  rintro ⟨other, hother, htouched⟩
  have hne : other ≠ source := fun hsame => hlast (hsame ▸ hother)
  have hmem : other ∈ front ++ source :: back :=
    List.mem_append_right front (List.mem_cons_of_mem source hother)
  exact (hothers other hmem hne).2 htouched

end Unshared

theorem kept_of_publish {order : Order} {disk before after : Disk}
    {places : List Location} {source : Path} {publication : Publication}
    (hbefore : Disk.SameBut places disk before)
    (hpublish : publish order before source = (after, .ok publication))
    (hclear : ∀ paths ∈ order.names source,
      source.location disk.cwd ≠ paths.2.location disk.cwd ∧
        source.location disk.cwd ∉ places) :
    Kept order disk after source publication := by
  have hapart : ∀ output draft location, order.names source = some (output, draft) →
      before.openFile source = .ok location → location ≠ draft.location before.cwd := by
    intro output draft location hnames hopen
    rw [(Disk.file_of_openFile hopen).1, hbefore.cwd]
    exact (hclear (output, draft) hnames).1
  obtain ⟨draft, lines, hcommitted⟩ := Publication.committed_of_publish hapart hpublish
  have hsource := (hclear (publication.output, draft) hcommitted.names_eq).2
  obtain ⟨location, hopen, hdocument⟩ := Order.openedDocument_iff.mp hcommitted.document_eq
  obtain ⟨hlocation, hcontent⟩ := Disk.file_of_openFile hopen
  have hplaced := hcommitted.placed
  rw [hbefore.cwd] at hlocation hplaced
  rw [hlocation] at hcontent hdocument
  refine ⟨hcommitted.source_eq, ⟨draft, hcommitted.names_eq⟩, _, lines, ?_, hdocument,
    hplaced, hcommitted.size_eq⟩
  rw [← hbefore.get? _ hsource]
  exact hcontent

section Sources

variable {order : Order} {disk : Disk} {front back sources : List Path} {source : Path}
  {publication : Publication}

theorem kept_at_split
    (hunshared : Unshared order disk.cwd (front ++ source :: back) source)
    (hpublish : (publish order (publishAll order disk front).1 source).2 =
      .ok publication) :
    Kept order disk (publish order (publishAll order disk front).1 source).1 source
      publication := by
  apply kept_of_publish (publishAll_sameBut order disk front) (Prod.ext rfl hpublish)
  intro paths hpaths
  exact ⟨(hunshared paths hpaths).1, hunshared.source_not_touched hpaths⟩

private theorem exists_last_of_mem (hsource : source ∈ sources) :
    ∃ earlier later, sources = earlier ++ source :: later ∧ source ∉ later := by
  rw [← List.mem_reverse] at hsource
  obtain ⟨later, earlier, hreverse, hlast⟩ := List.eq_append_cons_of_mem hsource
  refine ⟨earlier.reverse, later.reverse, ?_, by simpa using hlast⟩
  rw [← List.reverse_reverse sources, hreverse]
  simp

/-- The last publication of a source is the one that stays, and the earlier ones were the
same. -/
theorem kept_of_publishAll
    (hunshared : Unshared order disk.cwd sources source)
    (hresults : ∀ result ∈ (publishAll order disk sources).2, ∃ other, result = .ok other)
    (hsplit : sources = front ++ source :: back)
    (hpublish : (publish order (publishAll order disk front).1 source).2 =
      .ok publication) :
    Kept order disk (publishAll order disk sources).1 source publication := by
  have hhere := kept_at_split (hsplit ▸ hunshared) hpublish
  obtain ⟨earlier, later, rfl, hlast⟩ :=
    exists_last_of_mem (hsplit ▸ List.mem_append_right front List.mem_cons_self)
  rw [publishAll_append, publishAll_cons] at hresults ⊢
  obtain ⟨other, hother⟩ := hresults _
    (List.mem_append_right _ List.mem_cons_self)
  have hkept := kept_at_split hunshared hother
  obtain ⟨draft, hnames⟩ := hkept.named
  have hafter := publishAll_sameBut order
    (publish order (publishAll order disk earlier).1 source).1 later
  rw [(publish_sameBut order _ source).cwd, (publishAll_sameBut order disk earlier).cwd]
    at hafter
  rw [hhere.unique hkept]
  exact hkept.of_sameBut hafter (hunshared.output_not_touched hnames hlast)

end Sources

section Schedule

variable {settings : Settings} {moment : Moment} {disk : Disk} {batch : Batch}
  {schedule front back : Schedule} {publications : List Publication}

theorem gather_of_outcome
    (houtcome : (runScheduled settings moment disk batch schedule).outcome =
      .ok publications) :
    gather schedule
        (publishAll (batch.order settings moment) disk (schedule.map Prod.fst)).2 =
      publications.map .ok := by
  apply eq_map_of_collect
  exact collect_of_outcome settings moment disk batch _ _ houtcome

/-- What a batch reports at a position is what the schedule has got for it. -/
theorem result_of_outcome (hschedule : schedule.Perm batch.inOrder)
    (houtcome : (runScheduled settings moment disk batch schedule).outcome =
      .ok publications) {position : Nat} {result : Except Fault Publication}
    (hmem : (position, result) ∈ (schedule.map Prod.snd).zip
      (publishAll (batch.order settings moment) disk (schedule.map Prod.fst)).2) :
    publications[position]?.map .ok = some result := by
  have hresult := (gather_spec hschedule (by simp)).2 position result hmem
  rwa [gather_of_outcome houtcome, List.getElem?_map] at hresult

theorem length_of_outcome (hschedule : schedule.Perm batch.inOrder)
    (houtcome : (runScheduled settings moment disk batch schedule).outcome =
      .ok publications) :
    publications.length = batch.sources.length := by
  have hresults : (publishAll (batch.order settings moment) disk
      (schedule.map Prod.fst)).2.length = schedule.length := by simp
  have hlength := (gather_spec hschedule hresults).1
  rw [gather_of_outcome houtcome, List.length_map] at hlength
  exact hlength

theorem results_of_outcome (hschedule : schedule.Perm batch.inOrder)
    (houtcome : (runScheduled settings moment disk batch schedule).outcome =
      .ok publications) :
    ∀ result ∈ (publishAll (batch.order settings moment) disk (schedule.map Prod.fst)).2,
      ∃ publication, result = .ok publication := by
  intro result hresult
  have hlength : (publishAll (batch.order settings moment) disk
      (schedule.map Prod.fst)).2.length ≤ (schedule.map Prod.snd).length := by simp
  rw [← List.map_snd_zip hlength] at hresult
  obtain ⟨⟨position, value⟩, hmem, rfl⟩ := List.mem_map.mp hresult
  obtain ⟨publication, -, hvalue⟩ :=
    Option.map_eq_some_iff.mp (result_of_outcome hschedule houtcome hmem)
  exact ⟨publication, hvalue.symm⟩

theorem publish_of_outcome (hschedule : schedule.Perm batch.inOrder)
    (houtcome : (runScheduled settings moment disk batch schedule).outcome =
      .ok publications) {source : Path} {position : Nat}
    (hsplit : schedule = front ++ (source, position) :: back)
    {publication : Publication} (hposition : publications[position]? = some publication) :
    (publish (batch.order settings moment)
      (publishAll (batch.order settings moment) disk (front.map Prod.fst)).1 source).2 =
        .ok publication := by
  let order := batch.order settings moment
  let before := (publishAll order disk (front.map Prod.fst)).1
  have hmem : (position, (publish order before source).2) ∈
      (schedule.map Prod.snd).zip (publishAll order disk (schedule.map Prod.fst)).2 := by
    rw [hsplit, List.map_append, List.map_append, publishAll_append,
      List.zip_append (by simp)]
    apply List.mem_append_right
    exact List.mem_cons_self
  have hresult := result_of_outcome hschedule houtcome hmem
  rw [hposition] at hresult
  exact (Option.some.inj hresult).symm

/-- A batch that succeeds keeps the document of every source that no other in it is
published over, whatever the order of its work. -/
theorem kept_of_outcome (hschedule : schedule.Perm batch.inOrder)
    (houtcome : (runScheduled settings moment disk batch schedule).outcome =
      .ok publications) :
    publications.length = batch.sources.length ∧
      ∀ (position : Nat) (source : Path) (publication : Publication),
        batch.sources[position]? = some source →
        publications[position]? = some publication →
        Unshared (batch.order settings moment) disk.cwd batch.sources source →
        Kept (batch.order settings moment) disk
          (runScheduled settings moment disk batch schedule).disk source publication := by
  refine ⟨length_of_outcome hschedule houtcome, ?_⟩
  intro position source publication hsource hpublication hunshared
  have hperm : (schedule.map Prod.fst).Perm batch.sources := by
    simpa [inOrder] using hschedule.map Prod.fst
  have hmem : (source, position) ∈ schedule :=
    hschedule.mem_iff.mpr (List.mem_zipIdx_iff_getElem?.mpr hsource)
  obtain ⟨front, back, hsplit⟩ := List.append_of_mem hmem
  have harranged : schedule.map Prod.fst =
      front.map Prod.fst ++ source :: back.map Prod.fst := by
    rw [hsplit, List.map_append, List.map_cons]
  have hpublish := publish_of_outcome hschedule houtcome hsplit hpublication
  have hresults := results_of_outcome hschedule houtcome
  rw [disk_runScheduled]
  exact kept_of_publishAll (hunshared.of_perm hperm) hresults harranged hpublish

end Schedule

/-- A source, its old document, and a source that has nothing to do with them, twice. -/
def chain : Batch where
  base := Sample.path "."
  files := ["a.js".toList, "a.js.md".toList, "c.py".toList, "c.py".toList]

def chainReport : Report :=
  run Sample.order.settings Sample.order.moment Sample.disk chain

def chainOutcome : List Publication :=
  [⟨Sample.path "a.js", Sample.path "a.js.md", 115⟩,
    ⟨Sample.path "a.js.md", Sample.path "a.js.md.md", 242⟩,
    ⟨Sample.path "c.py", Sample.path "c.py.md", 126⟩,
    ⟨Sample.path "c.py", Sample.path "c.py.md", 126⟩]

theorem outcome_chainReport : chainReport.outcome = .ok chainOutcome := by
  decide +kernel

theorem kept_sample :
    Unshared Sample.order Sample.disk.cwd chain.sources (Sample.path "c.py") ∧
      Kept Sample.order Sample.disk chainReport.disk (Sample.path "c.py")
        ⟨Sample.path "c.py", Sample.path "c.py.md", 126⟩ := by
  have hunshared :
      Unshared Sample.order Sample.disk.cwd chain.sources (Sample.path "c.py") := by
    decide
  have hkept := @kept_of_outcome Sample.order.settings Sample.order.moment Sample.disk
    chain chain.inOrder chainOutcome (List.Perm.refl _) outcome_chainReport
  exact ⟨hunshared, hkept.2 2 _ _ rfl rfl hunshared⟩

/-- The old document is documented as the first source has left it. -/
theorem not_kept_chain :
    chainReport.outcome = .ok chainOutcome ∧
      chain.sources[1]? = some (Sample.path "a.js.md") ∧
      ∃ publication, chainOutcome[1]? = some publication ∧
        ¬ Kept Sample.order Sample.disk chainReport.disk (Sample.path "a.js.md")
          publication := by
  refine ⟨outcome_chainReport, rfl, _, rfl, ?_⟩
  rintro ⟨-, -, content, lines, hcontent, hdocument, -, hsize⟩
  cases hcontent
  cases hdocument
  exact absurd hsize (by decide +kernel)

end Weave.Batch
