import Weave.Proofs.Command.Reporting
import Weave.Proofs.Path.Relative

namespace Weave

/-- At its turn a document is put where its path leads, in its whole size. -/
theorem Publication.placed_of_publish {order : Order} {disk final : Disk} {source : Path}
    {publication : Publication}
    (hpublish : publish order disk source = (final, .ok publication)) :
    (∃ draft, publication.output.draft = .ok draft) ∧
      ∃ content : Bytes, content.length = publication.size ∧
        final.tree.get? (publication.output.location disk.cwd) = some (.file content) := by
  obtain ⟨output, draft, location, hnames, -, hcommit⟩ := commit_of_publish_ok hpublish
  obtain ⟨-, hdraft⟩ := Order.names_iff.mp hnames
  obtain ⟨place, lines, -, -, -, hfree, rfl, rfl⟩ := commit_ok hdraft hcommit
  have htarget : output.location disk.cwd ≠ [] := by
    intro htop
    exact hfree (htop ▸ rfl)
  refine ⟨⟨draft, hdraft⟩, _, rfl, ?_⟩
  rw [Disk.insert, Tree.get?_insert _ htarget, if_pos rfl]

/-- A record that a document is finished. -/
def Event.isFinished : Event → Bool
  | .finished _ _ => true
  | _ => false

namespace Batch

/-- The records of a log that tell which documents are finished. -/
def Report.finishedRecords (report : Report) : List Text :=
  (report.events.filter Event.isFinished).map Event.message

variable {settings : Settings} {moment : Moment} {disk : Disk} {batch : Batch}
  {schedule : Schedule} {publications : List Publication}

theorem not_isFinished_announcement (order : Order) (sources : List Path) :
    (sources.filterMap (announcement order)).filter Event.isFinished = [] := by
  rw [List.filter_eq_nil_iff]
  intro event hevent
  obtain ⟨source, -, hannounced⟩ := List.mem_filterMap.mp hevent
  simp only [announcement] at hannounced
  split at hannounced
  · cases hannounced
  · cases hannounced
    simp [Event.isFinished]

/-- A batch that succeeds records each publication, in the order of the sources. -/
theorem finishedRecords_of_outcome
    (houtcome : (runScheduled settings moment disk batch schedule).outcome =
      .ok publications) :
    (runScheduled settings moment disk batch schedule).finishedRecords =
      publications.map fun publication => (batch.completion disk publication).message := by
  have hcollect := collect_of_outcome _ _ _ _ _ _ houtcome
  have hfinished : (publications.map (batch.completion disk)).filter Event.isFinished =
      publications.map (batch.completion disk) := by
    apply List.filter_eq_self.mpr
    intro event hevent
    obtain ⟨publication, -, rfl⟩ := List.mem_map.mp hevent
    rfl
  simp only [Report.finishedRecords, runScheduled, conclude, hcollect] at houtcome ⊢
  split
  · next hlost => simp [hlost] at houtcome
  · rw [List.cons_append, List.filter_cons_of_neg (by simp [Event.isFinished]),
      List.filter_append, not_isFinished_announcement, hfinished, List.nil_append,
      List.map_map]
    rfl

/-- The disks before and after the turn of a source, in a batch that succeeds. -/
theorem publish_at_turn (hschedule : schedule.Perm batch.inOrder)
    (houtcome : (runScheduled settings moment disk batch schedule).outcome =
      .ok publications) {position : Nat} {source : Path} {publication : Publication}
    (hsource : batch.sources[position]? = some source)
    (hpublication : publications[position]? = some publication) :
    ∃ front back, schedule = front ++ (source, position) :: back ∧
      publish (batch.order settings moment)
        (publishAll (batch.order settings moment) disk (front.map Prod.fst)).1 source =
          ((publishAll (batch.order settings moment) disk
            (front.map Prod.fst ++ [source])).1, .ok publication) := by
  have hmem : (source, position) ∈ schedule :=
    hschedule.mem_iff.mpr (List.mem_zipIdx_iff_getElem?.mpr hsource)
  obtain ⟨front, back, hsplit⟩ := List.append_of_mem hmem
  refine ⟨front, back, hsplit, Prod.ext ?_ ?_⟩
  · rw [publishAll_append, publishAll_cons, publishAll_nil]
  · exact publish_of_outcome hschedule houtcome hsplit hpublication

end Batch

namespace Command

/-- The lines of a run that tell which documents are written. -/
def Outcome.writtenLines (time : Text) (outcome : Outcome) : List Text :=
  (outcome.notices.filter Notice.isWrote).map (Notice.text time)

/-- The report of the batch that a request asks for. -/
def batchReport (settings : Settings) (moment : Moment) (disk : Disk) (files : List Text)
    (options : Options) (schedule : Batch.Schedule) : Batch.Report :=
  (batch settings disk files options (outputDirectory disk options)).runScheduled settings
    moment disk schedule

/-- What is told of a file: its document, which is there in its whole size once the file
has had its turn, and a path that leads to it from the current directory. -/
structure Traced (settings : Settings) (moment : Moment) (disk : Disk) (options : Options)
    (schedule : Batch.Schedule) (position : Nat) (source : Path)
    (publication : Publication) (path : Text) : Prop where
  output : (order settings moment disk options).output source = .ok publication.output
  written : ∃ (front back : Batch.Schedule) (content : Bytes),
    schedule = front ++ (source, position) :: back ∧ content.length = publication.size ∧
      (Batch.publishAll (order settings moment disk options) disk
        (front.map Prod.fst ++ [source])).1.tree.get?
          (publication.output.location disk.cwd) = some (.file content)
  leads : ((workingDirectory disk).join path).location disk.cwd =
    publication.output.location disk.cwd

section Traced

variable {settings : Settings} {moment : Moment} {disk : Disk} {files : List Text}
  {options : Options}

theorem normal_outputDirectory (hcwd : (workingDirectory disk).Normal) {directory : Path}
    (hdirectory : outputDirectory disk options = some directory) : directory.Normal := by
  simp only [outputDirectory] at hdirectory
  split at hdirectory
  · cases hdirectory
  · cases hdirectory
    exact hcwd.join _

theorem traced_of_outcome (hcwd : (workingDirectory disk).Normal)
    {schedule : Batch.Schedule} (hschedule : schedule.Perm (sources disk files).zipIdx)
    {publications : List Publication}
    (houtcome : (batchReport settings moment disk files options schedule).outcome =
      .ok publications) {position : Nat} {file : Text} {publication : Publication}
    (hfile : files[position]? = some file)
    (hpublication : publications[position]? = some publication) :
    Traced settings moment disk options schedule position ((workingDirectory disk).join file)
      publication
      (Path.relativeText disk.cwd (workingDirectory disk) publication.output) := by
  have hsource : (batch settings disk files options
      (outputDirectory disk options)).sources[position]? =
        some ((workingDirectory disk).join file) := by
    simp [Batch.sources, batch, hfile]
  obtain ⟨front, back, hsplit, hpublish⟩ :=
    Batch.publish_at_turn hschedule houtcome hsource hpublication
  rw [order_batch] at hpublish
  have houtput := (Publication.source_and_output (congrArg Prod.snd hpublish)).2
  obtain ⟨⟨draft, hdraft⟩, content, hsize, hplaced⟩ :=
    Publication.placed_of_publish hpublish
  rw [(Batch.publishAll_sameBut _ disk _).cwd] at hplaced
  have hnormal : publication.output.Normal :=
    (hcwd.join file).output (fun _ => normal_outputDirectory hcwd) houtput hdraft
  have hroot : publication.output.root ≠ .relative :=
    Path.root_output_ne (root_join_workingDirectory disk file)
      (fun _ => root_outputDirectory) houtput
  exact ⟨houtput, ⟨front, back, content, hsplit, hsize, hplaced⟩,
    Path.location_join_relativeText disk.cwd (workingDirectory disk) hroot hnormal⟩

theorem filter_isWrote (events : List Event) (publications : List Publication) :
    (events.map Notice.logged ++ publications.map (wrote disk)).filter Notice.isWrote =
      publications.map (wrote disk) := by
  rw [List.filter_append, List.filter_eq_nil_iff.mpr (by simp [Notice.isWrote]),
    List.filter_eq_self.mpr (by simp [wrote, Notice.isWrote]), List.nil_append]

theorem writtenLines_of_exit_zero (hstdout : options.stdout = false)
    {schedule : Batch.Schedule} (time : Text)
    (hverdict : (runScheduled settings moment disk files options schedule).verdict =
      .exit 0) :
    ∃ publications,
      (batchReport settings moment disk files options schedule).outcome =
        .ok publications ∧
      (runScheduled settings moment disk files options schedule).writtenLines time =
        publications.map fun publication => (wrote disk publication).text time := by
  rcases runScheduled_cases settings moment disk files options schedule with
    ⟨fault, -, hrun⟩ | ⟨-, -, message, hrun⟩ | ⟨-, hprinting, -⟩ | ⟨-, -, hrun⟩
  · simp [hrun] at hverdict
  · simp [hrun, Outcome.fail] at hverdict
  · simp [hstdout] at hprinting
  · change _ = reported options disk
      (batchReport settings moment disk files options schedule) at hrun
    rw [hrun] at hverdict ⊢
    obtain ⟨events, ⟨fault, -, hreported⟩ | ⟨publications, houtcome, hreported⟩⟩ :=
      reported_cases options disk (batchReport settings moment disk files options schedule)
    · rw [hreported] at hverdict
      exact absurd hverdict (verdict_ofFault_ne _ _ _ _)
    · refine ⟨publications, houtcome, ?_⟩
      rw [hreported, Outcome.writtenLines, filter_isWrote, List.map_map]
      rfl

end Traced

/-- A request that has written its documents has a line for each file in their order, and
so has its log. They tell of the same size and the same path, and the path leads from the
current directory to where the document was put. -/
theorem wrote_traced {arguments files : List Text} {options : Options}
    (hrequest : Request.ofArguments arguments = .ok (.weave files options))
    (hstdout : options.stdout = false) {disk : Disk}
    (hcwd : (workingDirectory disk).Normal) (settings : Settings) (moment : Moment)
    (time : Text) :
    run settings moment disk arguments =
        runScheduled settings moment disk files options (sources disk files).zipIdx ∧
      ∀ schedule, schedule.Perm (sources disk files).zipIdx →
        (runScheduled settings moment disk files options schedule).verdict = .exit 0 →
        ∃ publications : List Publication,
          (batchReport settings moment disk files options schedule).outcome =
            .ok publications ∧
          publications.length = files.length ∧
          ((runScheduled settings moment disk files options schedule).writtenLines
            time).length = files.length ∧
          (batchReport settings moment disk files options
            schedule).finishedRecords.length = files.length ∧
          ∀ (position : Nat) (file : Text), files[position]? = some file →
            ∃ publication path, publications[position]? = some publication ∧
              ((runScheduled settings moment disk files options schedule).writtenLines
                time)[position]? =
                  some ("wrote ".toList ++ Text.decimal publication.size ++
                    " bytes to ".toList ++ path ++ ['\n']) ∧
              (batchReport settings moment disk files options
                schedule).finishedRecords[position]? =
                  some ("Finished ".toList ++ path ++ " (".toList ++
                    Text.decimal publication.size ++ " bytes)".toList) ∧
              Traced settings moment disk options schedule position
                ((workingDirectory disk).join file) publication path := by
  refine ⟨run_of_request hrequest settings moment disk, ?_⟩
  intro schedule hschedule hverdict
  obtain ⟨publications, houtcome, hlines⟩ := writtenLines_of_exit_zero hstdout time hverdict
  have hrecords : (batchReport settings moment disk files options
      schedule).finishedRecords = _ :=
    Batch.finishedRecords_of_outcome houtcome
  have hlength : publications.length = files.length := by
    rw [Batch.length_of_outcome hschedule houtcome]
    exact List.length_map _
  refine ⟨publications, houtcome, hlength, ?_, ?_, ?_⟩
  · rw [hlines, List.length_map, hlength]
  · rw [hrecords, List.length_map, hlength]
  · intro position file hfile
    have hposition : position < publications.length := by
      rw [hlength]
      exact (List.getElem?_eq_some_iff.mp hfile).1
    have hpublication := List.getElem?_eq_getElem hposition
    refine ⟨publications[position], _, hpublication, ?_, ?_,
      traced_of_outcome hcwd hschedule houtcome hfile hpublication⟩
    · rw [hlines, List.getElem?_map, hpublication]
      rfl
    · rw [hrecords, List.getElem?_map, hpublication]
      rfl

/-- One file is named through the parent of the top, one from a double root. -/
theorem wrote_traced_sample :
    (workingDirectory Sample.disk).Normal ∧
      ((sampleRun ["--jobs=2", "../c.py", "//a.js"]).writtenLines []).length = 2 ∧
      ∃ (publication : Publication) (path : Text),
        ((sampleRun ["--jobs=2", "../c.py", "//a.js"]).writtenLines [])[1]? =
          some ("wrote ".toList ++ Text.decimal publication.size ++ " bytes to ".toList ++
            path ++ ['\n']) ∧
        ((workingDirectory Sample.disk).join path).location Sample.disk.cwd =
          publication.output.location Sample.disk.cwd := by
  have hcwd : (workingDirectory Sample.disk).Normal := by
    rintro part ⟨⟩
  obtain ⟨hrun, htraced⟩ := @wrote_traced (words ["--jobs=2", "../c.py", "//a.js"])
    (words ["../c.py", "//a.js"]) { jobs := .made 2 } rfl rfl Sample.disk hcwd
    Sample.order.settings Sample.order.moment []
  obtain ⟨publications, -, -, hlength, -, hfiles⟩ :=
    htraced _ (List.Perm.refl _) (by decide +kernel)
  obtain ⟨publication, path, -, hline, -, hpath⟩ := hfiles 1 "//a.js".toList rfl
  rw [← hrun] at hlength hline
  exact ⟨hcwd, hlength, publication, path, hline, hpath.leads⟩

end Command

end Weave
