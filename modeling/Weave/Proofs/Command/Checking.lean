import Weave.Proofs.Batch.Keeping
import Weave.Proofs.Command.Printing

namespace Weave

theorem Disk.eq_of_check_error {disk : Disk} {kind : Entry → Bool} {path : Path}
    {fault : Disk.Fault} (hcheck : disk.check kind path = .error fault) :
    fault = .failed .nameTooLong path := by
  simp only [check] at hcheck
  split at hcheck
  · cases hcheck
  · split at hcheck
    · cases hcheck
    · exact (Except.error.inj hcheck).symm
    · cases hcheck

theorem Publication.source_and_output {order : Order} {disk : Disk} {source : Path}
    {publication : Publication} (hpublish : (publish order disk source).2 = .ok publication) :
    publication.source = source ∧ order.output source = .ok publication.output := by
  obtain ⟨output, draft, location, hnames, -, hcommit⟩ :=
    commit_of_publish_ok (Prod.ext rfl hpublish)
  obtain ⟨houtput, hdraft⟩ := Order.names_iff.mp hnames
  obtain ⟨place, lines, -, -, -, -, -, rfl⟩ := commit_ok hdraft hcommit
  exact ⟨rfl, houtput⟩

namespace Batch

variable {settings : Settings} {moment : Moment} {disk : Disk} {batch : Batch}
  {schedule : Schedule} {publications : List Publication}

theorem publication_of_outcome (hschedule : schedule.Perm batch.inOrder)
    (houtcome : (runScheduled settings moment disk batch schedule).outcome =
      .ok publications) {position : Nat} {source : Path} {publication : Publication}
    (hsource : batch.sources[position]? = some source)
    (hpublication : publications[position]? = some publication) :
    publication.source = source ∧
      (batch.order settings moment).output source = .ok publication.output := by
  have hmem : (source, position) ∈ schedule :=
    hschedule.mem_iff.mpr (List.mem_zipIdx_iff_getElem?.mpr hsource)
  obtain ⟨front, back, hsplit⟩ := List.append_of_mem hmem
  exact Publication.source_and_output
    (publish_of_outcome hschedule houtcome hsplit hpublication)

/-- A batch that succeeds has one publication for each source, in the order of the
sources. -/
theorem publications_of_outcome (hschedule : schedule.Perm batch.inOrder)
    (houtcome : (runScheduled settings moment disk batch schedule).outcome =
      .ok publications) :
    publications.map Publication.source = batch.sources ∧
      ∀ publication ∈ publications,
        (batch.order settings moment).output publication.source =
          .ok publication.output := by
  have hlength := length_of_outcome hschedule houtcome
  have hsource : ∀ (position : Nat) (publication : Publication),
      publications[position]? = some publication →
      ∃ source, batch.sources[position]? = some source := by
    intro position publication hpublication
    have hposition := (List.getElem?_eq_some_iff.mp hpublication).1
    rw [hlength] at hposition
    exact ⟨_, List.getElem?_eq_getElem hposition⟩
  constructor
  · apply List.ext_getElem?
    intro position
    rw [List.getElem?_map]
    cases hpublication : publications[position]? with
    | none =>
        have hbeyond := List.getElem?_eq_none_iff.mp hpublication
        rw [hlength] at hbeyond
        exact (List.getElem?_eq_none hbeyond).symm
    | some publication =>
        obtain ⟨source, hsource⟩ := hsource position publication hpublication
        have hnamed := publication_of_outcome hschedule houtcome hsource hpublication
        rw [hsource, Option.map_some, hnamed.1]
  · intro publication hmem
    obtain ⟨position, hpublication⟩ := List.mem_iff_getElem?.mp hmem
    obtain ⟨source, hsource⟩ := hsource position publication hpublication
    have hnamed := publication_of_outcome hschedule houtcome hsource hpublication
    rw [hnamed.1]
    exact hnamed.2

end Batch

namespace Command

/-! What is looked at before any work is done. -/

/-- There is a current directory, every named file is a file, and the directory for the
documents is one, if any are to be written. -/
structure Checked (disk : Disk) (files : List Text) (options : Options) : Prop where
  standing : disk.hasCurrentDirectory = true
  present : ∀ path ∈ sources disk files, disk.isFile path = .ok true
  directory : options.stdout = false → ∀ directory ∈ outputDirectory disk options,
    disk.isDirectory directory = .ok true

instance (disk : Disk) (files : List Text) (options : Options) :
    Decidable (Checked disk files options) :=
  decidable_of_iff
    (disk.hasCurrentDirectory = true ∧
      (∀ path ∈ sources disk files, disk.isFile path = .ok true) ∧
      (options.stdout = false → ∀ directory ∈ outputDirectory disk options,
        disk.isDirectory directory = .ok true))
    ⟨fun ⟨standing, present, directory⟩ => ⟨standing, present, directory⟩,
      fun checked => ⟨checked.standing, checked.present, checked.directory⟩⟩

/-- What may keep the files from being looked for. -/
inductive Unsearched (disk : Disk) (files : List Text) : Disk.Fault → Prop
  | noCurrentDirectory (hcwd : disk.hasCurrentDirectory = false) :
      Unsearched disk files .noCurrentDirectory
  | stopped {fault : Disk.Fault} (hcwd : disk.hasCurrentDirectory = true)
      (habsent : firstAbsent disk (sources disk files) = .error fault) :
      Unsearched disk files fault

/-- The files can be looked for: there is a current directory, and no name that is too
long comes before the first file that is missing. -/
structure Checkable (disk : Disk) (files : List Text) : Prop where
  standing : disk.hasCurrentDirectory = true
  searched : ∀ fault, firstAbsent disk (sources disk files) ≠ .error fault

theorem Unsearched.not_checkable {disk : Disk} {files : List Text} {fault : Disk.Fault}
    (hunsearched : Unsearched disk files fault) : ¬ Checkable disk files := by
  rintro ⟨hstanding, hsearched⟩
  cases hunsearched with
  | noCurrentDirectory hcwd => simp [hcwd] at hstanding
  | stopped _ habsent => exact hsearched fault habsent

theorem Checked.checkable {disk : Disk} {files : List Text} {options : Options}
    (hchecked : Checked disk files options) : Checkable disk files where
  standing := hchecked.standing
  searched := by
    rw [firstAbsent_eq_none_iff.mpr hchecked.present]
    simp

theorem ofFault_reported {disk : Disk} {stdout : Text} {notices : List Notice}
    {fault : Fault} (hfault : fault.isReported = true) :
    Outcome.ofFault disk stdout notices fault =
      .fail disk stdout notices fault.message := by
  simp [Outcome.ofFault, hfault]

theorem runChecked_cases (settings : Settings) (moment : Moment) (disk : Disk)
    (files : List Text) (options : Options) :
    ((∃ directory ∈ outputDirectory disk options,
        disk.isDirectory directory ≠ .ok true) ∧
      ∃ message, runChecked settings moment disk files options =
        .fail disk [] [] message) ∨
    ((∀ directory ∈ outputDirectory disk options,
        disk.isDirectory directory = .ok true) ∧
      runChecked settings moment disk files options =
        runWriting settings moment disk files options (outputDirectory disk options)) := by
  simp only [runChecked]
  cases hdirectory : outputDirectory disk options with
  | none => simp
  | some directory =>
      simp only [Option.mem_some_iff, forall_eq', exists_eq_left']
      cases hfound : disk.isDirectory directory with
      | error fault =>
          left
          have hreported : (Fault.disk fault).isReported = true := by
            rw [Disk.eq_of_check_error hfound]
            rfl
          exact ⟨by simp, _, ofFault_reported hreported⟩
      | ok found =>
          cases found with
          | false => exact .inl ⟨by simp, _, rfl⟩
          | true => exact .inr ⟨rfl, rfl⟩

/-- The four ways a request can go: the checks cannot be made, they fail, the documents
are printed, or they are written. -/
theorem runFiles_cases (settings : Settings) (moment : Moment) (disk : Disk)
    (files : List Text) (options : Options) :
    (∃ fault, Unsearched disk files fault ∧
      runFiles settings moment disk files options =
        ⟨disk, [], [], .escaped (.disk fault)⟩) ∨
    (Checkable disk files ∧ ¬ Checked disk files options ∧
      ∃ message, runFiles settings moment disk files options =
        .fail disk [] [] message) ∨
    (Checked disk files options ∧ options.stdout = true ∧
      runFiles settings moment disk files options =
        runPrinting settings moment disk (sources disk files) options) ∨
    (Checked disk files options ∧ options.stdout = false ∧
      runFiles settings moment disk files options =
        runWriting settings moment disk files options (outputDirectory disk options)) := by
  have hpaths : files.map (workingDirectory disk).join = sources disk files := rfl
  simp only [runFiles, hpaths]
  cases hcwd : disk.hasCurrentDirectory with
  | false =>
      left
      exact ⟨_, .noCurrentDirectory hcwd, by simp⟩
  | true =>
      cases habsent : firstAbsent disk (sources disk files) with
      | error fault =>
          left
          exact ⟨fault, .stopped hcwd habsent, by simp⟩
      | ok absent =>
          right
          have hcheckable : Checkable disk files := ⟨hcwd, by simp [habsent]⟩
          cases absent with
          | some path =>
              left
              refine ⟨hcheckable, ?_, _, by simp; rfl⟩
              intro hchecked
              simp [firstAbsent_eq_none_iff.mpr hchecked.present] at habsent
          | none =>
              have hpresent := firstAbsent_eq_none_iff.mp habsent
              cases hstdout : options.stdout with
              | true =>
                  exact .inr (.inl ⟨⟨hcwd, hpresent, by simp [hstdout]⟩, by simp⟩)
              | false =>
                  rcases runChecked_cases settings moment disk files options with
                    ⟨⟨directory, hmem, hbad⟩, message, hfail⟩ | ⟨hdirectory, hwriting⟩
                  · refine .inl ⟨hcheckable, ?_, message, by simpa using hfail⟩
                    intro hchecked
                    exact hbad (hchecked.directory hstdout directory hmem)
                  · exact .inr (.inr ⟨⟨hcwd, hpresent, fun _ => hdirectory⟩, rfl,
                      by simpa using hwriting⟩)

/-! What the command says of a batch, whatever the order of the work. -/

def reported (options : Options) (disk : Disk) (report : Batch.Report) : Outcome :=
  let log := if options.verbose then report.events.map .logged else []
  match report.outcome with
  | .error fault => .ofFault report.disk [] log fault
  | .ok publications =>
      ⟨report.disk, [], log ++ publications.map (wrote disk), .exit 0⟩

theorem runWriting_eq_reported (settings : Settings) (moment : Moment) (disk : Disk)
    (files : List Text) (options : Options) (directory : Option Path) :
    runWriting settings moment disk files options directory =
      reported options disk
        ((batch settings disk files options directory).run settings moment disk) := rfl

/-- The outcome of a request whose workers, if it has any, take the files by a
schedule. -/
def runScheduled (settings : Settings) (moment : Moment) (disk : Disk)
    (files : List Text) (options : Options) (schedule : Batch.Schedule) : Outcome :=
  if Checked disk files options ∧ options.stdout = false then
    reported options disk
      ((batch settings disk files options (outputDirectory disk options)).runScheduled
        settings moment disk schedule)
  else runFiles settings moment disk files options

theorem runScheduled_inOrder (settings : Settings) (moment : Moment) (disk : Disk)
    (files : List Text) (options : Options) :
    runScheduled settings moment disk files options (sources disk files).zipIdx =
      runFiles settings moment disk files options := by
  simp only [runScheduled]
  split
  · next hwriting =>
      rcases runFiles_cases settings moment disk files options with
        ⟨fault, hunsearched, -⟩ | ⟨-, hnot, -⟩ | ⟨-, hstdout, -⟩ | ⟨-, -, hrun⟩
      · exact absurd hwriting.1.checkable hunsearched.not_checkable
      · exact absurd hwriting.1 hnot
      · simp [hwriting.2] at hstdout
      · rw [hrun, runWriting_eq_reported]
        rfl
  · rfl

/-- The same four ways, the documents being written by a schedule. -/
theorem runScheduled_cases (settings : Settings) (moment : Moment) (disk : Disk)
    (files : List Text) (options : Options) (schedule : Batch.Schedule) :
    (∃ fault, Unsearched disk files fault ∧
      runScheduled settings moment disk files options schedule =
        ⟨disk, [], [], .escaped (.disk fault)⟩) ∨
    (Checkable disk files ∧ ¬ Checked disk files options ∧
      ∃ message, runScheduled settings moment disk files options schedule =
        .fail disk [] [] message) ∨
    (Checked disk files options ∧ options.stdout = true ∧
      runScheduled settings moment disk files options schedule =
        runPrinting settings moment disk (sources disk files) options) ∨
    (Checked disk files options ∧ options.stdout = false ∧
      runScheduled settings moment disk files options schedule =
        reported options disk
          ((batch settings disk files options (outputDirectory disk options)).runScheduled
            settings moment disk schedule)) := by
  simp only [runScheduled]
  split
  · next hwriting => exact .inr (.inr (.inr ⟨hwriting.1, hwriting.2, rfl⟩))
  · next hdirect =>
      rcases runFiles_cases settings moment disk files options with
        hunsearched | hrefused | hprinted | ⟨hchecked, hstdout, -⟩
      · exact .inl hunsearched
      · exact .inr (.inl hrefused)
      · exact .inr (.inr (.inl hprinted))
      · exact absurd ⟨hchecked, hstdout⟩ hdirect

theorem reported_cases (options : Options) (disk : Disk) (report : Batch.Report) :
    ∃ events : List Event,
      (∃ fault, report.outcome = .error fault ∧
        reported options disk report =
          .ofFault report.disk [] (events.map .logged) fault) ∨
      (∃ publications, report.outcome = .ok publications ∧
        reported options disk report =
          ⟨report.disk, [], events.map .logged ++ publications.map (wrote disk),
            .exit 0⟩) := by
  refine ⟨if options.verbose then report.events else [], ?_⟩
  have hlog : (if options.verbose then report.events else []).map Notice.logged =
      if options.verbose then report.events.map .logged else [] := by
    split <;> rfl
  simp only [reported, hlog]
  cases report.outcome with
  | error fault => exact .inl ⟨fault, rfl, rfl⟩
  | ok publications => exact .inr ⟨publications, rfl, rfl⟩

/-! Checks come before writing, and documents and messages go separate ways. -/

/-- A notice that a document has been written. -/
def Notice.isWrote : Notice → Bool
  | .wrote _ _ => true
  | _ => false

@[simp] theorem disk_ofFault (disk : Disk) (stdout : Text) (notices : List Notice)
    (fault : Fault) : (Outcome.ofFault disk stdout notices fault).disk = disk := by
  simp only [Outcome.ofFault]
  split <;> rfl

@[simp] theorem stdout_ofFault (disk : Disk) (stdout : Text) (notices : List Notice)
    (fault : Fault) : (Outcome.ofFault disk stdout notices fault).stdout = stdout := by
  simp only [Outcome.ofFault]
  split <;> rfl

theorem not_wrote_ofFault {disk : Disk} {stdout : Text} {notices : List Notice}
    (hnotices : ∀ notice ∈ notices, notice.isWrote = false) (fault : Fault) :
    ∀ notice ∈ (Outcome.ofFault disk stdout notices fault).notices,
      notice.isWrote = false := by
  simp only [Outcome.ofFault]
  split
  · simp only [Outcome.fail, List.forall_mem_append, List.forall_mem_singleton]
    exact ⟨hnotices, rfl⟩
  · exact hnotices

theorem runPrinting_quiet (settings : Settings) (moment : Moment) (disk : Disk)
    (paths : List Path) (options : Options) :
    (runPrinting settings moment disk paths options).disk = disk ∧
      ∀ notice ∈ (runPrinting settings moment disk paths options).notices,
        notice.isWrote = false := by
  simp only [runPrinting]
  split
  · simp
  · exact ⟨disk_ofFault _ _ _ _, not_wrote_ofFault (by simp) _⟩

/-- Some named file is no file, or documents are to be written and their directory is no
directory. -/
def Unfit (disk : Disk) (files : List Text) (options : Options) : Prop :=
  (∃ path ∈ sources disk files, disk.isFile path ≠ .ok true) ∨
    options.stdout = false ∧ ∃ directory ∈ outputDirectory disk options,
      disk.isDirectory directory ≠ .ok true

theorem Checked.not_unfit {disk : Disk} {files : List Text} {options : Options}
    (hchecked : Checked disk files options) : ¬ Unfit disk files options := by
  rintro (⟨path, hmem, hbad⟩ | ⟨hstdout, directory, hmem, hbad⟩)
  · exact hbad (hchecked.present path hmem)
  · exact hbad (hchecked.directory hstdout directory hmem)

/-- A request that is unfit changes nothing, and fails as it should if the checks can be
made. Documents go to the standard output or to the disk, never to both. What has been
written is told only if all has been, once for each file and in the order of the files. -/
structure Orderly (settings : Settings) (moment : Moment) (disk : Disk)
    (files : List Text) (options : Options) (outcome : Outcome) : Prop where
  refused : Unfit disk files options → outcome.disk = disk ∧ outcome.stdout = [] ∧
    (outcome.verdict = .exit 1 ↔ Checkable disk files)
  printed : options.stdout = true → outcome.disk = disk ∧
    ∀ notice ∈ outcome.notices, notice.isWrote = false
  written : options.stdout = false → outcome.stdout = []
  failed : outcome.verdict ≠ .exit 0 → ∀ notice ∈ outcome.notices, notice.isWrote = false
  succeeded : options.stdout = false → outcome.verdict = .exit 0 →
    ∃ (events : List Event) (publications : List Publication),
      outcome.notices = events.map .logged ++ publications.map (wrote disk) ∧
      publications.map Publication.source = sources disk files ∧
      ∀ publication ∈ publications,
        (order settings moment disk options).output publication.source =
          .ok publication.output

section Orderly

variable {settings : Settings} {moment : Moment} {disk : Disk} {files : List Text}
  {options : Options}

theorem orderly_unsearched {fault : Disk.Fault}
    (hunsearched : Unsearched disk files fault) :
    Orderly settings moment disk files options
      ⟨disk, [], [], .escaped (.disk fault)⟩ where
  refused _ := ⟨rfl, rfl, by simp [hunsearched.not_checkable]⟩
  printed _ := by simp
  written _ := rfl
  failed _ := by simp
  succeeded _ hverdict := by cases hverdict

theorem orderly_refused (hcheckable : Checkable disk files) (message : Text) :
    Orderly settings moment disk files options (.fail disk [] [] message) where
  refused _ := ⟨rfl, rfl, by simp [Outcome.fail, hcheckable]⟩
  printed _ := by simp [Outcome.fail, Notice.isWrote]
  written _ := rfl
  failed _ := by simp [Outcome.fail, Notice.isWrote]
  succeeded _ hverdict := by cases hverdict

theorem orderly_runPrinting (hchecked : Checked disk files options)
    (hstdout : options.stdout = true) :
    Orderly settings moment disk files options
      (runPrinting settings moment disk (sources disk files) options) where
  refused hunfit := absurd hunfit hchecked.not_unfit
  printed _ := runPrinting_quiet _ _ _ _ _
  written hwriting := by simp [hstdout] at hwriting
  failed _ := (runPrinting_quiet _ _ _ _ _).2
  succeeded hwriting := by simp [hstdout] at hwriting

theorem orderly_reported (hchecked : Checked disk files options)
    (hstdout : options.stdout = false) {schedule : Batch.Schedule}
    (hschedule : schedule.Perm (sources disk files).zipIdx) :
    Orderly settings moment disk files options
      (reported options disk
        ((batch settings disk files options (outputDirectory disk options)).runScheduled
          settings moment disk schedule)) := by
  have hlogged : ∀ events : List Event, ∀ notice ∈ events.map Notice.logged,
      notice.isWrote = false := by
    simp [Notice.isWrote]
  obtain ⟨events, ⟨fault, -, hreported⟩ | ⟨publications, houtcome, hreported⟩⟩ :=
    reported_cases options disk
      ((batch settings disk files options (outputDirectory disk options)).runScheduled
        settings moment disk schedule)
  · rw [hreported]
    refine ⟨fun hunfit => absurd hunfit hchecked.not_unfit, by simp [hstdout], ?_, ?_, ?_⟩
    · exact fun _ => stdout_ofFault _ _ _ _
    · exact fun _ => not_wrote_ofFault (hlogged events) fault
    · exact fun _ hverdict => absurd hverdict (verdict_ofFault_ne _ _ _ _)
  · rw [hreported]
    refine ⟨fun hunfit => absurd hunfit hchecked.not_unfit, by simp [hstdout],
      fun _ => rfl, by simp, fun _ _ => ⟨events, publications, rfl, ?_⟩⟩
    have hpublished := Batch.publications_of_outcome hschedule houtcome
    rwa [order_batch] at hpublished

end Orderly

theorem run_of_request {arguments files : List Text} {options : Options}
    (hrequest : Request.ofArguments arguments = .ok (.weave files options))
    (settings : Settings) (moment : Moment) (disk : Disk) :
    run settings moment disk arguments =
      runScheduled settings moment disk files options (sources disk files).zipIdx := by
  rw [runScheduled_inOrder, run, hrequest]

/-- Every request is checked before it is carried out and keeps its channels apart,
whatever the order of its work. -/
theorem run_orderly {arguments files : List Text} {options : Options}
    (hrequest : Request.ofArguments arguments = .ok (.weave files options))
    (settings : Settings) (moment : Moment) (disk : Disk) :
    run settings moment disk arguments =
        runScheduled settings moment disk files options (sources disk files).zipIdx ∧
      ∀ schedule, schedule.Perm (sources disk files).zipIdx →
        Orderly settings moment disk files options
          (runScheduled settings moment disk files options schedule) := by
  refine ⟨run_of_request hrequest settings moment disk, fun schedule hschedule => ?_⟩
  rcases runScheduled_cases settings moment disk files options schedule with
    ⟨fault, hunsearched, hrun⟩ | ⟨hcheckable, -, message, hrun⟩ |
    ⟨hchecked, hstdout, hrun⟩ | ⟨hchecked, hstdout, hrun⟩
  · rw [hrun]
    exact orderly_unsearched hunsearched
  · rw [hrun]
    exact orderly_refused hcheckable message
  · rw [hrun]
    exact orderly_runPrinting hchecked hstdout
  · rw [hrun]
    exact orderly_reported hchecked hstdout hschedule

/-- One file is missing between two that are there; and two files are documented by two
workers. -/
theorem run_orderly_sample :
    Unfit Sample.disk (words ["c.py", "lost.js", "a.js"]) {} ∧
      ((sampleRun ["c.py", "lost.js", "a.js"]).disk = Sample.disk ∧
        (sampleRun ["c.py", "lost.js", "a.js"]).stdout = [] ∧
        (sampleRun ["c.py", "lost.js", "a.js"]).verdict = .exit 1) ∧
      ∃ (events : List Event) (publications : List Publication),
        (sampleRun ["--jobs=2", "c.py", "a.js"]).notices =
          events.map .logged ++ publications.map (wrote Sample.disk) ∧
        publications.map Publication.source = [samplePath "c.py", samplePath "a.js"] := by
  have hunfit : Unfit Sample.disk (words ["c.py", "lost.js", "a.js"]) {} :=
    .inl ⟨samplePath "lost.js", by decide, by decide⟩
  obtain ⟨hrefusal, hrefused⟩ := @run_orderly (words ["c.py", "lost.js", "a.js"])
    (words ["c.py", "lost.js", "a.js"]) {} rfl Sample.order.settings Sample.order.moment
    Sample.disk
  obtain ⟨hwriting, hwritten⟩ := @run_orderly (words ["--jobs=2", "c.py", "a.js"])
    (words ["c.py", "a.js"]) { jobs := .made 2 } rfl Sample.order.settings
    Sample.order.moment Sample.disk
  refine ⟨hunfit, ?_, ?_⟩
  · obtain ⟨hdisk, hstdout, hverdict⟩ := (hrefused _ (List.Perm.refl _)).refused hunfit
    simp only [sampleRun, hrefusal]
    exact ⟨hdisk, hstdout, hverdict.mpr ⟨rfl, by rintro fault ⟨⟩⟩⟩
  · simp only [sampleRun, hwriting]
    obtain ⟨events, publications, hnotices, hsources, -⟩ :=
      (hwritten _ (List.Perm.refl _)).succeeded rfl (by decide +kernel)
    exact ⟨events, publications, hnotices, hsources⟩

/-- One byte longer than a name may be. -/
def longName : Text := List.replicate 256 'x'

/-- A name that is too long cannot even be looked for, and that goes unreported. -/
theorem unfit_escaped :
    Request.ofArguments ["a.js".toList, longName] =
        .ok (.weave ["a.js".toList, longName] {}) ∧
      Unfit Sample.disk ["a.js".toList, longName] {} ∧
      (run Sample.order.settings Sample.order.moment Sample.disk
        ["a.js".toList, longName]).verdict =
          .escaped (.disk (.failed .nameTooLong ⟨.single, [longName]⟩)) := by
  refine ⟨by decide +kernel, .inl ⟨⟨.single, [longName]⟩, ?_, ?_⟩, ?_⟩
  · decide +kernel
  · decide +kernel
  · decide +kernel

end Command

end Weave
