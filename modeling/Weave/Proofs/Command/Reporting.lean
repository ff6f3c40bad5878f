import Weave.Proofs.Command.Checking
import Weave.Proofs.Publication.Faults

namespace Weave

namespace Disk

theorem hasNull_of_check {disk : Disk} {kind : Entry → Bool} {path : Path}
    (hcheck : disk.check kind path = .ok true) : hasNull path = false := by
  cases hnull : hasNull path with
  | false => rfl
  | true => simp [check, hnull] at hcheck

/-- The top of the tree is no file. -/
theorem parts_ne_nil_of_isFile {disk : Disk} {path : Path} (hroot : path.root ≠ .relative)
    (hfile : disk.isFile path = .ok true) : path.parts ≠ [] := by
  obtain ⟨location, hopen⟩ := openFile_of_isFile hfile
  obtain ⟨hlocation, hcontent⟩ := file_of_openFile hopen
  intro hparts
  rw [hlocation, Path.location, Path.start, if_neg hroot, hparts] at hcontent
  cases hcontent

end Disk

namespace Batch

theorem mem_of_collect_error {results : List (Except Fault Publication)} {fault : Fault}
    (hcollect : collect results = .error fault) : .error fault ∈ results := by
  fun_induction collect results with
  | case1 => cases hcollect
  | case2 other rest =>
      cases hcollect
      exact List.mem_cons_self
  | case3 publication rest other hrest ih =>
      cases hcollect
      exact List.mem_cons_of_mem _ (ih hrest)
  | case4 => cases hcollect

theorem mem_of_mem_gather {schedule : Schedule} {results : List (Except Fault Publication)}
    {result : Except Fault Publication} (hresult : result ∈ gather schedule results) :
    result ∈ results := by
  obtain ⟨position, -, hlookup⟩ := List.mem_filterMap.mp hresult
  obtain ⟨front, back, hpairs, -⟩ := List.lookup_eq_some_iff.mp hlookup
  have hpair : (position, result) ∈ (schedule.map Prod.snd).zip results := by
    rw [hpairs]
    exact List.mem_append_right front List.mem_cons_self
  exact (List.of_mem_zip hpair).2

theorem publish_of_mem_publishAll {order : Order} {disk : Disk} {sources : List Path}
    {result : Except Fault Publication} (hresult : result ∈ (publishAll order disk sources).2) :
    ∃ source ∈ sources, ∃ turn, (publish order turn source).2 = result := by
  induction sources generalizing disk with
  | nil => cases hresult
  | cons source rest ih =>
      rw [publishAll_cons] at hresult
      rcases List.mem_cons.mp hresult with rfl | hrest
      · exact ⟨source, List.mem_cons_self, disk, rfl⟩
      · obtain ⟨later, hlater, turn, hpublish⟩ := ih hrest
        exact ⟨later, List.mem_cons_of_mem source hlater, turn, hpublish⟩

theorem collect_of_outcome_error {settings : Settings} {moment : Moment}
    {disk final : Disk} {batch : Batch} {results : List (Except Fault Publication)}
    {fault : Fault} (hfound : batch.isLost disk = false)
    (houtcome : (conclude settings moment disk batch final results).outcome =
      .error fault) : collect results = .error fault := by
  cases hcollect : collect results with
  | error other => rwa [outcome_conclude_error _ _ _ _ _ _ hcollect] at houtcome
  | ok publications =>
      rw [outcome_conclude_ok _ _ _ _ _ _ hcollect, hfound] at houtcome
      simp at houtcome

/-- A batch whose base can be told fails only with the fault of one of its sources. -/
theorem publish_of_outcome_error {settings : Settings} {moment : Moment} {disk : Disk}
    {batch : Batch} {schedule : Schedule} {fault : Fault} (hfound : batch.isLost disk = false)
    (houtcome : (runScheduled settings moment disk batch schedule).outcome = .error fault) :
    ∃ source ∈ schedule.map Prod.fst, ∃ turn,
      (publish (batch.order settings moment) turn source).2 = .error fault := by
  have hcollect := collect_of_outcome_error hfound houtcome
  exact publish_of_mem_publishAll (mem_of_mem_gather (mem_of_collect_error hcollect))

end Batch

namespace Command

theorem fault_printAll (order : Order) (disk : Disk) (paths : List Path) :
    (printAll order disk paths).fault =
      paths.findSome? fun path => (order.openedDocument disk path).fault := by
  induction paths with
  | nil => rfl
  | cons path paths ih =>
      rw [printAll, List.findSome?_cons]
      cases hdocument : order.openedDocument disk path with
      | mk lines stopped =>
          cases stopped with
          | none => exact ih
          | some fault => rfl

theorem root_source {disk : Disk} {files : List Text} {source : Path}
    (hsource : source ∈ sources disk files) : source.root ≠ .relative := by
  obtain ⟨file, -, rfl⟩ := List.mem_map.mp hsource
  exact root_join_workingDirectory disk file

theorem normal_source {disk : Disk} {files : List Text} {source : Path}
    (hcwd : (workingDirectory disk).Normal) (hsource : source ∈ sources disk files) :
    source.Normal := by
  obtain ⟨file, -, rfl⟩ := List.mem_map.mp hsource
  exact hcwd.join file

/-- Every file has been made into a document: all have been printed, or all have been
published by the schedule. -/
structure Processed (settings : Settings) (moment : Moment) (disk : Disk)
    (files : List Text) (options : Options) (schedule : Batch.Schedule) : Prop where
  printed : options.stdout = true → ∀ path ∈ sources disk files,
    ((order settings moment disk options).openedDocument disk path).fault = none
  written : options.stdout = false →
    ∀ result ∈ (Batch.publishAll (order settings moment disk options) disk
      (schedule.map Prod.fst)).2, ∃ publication, result = .ok publication

/-- The faults the command does not report: it cannot look for the files, it has no
language for their code, or it cannot name their documents. -/
inductive Overlooked (settings : Settings) (disk : Disk) (files : List Text)
    (options : Options) : Fault → Prop
  | noCurrentDirectory (hcwd : disk.hasCurrentDirectory = false) :
      Overlooked settings disk files options (.disk .noCurrentDirectory)
  | nameTooLong {path : Path} (hpath : path ∈ sources disk files)
      (hfile : disk.isFile path = .error (.failed .nameTooLong path)) :
      Overlooked settings disk files options (.disk (.failed .nameTooLong path))
  | noLanguage (hlanguage : options.language = .emptied) :
      Overlooked settings disk files options .noLanguage
  | name (fault : Path.NameFault) (hstdout : options.stdout = false)
      (hdirectory : outputDirectory disk options = none)
      (hsuffix : '/' ∈ settings.suffix) :
      Overlooked settings disk files options (.name fault)

/-- The command has done all it was asked to, or it has failed and its last word, the only
one of its kind, says why, or it has overlooked a fault. -/
inductive Answered (settings : Settings) (moment : Moment) (disk : Disk)
    (files : List Text) (options : Options) (schedule : Batch.Schedule)
    (outcome : Outcome) : Prop
  | succeeded (hverdict : outcome.verdict = .exit 0)
      (hprocessed : Processed settings moment disk files options schedule)
  | failed (events : List Event) (message : Text) (hverdict : outcome.verdict = .exit 1)
      (hnotices : outcome.notices = events.map .logged ++ [.error message])
  | escaped (fault : Fault) (hverdict : outcome.verdict = .escaped fault)
      (hoverlooked : Overlooked settings disk files options fault)

section Answered

variable {settings : Settings} {moment : Moment} {disk : Disk} {files : List Text}
  {options : Options} {schedule : Batch.Schedule}

theorem exists_of_firstAbsent_error {paths : List Path} {fault : Disk.Fault}
    (habsent : firstAbsent disk paths = .error fault) :
    ∃ path ∈ paths, disk.isFile path = .error fault := by
  induction paths with
  | nil => cases habsent
  | cons path paths ih =>
      cases hfile : disk.isFile path with
      | error other =>
          rw [firstAbsent, hfile] at habsent
          cases habsent
          exact ⟨path, List.mem_cons_self, hfile⟩
      | ok found =>
          rw [firstAbsent, hfile] at habsent
          cases found with
          | false => cases habsent
          | true =>
              obtain ⟨later, hlater, hstopped⟩ := ih habsent
              exact ⟨later, List.mem_cons_of_mem path hlater, hstopped⟩

theorem overlooked_of_unsearched {fault : Disk.Fault}
    (hunsearched : Unsearched disk files fault) :
    Overlooked settings disk files options (.disk fault) := by
  cases hunsearched with
  | noCurrentDirectory hcwd => exact .noCurrentDirectory hcwd
  | stopped _ habsent =>
      obtain ⟨path, hpath, hfile⟩ := exists_of_firstAbsent_error habsent
      cases Disk.eq_of_check_error hfile
      exact .nameTooLong hpath hfile

theorem overlooked_of_meets {fault : Fault}
    (hmeets : (order settings moment disk options).Meets fault)
    (hstdout : options.stdout = false) (hfault : fault.isReported = false) :
    Overlooked settings disk files options fault := by
  cases hmeets with
  | reported hreported => simp [hfault] at hreported
  | noLanguage hlanguage => exact .noLanguage hlanguage
  | name unnamed hdirectory hsuffix => exact .name unnamed hstdout hdirectory hsuffix

/-- A fault is told of last, or it is one of those that are overlooked. -/
theorem answered_ofFault {fault : Fault}
    (hfault : fault.isReported = false → Overlooked settings disk files options fault)
    (final : Disk) (stdout : Text) (events : List Event) :
    Answered settings moment disk files options schedule
      (.ofFault final stdout (events.map .logged) fault) := by
  cases hreported : fault.isReported with
  | true =>
      rw [ofFault_reported hreported]
      exact .failed events fault.message rfl rfl
  | false =>
      refine .escaped fault ?_ (hfault hreported)
      simp [Outcome.ofFault, hreported]

theorem answered_runPrinting (hchecked : Checked disk files options)
    (hstdout : options.stdout = true) :
    Answered settings moment disk files options schedule
      (runPrinting settings moment disk (sources disk files) options) := by
  have hfirst := fault_printAll (order settings moment disk options) disk
    (sources disk files)
  -- The directory of the order plays no part in printing.
  rw [← printAll_anywhere] at hfirst
  simp only [runPrinting]
  split
  · next hnone =>
      refine .succeeded rfl ⟨fun _ => ?_, fun hwriting => by simp [hstdout] at hwriting⟩
      exact List.findSome?_eq_none_iff.mp (hfirst.symm.trans hnone)
  · next fault hsome =>
      obtain ⟨path, hpath, hstopped⟩ :=
        List.exists_of_findSome?_eq_some (hfirst.symm.trans hsome)
      obtain ⟨location, hopen⟩ := Disk.openFile_of_isFile (hchecked.present path hpath)
      rw [Order.openedDocument, hopen] at hstopped
      refine answered_ofFault (fun hreported => ?_) disk _ []
      rcases Order.fault_of_document hstopped with ⟨flaw, rfl⟩ | ⟨rfl, hlanguage⟩
      · cases hreported
      · exact .noLanguage hlanguage

theorem meets_in_turn (hcwd : (workingDirectory disk).Normal)
    (hsuffix : '\x00' ∉ settings.suffix) (hchecked : Checked disk files options)
    (hstdout : options.stdout = false) {source : Path}
    (hsource : source ∈ sources disk files) {turn : Disk} {fault : Fault}
    (hpublish : (publish (order settings moment disk options) turn source).2 =
      .error fault) :
    (order settings moment disk options).Meets fault := by
  -- The source was a file when it was checked, which is all that its names depend on;
  -- what has become of it since is a matter of the turn.
  have hfile := hchecked.present source hsource
  have hparts := Disk.parts_ne_nil_of_isFile (root_source hsource) hfile
  have hname := (normal_source hcwd hsource).isPart_name hparts
  apply meets_publish hsuffix hname (Disk.hasNull_of_check hfile) _ hpublish
  intro directory hdirectory
  exact Disk.hasNull_of_check (hchecked.directory hstdout directory hdirectory)

theorem answered_reported (hcwd : (workingDirectory disk).Normal)
    (hsuffix : '\x00' ∉ settings.suffix) (hchecked : Checked disk files options)
    (hstdout : options.stdout = false)
    (hschedule : schedule.Perm (sources disk files).zipIdx) :
    Answered settings moment disk files options schedule
      (reported options disk
        ((batch settings disk files options (outputDirectory disk options)).runScheduled
          settings moment disk schedule)) := by
  obtain ⟨events, ⟨fault, houtcome, hreported⟩ | ⟨publications, houtcome, hreported⟩⟩ :=
    reported_cases options disk
      ((batch settings disk files options (outputDirectory disk options)).runScheduled
        settings moment disk schedule)
  · rw [hreported]
    obtain ⟨source, hmem, turn, hpublish⟩ := Batch.publish_of_outcome_error rfl houtcome
    rw [order_batch] at hpublish
    have hsource : source ∈ sources disk files := by
      rwa [(hschedule.map Prod.fst).mem_iff, List.zipIdx_map_fst] at hmem
    have hmeets := meets_in_turn hcwd hsuffix hchecked hstdout hsource hpublish
    exact answered_ofFault (overlooked_of_meets hmeets hstdout) _ [] events
  · rw [hreported]
    have hresults := Batch.results_of_outcome hschedule houtcome
    rw [order_batch] at hresults
    exact .succeeded rfl ⟨fun hprinting => by simp [hstdout] at hprinting,
      fun _ => hresults⟩

end Answered

/-- Whatever the order of its work, the command succeeds with every file, or it fails with
one message, its last, or it overlooks a fault of one of the kinds that it does not
report. No value of the environment or of a settings file holds a null byte, so none does
in the suffix. -/
theorem run_answered {arguments files : List Text} {options : Options}
    (hrequest : Request.ofArguments arguments = .ok (.weave files options))
    {disk : Disk} (hcwd : (workingDirectory disk).Normal) {settings : Settings}
    (hsuffix : '\x00' ∉ settings.suffix) (moment : Moment) :
    run settings moment disk arguments =
        runScheduled settings moment disk files options (sources disk files).zipIdx ∧
      ∀ schedule, schedule.Perm (sources disk files).zipIdx →
        Answered settings moment disk files options schedule
          (runScheduled settings moment disk files options schedule) := by
  refine ⟨run_of_request hrequest settings moment disk, fun schedule hschedule => ?_⟩
  rcases runScheduled_cases settings moment disk files options schedule with
    ⟨fault, hunsearched, hrun⟩ | ⟨-, -, message, hrun⟩ | ⟨hchecked, hstdout, hrun⟩ |
    ⟨hchecked, hstdout, hrun⟩
  · rw [hrun]
    exact .escaped _ rfl (overlooked_of_unsearched hunsearched)
  · rw [hrun]
    exact .failed [] message rfl rfl
  · rw [hrun]
    exact answered_runPrinting hchecked hstdout
  · rw [hrun]
    exact answered_reported hcwd hsuffix hchecked hstdout hschedule

/-- A file that is no text is told of last; two that are texts are both printed. -/
theorem run_answered_sample :
    (workingDirectory Sample.disk).Normal ∧ '\x00' ∉ Sample.order.settings.suffix ∧
      (∃ (events : List Event) (message : Text),
        (sampleRun ["--verbose", "c.py", "b.js"]).notices =
          events.map .logged ++ [.error message]) ∧
      Processed Sample.order.settings Sample.order.moment Sample.disk
        (words ["a.js", "c.py"]) { stdout := true }
        [(samplePath "a.js", 0), (samplePath "c.py", 1)] := by
  have hcwd : (workingDirectory Sample.disk).Normal := by
    rintro part ⟨⟩
  have hsuffix : '\x00' ∉ Sample.order.settings.suffix := by decide
  obtain ⟨hwriting, hwritten⟩ := @run_answered (words ["--verbose", "c.py", "b.js"])
    (words ["c.py", "b.js"]) { verbose := true } rfl Sample.disk hcwd
    Sample.order.settings hsuffix Sample.order.moment
  obtain ⟨-, hprinted⟩ := @run_answered (words ["--stdout", "a.js", "c.py"])
    (words ["a.js", "c.py"]) { stdout := true } rfl Sample.disk hcwd
    Sample.order.settings hsuffix Sample.order.moment
  refine ⟨hcwd, hsuffix, ?_, ?_⟩
  · have hverdict : (sampleRun ["--verbose", "c.py", "b.js"]).verdict = .exit 1 := by
      decide +kernel
    rw [sampleRun, hwriting] at hverdict ⊢
    cases hwritten _ (List.Perm.refl _) with
    | succeeded hother => cases hother.symm.trans hverdict
    | failed events message _ hnotices => exact ⟨events, message, hnotices⟩
    | escaped fault hother => cases hother.symm.trans hverdict
  · have hverdict : (runScheduled Sample.order.settings Sample.order.moment Sample.disk
        (words ["a.js", "c.py"]) { stdout := true }
        [(samplePath "a.js", 0), (samplePath "c.py", 1)]).verdict = .exit 0 := by
      decide +kernel
    cases hprinted _ (List.Perm.refl _) with
    | succeeded _ hprocessed => exact hprocessed
    | failed events message hother => cases hother.symm.trans hverdict
    | escaped fault hother => cases hother.symm.trans hverdict

/-- A command that is understood and ends in a fault that it does not report. -/
def Escapes (settings : Settings) (disk : Disk) (arguments files : List Text)
    (options : Options) (fault : Fault) : Prop :=
  Request.ofArguments arguments = .ok (.weave files options) ∧
    (run settings Sample.order.moment disk arguments).verdict = .escaped fault

instance (settings : Settings) (disk : Disk) (arguments files : List Text)
    (options : Options) (fault : Fault) :
    Decidable (Escapes settings disk arguments files options fault) :=
  inferInstanceAs (Decidable (_ ∧ _))

def suffixed (suffix : String) : Settings :=
  Settings.ofEnvironment [] [(Settings.suffixKey, suffix.toList)]

/-- Each kind of fault that the command may overlook does escape from it. -/
theorem each_kind_escapes :
    Escapes (suffixed ".md") Sample.strayDisk (words ["/c.py"]) (words ["/c.py"]) {}
        (.disk .noCurrentDirectory) ∧
      Escapes (suffixed ".md") Sample.disk [longName] [longName] {}
        (.disk (.failed .nameTooLong ⟨.single, [longName]⟩)) ∧
      Escapes (suffixed ".md") Sample.disk (words ["--language=--", "c.py"])
        (words ["c.py"]) { language := .emptied } .noLanguage ∧
      Escapes (suffixed ".d/y") Sample.disk (words ["c.py"]) (words ["c.py"]) {}
        (.name (.invalidName "c.py.d/y".toList)) := by
  decide +kernel

end Command

end Weave
