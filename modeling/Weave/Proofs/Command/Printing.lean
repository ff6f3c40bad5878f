import Weave.Command.Run
import Weave.Proofs.Batch.Independence
import Weave.Proofs.Command.Flags

namespace Weave

theorem Source.text_of_isFile {disk : Disk} {path : Path} {read : List Line} {fault : Fault}
    (hfile : disk.isFile path = .ok true)
    (hlines : openedLines disk path = ⟨read, some fault⟩) :
    ∃ flaw, fault = .text flaw := by
  obtain ⟨location, hopen⟩ := Disk.openFile_of_isFile hfile
  rw [openedLines, hopen] at hlines
  exact Produced.exists_of_mapFault (congrArg Produced.fault hlines)

/-! The document of a file is made of its lines, as far as they can be read. -/

theorem Order.openedDocument_of_subject {order : Order} {path : Path} {subject : Subject}
    (hsubject : order.subject? path = some subject) (disk : Disk) :
    order.openedDocument disk path =
      Source.weave subject order.moment (Source.openedLines disk path).fault {}
        (Source.openedLines disk path).lines := by
  simp only [openedDocument, Source.openedLines]
  cases disk.openFile path with
  | error fault => rfl
  | ok location =>
      simp only [Order.document, hsubject, Source.document, Source.mapFault_weave]
      rfl

theorem Order.subject?_of_language {order : Order} {language : Option Text}
    (hlanguage : order.language = Choice.ofOption language) (path : Path) :
    order.subject? path = some (Subject.ofPath order.settings language path) := by
  cases language <;> simp [subject?, hlanguage, Choice.ofOption]

namespace Command

def sources (disk : Disk) (files : List Text) : List Path :=
  files.map (workingDirectory disk).join

/-- How a request would have its documents published. -/
def order (settings : Settings) (moment : Moment) (disk : Disk) (options : Options) :
    Order where
  settings := settings
  moment := moment
  language := options.language
  directory := outputDirectory disk options

/-! Printing one file after the other. -/

theorem printAll_append {order : Order} {disk : Disk} {paths : List Path}
    (hpaths : ∀ path ∈ paths, (order.openedDocument disk path).fault = none)
    (rest : List Path) :
    printAll order disk (paths ++ rest) =
      ⟨(paths.flatMap fun path => (order.openedDocument disk path).lines) ++
          (printAll order disk rest).lines,
        (printAll order disk rest).fault⟩ := by
  induction paths with
  | nil => rfl
  | cons path paths ih =>
      have hpath : (order.openedDocument disk path).fault = none :=
        hpaths path List.mem_cons_self
      have hrest := ih fun other hother => hpaths other (List.mem_cons_of_mem path hother)
      rw [List.cons_append, printAll]
      cases hdocument : order.openedDocument disk path with
      | mk lines stopped =>
          rw [hdocument] at hpath
          cases hpath
          simp [hrest, hdocument]

theorem firstAbsent_eq_none_iff {disk : Disk} {paths : List Path} :
    firstAbsent disk paths = .ok none ↔ ∀ path ∈ paths, disk.isFile path = .ok true := by
  induction paths with
  | nil => simp [firstAbsent]
  | cons path paths ih =>
      cases hfile : disk.isFile path with
      | error fault => simp [firstAbsent, hfile]
      | ok found => cases found <;> simp [firstAbsent, hfile, ih]

theorem ofArguments_stdout {arguments files : List Text} {options : Options}
    (hrequest : Request.ofArguments arguments = .ok (.weave files options)) :
    Request.ofArguments (Switch.stdout.name :: arguments) =
      .ok (.weave files (options.raise .stdout)) := by
  rw [ofArguments_flag, hrequest]
  rfl

theorem run_stdout {flagged files : List Text} {options : Options}
    (hflagged : Request.ofArguments flagged = .ok (.weave files (options.raise .stdout)))
    {disk : Disk} (hcwd : disk.hasCurrentDirectory = true)
    (hfiles : ∀ path ∈ sources disk files, disk.isFile path = .ok true)
    (settings : Settings) (moment : Moment) :
    run settings moment disk flagged =
      runPrinting settings moment disk (sources disk files) (options.raise .stdout) := by
  have hpresent := firstAbsent_eq_none_iff.mpr hfiles
  simp only [sources] at hpresent
  simp [run, hflagged, runFiles, hcwd, hpresent, Options.raise, sources]

theorem verdict_ofFault_ne (disk : Disk) (stdout : Text) (notices : List Notice)
    (fault : Fault) : (Outcome.ofFault disk stdout notices fault).verdict ≠ .exit 0 := by
  simp only [Outcome.ofFault]
  split
  · simp [Outcome.fail]
  · simp

theorem root_join_workingDirectory (disk : Disk) (text : Text) :
    ((workingDirectory disk).join text).root ≠ .relative :=
  Path.root_join_ne (by simp [workingDirectory]) text

theorem root_outputDirectory {disk : Disk} {options : Options} {directory : Path}
    (hdirectory : outputDirectory disk options = some directory) :
    directory.root ≠ .relative := by
  simp only [outputDirectory] at hdirectory
  split at hdirectory
  · cases hdirectory
  · cases hdirectory
    exact root_join_workingDirectory disk _

theorem order_batch (settings : Settings) (moment : Moment) (disk : Disk)
    (files : List Text) (options : Options) :
    (batch settings disk files options (outputDirectory disk options)).order settings
        moment =
      order settings moment disk options := by
  simp only [Batch.order, batch, order]
  cases hdirectory : outputDirectory disk options with
  | none => rfl
  | some directory =>
      simp only [Option.map_some,
        Path.append_of_rooted _ (root_outputDirectory hdirectory)]

theorem runFiles_of_exit_zero {settings : Settings} {moment : Moment} {disk : Disk}
    {files : List Text} {options : Options} (hstdout : options.stdout = false)
    (hverdict : (runFiles settings moment disk files options).verdict = .exit 0) :
    disk.hasCurrentDirectory = true ∧
      (∀ path ∈ sources disk files, disk.isFile path = .ok true) ∧
      runFiles settings moment disk files options =
        runWriting settings moment disk files options (outputDirectory disk options) := by
  simp only [runFiles] at hverdict ⊢
  cases hcwd : disk.hasCurrentDirectory with
  | false => simp [hcwd] at hverdict
  | true =>
      cases hpresent : firstAbsent disk (files.map (workingDirectory disk).join) with
      | error fault => simp [hcwd, hpresent] at hverdict
      | ok absent =>
          cases absent with
          | some path => simp [hcwd, hpresent, Outcome.fail] at hverdict
          | none =>
              refine ⟨rfl, firstAbsent_eq_none_iff.mp hpresent, ?_⟩
              simp only [hcwd, hpresent, hstdout, runChecked] at hverdict ⊢
              cases hdirectory : outputDirectory disk options with
              | none => rfl
              | some directory =>
                  simp only [hdirectory] at hverdict ⊢
                  cases hfound : disk.isDirectory directory with
                  | error fault =>
                      simp only [hfound] at hverdict
                      exact absurd hverdict (verdict_ofFault_ne _ _ _ _)
                  | ok found =>
                      cases found with
                      | false => simp [hfound, Outcome.fail] at hverdict
                      | true => rfl

/-- What a batch has published when the command that writes has succeeded. -/
theorem runWriting_of_exit_zero {settings : Settings} {moment : Moment} {disk : Disk}
    {files : List Text} {options : Options} {directory : Option Path}
    (hverdict : (runWriting settings moment disk files options directory).verdict =
      .exit 0) :
    ∃ (publications : List Publication) (events : List Event),
      ((batch settings disk files options directory).run settings moment disk).outcome =
        .ok publications ∧
      runWriting settings moment disk files options directory =
        ⟨((batch settings disk files options directory).run settings moment disk).disk, [],
          events.map .logged ++ publications.map (wrote disk), .exit 0⟩ := by
  simp only [runWriting] at hverdict ⊢
  cases houtcome :
      ((batch settings disk files options directory).run settings moment disk).outcome with
  | error fault =>
      simp only [houtcome] at hverdict
      exact absurd hverdict (verdict_ofFault_ne _ _ _ _)
  | ok publications =>
      cases hverbose : options.verbose with
      | false => exact ⟨publications, [], rfl, by simp⟩
      | true =>
          exact ⟨publications,
            ((batch settings disk files options directory).run settings moment disk).events,
            rfl, by simp⟩

theorem encode_toText_flatMap {α : Type} (items : List α) (document : α → List Line) :
    Utf8.encode (Lines.toText (items.flatMap document)) =
      (items.map fun item => Utf8.encode (Lines.toText (document item))).flatten := by
  induction items with
  | nil => rfl
  | cons item items ih => simp [ih]

/-- Where documents are to be published does not matter when they are printed. -/
theorem printAll_anywhere (order : Order) (disk : Disk) (paths : List Path) :
    printAll { order with directory := none } disk paths = printAll order disk paths := by
  induction paths with
  | nil => rfl
  | cons path paths ih =>
      simp only [printAll, ih]
      rfl

theorem runPrinting_of_complete {order : Order} {disk : Disk} {paths : List Path}
    (hcomplete : ∀ path ∈ paths, (order.openedDocument disk path).fault = none)
    {options : Options} (hlanguage : options.language = order.language) :
    runPrinting order.settings order.moment disk paths options =
      ⟨disk, Lines.toText (paths.flatMap fun path =>
        (order.openedDocument disk path).lines), [], .exit 0⟩ := by
  have hprinted := printAll_append hcomplete []
  rw [List.append_nil] at hprinted
  simp only [runPrinting, hlanguage, printAll_anywhere order, hprinted, printAll,
    List.append_nil]

/-- Up to the first file that fails everything is printed whole, and of that file what
came before its fault. -/
theorem runPrinting_of_fault {order : Order} {disk : Disk} {front : List Path}
    {source : Path} {lines : List Line} {fault : Fault}
    (hcomplete : ∀ path ∈ front, (order.openedDocument disk path).fault = none)
    (hsource : order.openedDocument disk source = ⟨lines, some fault⟩)
    {options : Options} (hlanguage : options.language = order.language)
    (back : List Path) :
    runPrinting order.settings order.moment disk (front ++ source :: back) options =
      .ofFault disk (Lines.toText ((front.flatMap fun path =>
        (order.openedDocument disk path).lines) ++ lines)) [] fault := by
  have hprinted := printAll_append hcomplete (source :: back)
  simp only [runPrinting, hlanguage, printAll_anywhere order, hprinted, printAll, hsource]

theorem printed_of_written {settings : Settings} {moment : Moment} {disk : Disk}
    {arguments flagged files : List Text} {options : Options} (hdisk : disk.WellFormed)
    (hsuffix : '/' ∉ settings.suffix)
    (hrequest : Request.ofArguments arguments = .ok (.weave files options))
    (hflagged : Request.ofArguments flagged = .ok (.weave files (options.raise .stdout)))
    (hstdout : options.stdout = false)
    (hindependent : (sources disk files).Pairwise
      ((order settings moment disk options).Independent disk.cwd))
    (hverdict : (run settings moment disk arguments).verdict = .exit 0) :
    ∃ (events : List Event) (publications : List Publication) (contents : List Bytes),
      (run settings moment disk arguments).notices =
        events.map .logged ++ publications.map (wrote disk) ∧
      publications.map Publication.source = sources disk files ∧
      publications.map (fun publication =>
          (run settings moment disk arguments).disk.tree.get?
            (publication.output.location disk.cwd)) =
        contents.map (fun content => some (.file content)) ∧
      (run settings moment disk flagged).verdict = .exit 0 ∧
      Utf8.encode (run settings moment disk flagged).stdout =
        contents.flatten := by
  have hrun : run settings moment disk arguments =
      runFiles settings moment disk files options := by
    simp only [run, hrequest]
  rw [hrun] at hverdict ⊢
  obtain ⟨hcwd, hfiles, hwriting⟩ := runFiles_of_exit_zero hstdout hverdict
  rw [hwriting] at hverdict ⊢
  obtain ⟨publications, events, houtcome, hreport⟩ := runWriting_of_exit_zero hverdict
  -- Both sides meet in the documents of the files as they were at first.
  rw [← order_batch settings moment disk files options] at hindependent
  obtain ⟨hsources, hcomplete, hplaced⟩ :=
    Batch.delivered_of_outcome hdisk hsuffix hindependent houtcome
  rw [order_batch] at hcomplete hplaced
  have hprinting := runPrinting_of_complete hcomplete
    (rfl : (options.raise .stdout).language = options.language)
  rw [hreport, run_stdout hflagged hcwd hfiles]
  refine ⟨events, publications, (sources disk files).map fun source =>
    Utf8.encode (Lines.toText
      ((order settings moment disk options).openedDocument disk source).lines),
    rfl, hsources, ?_, ?_, ?_⟩
  · rw [List.map_map]
    exact hplaced
  · exact congrArg Outcome.verdict hprinting
  · rw [← encode_toText_flatMap]
    exact congrArg Utf8.encode (congrArg Outcome.stdout hprinting)

/-- One of several files is the first that cannot be read to its end; these are the lines
that are read of it. -/
structure FirstFault (disk : Disk) (paths front : List Path) (source : Path)
    (read : List Line) : Prop where
  split : ∃ back, paths = front ++ source :: back
  complete : ∀ path ∈ front, (Source.openedLines disk path).fault = none
  stopped : ∃ fault, Source.openedLines disk source = ⟨read, some fault⟩

theorem printed_until_fault {settings : Settings} {moment : Moment} {disk : Disk}
    {flagged files : List Text} {options : Options} {language : Option Text}
    {front : List Path} {source : Path} {read : List Line}
    (hflagged : Request.ofArguments flagged = .ok (.weave files (options.raise .stdout)))
    (hlanguage : options.language = Choice.ofOption language)
    (hcwd : disk.hasCurrentDirectory = true)
    (hfiles : ∀ path ∈ sources disk files, disk.isFile path = .ok true)
    (hfault : FirstFault disk (sources disk files) front source read) :
    (run settings moment disk flagged).verdict = .exit 1 ∧
      (run settings moment disk flagged).stdout =
        Lines.toText ((front.flatMap fun path =>
            document (Subject.ofPath settings language path) moment
              (Source.openedLines disk path).lines) ++
          Document.body (Subject.ofPath settings language source) read) := by
  let order := order settings moment disk options
  have hsubject : ∀ path,
      order.subject? path = some (Subject.ofPath settings language path) :=
    Order.subject?_of_language hlanguage
  have hdocument : ∀ path ∈ front, order.openedDocument disk path =
      ⟨document (Subject.ofPath settings language path) moment
        (Source.openedLines disk path).lines, none⟩ := by
    intro path hpath
    have hcomplete := hfault.complete path hpath
    rw [Order.openedDocument_of_subject (hsubject path) disk, hcomplete,
      Source.weave_none]
    rfl
  obtain ⟨back, hsplit⟩ := hfault.split
  obtain ⟨fault, hstopped⟩ := hfault.stopped
  obtain ⟨flaw, rfl⟩ := Source.text_of_isFile
    (hfiles source (hsplit ▸ List.mem_append_right front List.mem_cons_self)) hstopped
  have hsource := Order.openedDocument_of_subject (hsubject source) disk
  rw [hstopped, Source.weave_some] at hsource
  have hprinting : runPrinting settings moment disk (front ++ source :: back)
      (options.raise .stdout) = _ :=
    runPrinting_of_fault
      (fun path hpath => congrArg Source.Produced.fault (hdocument path hpath)) hsource
      (rfl : (options.raise .stdout).language = order.language) back
  have hlines : front.map (fun path => (order.openedDocument disk path).lines) =
      front.map fun path => document (Subject.ofPath settings language path) moment
        (Source.openedLines disk path).lines :=
    List.map_congr_left fun path hpath =>
      congrArg Source.Produced.lines (hdocument path hpath)
  rw [run_stdout hflagged hcwd hfiles, hsplit, hprinting, List.flatMap_def, hlines,
    List.flatMap_def]
  exact ⟨rfl, rfl⟩

/-- The flag prints what the command without it writes. A command that would succeed
prints, byte for byte, the documents it would have left; one that meets a file it cannot
read prints the documents before it and of that file what the lines before the fault
give. -/
theorem stdout_documents {settings : Settings} {moment : Moment} {disk : Disk}
    {arguments files : List Text} {options : Options} (hdisk : disk.WellFormed)
    (hrequest : Request.ofArguments arguments = .ok (.weave files options)) :
    Request.ofArguments (Switch.stdout.name :: arguments) =
        .ok (.weave files (options.raise .stdout)) ∧
    ∀ flagged, Request.ofArguments flagged = .ok (.weave files (options.raise .stdout)) →
      ('/' ∉ settings.suffix → options.stdout = false →
        (sources disk files).Pairwise
          ((order settings moment disk options).Independent disk.cwd) →
        (run settings moment disk arguments).verdict = .exit 0 →
        ∃ (events : List Event) (publications : List Publication)
          (contents : List Bytes),
          (run settings moment disk arguments).notices =
            events.map .logged ++ publications.map (wrote disk) ∧
          publications.map Publication.source = sources disk files ∧
          publications.map (fun publication =>
              (run settings moment disk arguments).disk.tree.get?
                (publication.output.location disk.cwd)) =
            contents.map (fun content => some (.file content)) ∧
          (run settings moment disk flagged).verdict = .exit 0 ∧
          Utf8.encode (run settings moment disk flagged).stdout = contents.flatten) ∧
      ∀ (language : Option Text) (front : List Path) (source : Path) (read : List Line),
        options.language = Choice.ofOption language →
        disk.hasCurrentDirectory = true →
        (∀ path ∈ sources disk files, disk.isFile path = .ok true) →
        FirstFault disk (sources disk files) front source read →
        (run settings moment disk flagged).verdict = .exit 1 ∧
          (run settings moment disk flagged).stdout =
            Lines.toText ((front.flatMap fun path =>
                document (Subject.ofPath settings language path) moment
                  (Source.openedLines disk path).lines) ++
              Document.body (Subject.ofPath settings language source) read) := by
  refine ⟨ofArguments_stdout hrequest, fun flagged hflagged => ⟨?_, ?_⟩⟩
  · intro hsuffix hstdout hindependent hverdict
    exact printed_of_written hdisk hsuffix hrequest hflagged hstdout hindependent hverdict
  · intro language front source read hlanguage hcwd hfiles hfault
    exact printed_until_fault hflagged hlanguage hcwd hfiles hfault

def words (arguments : List String) : List Text := arguments.map String.toList

/-- The command with its default settings on the sample disk. -/
def sampleRun (arguments : List String) : Outcome :=
  run Sample.order.settings Sample.order.moment Sample.disk (words arguments)

def samplePath (name : String) : Path := ⟨.single, [name.toList]⟩

theorem stdout_documents_sample :
    Sample.disk.WellFormed ∧
      (∃ contents : List Bytes, contents.length = 2 ∧
        Utf8.encode (sampleRun ["--stdout", "a.js", "c.py"]).stdout = contents.flatten) ∧
      (sampleRun ["--stdout", "c.py", "b.js", "a.js"]).verdict = .exit 1 ∧
      (sampleRun ["--stdout", "c.py", "b.js", "a.js"]).stdout =
        Lines.toText (document ⟨"py".toList, "c.py".toList⟩ Sample.order.moment
          ["code".toList]) := by
  have hwritten := @stdout_documents Sample.order.settings Sample.order.moment Sample.disk
    (words ["a.js", "c.py"]) (words ["a.js", "c.py"]) {} Sample.wellFormed_disk rfl
  have hstopped := @stdout_documents Sample.order.settings Sample.order.moment Sample.disk
    (words ["c.py", "b.js", "a.js"]) (words ["c.py", "b.js", "a.js"]) {}
    Sample.wellFormed_disk rfl
  refine ⟨Sample.wellFormed_disk, ?_, ?_⟩
  · obtain ⟨-, publications, contents, -, hsources, hplaced, -, hstdout⟩ :=
      (hwritten.2 _ hwritten.1).1 (by decide) rfl (by decide) (by decide +kernel)
    refine ⟨contents, ?_, hstdout⟩
    have hlengths := congrArg List.length hplaced
    have hfiles := congrArg List.length hsources
    simp only [List.length_map] at hlengths hfiles
    exact hlengths.symm.trans hfiles
  · exact (hstopped.2 _ hstopped.1).2 none [samplePath "c.py"] (samplePath "b.js") []
      rfl rfl (by decide) ⟨⟨_, rfl⟩, by decide, ⟨_, rfl⟩⟩

/-- A command that is to print files which are all there, one of which cannot be read to
its end, and does not exit with the code for that. -/
def Unreported (disk : Disk) (flagged files : List String) (options : Options) : Prop :=
  Request.ofArguments (words flagged) =
      .ok (.weave (words files) (options.raise .stdout)) ∧
    (∀ path ∈ sources disk (words files), disk.isFile path = .ok true) ∧
    (∃ front source read, FirstFault disk (sources disk (words files)) front source read) ∧
    (run Sample.order.settings Sample.order.moment disk (words flagged)).verdict ≠ .exit 1

/-- Without a language there is no fence for code, and without a current directory no file
is looked at. -/
theorem faults_unreported :
    Unreported Sample.disk ["--stdout", "--language=--", "c.py", "b.js"] ["c.py", "b.js"]
        { language := .emptied } ∧
      Sample.strayDisk.WellFormed ∧
      Unreported Sample.strayDisk ["--stdout", "/b.js"] ["/b.js"] {} := by
  refine ⟨⟨rfl, by decide, ?_, by decide +kernel⟩, Sample.wellFormed_strayDisk,
    rfl, by decide, ?_, by decide +kernel⟩
  · exact ⟨[samplePath "c.py"], samplePath "b.js", [], ⟨_, rfl⟩, by decide, _, rfl⟩
  · exact ⟨[], samplePath "b.js", [], ⟨_, rfl⟩, by decide, _, rfl⟩

end Command

end Weave
