import Weave.Proofs.Path.Parts
import Weave.Proofs.Publication.Frame

namespace Weave

namespace Path

/-! A null byte in the path of a draft comes from one of the texts it is made of. -/

theorem hasNull_eq_false_iff {path : Path} :
    Disk.hasNull path = false ↔ ∀ part ∈ path.parts, '\x00' ∉ part := by
  simp [Disk.hasNull]

theorem null_not_mem_name {path : Path} (hpath : Disk.hasNull path = false) :
    '\x00' ∉ path.name :=
  not_mem_name (hasNull_eq_false_iff.mp hpath)

theorem hasNull_withName {path renamed : Path} {name : Text}
    (hpath : Disk.hasNull path = false) (hname : '\x00' ∉ name)
    (hrenamed : path.withName name = .ok renamed) : Disk.hasNull renamed = false := by
  simp only [withName] at hrenamed
  split at hrenamed
  · cases hrenamed
  · split at hrenamed
    · rw [hasNull_eq_false_iff, ← Except.ok.inj hrenamed]
      intro part hpart
      rcases List.mem_append.mp hpart with hfront | hlast
      · exact hasNull_eq_false_iff.mp hpath part (List.dropLast_subset _ hfront)
      · rw [List.mem_singleton.mp hlast]
        exact hname
    · cases hrenamed

theorem hasNull_join {directory : Path} (hdirectory : Disk.hasNull directory = false)
    {text : Text} (hnull : '\x00' ∉ text) : Disk.hasNull (directory.join text) = false := by
  rw [hasNull_eq_false_iff] at hdirectory ⊢
  intro part hpart
  rcases mem_parts_join hpart with hfront | hback
  · exact hdirectory part hfront
  · exact fun hmem => hnull (mem_of_mem_partsOf hback hmem)

theorem hasNull_output {suffix : Text} {directory : Option Path} {source output : Path}
    (hsource : Disk.hasNull source = false)
    (hdirectory : ∀ place ∈ directory, Disk.hasNull place = false)
    (hnull : '\x00' ∉ suffix) (houtput : source.output suffix directory = .ok output) :
    Disk.hasNull output = false := by
  have hname : '\x00' ∉ source.name ++ suffix := by
    simp [null_not_mem_name hsource, hnull]
  cases directory with
  | none => exact hasNull_withName hsource hname houtput
  | some directory =>
      rw [← Except.ok.inj houtput]
      exact hasNull_join (hdirectory directory rfl) hname

theorem hasNull_draft {output draft : Path} (houtput : Disk.hasNull output = false)
    (hdraft : output.draft = .ok draft) : Disk.hasNull draft = false := by
  have hname : '\x00' ∉ output.name ++ draftSuffix := by
    simp [null_not_mem_name houtput, draftSuffix]
  exact hasNull_withName houtput hname hdraft

end Path

/-! What the steps of a publication can meet. -/

@[simp] theorem Fault.isReported_disk {fault : Disk.Fault} :
    (Fault.disk fault).isReported = true ↔ fault ≠ .nullByte := by
  cases fault <;> simp [Fault.isReported]

namespace Disk

variable {disk : Disk} {path : Path} {fault : Disk.Fault}

theorem openFile_ne_null (hpath : hasNull path = false)
    (hopen : disk.openFile path = .error fault) : fault ≠ .nullByte := by
  grind [openFile]

theorem create_ne_null (hpath : hasNull path = false)
    (hcreate : disk.create path = .error fault) : fault ≠ .nullByte := by
  grind [Disk.create]

theorem remove_ne_null (hpath : hasNull path = false)
    (hremove : disk.remove path = .error fault) : fault ≠ .nullByte := by
  grind [Disk.remove]

theorem move_ne_null {target : Path} (hmove : disk.move path target = .error fault) :
    fault ≠ .nullByte := by
  grind [Disk.move]

end Disk

/-- The faults that a source with a name of its own can meet: those that are reported, and
two that are not, each for a reason that lies in the order. -/
inductive Order.Meets (order : Order) : Fault → Prop
  | reported {fault : Fault} (hfault : fault.isReported = true) : Meets order fault
  | noLanguage (hlanguage : order.language = .emptied) : Meets order .noLanguage
  | name (fault : Path.NameFault) (hdirectory : order.directory = none)
      (hsuffix : '/' ∈ order.settings.suffix) : Meets order (.name fault)

namespace Order

variable {order : Order} {disk : Disk} {source output draft : Path} {fault : Fault}

theorem meets_disk {fault : Disk.Fault} (hfault : fault ≠ .nullByte) :
    order.Meets (.disk fault) :=
  .reported (Fault.isReported_disk.mpr hfault)

theorem language_of_no_subject (hsubject : order.subject? source = none) :
    order.language = .emptied := by
  simp only [subject?] at hsubject
  split at hsubject
  · cases hsubject
  · cases hsubject
  · assumption

theorem fault_of_document {content : Bytes}
    (hdocument : (order.document source content).fault = some fault) :
    (∃ flaw, fault = .text flaw) ∨ fault = .noLanguage ∧ order.language = .emptied := by
  simp only [document] at hdocument
  cases hsubject : order.subject? source with
  | some subject =>
      rw [hsubject] at hdocument
      exact .inl (Source.Produced.exists_of_mapFault hdocument)
  | none =>
      rw [hsubject] at hdocument
      simp only [Source.proseDocument] at hdocument
      split at hdocument
      · exact .inl (Source.Produced.exists_of_mapFault hdocument)
      · exact .inr ⟨(Option.some.inj hdocument).symm, language_of_no_subject hsubject⟩

theorem meets_document {content : Bytes}
    (hdocument : (order.document source content).fault = some fault) :
    order.Meets fault := by
  rcases fault_of_document hdocument with ⟨flaw, rfl⟩ | ⟨rfl, hlanguage⟩
  · exact .reported rfl
  · exact .noLanguage hlanguage

end Order

namespace Publication

variable {order : Order} {disk : Disk} {source output draft : Path} {fault other : Fault}

theorem meets_abandon (hdraft : Disk.hasNull draft = false) (hfault : order.Meets fault)
    (habandon : (abandon disk draft fault).2 = .error other) :
    order.Meets other := by
  simp only [abandon] at habandon
  cases hremove : disk.remove draft with
  | error failure =>
      rw [hremove] at habandon
      rw [← Except.error.inj habandon]
      exact Order.meets_disk (Disk.remove_ne_null hdraft hremove)
  | ok cleared =>
      rw [hremove] at habandon
      rwa [← Except.error.inj habandon]

theorem meets_commit {location : Location} (hdraft : Disk.hasNull draft = false)
    (hcommit : (commit order disk source output draft location).2 = .error fault) :
    order.Meets fault := by
  -- Every way to fail ends in giving up, which may add a fault of its own.
  cases hcreate : disk.create draft with
  | error failure =>
      rw [commit_blocked hcreate] at hcommit
      apply meets_abandon hdraft _ hcommit
      exact Order.meets_disk (Disk.create_ne_null hdraft hcreate)
  | ok created =>
      obtain ⟨place, opened⟩ := created
      cases hdocument : order.document source (opened.tree.content location) with
      | mk lines stopped =>
          cases stopped with
          | some stop =>
              rw [commit_stopped hcreate hdocument] at hcommit
              apply meets_abandon hdraft _ hcommit
              exact Order.meets_document (congrArg Source.Produced.fault hdocument)
          | none =>
              cases hmove : (opened.insert place
                  (.file (Utf8.encode (Lines.toText lines)))).move draft output with
              | error failure =>
                  rw [commit_unplaced hcreate hdocument hmove] at hcommit
                  apply meets_abandon hdraft _ hcommit
                  exact Order.meets_disk (Disk.move_ne_null hmove)
              | ok moved =>
                  rw [commit_placed hcreate hdocument hmove] at hcommit
                  cases hcommit

end Publication

theorem Order.slash_of_no_names {order : Order} {source : Path}
    (hname : Path.IsPart source.name) (hnames : order.names source = none) :
    order.directory = none ∧ '/' ∈ order.settings.suffix := by
  by_contra hbeside
  obtain ⟨output, houtput, hpart⟩ := Path.exists_output hname
    fun hdirectory hslash => hbeside ⟨hdirectory, hslash⟩
  obtain ⟨draft, hdraft⟩ := Path.exists_draft hpart
  have hsome := Order.names_iff.mpr ⟨houtput, hdraft⟩
  rw [hnames] at hsome
  cases hsome

theorem Order.hasNull_draft_of_names {order : Order} {source output draft : Path}
    (hsuffix : '\x00' ∉ order.settings.suffix) (hsource : Disk.hasNull source = false)
    (hdirectory : ∀ directory ∈ order.directory, Disk.hasNull directory = false)
    (hnames : order.names source = some (output, draft)) : Disk.hasNull draft = false := by
  obtain ⟨houtput, hdraft⟩ := Order.names_iff.mp hnames
  exact Path.hasNull_draft (Path.hasNull_output hsource hdirectory hsuffix houtput) hdraft

theorem meets_publish {order : Order} {disk : Disk} {source : Path} {fault : Fault}
    (hsuffix : '\x00' ∉ order.settings.suffix)
    (hname : Path.IsPart source.name) (hsource : Disk.hasNull source = false)
    (hdirectory : ∀ directory ∈ order.directory, Disk.hasNull directory = false)
    (hpublish : (publish order disk source).2 = .error fault) : order.Meets fault := by
  cases hnames : order.names source with
  | none =>
      obtain ⟨unnamed, hunnamed⟩ := publish_of_no_names hnames
      rw [hunnamed] at hpublish
      rw [← Except.error.inj hpublish]
      obtain ⟨hbeside, hslash⟩ := Order.slash_of_no_names hname hnames
      exact .name unnamed hbeside hslash
  | some paths =>
      obtain ⟨output, draft⟩ := paths
      rw [publish_of_names hnames] at hpublish
      cases hopen : disk.openFile source with
      | error failure =>
          rw [hopen] at hpublish
          rw [← Except.error.inj hpublish]
          exact Order.meets_disk (Disk.openFile_ne_null hsource hopen)
      | ok location =>
          rw [hopen] at hpublish
          have hdraft := Order.hasNull_draft_of_names hsuffix hsource hdirectory hnames
          exact Publication.meets_commit hdraft hpublish

end Weave
