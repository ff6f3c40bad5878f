import Weave.Proofs.Disk.WellFormed
import Weave.Proofs.Path.Naming
import Weave.Proofs.Publication.Frame

namespace Weave

namespace Publication

open Disk

/-! A draft and its document. -/

theorem location_output_ne_draft {output draft : Path} (hdraft : output.draft = .ok draft)
    (hparent : output.name ≠ Path.parent) (cwd : Location) :
    output.location cwd ≠ draft.location cwd := by
  obtain ⟨front, name, hparts, -, rfl⟩ := Path.exists_of_draft hdraft
  have hname : output.name = name := by simp [Path.name, hparts]
  rw [hname] at hparent
  rw [Path.location_concat hparts hparent, Path.location_concat rfl
    (Path.draftName_ne_parent name)]
  intro heq
  have hnames := List.singleton_inj.mp (List.append_inj' heq rfl).2
  have hlonger := congrArg List.length hnames
  simp [Path.draftSuffix] at hlonger

section Drafted

variable {disk opened : Disk} {output draft : Path} {place : Location}

theorem exists_folder_of_create (hdraft : output.draft = .ok draft)
    (hcreate : disk.create draft = .ok (place, opened)) :
    ∃ folder name, name ≠ [] ∧ place = folder ++ [name] ∧
      disk.tree.get? folder = some .directory := by
  obtain ⟨front, name, -, hname, rfl⟩ := Path.exists_of_draft hdraft
  obtain ⟨-, hresolve, -, -⟩ := create_iff.mp hcreate
  obtain ⟨-, -, folder, -, hfolder, hplace⟩ :=
    (resolve_concat rfl (Path.draftName_ne_parent name)).mp hresolve
  exact ⟨folder, name ++ Path.draftSuffix, by simp [hname], hplace, hfolder⟩

theorem wellFormed_drafted (hdisk : disk.WellFormed) (hdraft : output.draft = .ok draft)
    (hcreate : disk.create draft = .ok (place, opened)) (content : Bytes) :
    (disk.insert place (.file content)).WellFormed := by
  obtain ⟨folder, name, hname, rfl, hfolder⟩ := exists_folder_of_create hdraft hcreate
  obtain ⟨-, -, hplace, -⟩ := create_iff.mp hcreate
  exact hdisk.insert_file hfolder hname hplace content

theorem sameDirectories_drafted (hdraft : output.draft = .ok draft)
    (hcreate : disk.create draft = .ok (place, opened)) (content : Bytes) :
    SameDirectories disk.tree (disk.insert place (.file content)).tree := by
  obtain ⟨folder, name, -, rfl, -⟩ := exists_folder_of_create hdraft hcreate
  obtain ⟨-, -, hplace, -⟩ := create_iff.mp hcreate
  exact sameDirectories_insert_file (by simp) hplace content

theorem find_drafted (hdisk : disk.WellFormed) (hdraft : output.draft = .ok draft)
    (hcreate : disk.create draft = .ok (place, opened)) (content : Bytes) :
    (disk.insert place (.file content)).find draft = .ok (place, .file content) := by
  obtain ⟨-, hresolve, -, -⟩ := create_iff.mp hcreate
  rw [find_file_iff]
  constructor
  · exact hdisk.resolve_of_sameDirectories
      (wellFormed_drafted hdisk hdraft hcreate content) rfl
      (sameDirectories_drafted hdraft hcreate content) hresolve
  · simp [Disk.insert, Tree.get?_insert _ (top_ne_of_create hcreate)]

theorem abandon_drafted (hdisk : disk.WellFormed) (hdraft : output.draft = .ok draft)
    (hcreate : disk.create draft = .ok (place, opened)) (content : Bytes)
    (fault : Fault) :
    abandon (disk.insert place (.file content)) draft fault =
      (disk.erase place, .error fault) := by
  have hremove := remove_file (create_iff.mp hcreate).1
    (find_drafted hdisk hdraft hcreate content)
  simp [abandon, hremove]

theorem moved_drafted {moved : Disk} {content : Bytes} (hdraft : output.draft = .ok draft)
    (hcreate : disk.create draft = .ok (place, opened))
    (hmove : (disk.insert place (.file content)).move draft output = .ok moved) :
    output.name ≠ Path.parent ∧
      disk.tree.get? (output.location disk.cwd) ≠ some .directory ∧
      moved = (disk.erase place).insert (output.location disk.cwd) (.file content) := by
  obtain ⟨-, hresolve, -, -⟩ := create_iff.mp hcreate
  obtain ⟨hparent, left, entry, target, hfind, htarget, hfree, rfl⟩ := move_iff.mp hmove
  have hplace : place = draft.location disk.cwd := eq_location_of_resolve hresolve
  have hleft : left = place := (eq_location_of_find hfind).trans hplace.symm
  have hto : target = output.location (disk.insert place (.file content)).cwd :=
    eq_location_of_resolve htarget
  change target = output.location disk.cwd at hto
  have hdrafted : (disk.insert place (.file content)).tree.get? left =
      some (.file content) := by
    rw [hleft, Disk.insert, Tree.get?_insert _ (top_ne_of_create hcreate), if_pos rfl]
  have hapart : output.location disk.cwd ≠ place := by
    rw [hplace]
    exact location_output_ne_draft hdraft hparent disk.cwd
  rw [hto, Disk.insert, Tree.get?_insert_of_ne _ _ hapart] at hfree
  refine ⟨hparent, hfree, ?_⟩
  rw [entry_of_find hfind hdrafted, hleft, hto, erase_insert]

end Drafted

theorem commit_error {order : Order} {disk final : Disk} {source output draft : Path}
    {location : Location} {fault : Fault} (hdisk : disk.WellFormed)
    (hdraft : output.draft = .ok draft)
    (hcommit : commit order disk source output draft location = (final, .error fault)) :
    ((∃ failure, disk.create draft = .error failure) ∧ final = disk) ∨
      ∃ place opened, disk.create draft = .ok (place, opened) ∧
        final = disk.erase place := by
  cases hcreate : disk.create draft with
  | error failure =>
      left
      refine ⟨⟨failure, rfl⟩, ?_⟩
      rw [commit_blocked hcreate, abandon] at hcommit
      cases hremove : disk.remove draft with
      | error other =>
          rw [hremove] at hcommit
          exact (congrArg Prod.fst hcommit).symm
      | ok cleared =>
          rw [hremove] at hcommit
          have hcleared := remove_of_create_error hcreate hremove
          exact (congrArg Prod.fst hcommit).symm.trans hcleared
  | ok created =>
      right
      obtain ⟨place, opened⟩ := created
      refine ⟨place, opened, rfl, ?_⟩
      obtain ⟨-, -, -, hopened⟩ := create_iff.mp hcreate
      cases hdocument : order.document source (opened.tree.content location) with
      | mk lines stopped =>
          cases stopped with
          | some stop =>
              rw [commit_stopped hcreate hdocument, hopened,
                abandon_drafted hdisk hdraft hcreate] at hcommit
              exact (congrArg Prod.fst hcommit).symm
          | none =>
              cases hmove : (opened.insert place
                  (.file (Utf8.encode (Lines.toText lines)))).move draft output with
              | error failure =>
                  rw [commit_unplaced hcreate hdocument hmove, hopened, insert_insert,
                    abandon_drafted hdisk hdraft hcreate] at hcommit
                  exact (congrArg Prod.fst hcommit).symm
              | ok moved =>
                  rw [commit_placed hcreate hdocument hmove] at hcommit
                  cases congrArg Prod.snd hcommit

theorem commit_ok {order : Order} {disk final : Disk} {source output draft : Path}
    {location : Location} {publication : Publication} (hdraft : output.draft = .ok draft)
    (hcommit : commit order disk source output draft location =
      (final, .ok publication)) :
    ∃ place lines, disk.create draft = .ok (place, disk.insert place (.file [])) ∧
      order.document source ((disk.insert place (.file [])).tree.content location) =
        ⟨lines, none⟩ ∧
      output.name ≠ Path.parent ∧
      disk.tree.get? (output.location disk.cwd) ≠ some .directory ∧
      final = (disk.erase place).insert (output.location disk.cwd)
        (.file (Utf8.encode (Lines.toText lines))) ∧
      publication = ⟨source, output, (Utf8.encode (Lines.toText lines)).length⟩ := by
  cases hcreate : disk.create draft with
  | error failure =>
      rw [commit_blocked hcreate, abandon] at hcommit
      split at hcommit <;> cases congrArg Prod.snd hcommit
  | ok created =>
      obtain ⟨place, opened⟩ := created
      obtain ⟨-, hresolve, -, rfl⟩ := create_iff.mp hcreate
      cases hdocument : order.document source
          ((disk.insert place (.file [])).tree.content location) with
      | mk lines stopped =>
          cases stopped with
          | some stop =>
              rw [commit_stopped hcreate hdocument, abandon] at hcommit
              split at hcommit <;> cases congrArg Prod.snd hcommit
          | none =>
              cases hmove : ((disk.insert place (.file [])).insert place
                  (.file (Utf8.encode (Lines.toText lines)))).move draft output with
              | error failure =>
                  rw [commit_unplaced hcreate hdocument hmove, abandon] at hcommit
                  split at hcommit <;> cases congrArg Prod.snd hcommit
              | ok moved =>
                  rw [commit_placed hcreate hdocument hmove] at hcommit
                  rw [insert_insert] at hmove
                  cases hcommit
                  obtain ⟨hparent, hfree, hmoved⟩ := moved_drafted hdraft hcreate hmove
                  exact ⟨place, lines, rfl, hdocument, hparent, hfree, hmoved, rfl⟩

/-! When a commit succeeds. -/

theorem resolve_output_of_draft {disk : Disk} {output draft : Path} {place : Location}
    (hdraft : output.draft = .ok draft) (hparent : output.name ≠ Path.parent)
    (hresolve : disk.resolve draft = .ok place) :
    ∃ target, disk.resolve output = .ok target := by
  have htext := Path.text_draft hdraft
  obtain ⟨front, name, hparts, -, rfl⟩ := Path.exists_of_draft hdraft
  have hname : output.name = name := by simp [Path.name, hparts]
  rw [hname] at hparent
  obtain ⟨hpath, hlong, folder, hwalk, hfolder, -⟩ :=
    (resolve_concat rfl (Path.draftName_ne_parent name)).mp hresolve
  refine ⟨folder ++ [name], (resolve_concat hparts hparent).mpr
    ⟨?_, ?_, folder, hwalk, hfolder, rfl⟩⟩
  · simp only [isTooLongPath, htext, Utf8.encode_append, List.length_append,
      decide_eq_false_iff_not] at hpath ⊢
    omega
  · simp only [isTooLong, Utf8.encode_append, List.length_append,
      decide_eq_false_iff_not] at hlong ⊢
    omega

theorem output_name_ne_parent {disk opened : Disk} {output draft : Path} {place : Location}
    (hdisk : disk.WellFormed) (hdraft : output.draft = .ok draft)
    (hcreate : disk.create draft = .ok (place, opened))
    (hfree : disk.tree.get? (output.location disk.cwd) ≠ some .directory) :
    output.name ≠ Path.parent := by
  intro hparent
  obtain ⟨folder, other, -, hplace, hfolder⟩ := exists_folder_of_create hdraft hcreate
  obtain ⟨front, name, hparts, -, rfl⟩ := Path.exists_of_draft hdraft
  have hname : output.name = name := by simp [Path.name, hparts]
  have hlocation := eq_location_of_resolve (create_iff.mp hcreate).2.1
  rw [Path.location_concat rfl (Path.draftName_ne_parent name), hplace] at hlocation
  have habove : output.location disk.cwd = folder.dropLast := by
    rw [(List.append_inj' hlocation rfl).1, Path.location, hparts, ← hname, hparent]
    simp [Path.start]
  rw [habove] at hfree
  exact hfree (hdisk.directory_of_prefix (List.dropLast_prefix folder) hfolder)

theorem commit_of_free {order : Order} {disk opened : Disk} {source output draft : Path}
    {location place : Location} {lines : List Line} (hdisk : disk.WellFormed)
    (hdraft : output.draft = .ok draft)
    (hcreate : disk.create draft = .ok (place, opened))
    (hdocument : order.document source (opened.tree.content location) = ⟨lines, none⟩)
    (hfree : disk.tree.get? (output.location disk.cwd) ≠ some .directory) :
    ∃ final publication,
      commit order disk source output draft location = (final, .ok publication) := by
  obtain ⟨-, hresolve, -, hopened⟩ := create_iff.mp hcreate
  have hparent := output_name_ne_parent hdisk hdraft hcreate hfree
  obtain ⟨target, htarget⟩ := resolve_output_of_draft hdraft hparent hresolve
  have hto := eq_location_of_resolve htarget
  have hapart : target ≠ place := by
    rw [hto, eq_location_of_resolve hresolve]
    exact location_output_ne_draft hdraft hparent disk.cwd
  let content := Utf8.encode (Lines.toText lines)
  have hstill : (disk.insert place (.file content)).resolve output = .ok target :=
    hdisk.resolve_of_sameDirectories (wellFormed_drafted hdisk hdraft hcreate content) rfl
      (sameDirectories_drafted hdraft hcreate content) htarget
  have hunused : (disk.insert place (.file content)).tree.get? target ≠
      some .directory := by
    rwa [Disk.insert, Tree.get?_insert_of_ne _ _ hapart, hto]
  have hmove := move_iff.mpr ⟨hparent, place, .file content, target,
    find_drafted hdisk hdraft hcreate content, hstill, hunused, rfl⟩
  rw [← insert_insert disk place (.file []) (.file content), ← hopened] at hmove
  exact ⟨_, _, commit_placed hcreate hdocument hmove⟩

end Publication

namespace Order

theorem openedDocument_iff {order : Order} {disk : Disk} {source : Path}
    {lines : List Line} :
    order.openedDocument disk source = ⟨lines, none⟩ ↔
      ∃ location, disk.openFile source = .ok location ∧
        order.document source (disk.tree.content location) = ⟨lines, none⟩ := by
  simp only [openedDocument]
  cases disk.openFile source with
  | error fault => simp
  | ok location => simp

theorem source_ne_draft {order : Order} {disk : Disk} {source output draft : Path}
    {location : Location} (hdisk : disk.WellFormed) (hsuffix : '/' ∉ order.settings.suffix)
    (hnames : order.names source = some (output, draft))
    (hopen : disk.openFile source = .ok location) :
    location ≠ draft.location disk.cwd := by
  intro heq
  obtain ⟨houtput, hdraft⟩ := names_iff.mp hnames
  have hne := Path.name_ne_name_draft hsuffix houtput hdraft
  obtain ⟨folder, hlocation⟩ := hdisk.location_of_openFile hopen
  obtain ⟨front, name, -, -, rfl⟩ := Path.exists_of_draft hdraft
  rw [heq, Path.location_concat rfl (Path.draftName_ne_parent name)] at hlocation
  apply hne
  simpa [Path.name] using (List.append_inj' hlocation rfl).2

/-- A file that lies where the draft is to be written, when the source can be read. -/
def StaleDraft (order : Order) (disk : Disk) (source : Path) (location : Location) : Prop :=
  ∃ output draft opened, order.names source = some (output, draft) ∧
    disk.openFile source = .ok opened ∧ disk.openFile draft = .ok location

/-- The names are good, the source gives a whole document, the draft can be written, and
no directory stands where the document goes. -/
def Ready (order : Order) (disk : Disk) (source : Path) : Prop :=
  ∃ output draft lines, order.names source = some (output, draft) ∧
    order.openedDocument disk source = ⟨lines, none⟩ ∧
    (∃ created, disk.create draft = .ok created) ∧
    disk.tree.get? (output.location disk.cwd) ≠ some .directory

end Order

namespace Publication

open Disk

/-- All of the document is in its place, nothing is left of the draft, and nothing else
has changed. -/
structure Committed (order : Order) (disk : Disk) (source draft : Path)
    (lines : List Line) (final : Disk) (publication : Publication) : Prop where
  source_eq : publication.source = source
  names_eq : order.names source = some (publication.output, draft)
  document_eq : order.openedDocument disk source = ⟨lines, none⟩
  placed : final.tree.get? (publication.output.location disk.cwd) =
    some (.file (Utf8.encode (Lines.toText lines)))
  size_eq : publication.size = (Utf8.encode (Lines.toText lines)).length
  drafted : final.tree.get? (draft.location disk.cwd) = none
  others : SameBut [publication.output.location disk.cwd, draft.location disk.cwd]
    disk final

/-- Nothing has changed but that a stale draft is gone. -/
structure Abandoned (order : Order) (disk : Disk) (source : Path) (final : Disk) :
    Prop where
  cwd : final.cwd = disk.cwd
  cleared : ∀ location, order.StaleDraft disk source location →
    final.tree.get? location = none
  others : ∀ location, ¬ order.StaleDraft disk source location →
    final.tree.get? location = disk.tree.get? location
  document : ∀ output location, order.output source = .ok output →
    disk.openFile output = .ok location →
      final.tree.get? location = disk.tree.get? location

theorem commit_of_publish_ok {order : Order} {disk final : Disk} {source : Path}
    {publication : Publication}
    (hpublish : publish order disk source = (final, .ok publication)) :
    ∃ output draft location, order.names source = some (output, draft) ∧
      disk.openFile source = .ok location ∧
      commit order disk source output draft location = (final, .ok publication) := by
  rcases publish_cases order disk source with ⟨-, fault, hfault⟩ | ⟨fault, -, hfault⟩ |
      ⟨output, draft, location, hnames, hopen, hcommit⟩
  · cases hfault.symm.trans hpublish
  · cases hfault.symm.trans hpublish
  · exact ⟨output, draft, location, hnames, hopen, hcommit.symm.trans hpublish⟩

theorem committed_of_publish {order : Order} {disk final : Disk} {source : Path}
    {publication : Publication}
    (hapart : ∀ output draft location, order.names source = some (output, draft) →
      disk.openFile source = .ok location → location ≠ draft.location disk.cwd)
    (hpublish : publish order disk source = (final, .ok publication)) :
    ∃ draft lines, Committed order disk source draft lines final publication := by
  have hothers := publish_sameBut order disk source
  obtain ⟨output, draft, location, hnames, hopen, hcommit⟩ := commit_of_publish_ok hpublish
  obtain ⟨-, hdraft⟩ := Order.names_iff.mp hnames
  obtain ⟨place, lines, hcreate, hdocument, hparent, hfree, rfl, rfl⟩ :=
    commit_ok hdraft hcommit
  simp only [Order.touched, hnames, hpublish] at hothers
  have hplace : place = draft.location disk.cwd :=
    eq_location_of_resolve (create_iff.mp hcreate).2.1
  have hsource : location ≠ place := by
    rw [hplace]
    exact hapart output draft location hnames hopen
  have htarget : output.location disk.cwd ≠ [] := by
    intro htop
    exact hfree (htop ▸ rfl)
  rw [Disk.insert, Tree.content, Tree.get?_insert_of_ne _ _ hsource] at hdocument
  refine ⟨draft, lines, rfl, hnames, ?_, ?_, rfl, ?_, hothers⟩
  · exact Order.openedDocument_iff.mpr ⟨location, hopen, hdocument⟩
  · rw [Disk.insert, Tree.get?_insert _ htarget, if_pos rfl]
  · have hne : draft.location disk.cwd ≠ output.location disk.cwd :=
      (location_output_ne_draft hdraft hparent disk.cwd).symm
    rw [Disk.insert, Tree.get?_insert_of_ne _ _ hne, Disk.erase, ← hplace,
      Tree.get?_erase _ (top_ne_of_create hcreate), if_pos rfl]

theorem abandoned_of_same {order : Order} {disk : Disk} {source : Path}
    (hfresh : ∀ location, ¬ order.StaleDraft disk source location) :
    Abandoned order disk source disk where
  cwd := rfl
  cleared := fun location hstale => absurd hstale (hfresh location)
  others := fun _ _ => rfl
  document := fun _ _ _ _ => rfl

theorem not_staleDraft_of_output {order : Order} {disk : Disk} {source output : Path}
    {location : Location} (hdisk : disk.WellFormed)
    (houtput : order.output source = .ok output)
    (hopen : disk.openFile output = .ok location) :
    ¬ order.StaleDraft disk source location := by
  rintro ⟨other, draft, -, hnames, -, hstale⟩
  obtain ⟨hsame, hdraft⟩ := Order.names_iff.mp hnames
  cases houtput.symm.trans hsame
  obtain ⟨folder, hlocation⟩ := hdisk.location_of_openFile hopen
  obtain ⟨beside, hplace⟩ := hdisk.location_of_openFile hstale
  have hname := (List.append_inj' (hlocation.symm.trans hplace) rfl).2
  rw [Path.name_draft hdraft] at hname
  have hlength := congrArg List.length (List.singleton_inj.mp hname)
  simp [Path.draftSuffix] at hlength

theorem abandoned_of_erase {order : Order} {disk opened : Disk}
    {source output draft : Path} {location place : Location} (hdisk : disk.WellFormed)
    (hnames : order.names source = some (output, draft))
    (hopen : disk.openFile source = .ok location)
    (hcreate : disk.create draft = .ok (place, opened)) :
    Abandoned order disk source (disk.erase place) := by
  obtain ⟨hnull, hresolve, hfree, -⟩ := create_iff.mp hcreate
  have hplace : place = draft.location disk.cwd := eq_location_of_resolve hresolve
  have hothers : ∀ other, ¬ order.StaleDraft disk source other →
      (disk.erase place).tree.get? other = disk.tree.get? other := by
    intro other hfresh
    by_cases hother : other = place
    · subst hother
      cases hentry : disk.tree.get? other with
      | none => rw [Disk.erase, Tree.get?_erase _ (top_ne_of_create hcreate), if_pos rfl]
      | some entry =>
          cases entry with
          | directory => exact absurd hentry hfree
          | file content =>
              have hstale : disk.openFile draft = .ok other :=
                openFile_iff.mpr ⟨hnull, content, find_file_iff.mpr ⟨hresolve, hentry⟩⟩
              exact absurd ⟨output, draft, location, hnames, hopen, hstale⟩ hfresh
    · rw [Disk.erase, Tree.get?_erase_of_ne _ hother]
  refine ⟨rfl, ?_, hothers, ?_⟩
  · rintro other ⟨output', draft', opened', hnames', -, hstale⟩
    cases hnames.symm.trans hnames'
    obtain ⟨-, content, hfind⟩ := openFile_iff.mp hstale
    rw [eq_location_of_find hfind, ← hplace, Disk.erase,
      Tree.get?_erase _ (top_ne_of_create hcreate), if_pos rfl]
  · intro path other houtput hdocument
    exact hothers other (not_staleDraft_of_output hdisk houtput hdocument)

theorem abandoned_of_publish {order : Order} {disk final : Disk} {source : Path}
    {fault : Fault} (hdisk : disk.WellFormed)
    (hpublish : publish order disk source = (final, .error fault)) :
    Abandoned order disk source final := by
  rcases publish_cases order disk source with ⟨hnames, other, hfault⟩ |
      ⟨failure, hopen, hfault⟩ | ⟨output, draft, location, hnames, hopen, hcommit⟩
  · cases hfault.symm.trans hpublish
    apply abandoned_of_same
    rintro location ⟨output, draft, opened, hsome, -⟩
    cases hnames.symm.trans hsome
  · cases hfault.symm.trans hpublish
    apply abandoned_of_same
    rintro location ⟨output, draft, opened, -, hopened, -⟩
    cases hopen.symm.trans hopened
  · obtain ⟨-, hdraft⟩ := Order.names_iff.mp hnames
    rcases commit_error hdisk hdraft (hcommit.symm.trans hpublish) with
      ⟨⟨failure, hcreate⟩, rfl⟩ | ⟨place, opened, hcreate, rfl⟩
    · apply abandoned_of_same
      rintro place ⟨other, path, opened, hsome, -, hstale⟩
      cases hnames.symm.trans hsome
      obtain ⟨hnull, content, hfind⟩ := openFile_iff.mp hstale
      obtain ⟨hresolve, hfile⟩ := find_file_iff.mp hfind
      simp [create, hnull, hresolve, hfile] at hcreate
    · exact abandoned_of_erase hdisk hnames hopen hcreate

theorem publish_ok_iff_ready {order : Order} {disk : Disk} {source : Path}
    (hdisk : disk.WellFormed) (hsuffix : '/' ∉ order.settings.suffix) :
    (∃ final publication, publish order disk source = (final, .ok publication)) ↔
      order.Ready disk source := by
  constructor
  · rintro ⟨final, publication, hpublish⟩
    obtain ⟨draft, lines, hcommitted⟩ := committed_of_publish
      (fun _ _ _ hnames hopen => Order.source_ne_draft hdisk hsuffix hnames hopen) hpublish
    obtain ⟨output, other, location, hnames, -, hcommit⟩ := commit_of_publish_ok hpublish
    obtain ⟨-, hdraft⟩ := Order.names_iff.mp hnames
    obtain ⟨place, -, hcreate, -, -, hfree, -, -⟩ := commit_ok hdraft hcommit
    exact ⟨output, other, lines, hnames, hcommitted.document_eq, ⟨_, hcreate⟩, hfree⟩
  · rintro ⟨output, draft, lines, hnames, hdocument, ⟨⟨place, opened⟩, hcreate⟩, hfree⟩
    obtain ⟨-, hdraft⟩ := Order.names_iff.mp hnames
    obtain ⟨location, hopen, hlines⟩ := Order.openedDocument_iff.mp hdocument
    obtain ⟨-, hresolve, -, hopened⟩ := create_iff.mp hcreate
    have hsource : location ≠ place := by
      rw [eq_location_of_resolve hresolve]
      exact Order.source_ne_draft hdisk hsuffix hnames hopen
    have hsame : opened.tree.content location = disk.tree.content location := by
      rw [hopened, Disk.insert, Tree.content, Tree.get?_insert_of_ne _ _ hsource,
        Tree.content]
    rw [publish_of_names hnames, hopen]
    exact commit_of_free hdisk hdraft hcreate (hsame.symm ▸ hlines) hfree

end Publication

/-- Publishing is all or nothing. A success puts the whole document in its place and
changes nothing else; a failure changes nothing, except that a stale draft is gone; and
it succeeds exactly when it can. -/
theorem publish_atomic {order : Order} {disk : Disk} (hdisk : disk.WellFormed)
    (hsuffix : '/' ∉ order.settings.suffix) (source : Path) :
    (∀ final publication, publish order disk source = (final, .ok publication) →
      ∃ draft lines,
        Publication.Committed order disk source draft lines final publication) ∧
    (∀ final fault, publish order disk source = (final, .error fault) →
      Publication.Abandoned order disk source final) ∧
    ((∃ final publication, publish order disk source = (final, .ok publication)) ↔
      order.Ready disk source) := by
  refine ⟨?_, ?_, Publication.publish_ok_iff_ready hdisk hsuffix⟩
  · intro final publication hpublish
    exact Publication.committed_of_publish
      (fun _ _ _ hnames hopen => Order.source_ne_draft hdisk hsuffix hnames hopen) hpublish
  · intro final fault hpublish
    exact Publication.abandoned_of_publish hdisk hpublish

namespace Sample

def order : Order where
  settings := ⟨['j', 's'], ['.', 'm', 'd'], 1⟩
  moment := { date := ⟨2026, 10, 17⟩, hour := 9, minute := 30, second := 0 }

def path (name : String) : Path := Path.parse name.toList

def file (name content : String) : Location × Entry :=
  ([name.toList], .file (Utf8.encode content.toList))

/-- A source with a document of an earlier version, a source that is no text, and stale
drafts of both. -/
def disk : Disk where
  tree := ⟨[file "a.js" "//new\n", file "a.js.md" "//old\n", file "a.js.md.part" "new",
    (["b.js".toList], .file [255]), file "b.js.md.part" "", file "c.py" "code\n"]⟩

theorem wellFormed_disk : disk.WellFormed :=
  .of_entries (by decide) (by decide)

/-- The sample disk after the current directory has been taken away. -/
def strayDisk : Disk := { disk with cwd := [[]] }

theorem wellFormed_strayDisk : strayDisk.WellFormed where
  parent := wellFormed_disk.parent
  named := wellFormed_disk.named
  standing := ⟨[], 1, rfl, rfl⟩

end Sample

theorem publish_atomic_sample :
    Sample.disk.WellFormed ∧ '/' ∉ Sample.order.settings.suffix ∧
      (∃ draft lines,
        Publication.Committed Sample.order Sample.disk (Sample.path "a.js") draft lines
          (publish Sample.order Sample.disk (Sample.path "a.js")).1
          ⟨Sample.path "a.js", Sample.path "a.js.md", 115⟩) ∧
      Publication.Abandoned Sample.order Sample.disk (Sample.path "b.js")
        (publish Sample.order Sample.disk (Sample.path "b.js")).1 := by
  have hsuffix : '/' ∉ Sample.order.settings.suffix := by decide
  refine ⟨Sample.wellFormed_disk, hsuffix, ?_, ?_⟩
  · exact (publish_atomic Sample.wellFormed_disk hsuffix (Sample.path "a.js")).1 _ _
      (Prod.ext rfl rfl)
  · exact (publish_atomic Sample.wellFormed_disk hsuffix (Sample.path "b.js")).2.1 _
      (.text ⟨0, [255], .badStart⟩) (Prod.ext rfl rfl)

end Weave
