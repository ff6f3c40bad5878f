import Weave.Proofs.Disk.Effect
import Weave.Publication

namespace Weave

namespace Order

/-- The paths a source is published through: its document's and its draft's. -/
def names (order : Order) (source : Path) : Option (Path × Path) :=
  match order.output source with
  | .error _ => none
  | .ok output =>
      match output.draft with
      | .error _ => none
      | .ok draft => some (output, draft)

def touched (order : Order) (cwd : Location) (source : Path) : List Location :=
  match order.names source with
  | none => []
  | some (output, draft) => [output.location cwd, draft.location cwd]

/-- The locations on the way to the source, to the document and to its draft. -/
def visited (order : Order) (cwd : Location) (source : Path) : List Location :=
  match order.names source with
  | none => source.visited cwd
  | some (output, draft) =>
      source.visited cwd ++ output.visited cwd ++ draft.visited cwd

theorem names_iff {order : Order} {source output draft : Path} :
    order.names source = some (output, draft) ↔
      order.output source = .ok output ∧ output.draft = .ok draft := by
  simp only [names]
  cases houtput : order.output source with
  | error fault => simp
  | ok path =>
      cases hdraft : path.draft with
      | error fault => grind
      | ok place => grind

theorem touched_subset_visited (order : Order) (cwd : Location) (source : Path) :
    order.touched cwd source ⊆ order.visited cwd source := by
  cases hnames : order.names source with
  | none => simp [touched, hnames]
  | some paths =>
      obtain ⟨output, draft⟩ := paths
      have houtput := Location.descend_mem_trail (output.start cwd) output.parts
      have hdraft := Location.descend_mem_trail (draft.start cwd) draft.parts
      simp only [touched, visited, hnames]
      intro location hlocation
      simp only [List.mem_cons, List.not_mem_nil, or_false] at hlocation
      rcases hlocation with rfl | rfl
      · exact List.mem_append_left _ (List.mem_append_right _ houtput)
      · exact List.mem_append_right _ hdraft

end Order

theorem publish_of_no_names {order : Order} {source : Path}
    (hnames : order.names source = none) :
    ∃ fault, ∀ disk, publish order disk source = (disk, .error (.name fault)) := by
  simp only [Order.names] at hnames
  cases houtput : order.output source with
  | error fault => exact ⟨fault, fun disk => by simp [publish, houtput]⟩
  | ok output =>
      cases hdraft : output.draft with
      | error fault => exact ⟨fault, fun disk => by simp [publish, houtput, hdraft]⟩
      | ok draft => simp [houtput, hdraft] at hnames

theorem publish_of_names {order : Order} {source output draft : Path}
    (hnames : order.names source = some (output, draft)) (disk : Disk) :
    publish order disk source =
      match disk.openFile source with
      | .error fault => (disk, .error (.disk fault))
      | .ok location =>
          Publication.commit order disk source output draft location := by
  obtain ⟨houtput, hdraft⟩ := Order.names_iff.mp hnames
  cases hopen : disk.openFile source with
  | error fault => simp only [publish, houtput, hdraft, hopen]
  | ok location => simp only [publish, houtput, hdraft, hopen]

theorem publish_cases (order : Order) (disk : Disk) (source : Path) :
    (order.names source = none ∧
        ∃ fault, publish order disk source = (disk, .error fault)) ∨
      (∃ fault, disk.openFile source = .error fault ∧
        publish order disk source = (disk, .error (.disk fault))) ∨
      ∃ output draft location, order.names source = some (output, draft) ∧
        disk.openFile source = .ok location ∧
        publish order disk source =
          Publication.commit order disk source output draft location := by
  cases hnames : order.names source with
  | none =>
      obtain ⟨fault, hpublish⟩ := publish_of_no_names hnames
      exact .inl ⟨rfl, .name fault, hpublish disk⟩
  | some paths =>
      obtain ⟨output, draft⟩ := paths
      have hpublish := publish_of_names hnames disk
      cases hopen : disk.openFile source with
      | error fault =>
          rw [hopen] at hpublish
          exact .inr (.inl ⟨fault, rfl, hpublish⟩)
      | ok location =>
          rw [hopen] at hpublish
          exact .inr (.inr ⟨output, draft, location, rfl, rfl, hpublish⟩)

namespace Publication

open Disk

section Commit

variable {order : Order} {disk opened moved : Disk} {source output draft : Path}
  {location place : Location} {lines : List Line}

/-! The four ways a commit can go. -/

theorem commit_blocked {fault : Disk.Fault} (hcreate : disk.create draft = .error fault) :
    commit order disk source output draft location =
      abandon disk draft (.disk fault) := by
  simp only [commit, hcreate]

theorem commit_stopped {fault : Fault} (hcreate : disk.create draft = .ok (place, opened))
    (hdocument : order.document source (opened.tree.content location) =
      ⟨lines, some fault⟩) :
    commit order disk source output draft location = abandon opened draft fault := by
  simp only [commit, hcreate, hdocument]

theorem commit_unplaced {fault : Disk.Fault}
    (hcreate : disk.create draft = .ok (place, opened))
    (hdocument : order.document source (opened.tree.content location) = ⟨lines, none⟩)
    (hmove : (opened.insert place
      (.file (Utf8.encode (Lines.toText lines)))).move draft output = .error fault) :
    commit order disk source output draft location =
      abandon (opened.insert place (.file (Utf8.encode (Lines.toText lines)))) draft
        (.disk fault) := by
  simp only [commit, hcreate, hdocument, Writer.content_ofLines, hmove]

theorem commit_placed (hcreate : disk.create draft = .ok (place, opened))
    (hdocument : order.document source (opened.tree.content location) = ⟨lines, none⟩)
    (hmove : (opened.insert place
      (.file (Utf8.encode (Lines.toText lines)))).move draft output = .ok moved) :
    commit order disk source output draft location =
      (moved, .ok ⟨source, output, (Utf8.encode (Lines.toText lines)).length⟩) := by
  simp only [commit, hcreate, hdocument, Writer.content_ofLines, Writer.size_ofLines, hmove]

end Commit

/-! Nothing is changed but the places of the document and of its draft. -/

theorem abandon_sameBut {places : List Location} {disk : Disk} {draft : Path}
    (hdraft : draft.location disk.cwd ∈ places) (fault : Fault) :
    SameBut places disk (abandon disk draft fault).1 := by
  simp only [abandon]
  cases hremove : disk.remove draft with
  | error failure => exact .refl places disk
  | ok cleared =>
      rcases remove_cases hremove with rfl | ⟨content, -, rfl⟩
      · exact .refl places cleared
      · exact (SameBut.refl places disk).erase hdraft

/-- The place of the document is changed only by a commit that succeeds. -/
theorem commit_sameBut {places : List Location} {order : Order} {disk : Disk}
    {source output draft : Path} {location : Location}
    (houtput : ∀ publication,
      (commit order disk source output draft location).2 = .ok publication →
        output.location disk.cwd ∈ places)
    (hdraft : draft.location disk.cwd ∈ places) :
    SameBut places disk (commit order disk source output draft location).1 := by
  cases hcreate : disk.create draft with
  | error fault =>
      rw [commit_blocked hcreate]
      exact abandon_sameBut hdraft (.disk fault)
  | ok created =>
      obtain ⟨place, opened⟩ := created
      obtain ⟨-, hresolve, -, hinsert⟩ := create_iff.mp hcreate
      have hplace : place ∈ places := eq_location_of_resolve hresolve ▸ hdraft
      have hopened : SameBut places disk opened :=
        hinsert ▸ (SameBut.refl places disk).insert hplace (.file [])
      cases hdocument : order.document source (opened.tree.content location) with
      | mk lines stopped =>
          cases stopped with
          | some fault =>
              rw [commit_stopped hcreate hdocument]
              exact hopened.trans (abandon_sameBut (hopened.cwd ▸ hdraft) fault)
          | none =>
              have hwritten := hopened.insert hplace
                (.file (Utf8.encode (Lines.toText lines)))
              cases hmove : (opened.insert place
                  (.file (Utf8.encode (Lines.toText lines)))).move draft output with
              | error fault =>
                  rw [commit_unplaced hcreate hdocument hmove]
                  exact hwritten.trans
                    (abandon_sameBut (hwritten.cwd ▸ hdraft) (.disk fault))
              | ok moved =>
                  rw [commit_placed hcreate hdocument hmove] at houtput ⊢
                  have hout : output.location disk.cwd ∈ places := houtput _ rfl
                  obtain ⟨-, left, entry, target, hfind, htarget, -, rfl⟩ :=
                    move_iff.mp hmove
                  have hleft : left ∈ places :=
                    eq_location_of_find hfind ▸ hwritten.cwd ▸ hdraft
                  have hto : target ∈ places :=
                    eq_location_of_resolve htarget ▸ hwritten.cwd ▸ hout
                  exact (hwritten.erase hleft).insert hto entry

/-! Nothing is looked at but the ways to the source, the document and its draft. -/

def Alike (locations : List Location)
    (left right : Disk × Except Fault Publication) : Prop :=
  left.2 = right.2 ∧ Agree locations left.1 right.1

theorem abandon_alike {locations : List Location} {left right : Disk} {draft : Path}
    (hagree : Agree locations left right)
    (hdraft : draft.visited left.cwd ⊆ locations) (fault : Fault) :
    Alike locations (abandon left draft fault) (abandon right draft fault) := by
  rcases hagree.remove hdraft with ⟨failure, hleft, hright⟩ | ⟨hleft, hright⟩ |
      ⟨place, hleft, hright⟩
  · simp only [abandon, hleft, hright]
    exact ⟨rfl, hagree⟩
  · simp only [abandon, hleft, hright]
    exact ⟨rfl, hagree⟩
  · simp only [abandon, hleft, hright]
    exact ⟨rfl, hagree.erase place⟩

theorem commit_alike {locations : List Location} {order : Order} {left right : Disk}
    {source output draft : Path} {location : Location}
    (hagree : Agree locations left right) (hlocation : location ∈ locations)
    (houtput : output.visited left.cwd ⊆ locations)
    (hdraft : draft.visited left.cwd ⊆ locations) :
    Alike locations (commit order left source output draft location)
      (commit order right source output draft location) := by
  rcases hagree.create hdraft with ⟨fault, hleft, hright⟩ | ⟨place, hleft, hright⟩
  · rw [commit_blocked hleft, commit_blocked hright]
    exact abandon_alike hagree hdraft (.disk fault)
  · have hopened := hagree.insert place (.file [])
    have hcontent : (left.insert place (.file [])).tree.content location =
        (right.insert place (.file [])).tree.content location := by
      simp only [Tree.content, hopened.get? location hlocation]
    cases hdocument : order.document source
        ((left.insert place (.file [])).tree.content location) with
    | mk lines stopped =>
        have hsame := hdocument
        rw [hcontent] at hsame
        cases stopped with
        | some fault =>
            rw [commit_stopped hleft hdocument, commit_stopped hright hsame]
            exact abandon_alike hopened hdraft fault
        | none =>
            have hwritten := hopened.insert place
              (.file (Utf8.encode (Lines.toText lines)))
            rcases hwritten.move hdraft houtput with ⟨fault, hfirst, hsecond⟩ |
                ⟨old, target, entry, hfirst, hsecond⟩
            · rw [commit_unplaced hleft hdocument hfirst,
                commit_unplaced hright hsame hsecond]
              exact abandon_alike hwritten hdraft (.disk fault)
            · rw [commit_placed hleft hdocument hfirst,
                commit_placed hright hsame hsecond]
              exact ⟨rfl, (hwritten.erase old).insert target entry⟩

end Publication

/-- Disks that agree on the way to a source, its document and its draft cannot be told
apart by publishing that source. -/
theorem publish_alike {locations : List Location} {order : Order} {left right : Disk}
    {source : Path} (hagree : Disk.Agree locations left right)
    (hvisited : order.visited left.cwd source ⊆ locations) :
    Publication.Alike locations (publish order left source)
      (publish order right source) := by
  cases hnames : order.names source with
  | none =>
      obtain ⟨fault, hpublish⟩ := publish_of_no_names hnames
      rw [hpublish, hpublish]
      exact ⟨rfl, hagree⟩
  | some paths =>
      obtain ⟨output, draft⟩ := paths
      simp only [Order.visited, hnames, List.append_subset] at hvisited
      obtain ⟨⟨hsource, houtput⟩, hdraft⟩ := hvisited
      rw [publish_of_names hnames, publish_of_names hnames, ← hagree.openFile hsource]
      cases hopen : left.openFile source with
      | error fault => exact ⟨rfl, hagree⟩
      | ok location =>
          obtain ⟨-, content, hfind⟩ := Disk.openFile_iff.mp hopen
          have hlocation : location ∈ locations := by
            rw [Disk.eq_location_of_find hfind]
            exact hsource (Location.descend_mem_trail _ source.parts)
          exact Publication.commit_alike hagree hlocation houtput hdraft

theorem publish_sameBut (order : Order) (disk : Disk) (source : Path) :
    Disk.SameBut (order.touched disk.cwd source) disk (publish order disk source).1 := by
  rcases publish_cases order disk source with ⟨-, fault, hpublish⟩ |
      ⟨fault, -, hpublish⟩ | ⟨output, draft, location, hnames, -, hpublish⟩
  · rw [hpublish]
    exact .refl _ disk
  · rw [hpublish]
    exact .refl _ disk
  · rw [hpublish]
    apply Publication.commit_sameBut
    · intro publication _
      simp [Order.touched, hnames]
    · simp [Order.touched, hnames]

end Weave
