import Mathlib.Data.List.Induction
import Weave.Proofs.Disk.Resolution

namespace Weave.Disk

/-- The tree of a disk holds every entry in a directory of it, and none under an empty
name. The current directory is a directory of the tree, or it once lay below one and
its names from there on are empty. -/
structure WellFormed (disk : Disk) : Prop where
  parent : ∀ {location : Location} {name : Text} {entry : Entry},
    disk.tree.get? (location ++ [name]) = some entry →
      disk.tree.get? location = some .directory
  named : ∀ {location : Location} {entry : Entry},
    disk.tree.get? location = some entry → [] ∉ location
  standing : ∃ base depth, disk.cwd = base ++ List.replicate depth [] ∧
    disk.tree.get? base = some .directory

def SameDirectories (left right : Tree) : Prop :=
  ∀ location, left.get? location = some .directory ↔
    right.get? location = some .directory

section Walk

theorem walk_of_sameDirectories {left right : Tree} (hsame : SameDirectories left right)
    {location place : Location} {parts : List Text}
    (hwalk : walk left location parts = .ok place) :
    walk right location parts = .ok place := by
  induction parts generalizing location with
  | nil => exact hwalk
  | cons part rest ih =>
      cases hentry : left.get? location with
      | none => simp [walk, hentry] at hwalk
      | some entry =>
          cases entry with
          | file content => simp [walk, hentry] at hwalk
          | directory =>
              simp only [walk, hentry] at hwalk
              simp only [walk, (hsame location).mp hentry]
              split at hwalk
              · cases hwalk
              · next hlong =>
                  simp only [hlong]
                  exact ih hwalk

theorem walk_concat {tree : Tree} {location place : Location} {front : List Text}
    {name : Text} :
    walk tree location (front ++ [name]) = .ok place ↔
      isTooLong name = false ∧ ∃ parent, walk tree location front = .ok parent ∧
        tree.get? parent = some .directory ∧ place = parent.child name := by
  induction front generalizing location with
  | nil =>
      cases hentry : tree.get? location with
      | none => simp [walk, hentry]
      | some entry =>
          cases entry with
          | file content => simp [walk, hentry]
          | directory =>
              cases hlong : isTooLong name <;> simp [walk, hentry, hlong, eq_comm]
  | cons part front ih =>
      cases hentry : tree.get? location with
      | none => simp [walk, hentry]
      | some entry =>
          cases entry with
          | file content => simp [walk, hentry]
          | directory =>
              cases hlong : isTooLong part with
              | true => simp [walk, hentry, hlong]
              | false => simpa [walk, hentry, hlong] using ih

theorem leave_prefix (tree : Tree) (location : Location) (parts : List Text) :
    (leave tree location parts).1 <+: location := by
  induction parts generalizing location with
  | nil => exact List.prefix_rfl
  | cons part rest ih =>
      simp only [leave]
      split
      · next hgone =>
          rw [hgone.2]
          exact (ih location.dropLast).trans (List.dropLast_prefix location)
      · exact List.prefix_rfl

theorem leave_suffix (tree : Tree) (location : Location) (parts : List Text) :
    (leave tree location parts).2 <:+ parts := by
  induction parts generalizing location with
  | nil => exact List.suffix_rfl
  | cons part rest ih =>
      simp only [leave]
      split
      · exact (ih (location.child part)).trans (List.suffix_cons part rest)
      · exact List.suffix_rfl

/-- Only a step up can be taken out of a directory that is gone. -/
theorem leave_concat (tree : Tree) (location : Location) (front : List Text) {name : Text}
    (hname : name ≠ Path.parent) :
    leave tree location (front ++ [name]) =
      ((leave tree location front).1, (leave tree location front).2 ++ [name]) := by
  induction front generalizing location with
  | nil => simp [leave, hname]
  | cons part front ih =>
      simp only [List.cons_append, leave]
      split
      · exact ih (location.child part)
      · rfl

theorem leave_of_prefixes {left right : Tree} {location : Location} (parts : List Text)
    (hgone : ∀ front, front <+: location →
      (left.get? front = none ↔ right.get? front = none)) :
    leave left location parts = leave right location parts := by
  induction parts generalizing location with
  | nil => rfl
  | cons part rest ih =>
      have hhere := hgone location List.prefix_rfl
      by_cases hup : left.get? location = none ∧ part = Path.parent
      · have hrest : leave left (location.child part) rest =
            leave right (location.child part) rest := by
          apply ih
          intro front hfront
          rw [hup.2, Location.child_parent] at hfront
          exact hgone front (hfront.trans (List.dropLast_prefix location))
        simp only [leave, hup, hhere.mp hup.1, and_self, if_true]
        rwa [hup.2] at hrest
      · have hother : ¬ (right.get? location = none ∧ part = Path.parent) := by
          rwa [← hhere]
        simp only [leave, if_neg hup, if_neg hother]

end Walk

namespace WellFormed

variable {disk left right : Disk}

theorem of_entries (hentries : ∀ item ∈ disk.tree.entries,
      [] ∉ item.1 ∧ disk.tree.get? item.1.dropLast = some .directory)
    (hcwd : disk.hasCurrentDirectory = true) : disk.WellFormed where
  parent := by
    intro location name entry hentry
    rw [Tree.get?, if_neg (by simp), List.lookup_eq_some_iff] at hentry
    obtain ⟨front, back, hsplit, -⟩ := hentry
    simpa using (hentries (location ++ [name], entry) (by simp [hsplit])).2
  named := by
    intro location entry hentry
    by_cases htop : location = []
    · simp [htop]
    · rw [Tree.get?, if_neg htop, List.lookup_eq_some_iff] at hentry
      obtain ⟨front, back, hsplit, -⟩ := hentry
      exact (hentries (location, entry) (by simp [hsplit])).1
  standing := ⟨disk.cwd, 0, by simp, by simpa [hasCurrentDirectory] using hcwd⟩

theorem directory_of_prefix (hdisk : disk.WellFormed) {front location : Location}
    (hinitial : front <+: location)
    (hlocation : disk.tree.get? location = some .directory) :
    disk.tree.get? front = some .directory := by
  obtain ⟨rest, rfl⟩ := hinitial
  induction rest using List.reverseRecOn with
  | nil => simpa using hlocation
  | append_singleton rest name ih =>
      rw [← List.append_assoc] at hlocation
      exact ih (hdisk.parent hlocation)

theorem not_file_of_prefix_cwd (hdisk : disk.WellFormed) {front : Location}
    (hinitial : front <+: disk.cwd) (content : Bytes) :
    disk.tree.get? front ≠ some (.file content) := by
  intro hfile
  obtain ⟨base, depth, hcwd, hbase⟩ := hdisk.standing
  rw [hcwd] at hinitial
  rcases List.prefix_or_prefix_of_prefix hinitial (List.prefix_append base _) with
    habove | ⟨below, rfl⟩
  · rw [hdisk.directory_of_prefix habove hbase] at hfile
    cases hfile
  · rw [List.prefix_append_right_inj] at hinitial
    cases below with
    | nil =>
        rw [List.append_nil, hbase] at hfile
        cases hfile
    | cons name below =>
        have hempty : name = [] :=
          List.eq_of_mem_replicate (hinitial.subset List.mem_cons_self)
        exact hdisk.named hfile (by simp [hempty])

theorem prefix_cwd_of_prefix_start {cwd front : Location} {path : Path}
    (hinitial : front <+: path.start cwd) : front <+: cwd := by
  simp only [Path.start] at hinitial
  split at hinitial
  · exact hinitial
  · rw [List.prefix_nil.mp hinitial]
    exact List.nil_prefix

theorem none_iff_of_prefix_start (hleft : left.WellFormed) (hright : right.WellFormed)
    (hcwd : left.cwd = right.cwd) (hsame : SameDirectories left.tree right.tree)
    (path : Path) {front : Location} (hinitial : front <+: path.start left.cwd) :
    left.tree.get? front = none ↔ right.tree.get? front = none := by
  have hfront : front <+: left.cwd := prefix_cwd_of_prefix_start hinitial
  have hleftFile := hleft.not_file_of_prefix_cwd hfront
  have hrightFile := hright.not_file_of_prefix_cwd (hcwd ▸ hfront)
  have hdirectory := hsame front
  cases hl : left.tree.get? front with
  | none =>
      cases hr : right.tree.get? front with
      | none => exact Iff.rfl
      | some entry => cases entry <;> grind
  | some entry => cases entry <;> grind

theorem resolve_of_sameDirectories (hleft : left.WellFormed) (hright : right.WellFormed)
    (hcwd : left.cwd = right.cwd) (hsame : SameDirectories left.tree right.tree)
    {path : Path} {place : Location} (hresolve : left.resolve path = .ok place) :
    right.resolve path = .ok place := by
  have henter : left.enter path = right.enter path := by
    simp only [enter, ← hcwd]
    exact leave_of_prefixes path.parts fun front hfront =>
      none_iff_of_prefix_start hleft hright hcwd hsame path hfront
  simp only [resolve, henter] at hresolve ⊢
  cases hlong : isTooLongPath path with
  | true => simp [hlong] at hresolve
  | false =>
      simp only [hlong] at hresolve ⊢
      exact walk_of_sameDirectories hsame hresolve

/-- A file lies in a directory under the last part of any path that leads to it. -/
theorem location_of_openFile (hdisk : disk.WellFormed) {path : Path} {place : Location}
    (hopen : disk.openFile path = .ok place) : ∃ folder, place = folder ++ [path.name] := by
  obtain ⟨-, content, hfind⟩ := openFile_iff.mp hopen
  obtain ⟨hresolve, hfile⟩ := find_file_iff.mp hfind
  obtain ⟨front, hfront⟩ := leave_suffix disk.tree (path.start disk.cwd) path.parts
  have hinitial := leave_prefix disk.tree (path.start disk.cwd) path.parts
  simp only [resolve, enter] at hresolve
  generalize (leave disk.tree (path.start disk.cwd) path.parts).1 = location at *
  generalize (leave disk.tree (path.start disk.cwd) path.parts).2 = rest at *
  cases hlong : isTooLongPath path with
  | true => simp [hlong] at hresolve
  | false =>
      simp only [hlong] at hresolve
      cases rest using List.reverseRecOn with
      | nil =>
          -- All the parts led up, out of a directory that is gone.
          cases hresolve
          exact absurd hfile
            (hdisk.not_file_of_prefix_cwd (prefix_cwd_of_prefix_start hinitial) content)
      | append_singleton rest name =>
          obtain ⟨-, folder, -, hfolder, rfl⟩ := walk_concat.mp hresolve
          have hname : path.name = name := by
            simp [Path.name, ← hfront]
          by_cases hparent : name = Path.parent
          · rw [hparent, Location.child_parent,
              hdisk.directory_of_prefix (List.dropLast_prefix folder) hfolder] at hfile
            cases hfile
          · exact ⟨folder, by rw [Location.child_of_ne_parent folder hparent, hname]⟩

theorem insert_file (hdisk : disk.WellFormed) {folder : Location} {name : Text}
    (hfolder : disk.tree.get? folder = some .directory) (hname : name ≠ [])
    (hplace : disk.tree.get? (folder ++ [name]) ≠ some .directory) (content : Bytes) :
    (disk.insert (folder ++ [name]) (.file content)).WellFormed := by
  have htop : folder ++ [name] ≠ [] := by simp
  have hkept : ∀ location, disk.tree.get? location = some .directory →
      (disk.insert (folder ++ [name]) (.file content)).tree.get? location =
        some .directory := by
    intro location hlocation
    have hne : location ≠ folder ++ [name] := fun heq => hplace (heq ▸ hlocation)
    rw [Disk.insert, Tree.get?_insert_of_ne _ _ hne, hlocation]
  constructor
  · intro location other entry hentry
    by_cases hsame : location ++ [other] = folder ++ [name]
    · have hlocation : location = folder := (List.append_inj' hsame rfl).1
      rw [hlocation]
      exact hkept folder hfolder
    · rw [Disk.insert, Tree.get?_insert_of_ne _ _ hsame] at hentry
      exact hkept location (hdisk.parent hentry)
  · intro location entry hentry
    by_cases hsame : location = folder ++ [name]
    · rw [hsame]
      simp [hdisk.named hfolder, hname.symm]
    · rw [Disk.insert, Tree.get?_insert_of_ne _ _ hsame] at hentry
      exact hdisk.named hentry
  · obtain ⟨base, depth, hcwd, hbase⟩ := hdisk.standing
    exact ⟨base, depth, hcwd, hkept base hbase⟩

end WellFormed

theorem sameDirectories_insert_file {disk : Disk} {place : Location}
    (htop : place ≠ []) (hplace : disk.tree.get? place ≠ some .directory)
    (content : Bytes) :
    SameDirectories disk.tree (disk.insert place (.file content)).tree := by
  intro location
  by_cases hsame : location = place
  · subst hsame
    simp [Disk.insert, Tree.get?_insert _ htop, hplace]
  · rw [Disk.insert, Tree.get?_insert_of_ne _ _ hsame]

theorem top_ne_of_openFile {disk : Disk} {path : Path} {place : Location}
    (hopen : disk.openFile path = .ok place) : place ≠ [] := by
  obtain ⟨-, hfile⟩ := file_of_openFile hopen
  rintro rfl
  cases hfile

/-- The way to a file does not lead through it, so it stays the same whatever the file
holds. -/
theorem openFile_insert_file {disk : Disk} {path : Path} {place : Location}
    (hopen : disk.openFile path = .ok place) (content : Bytes) :
    (disk.insert place (.file content)).openFile path = .ok place := by
  have htop := top_ne_of_openFile hopen
  obtain ⟨hnull, old, hfind⟩ := openFile_iff.mp hopen
  obtain ⟨hresolve, hfile⟩ := find_file_iff.mp hfind
  have hsame : SameDirectories disk.tree (disk.insert place (.file content)).tree :=
    sameDirectories_insert_file htop (by simp [hfile]) content
  have henter : (disk.insert place (.file content)).enter path = disk.enter path := by
    apply leave_of_prefixes
    intro front _
    by_cases hfront : front = place
    · simp [Disk.insert, Tree.get?_insert _ htop, hfront, hfile]
    · rw [Disk.insert, Tree.get?_insert_of_ne _ _ hfront]
  refine openFile_iff.mpr ⟨hnull, content, find_file_iff.mpr ⟨?_, ?_⟩⟩
  · simp only [resolve, henter] at hresolve ⊢
    split at hresolve
    · cases hresolve
    · next hshort =>
        rw [if_neg hshort]
        exact walk_of_sameDirectories hsame hresolve
  · simp [Disk.insert, Tree.get?_insert _ htop]

theorem resolve_concat {disk : Disk} {path : Path} {front : List Text} {name : Text}
    (hparts : path.parts = front ++ [name]) (hname : name ≠ Path.parent)
    {place : Location} :
    disk.resolve path = .ok place ↔
      isTooLongPath path = false ∧ isTooLong name = false ∧ ∃ folder,
        walk disk.tree (leave disk.tree (path.start disk.cwd) front).1
            (leave disk.tree (path.start disk.cwd) front).2 = .ok folder ∧
          disk.tree.get? folder = some .directory ∧ place = folder ++ [name] := by
  simp only [resolve, enter, hparts, leave_concat _ _ _ hname]
  cases hlong : isTooLongPath path with
  | true => simp
  | false => simp [walk_concat, Location.child_of_ne_parent _ hname]

end Weave.Disk
