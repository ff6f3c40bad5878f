import Weave.Disk.Basic

namespace Weave.Disk

/-! Where a path leads is told by its parts alone; the tree only decides whether it
leads there at all. -/

theorem descend_leave (tree : Tree) (location : Location) (parts : List Text) :
    (leave tree location parts).1.descend (leave tree location parts).2 =
      location.descend parts := by
  induction parts generalizing location with
  | nil => rfl
  | cons part rest ih =>
      simp only [leave]
      split
      · exact ih (location.child part)
      · rfl

theorem eq_descend_of_walk {tree : Tree} {location place : Location} {parts : List Text}
    (hwalk : walk tree location parts = .ok place) : place = location.descend parts := by
  induction parts generalizing location with
  | nil => exact (Except.ok.inj hwalk).symm
  | cons part rest ih =>
      simp only [walk] at hwalk
      split at hwalk
      · cases hwalk
      · cases hwalk
      · split at hwalk
        · cases hwalk
        · exact ih hwalk

theorem eq_location_of_resolve {disk : Disk} {path : Path} {place : Location}
    (hresolve : disk.resolve path = .ok place) : place = path.location disk.cwd := by
  simp only [resolve] at hresolve
  split at hresolve
  · cases hresolve
  · rw [eq_descend_of_walk hresolve]
    exact descend_leave disk.tree (path.start disk.cwd) path.parts

theorem eq_location_of_find {disk : Disk} {path : Path} {place : Location} {entry : Entry}
    (hfind : disk.find path = .ok (place, entry)) : place = path.location disk.cwd := by
  simp only [find] at hfind
  cases hresolve : disk.resolve path with
  | error cause => simp [hresolve] at hfind
  | ok location =>
      have hplace : location = place := by
        simp only [hresolve] at hfind
        split at hfind
        · exact congrArg Prod.fst (Except.ok.inj hfind)
        · split at hfind
          · exact congrArg Prod.fst (Except.ok.inj hfind)
          · cases hfind
      rw [← hplace]
      exact eq_location_of_resolve hresolve

theorem entry_of_find {disk : Disk} {path : Path} {place : Location} {entry old : Entry}
    (hfind : disk.find path = .ok (place, entry)) (hold : disk.tree.get? place = some old) :
    entry = old := by
  simp only [find] at hfind
  cases hresolve : disk.resolve path with
  | error cause => simp [hresolve] at hfind
  | ok location =>
      cases hentry : disk.tree.get? location with
      | none =>
          simp only [hresolve, hentry] at hfind
          split at hfind
          · cases hfind
            rw [hentry] at hold
            cases hold
          · cases hfind
      | some found =>
          simp only [hresolve, hentry] at hfind
          cases hfind
          exact Option.some.inj (hentry.symm.trans hold)

theorem find_file_iff {disk : Disk} {path : Path} {place : Location} {content : Bytes} :
    disk.find path = .ok (place, .file content) ↔
      disk.resolve path = .ok place ∧ disk.tree.get? place = some (.file content) := by
  simp only [find]
  cases hresolve : disk.resolve path with
  | error cause => simp
  | ok location =>
      cases hentry : disk.tree.get? location with
      | none =>
          simp only [hentry]
          constructor
          · intro hfind
            split at hfind <;> cases hfind
          · rintro ⟨hlocation, hfile⟩
            rw [← Except.ok.inj hlocation, hentry] at hfile
            cases hfile
      | some entry =>
          simp only [hentry]
          constructor
          · intro hfind
            cases hfind
            exact ⟨rfl, hentry⟩
          · rintro ⟨hlocation, hfile⟩
            cases hlocation
            rw [hentry] at hfile
            cases hfile
            rfl

theorem openFile_iff {disk : Disk} {path : Path} {place : Location} :
    disk.openFile path = .ok place ↔
      hasNull path = false ∧ ∃ content,
        disk.find path = .ok (place, .file content) := by
  simp only [openFile]
  cases hnull : hasNull path with
  | true => simp
  | false =>
      cases hfind : disk.find path with
      | error cause => simp
      | ok found =>
          obtain ⟨location, entry⟩ := found
          cases entry <;> simp

theorem openFile_of_isFile {disk : Disk} {path : Path}
    (hfile : disk.isFile path = .ok true) :
    ∃ location, disk.openFile path = .ok location := by
  simp only [isFile, check] at hfile
  split at hfile
  · cases hfile
  · next hnull =>
      split at hfile
      · next location entry hfind =>
          cases entry with
          | directory => cases hfile
          | file content => exact ⟨location, by simp [openFile, hnull, hfind]⟩
      · cases hfile
      · cases hfile

theorem file_of_openFile {disk : Disk} {path : Path} {place : Location}
    (hopen : disk.openFile path = .ok place) :
    place = path.location disk.cwd ∧
      disk.tree.get? place = some (.file (disk.tree.content place)) := by
  obtain ⟨-, content, hfind⟩ := openFile_iff.mp hopen
  obtain ⟨-, hfile⟩ := find_file_iff.mp hfind
  refine ⟨eq_location_of_find hfind, ?_⟩
  simp only [Tree.content, hfile]

/-! What two disks have in common as far as some locations go. A path whose way
lies within them leads to the same end on both. -/

structure Agree (locations : List Location) (left right : Disk) : Prop where
  cwd : left.cwd = right.cwd
  get? : ∀ location ∈ locations, left.tree.get? location = right.tree.get? location

theorem mem_trail_start (location : Location) (parts : List Text) :
    location ∈ location.trail parts := by
  cases parts <;> simp [Location.trail]

theorem leave_congr {left right : Tree} {location : Location} {parts : List Text}
    (hagree : ∀ place ∈ location.trail parts, left.get? place = right.get? place) :
    leave left location parts = leave right location parts := by
  induction parts generalizing location with
  | nil => rfl
  | cons part rest ih =>
      have hhere : left.get? location = right.get? location :=
        hagree location (mem_trail_start location (part :: rest))
      have hrest : leave left (location.child part) rest =
          leave right (location.child part) rest := by
        apply ih
        intro place hplace
        exact hagree place (List.mem_cons_of_mem location hplace)
      simp only [leave, hhere, hrest]

theorem trail_leave_subset (tree : Tree) (location : Location) (parts : List Text) :
    (leave tree location parts).1.trail (leave tree location parts).2 ⊆
      location.trail parts := by
  induction parts generalizing location with
  | nil => exact fun _ hplace => hplace
  | cons part rest ih =>
      simp only [leave]
      split
      · exact fun place hplace =>
          List.mem_cons_of_mem location (ih (location.child part) hplace)
      · exact fun _ hplace => hplace

theorem walk_congr {left right : Tree} {location : Location} {parts : List Text}
    (hagree : ∀ place ∈ location.trail parts, left.get? place = right.get? place) :
    walk left location parts = walk right location parts := by
  induction parts generalizing location with
  | nil => rfl
  | cons part rest ih =>
      have hhere : left.get? location = right.get? location :=
        hagree location (mem_trail_start location (part :: rest))
      have hrest : walk left (location.child part) rest =
          walk right (location.child part) rest := by
        apply ih
        intro place hplace
        exact hagree place (List.mem_cons_of_mem location hplace)
      simp only [walk, hhere, hrest]

namespace Agree

variable {locations : List Location} {left right : Disk} {path : Path}

theorem enter (hagree : Agree locations left right)
    (hvisited : path.visited left.cwd ⊆ locations) :
    left.enter path = right.enter path := by
  simp only [Disk.enter, ← hagree.cwd]
  exact leave_congr fun place hplace => hagree.get? place (hvisited hplace)

theorem resolve (hagree : Agree locations left right)
    (hvisited : path.visited left.cwd ⊆ locations) :
    left.resolve path = right.resolve path := by
  have hwalk : walk left.tree (left.enter path).1 (left.enter path).2 =
      walk right.tree (left.enter path).1 (left.enter path).2 :=
    walk_congr fun place hplace => hagree.get? place (hvisited
      (trail_leave_subset left.tree (path.start left.cwd) path.parts hplace))
  simp only [Disk.resolve, ← hagree.enter hvisited, hwalk]

theorem get?_of_resolve (hagree : Agree locations left right)
    (hvisited : path.visited left.cwd ⊆ locations) {place : Location}
    (hresolve : left.resolve path = .ok place) :
    left.tree.get? place = right.tree.get? place := by
  rw [eq_location_of_resolve hresolve]
  exact hagree.get? _ (hvisited (Location.descend_mem_trail _ path.parts))

theorem find (hagree : Agree locations left right)
    (hvisited : path.visited left.cwd ⊆ locations) :
    left.find path = right.find path := by
  simp only [Disk.find, ← hagree.resolve hvisited, ← hagree.enter hvisited]
  cases hresolve : left.resolve path with
  | error cause => rfl
  | ok place => simp only [hagree.get?_of_resolve hvisited hresolve]

theorem openFile (hagree : Agree locations left right)
    (hvisited : path.visited left.cwd ⊆ locations) :
    left.openFile path = right.openFile path := by
  simp only [Disk.openFile, hagree.find hvisited]

theorem insert (hagree : Agree locations left right) (place : Location) (entry : Entry) :
    Agree locations (left.insert place entry) (right.insert place entry) where
  cwd := hagree.cwd
  get? := by
    intro location hlocation
    by_cases hplace : location = place
    · subst hplace
      by_cases htop : location = []
      · simp [Disk.insert, htop]
      · simp [Disk.insert, Tree.get?_insert _ htop]
    · simp only [Disk.insert, Tree.get?_insert_of_ne _ entry hplace]
      exact hagree.get? location hlocation

theorem erase (hagree : Agree locations left right) (place : Location) :
    Agree locations (left.erase place) (right.erase place) where
  cwd := hagree.cwd
  get? := by
    intro location hlocation
    by_cases hplace : location = place
    · subst hplace
      by_cases htop : location = []
      · simp [Disk.erase, htop]
      · simp [Disk.erase, Tree.get?_erase _ htop]
    · simp only [Disk.erase, Tree.get?_erase_of_ne _ hplace]
      exact hagree.get? location hlocation

end Agree

end Weave.Disk
