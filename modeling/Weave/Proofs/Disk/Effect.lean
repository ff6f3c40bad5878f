import Weave.Proofs.Disk.Resolution

namespace Weave.Disk

/-! What each operation does to a disk, and where. -/

@[simp] theorem erase_insert (disk : Disk) (place : Location) (entry : Entry) :
    (disk.insert place entry).erase place = disk.erase place := by
  simp [insert, erase]

@[simp] theorem insert_insert (disk : Disk) (place : Location) (first second : Entry) :
    (disk.insert place first).insert place second = disk.insert place second := by
  simp [insert]

theorem create_iff {disk opened : Disk} {path : Path} {place : Location} :
    disk.create path = .ok (place, opened) ↔
      hasNull path = false ∧ disk.resolve path = .ok place ∧
        disk.tree.get? place ≠ some .directory ∧
          opened = disk.insert place (.file []) := by
  simp only [create]
  cases hnull : hasNull path with
  | true => simp
  | false =>
      cases hresolve : disk.resolve path with
      | error cause => simp
      | ok location =>
          cases hentry : disk.tree.get? location with
          | none => grind
          | some entry => cases entry <;> grind

theorem top_ne_of_create {disk opened : Disk} {path : Path} {place : Location}
    (hcreate : disk.create path = .ok (place, opened)) : place ≠ [] := by
  rintro rfl
  exact (create_iff.mp hcreate).2.2.1 rfl

theorem remove_file {disk : Disk} {path : Path} {place : Location} {content : Bytes}
    (hnull : hasNull path = false) (hfind : disk.find path = .ok (place, .file content)) :
    disk.remove path = .ok (disk.erase place) := by
  simp [remove, hnull, hfind]

theorem remove_cases {disk cleared : Disk} {path : Path}
    (hremove : disk.remove path = .ok cleared) :
    cleared = disk ∨ ∃ content,
      disk.find path = .ok (path.location disk.cwd, .file content) ∧
        cleared = disk.erase (path.location disk.cwd) := by
  simp only [remove] at hremove
  split at hremove
  · cases hremove
  · split at hremove
    · exact .inl (Except.ok.inj hremove).symm
    · cases hremove
    · cases hremove
    · next location content hfind =>
        have hlocation := eq_location_of_find hfind
        subst hlocation
        exact .inr ⟨content, hfind, (Except.ok.inj hremove).symm⟩

/-- A place that could not be opened for writing holds no file to be removed. -/
theorem remove_of_create_error {disk cleared : Disk} {path : Path} {fault : Fault}
    (hcreate : disk.create path = .error fault)
    (hremove : disk.remove path = .ok cleared) : cleared = disk := by
  rcases remove_cases hremove with hsame | ⟨content, hfind, -⟩
  · exact hsame
  · have hnull : hasNull path = false := by
      cases hnull : hasNull path with
      | false => rfl
      | true => simp [remove, hnull] at hremove
    obtain ⟨hresolve, hfile⟩ := find_file_iff.mp hfind
    simp [create, hnull, hresolve, hfile] at hcreate

theorem move_iff {disk moved : Disk} {source target : Path} :
    disk.move source target = .ok moved ↔
      target.name ≠ Path.parent ∧ ∃ location entry place,
        disk.find source = .ok (location, entry) ∧ disk.resolve target = .ok place ∧
          disk.tree.get? place ≠ some .directory ∧
            moved = (disk.erase location).insert place entry := by
  simp only [move]
  cases hfind : disk.find source with
  | error cause => simp
  | ok found =>
      obtain ⟨location, entry⟩ := found
      cases hresolve : disk.resolve target with
      | error cause => simp
      | ok place =>
          by_cases hparent : target.name = Path.parent
          · simp [hparent]
          · cases hentry : disk.tree.get? place with
            | none => grind
            | some old => cases old <;> grind

namespace Agree

variable {locations : List Location} {left right : Disk} {path : Path}

theorem create (hagree : Agree locations left right)
    (hvisited : path.visited left.cwd ⊆ locations) :
    (∃ fault, left.create path = .error fault ∧ right.create path = .error fault) ∨
      ∃ place, left.create path = .ok (place, left.insert place (.file [])) ∧
        right.create path = .ok (place, right.insert place (.file [])) := by
  simp only [Disk.create, ← hagree.resolve hvisited]
  cases hnull : hasNull path with
  | true => exact .inl ⟨.nullByte, rfl, rfl⟩
  | false =>
      cases hresolve : left.resolve path with
      | error cause => exact .inl ⟨.failed cause path, rfl, rfl⟩
      | ok place =>
          simp only [← hagree.get?_of_resolve hvisited hresolve]
          cases left.tree.get? place with
          | none => exact .inr ⟨place, rfl, rfl⟩
          | some entry =>
              cases entry with
              | directory => exact .inl ⟨.failed .isDirectory path, rfl, rfl⟩
              | file content => exact .inr ⟨place, rfl, rfl⟩

theorem remove (hagree : Agree locations left right)
    (hvisited : path.visited left.cwd ⊆ locations) :
    (∃ fault, left.remove path = .error fault ∧ right.remove path = .error fault) ∨
      (left.remove path = .ok left ∧ right.remove path = .ok right) ∨
        ∃ place, left.remove path = .ok (left.erase place) ∧
          right.remove path = .ok (right.erase place) := by
  simp only [Disk.remove, ← hagree.find hvisited]
  cases hnull : hasNull path with
  | true => exact .inl ⟨.nullByte, rfl, rfl⟩
  | false =>
      cases hfind : left.find path with
      | error cause =>
          cases cause with
          | missing => exact .inr (.inl ⟨rfl, rfl⟩)
          | notDirectory => exact .inl ⟨.failed .notDirectory path, rfl, rfl⟩
          | isDirectory => exact .inl ⟨.failed .isDirectory path, rfl, rfl⟩
          | busy => exact .inl ⟨.failed .busy path, rfl, rfl⟩
          | nameTooLong => exact .inl ⟨.failed .nameTooLong path, rfl, rfl⟩
      | ok found =>
          obtain ⟨place, entry⟩ := found
          cases entry with
          | directory => exact .inl ⟨.failed .isDirectory path, rfl, rfl⟩
          | file content => exact .inr (.inr ⟨place, rfl, rfl⟩)

theorem move {source target : Path} (hagree : Agree locations left right)
    (hsource : source.visited left.cwd ⊆ locations)
    (htarget : target.visited left.cwd ⊆ locations) :
    (∃ fault, left.move source target = .error fault ∧
        right.move source target = .error fault) ∨
      ∃ location place entry,
        left.move source target = .ok ((left.erase location).insert place entry) ∧
          right.move source target = .ok ((right.erase location).insert place entry) := by
  simp only [Disk.move, ← hagree.find hsource, ← hagree.resolve htarget]
  cases hfind : left.find source with
  | error cause => exact .inl ⟨.notMoved cause source target, rfl, rfl⟩
  | ok found =>
      obtain ⟨location, entry⟩ := found
      cases hresolve : left.resolve target with
      | error cause => exact .inl ⟨.notMoved cause source target, rfl, rfl⟩
      | ok place =>
          simp only [← hagree.get?_of_resolve htarget hresolve]
          split
          · exact .inl ⟨.notMoved .busy source target, rfl, rfl⟩
          · cases left.tree.get? place with
            | none => exact .inr ⟨location, place, entry, rfl, rfl⟩
            | some old =>
                cases old with
                | directory =>
                    exact .inl ⟨.notMoved .isDirectory source target, rfl, rfl⟩
                | file content => exact .inr ⟨location, place, entry, rfl, rfl⟩

end Agree

/-! A disk after some work that leaves all but a few places alone. -/

structure SameBut (places : List Location) (before after : Disk) : Prop where
  cwd : after.cwd = before.cwd
  get? : ∀ location, location ∉ places →
    after.tree.get? location = before.tree.get? location

namespace SameBut

variable {places : List Location} {before middle after : Disk}

theorem refl (places : List Location) (disk : Disk) : SameBut places disk disk :=
  ⟨rfl, fun _ _ => rfl⟩

theorem trans (hfirst : SameBut places before middle)
    (hsecond : SameBut places middle after) : SameBut places before after where
  cwd := hsecond.cwd.trans hfirst.cwd
  get? := fun location hlocation =>
    (hsecond.get? location hlocation).trans (hfirst.get? location hlocation)

theorem insert (hsame : SameBut places before after) {place : Location}
    (hplace : place ∈ places) (entry : Entry) :
    SameBut places before (after.insert place entry) where
  cwd := hsame.cwd
  get? := by
    intro location hlocation
    have hne : location ≠ place := fun heq => hlocation (heq ▸ hplace)
    simp only [Disk.insert, Tree.get?_insert_of_ne _ entry hne]
    exact hsame.get? location hlocation

theorem erase (hsame : SameBut places before after) {place : Location}
    (hplace : place ∈ places) : SameBut places before (after.erase place) where
  cwd := hsame.cwd
  get? := by
    intro location hlocation
    have hne : location ≠ place := fun heq => hlocation (heq ▸ hplace)
    simp only [Disk.erase, Tree.get?_erase_of_ne _ hne]
    exact hsame.get? location hlocation

end SameBut

end Weave.Disk
