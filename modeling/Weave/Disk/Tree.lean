import Weave.Path.Location
import Weave.Text.Utf8

namespace Weave

inductive Entry
  | directory
  | file (content : Bytes)
  deriving DecidableEq, Repr

namespace Entry

def isFile : Entry → Bool
  | .file _ => true
  | .directory => false

def isDirectory : Entry → Bool
  | .file _ => false
  | .directory => true

end Entry

/-- A file tree, as the entries below its top; the top is always a directory. -/
structure Tree where
  entries : List (Location × Entry) := []
  deriving DecidableEq, Repr

namespace Tree

def get? (tree : Tree) (location : Location) : Option Entry :=
  if location = [] then some .directory else tree.entries.lookup location

def erase (tree : Tree) (location : Location) : Tree :=
  ⟨tree.entries.filter fun item => item.1 ≠ location⟩

def insert (tree : Tree) (location : Location) (entry : Entry) : Tree :=
  ⟨(location, entry) :: (tree.erase location).entries⟩

/-- The content of a file, empty if there is no file. -/
def content (tree : Tree) (location : Location) : Bytes :=
  match tree.get? location with
  | some (.file content) => content
  | _ => []

@[simp] theorem get?_nil (tree : Tree) : tree.get? [] = some .directory := rfl

private theorem lookup_filter_ne (entries : List (Location × Entry))
    (location other : Location) :
    (entries.filter fun item => item.1 ≠ location).lookup other =
      if other = location then none else entries.lookup other := by
  induction entries with
  | nil => simp
  | cons item entries ih =>
      obtain ⟨place, entry⟩ := item
      by_cases hplace : place = location
      · subst hplace
        rw [List.filter_cons_of_neg (by simp), ih]
        by_cases hother : other = place
        · simp [hother]
        · rw [if_neg hother, if_neg hother, List.lookup_cons, beq_false_of_ne hother]
      · rw [List.filter_cons_of_pos (by simpa using hplace), List.lookup_cons,
          List.lookup_cons, ih]
        by_cases hother : other = place
        · subst hother
          simp [hplace]
        · rw [beq_false_of_ne hother]

theorem get?_erase_of_ne (tree : Tree) {location other : Location}
    (hother : other ≠ location) :
    (tree.erase location).get? other = tree.get? other := by
  by_cases htop : other = []
  · simp [htop]
  · simp only [get?, htop, if_false, erase, lookup_filter_ne, hother]

theorem get?_insert_of_ne (tree : Tree) {location other : Location} (entry : Entry)
    (hother : other ≠ location) :
    (tree.insert location entry).get? other = tree.get? other := by
  by_cases htop : other = []
  · simp [htop]
  · have hne : (other == location) = false := by simp [hother]
    simp only [get?, htop, if_false, insert, List.lookup_cons, hne, erase,
      lookup_filter_ne, hother]

theorem get?_erase (tree : Tree) {location : Location} (hlocation : location ≠ [])
    (other : Location) :
    (tree.erase location).get? other =
      if other = location then none else tree.get? other := by
  by_cases hother : other = location
  · subst hother
    simp only [get?, hlocation, if_false, erase, lookup_filter_ne, if_true]
  · simp [get?_erase_of_ne tree hother, hother]

theorem get?_insert (tree : Tree) {location : Location} (hlocation : location ≠ [])
    (entry : Entry) (other : Location) :
    (tree.insert location entry).get? other =
      if other = location then some entry else tree.get? other := by
  by_cases hother : other = location
  · simp [get?, insert, hother, hlocation]
  · simp [get?_insert_of_ne tree entry hother, hother]

@[simp] theorem erase_insert (tree : Tree) (location : Location) (entry : Entry) :
    (tree.insert location entry).erase location = tree.erase location := by
  simp [insert, erase]

@[simp] theorem insert_insert (tree : Tree) (location : Location) (first second : Entry) :
    (tree.insert location first).insert location second =
      tree.insert location second := by
  simp [insert, erase]

end Tree

end Weave
