import Weave.Path.Basic

namespace Weave

/-- The place of an entry: the names from the top of the file tree down to it. -/
abbrev Location := List Text

namespace Location

def child (location : Location) (part : Text) : Location :=
  if part = Path.parent then location.dropLast else location ++ [part]

/-- Where parts lead from a location when nothing is looked up on the way. -/
def descend (location : Location) (parts : List Text) : Location :=
  parts.foldl child location

def trail (location : Location) : List Text → List Location
  | [] => [location]
  | part :: rest => location :: trail (location.child part) rest

def upward (steps : Nat) : List Text :=
  List.replicate steps Path.parent

/-- The parts that lead from a base to a target: up to their last common
location, then down. -/
def partsFrom : Location → Location → List Text
  | baseName :: base, targetName :: target =>
      if baseName = targetName then partsFrom base target
      else upward (base.length + 1) ++ targetName :: target
  | base, target => upward base.length ++ target

end Location

namespace Path

def start (cwd : Location) (path : Path) : Location :=
  if path.root = .relative then cwd else []

def location (cwd : Location) (path : Path) : Location :=
  (path.start cwd).descend path.parts

def visited (cwd : Location) (path : Path) : List Location :=
  (path.start cwd).trail path.parts

def relativeText (cwd : Location) (base target : Path) : Text :=
  text ⟨.relative, Location.partsFrom (base.location cwd) (target.location cwd)⟩

end Path

namespace Location

@[simp] theorem descend_nil (location : Location) : location.descend [] = location := rfl

@[simp] theorem descend_cons (location : Location) (part : Text) (rest : List Text) :
    location.descend (part :: rest) = (location.child part).descend rest := rfl

@[simp] theorem descend_append (location : Location) (front back : List Text) :
    location.descend (front ++ back) = (location.descend front).descend back := by
  simp [descend]

theorem descend_mem_trail (location : Location) (parts : List Text) :
    location.descend parts ∈ location.trail parts := by
  induction parts generalizing location with
  | nil => exact List.mem_singleton.mpr rfl
  | cons part rest ih => exact List.mem_cons_of_mem _ (ih (location.child part))

@[simp] theorem child_parent (location : Location) :
    location.child Path.parent = location.dropLast := rfl

theorem child_of_ne_parent (location : Location) {part : Text}
    (hpart : part ≠ Path.parent) : location.child part = location ++ [part] := by
  simp [child, hpart]

end Location

end Weave
