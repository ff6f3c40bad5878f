import Weave.Text.Quoted

namespace Weave

/-! A path is a root and a list of parts. Empty parts and single dots leave no
trace, two dots stay as they are, and exactly two slashes in front are a root
of their own. -/

inductive Root
  | relative
  | single
  | double
  deriving DecidableEq, Repr

structure Path where
  root : Root
  parts : List Text
  deriving DecidableEq, Repr

def Root.text : Root → Text
  | .relative => []
  | .single => ['/']
  | .double => ['/', '/']

def Root.ofText : Text → Root
  | '/' :: '/' :: '/' :: _ => .single
  | '/' :: '/' :: _ => .double
  | '/' :: _ => .single
  | _ => .relative

namespace Path

def here : Text := ['.']

def parent : Text := ['.', '.']

def partsOf (text : Text) : List Text :=
  (List.splitOn '/' text).filter fun part => part ≠ [] && part ≠ here

def parse (text : Text) : Path :=
  ⟨Root.ofText text, partsOf text⟩

def text (path : Path) : Text :=
  if path.root = .relative && path.parts.isEmpty then here
  else path.root.text ++ List.intercalate ['/'] path.parts

def name (path : Path) : Text :=
  path.parts.getLast?.getD []

/-- What follows the last dot of a name, unless the dot is its first or last
character. -/
def extension (name : Text) : Text :=
  let tail := (name.reverse.takeWhile (· ≠ '.')).reverse
  if tail.length + 1 < name.length then tail else []

/-- A path with a root of its own replaces the one it is appended to. -/
def append (base other : Path) : Path :=
  if other.root = .relative then ⟨base.root, base.parts ++ other.parts⟩ else other

def join (base : Path) (text : Text) : Path :=
  base.append (parse text)

inductive NameFault
  | emptyName (path : Path)
  | invalidName (name : Text)
  deriving DecidableEq, Repr

def NameFault.message : NameFault → Text
  | .emptyName path =>
      "PosixPath(".toList ++ Text.quoted path.text ++ ") has an empty name".toList
  | .invalidName name => "Invalid name ".toList ++ Text.quoted name

def isName (text : Text) : Bool :=
  text.getLast? ≠ some '/' && Root.ofText text = .relative &&
    (partsOf text).length = 1

/-- The new name takes the place of the last part as it is written. -/
def withName (path : Path) (name : Text) : Except NameFault Path :=
  if path.name = [] then .error (.emptyName path)
  else if isName name then .ok { path with parts := path.parts.dropLast ++ [name] }
  else .error (.invalidName name)

@[simp] theorem append_of_relative (base : Path) (parts : List Text) :
    base.append ⟨.relative, parts⟩ = ⟨base.root, base.parts ++ parts⟩ := rfl

theorem append_of_rooted (base : Path) {other : Path} (hroot : other.root ≠ .relative) :
    base.append other = other := by
  simp [append, hroot]

theorem withName_of_isName {path : Path} {name : Text}
    (hpath : path.name ≠ []) (hname : isName name = true) :
    path.withName name = .ok { path with parts := path.parts.dropLast ++ [name] } := by
  simp [withName, hpath, hname]

end Path

end Weave
