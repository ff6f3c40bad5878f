import Weave.Disk.Tree

namespace Weave

/-- A file tree seen from a current directory. -/
structure Disk where
  cwd : Location := []
  tree : Tree := {}
  deriving DecidableEq, Repr

namespace Disk

inductive Cause
  | missing
  | notDirectory
  | isDirectory
  | busy
  | nameTooLong
  deriving DecidableEq, Repr

def Cause.message : Cause → Text
  | .missing => "[Errno 2] No such file or directory".toList
  | .notDirectory => "[Errno 20] Not a directory".toList
  | .isDirectory => "[Errno 21] Is a directory".toList
  | .busy => "[Errno 16] Device or resource busy".toList
  | .nameTooLong => "[Errno 36] File name too long".toList

inductive Fault
  | failed (cause : Cause) (path : Path)
  | notMoved (cause : Cause) (source target : Path)
  | noCurrentDirectory
  | nullByte
  deriving DecidableEq, Repr

def Fault.message : Fault → Text
  | .failed cause path => cause.message ++ [':', ' '] ++ Text.quoted path.text
  | .notMoved cause source target =>
      cause.message ++ [':', ' '] ++ Text.quoted source.text ++ " -> ".toList ++
        Text.quoted target.text
  | .noCurrentDirectory => Cause.message .missing
  | .nullByte => "embedded null byte".toList

def maxNameBytes : Nat := 255

def isTooLong (part : Text) : Bool :=
  maxNameBytes < (Utf8.encode part).length

/-- Follow parts from a location. Every location but the last has to be a
directory, which is seen before the next part is looked at. -/
def walk (tree : Tree) (location : Location) : List Text → Except Cause Location
  | [] => .ok location
  | part :: rest =>
      match tree.get? location with
      | none => .error .missing
      | some (.file _) => .error .notDirectory
      | some .directory =>
          if isTooLong part then .error .nameTooLong
          else walk tree (location.child part) rest

/-- Leave a directory that is gone: the only way is up. -/
def leave (tree : Tree) (location : Location) : List Text → Location × List Text
  | [] => (location, [])
  | part :: rest =>
      if tree.get? location = none ∧ part = Path.parent then
        leave tree (location.child part) rest
      else (location, part :: rest)

/-- Where the parts of a path begin to be looked up. The current directory may
be gone, and then the path first has to lead out of it. -/
def enter (disk : Disk) (path : Path) : Location × List Text :=
  leave disk.tree (path.start disk.cwd) path.parts

def maxPathBytes : Nat := 4095

def isTooLongPath (path : Path) : Bool :=
  maxPathBytes < (Utf8.encode path.text).length

/-- The length of the whole path is looked at before any of its parts. -/
def resolve (disk : Disk) (path : Path) : Except Cause Location :=
  if isTooLongPath path then .error .nameTooLong
  else walk disk.tree (disk.enter path).1 (disk.enter path).2

def hasCurrentDirectory (disk : Disk) : Bool :=
  disk.tree.get? disk.cwd = some .directory

/-- The entry a path leads to. A current directory that is gone can still be
named from inside. -/
def find (disk : Disk) (path : Path) : Except Cause (Location × Entry) :=
  match disk.resolve path with
  | .error cause => .error cause
  | .ok location =>
      match disk.tree.get? location with
      | some entry => .ok (location, entry)
      | none =>
          if (disk.enter path).2 = [] then .ok (location, .directory)
          else .error .missing

def hasNull (path : Path) : Bool :=
  path.parts.any fun part => part.contains '\x00'

/-- Whether a path leads to an entry of a kind. Only a name that is too long is
a fault; a path that leads nowhere just has no such entry. -/
def check (disk : Disk) (kind : Entry → Bool) (path : Path) : Except Fault Bool :=
  if hasNull path then .ok false
  else
    match disk.find path with
    | .ok (_, entry) => .ok (kind entry)
    | .error .nameTooLong => .error (.failed .nameTooLong path)
    | .error _ => .ok false

def isFile (disk : Disk) (path : Path) : Except Fault Bool :=
  disk.check Entry.isFile path

def isDirectory (disk : Disk) (path : Path) : Except Fault Bool :=
  disk.check Entry.isDirectory path

/-- The location of a file that can be read. -/
def openFile (disk : Disk) (path : Path) : Except Fault Location :=
  if hasNull path then .error .nullByte
  else
    match disk.find path with
    | .error cause => .error (.failed cause path)
    | .ok (_, .directory) => .error (.failed .isDirectory path)
    | .ok (location, .file _) => .ok location

def insert (disk : Disk) (location : Location) (entry : Entry) : Disk :=
  { disk with tree := disk.tree.insert location entry }

def erase (disk : Disk) (location : Location) : Disk :=
  { disk with tree := disk.tree.erase location }

/-- A current directory once a location is removed with all below it. Its names
from there on become empty, which no name in a tree is: a directory made later in
the same place is not the one that was left. -/
def withoutPlace (cwd removed : Location) : Location :=
  if removed.isPrefixOf cwd then
    removed.dropLast ++ List.replicate (cwd.length + 1 - removed.length) []
  else cwd

/-- Remove an entry with everything below it. -/
def removeAll (disk : Disk) (location : Location) : Disk where
  cwd := withoutPlace disk.cwd location
  tree := ⟨disk.tree.entries.filter fun item => !location.isPrefixOf item.1⟩

/-- Open a file for writing: a new file, or an old one emptied. -/
def create (disk : Disk) (path : Path) : Except Fault (Location × Disk) :=
  if hasNull path then .error .nullByte
  else
    match disk.resolve path with
    | .error cause => .error (.failed cause path)
    | .ok location =>
        match disk.tree.get? location with
        | some .directory => .error (.failed .isDirectory path)
        | _ => .ok (location, disk.insert location (.file []))

/-- Remove a file; a file that is not there is no fault. -/
def remove (disk : Disk) (path : Path) : Except Fault Disk :=
  if hasNull path then .error .nullByte
  else
    match disk.find path with
    | .error .missing => .ok disk
    | .error cause => .error (.failed cause path)
    | .ok (_, .directory) => .error (.failed .isDirectory path)
    | .ok (location, .file _) => .ok (disk.erase location)

/-- Move a file over another or to a free place. A path that ends in a step up
names no place. -/
def move (disk : Disk) (source target : Path) : Except Fault Disk :=
  match disk.find source, disk.resolve target with
  | .error cause, _ => .error (.notMoved cause source target)
  | _, .error cause => .error (.notMoved cause source target)
  | .ok (location, entry), .ok place =>
      if target.name = Path.parent then .error (.notMoved .busy source target)
      else
        match disk.tree.get? place with
        | some .directory => .error (.notMoved .isDirectory source target)
        | _ => .ok ((disk.erase location).insert place entry)

end Disk

end Weave
