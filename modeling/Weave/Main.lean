import Std.Time.Zoned
import Weave.Command.Reach

namespace Weave.Main

def osPath (location : Location) : String :=
  String.ofList (Path.text ⟨.single, location⟩)

def readEntry (location : Location) : IO (Option Entry) := do
  let path := (← IO.currentDir) / osPath location
  if ← path.isDir then
    return some .directory
  else if ← path.pathExists then
    return some (.file (← IO.FS.readBinFile path).toList)
  else
    return none

def load (disk : Disk) (location : Location) : IO Disk := do
  match ← readEntry location with
  | none => return disk
  | some entry => return disk.insert location entry

/-- A file is replaced in one step, so that no reader sees half of it. -/
def store (location : Location) (content : Bytes) : IO Unit := do
  let path := osPath location
  let draft := path ++ String.ofList Path.draftSuffix
  IO.FS.writeBinFile draft (ByteArray.mk content.toArray)
  IO.FS.rename draft path

def save (before after : Disk) (location : Location) : IO Unit := do
  match before.tree.get? location, after.tree.get? location with
  | old, some (.file content) =>
      unless old = some (.file content) do
        store location content
  | some (.file _), none => IO.FS.removeFile (osPath location)
  | _, _ => return

/-- The settings file is the one in the current directory; nowhere else is one looked
for. -/
def readSettings : IO Settings := do
  let keys := [Settings.languageKey, Settings.suffixKey, Settings.jobsKey]
  let environment ← keys.filterMapM fun key => do
    return (← IO.getEnv (String.ofList key)).map fun value => (key, value.toList)
  let path := (← IO.currentDir) / ".env"
  let file ← if ← path.pathExists then IO.FS.readFile path else pure ""
  return Settings.ofEnvironment environment (EnvFile.assignments file.toList)

def momentOf (now : Std.Time.DateTime) : Moment where
  date := ⟨now.year.toInt.toNat, now.month.toNat, now.day.toNat⟩
  hour := now.hour.toNat
  minute := now.minute.toNat
  second := now.second.toNat
  zone := some ⟨now.offset.second.val * 1000000, now.timezone.abbreviation.toList⟩

def logTime (now : Std.Time.DateTime) : Text :=
  let moment := momentOf now
  Text.decimal moment.date.year ++ '-' :: Text.padded 2 moment.date.month ++
    '-' :: Text.padded 2 moment.date.day ++ ' ' :: moment.writeTime ++
    ',' :: Text.padded 3 now.millisecond.toNat

end Weave.Main

open Weave in
def main (arguments : List String) : IO UInt32 := do
  let settings ← Main.readSettings
  let now ← Std.Time.DateTime.now
  let moment := Main.momentOf now
  let cwd := (Path.parse (toString (← IO.currentDir)).toList).parts
  let words := arguments.map String.toList
  let start : Disk := ⟨cwd, {}⟩
  let places := Command.locations settings moment start words
  let before ← places.foldlM Main.load start
  let outcome := Command.run settings moment before words
  places.forM (Main.save before outcome.disk)
  (← IO.getStdout).putStr (String.ofList outcome.stdout)
  let notices := outcome.notices.flatMap (Command.Notice.text (Main.logTime now))
  (← IO.getStderr).putStr (String.ofList notices)
  match outcome.verdict with
  | .exit code => return UInt32.ofNat code
  | .escaped fault =>
      (← IO.getStderr).putStrLn (String.ofList fault.message)
      return 1
