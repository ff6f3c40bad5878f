import Weave.Settings.EnvFile
import Weave.Text.Numeral

namespace Weave

/-- What the environment decides: the language of a file without an extension,
the suffix of a document's name, and the number of workers. -/
structure Settings where
  language : Text
  suffix : Text
  jobs : Nat
  deriving DecidableEq, Repr

namespace Settings

def languageKey : Text := "JDI_DEFAULT_LANGUAGE".toList

def suffixKey : Text := "JDI_OUTPUT_SUFFIX".toList

def jobsKey : Text := "JDI_JOBS".toList

/-- The environment wins over the file, and a later line of the file over an
earlier one. -/
def lookup (environment file : List Assignment) (key : Text) : Option Text :=
  (environment.lookup key).or (file.reverse.lookup key)

def defaultJobs : Nat := 4

/-- A count below one is raised to one, and one that cannot be read is the
default. -/
def jobsOf (text : Text) : Nat :=
  match Text.integer? text with
  | none => defaultJobs
  | some number => max 1 number.toNat

def ofEnvironment (environment file : List Assignment) : Settings where
  language := (lookup environment file languageKey).getD ['j', 's']
  suffix := (lookup environment file suffixKey).getD ['.', 'm', 'd']
  jobs := ((lookup environment file jobsKey).map jobsOf).getD defaultJobs

theorem jobsOf_pos (text : Text) : 1 ≤ jobsOf text := by
  unfold jobsOf
  split
  · decide
  · exact Nat.le_max_left _ _

theorem one_le_jobs (environment file : List Assignment) :
    1 ≤ (ofEnvironment environment file).jobs := by
  change 1 ≤ ((lookup environment file jobsKey).map jobsOf).getD defaultJobs
  cases lookup environment file jobsKey with
  | none => exact Nat.succ_le_succ (Nat.zero_le 3)
  | some text => exact jobsOf_pos text

end Settings

end Weave
