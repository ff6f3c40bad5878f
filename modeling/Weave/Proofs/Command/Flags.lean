import Weave.Command.Options

namespace Weave.Command

/-! A flag in front of other arguments is raised and changes nothing else in what they
ask for. -/

def Request.raise (flag : Flag) : Request → Request
  | .query asked => .query asked
  | .weave files options => .weave files (options.raise flag)

namespace Options

theorem raise_comm (options : Options) (first second : Flag) :
    (options.raise first).raise second = (options.raise second).raise first := by
  cases first <;> cases second <;> rfl

theorem assign_raise (options : Options) (flag : Flag) (value : Text)
    (setting : Setting) :
    (options.raise flag).assign value setting =
      (options.assign value setting).map fun assigned => assigned.raise flag := by
  cases setting with
  | language => cases flag <;> rfl
  | outputDir => cases flag <;> rfl
  | jobs =>
      cases hjobs : jobsOf value with
      | error complaint => simp [assign, hjobs, Except.map]
      | ok jobs => cases flag <;> simp [assign, hjobs, Except.map, raise]

theorem assignJoined_raise (options : Options) (flag : Flag) (value : Text)
    (setting : Setting) :
    (options.raise flag).assignJoined value setting =
      (options.assignJoined value setting).map fun assigned => assigned.raise flag := by
  by_cases hvalue : value = Token.separatorText
  · simp only [assignJoined, hvalue, if_true]
    cases setting <;> cases flag <;> rfl
  · simp only [assignJoined, hvalue, if_false]
    exact options.assign_raise flag value setting

end Options

namespace Progress

def raise (progress : Progress) (flag : Flag) : Progress :=
  { progress with options := progress.options.raise flag }

@[simp] theorem options_raise (progress : Progress) (flag : Flag) :
    (progress.raise flag).options = progress.options.raise flag := rfl

theorem close_raise (progress : Progress) (flag : Flag) :
    (progress.raise flag).close = progress.close.raise flag := by
  by_cases hfirst : progress.files = [] ∧ progress.runFiles ≠ []
  · have hraised : (progress.raise flag).files = [] ∧
        (progress.raise flag).runFiles ≠ [] := hfirst
    rw [close, close, if_pos hfirst, if_pos hraised]
    rfl
  · have hraised : ¬ ((progress.raise flag).files = [] ∧
        (progress.raise flag).runFiles ≠ []) := hfirst
    rw [close, close, if_neg hfirst, if_neg hraised]
    rfl

theorem finish_raise (progress : Progress) (flag : Flag) :
    (progress.raise flag).finish = progress.finish.map (Request.raise flag) := by
  by_cases hfiles : progress.files = []
  · simp [finish, raise, hfiles, Except.map]
  · by_cases hextras : progress.extras = []
    · simp [finish, raise, hfiles, hextras, Except.map, Request.raise]
    · simp [finish, raise, hfiles, hextras, Except.map]

theorem shortHelp_raise (tail : Text) (flag : Flag) :
    (shortHelp tail).map (Request.raise flag) = shortHelp tail := by
  unfold shortHelp
  split
  · split <;> rfl
  · rfl

theorem read_raise (flag : Flag) (progress : Progress) (tokens : List Token) :
    (progress.raise flag).read tokens =
      (progress.read tokens).map (Request.raise flag) := by
  fun_induction Progress.read progress tokens with
  | case1 progress => rw [read, close_raise, finish_raise]
  | case2 progress argument rest ih => exact ih
  | case3 progress rest ih => exact ih
  | case4 progress argument rest ih =>
      rw [read, close_raise]
      exact ih
  | case5 progress tail rest => rw [read, shortHelp_raise]
  | case6 progress query rest => rfl
  | case7 progress query value rest => rfl
  | case8 progress other rest closed ih =>
      rw [read, close_raise]
      simp only [options_raise, Options.raise_comm _ flag other]
      exact ih
  | case9 progress other value rest => rfl
  | case10 progress setting value rest closed complaint hassign =>
      change progress.close.options.assignJoined value setting = _ at hassign
      rw [read, close_raise]
      simp only [options_raise, Options.assignJoined_raise, hassign, Except.map]
  | case11 progress setting value rest closed options hassign ih =>
      change progress.close.options.assignJoined value setting = _ at hassign
      rw [read, close_raise]
      simp only [options_raise, Options.assignJoined_raise, hassign]
      exact ih
  | case12 progress setting value rest closed complaint hassign =>
      change progress.close.options.assign value setting = _ at hassign
      rw [read, close_raise]
      simp only [options_raise, Options.assign_raise, hassign, Except.map]
  | case13 progress setting value rest closed options hassign ih =>
      change progress.close.options.assign value setting = _ at hassign
      rw [read, close_raise]
      simp only [options_raise, Options.assign_raise, hassign]
      exact ih
  | case14 progress setting rest hrest =>
      cases rest with
      | nil => rfl
      | cons token rest =>
          cases token with
          | plain value => exact absurd rfl (hrest value rest)
          | separator => rfl
          | switch switch value => rfl
          | shortHelp tail => rfl
          | unknown argument => rfl

end Progress

theorem ofArgument_flag (flag : Flag) :
    Token.ofArgument (Switch.flag flag).name = .ok (.switch (.flag flag) none) := by
  cases flag <;> rfl

theorem ofArguments_flag (flag : Flag) (arguments : List Text) :
    Request.ofArguments ((Switch.flag flag).name :: arguments) =
      (Request.ofArguments arguments).map (Request.raise flag) := by
  have hname : (Switch.flag flag).name ≠ Token.separatorText := by
    cases flag <;> decide
  simp only [Request.ofArguments, Token.ofArguments, if_neg hname, ofArgument_flag]
  cases Token.ofArguments arguments with
  | error complaint => rfl
  | ok tokens => exact Progress.read_raise flag {} tokens

end Weave.Command
