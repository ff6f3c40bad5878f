import Weave.Command.Options
import Weave.Proofs.Text.Numeral

namespace Weave

open Text.Numeral (Denotes Unseparated)

/-! The number of workers is read twice, from the environment and from an option. Both read
the same numerals and differ in what they make of a number below one or of another text. -/

namespace Settings

variable {environment file : List Assignment} {text : Text}

theorem jobs_of_lookup (hlookup : lookup environment file jobsKey = some text) :
    (ofEnvironment environment file).jobs = jobsOf text := by
  simp [ofEnvironment, hlookup]

theorem jobsOf_of_integer? {number : Int} (hnumber : Text.integer? text = some number) :
    (jobsOf text : Int) = max 1 number := by
  rw [jobsOf, hnumber]
  dsimp only
  omega

theorem jobsOf_of_unreadable (hnone : Text.integer? text = none) : jobsOf text = 4 := by
  rw [jobsOf, hnone]
  rfl

end Settings

namespace Command

theorem Options.jobsOf_of_integer? {text : Text} {number : Int}
    (hnumber : Text.integer? text = some number) :
    jobsOf text =
      if number < 1 then .error (.jobsTooSmall text) else .ok number.toNat := by
  rw [jobsOf, hnumber]

theorem Options.jobsOf_of_unreadable {text : Text} (hnone : Text.integer? text = none) :
    jobsOf text = .error (.jobsInvalid text) := by
  rw [jobsOf, hnone]

/-- A text without information separators is a number for both readers or for none. The
environment raises it to one, the option refuses it below one; what is no number is four for
the one and a complaint for the other. -/
theorem worker_counts_agree (environment file : List Assignment) :
    1 ≤ (Settings.ofEnvironment environment file).jobs ∧
      (∀ text, Unseparated text →
        (∀ number, Denotes text number →
          (Settings.lookup environment file Settings.jobsKey = some text →
            ((Settings.ofEnvironment environment file).jobs : Int) = max 1 number) ∧
          (1 ≤ number → Options.jobsOf text = .ok number.toNat) ∧
          (number < 1 → Options.jobsOf text = .error (.jobsTooSmall text))) ∧
        ((∀ number, ¬Denotes text number) →
          (Settings.lookup environment file Settings.jobsKey = some text →
            (Settings.ofEnvironment environment file).jobs = 4) ∧
          Options.jobsOf text = .error (.jobsInvalid text))) ∧
      ∀ number, 1 ≤ number → (Text.decimal number).length ≤ 4300 →
        (Settings.lookup environment file Settings.jobsKey = some (Text.decimal number) →
          (Settings.ofEnvironment environment file).jobs = number) ∧
        Options.jobsOf (Text.decimal number) = .ok number := by
  refine ⟨Settings.one_le_jobs environment file, fun text hplain => ⟨?_, ?_⟩, ?_⟩
  · intro number hdenotes
    have hnumber := (Text.integer?_eq_some_iff hplain).mpr hdenotes
    refine ⟨fun hlookup => ?_, fun hpos => ?_, fun hsmall => ?_⟩
    · rw [Settings.jobs_of_lookup hlookup, Settings.jobsOf_of_integer? hnumber]
    · rw [Options.jobsOf_of_integer? hnumber, if_neg (by omega)]
    · rw [Options.jobsOf_of_integer? hnumber, if_pos hsmall]
  · intro hmeaningless
    have hnone := (Text.integer?_eq_none_iff hplain).mpr hmeaningless
    refine ⟨fun hlookup => ?_, Options.jobsOf_of_unreadable hnone⟩
    rw [Settings.jobs_of_lookup hlookup, Settings.jobsOf_of_unreadable hnone]
  · intro number hpos hlength
    have hnumber := (Text.integer?_eq_some_iff (Text.unseparated_decimal number)).mpr
      (Text.denotes_decimal hlength)
    refine ⟨fun hlookup => ?_, ?_⟩
    · have hjobs := Settings.jobsOf_of_integer? hnumber
      rw [Settings.jobs_of_lookup hlookup]
      omega
    · rw [Options.jobsOf_of_integer? hnumber, if_neg (by omega), Int.toNat_natCast]

/-- Digits of two scripts, an underscore and a wide blank are twelve for both; two
underscores in a row are no number for either. -/
theorem worker_counts_agree_sample :
    Unseparated " +1_\u0662\u3000".toList ∧ Denotes " +1_\u0662\u3000".toList 12 ∧
      (Settings.ofEnvironment [(Settings.jobsKey, " +1_\u0662\u3000".toList)] []).jobs = 12 ∧
      Options.jobsOf " +1_\u0662\u3000".toList = .ok 12 ∧
      (Settings.ofEnvironment [] [(Settings.jobsKey, "1__0".toList)]).jobs = 4 ∧
      Options.jobsOf "1__0".toList = .error (.jobsInvalid "1__0".toList) := by
  have hgood : Unseparated " +1_\u0662\u3000".toList := by decide
  have hbad : Unseparated "1__0".toList := by decide
  have hdenotes : Denotes " +1_\u0662\u3000".toList 12 := by
    refine ⟨.plus, ["1".toList, "\u0662".toList], ?_, ?_, ?_, ?_⟩
    all_goals decide
  have hmeaningless : ∀ number, ¬Denotes "1__0".toList number :=
    (Text.integer?_eq_none_iff hbad).mp (by decide)
  obtain ⟨hraised, hread, -⟩ := (worker_counts_agree
    [(Settings.jobsKey, " +1_\u0662\u3000".toList)] []).2.1 _ hgood |>.1 12 hdenotes
  obtain ⟨hdefault, hrefused⟩ := (worker_counts_agree
    [] [(Settings.jobsKey, "1__0".toList)]).2.1 _ hbad |>.2 hmeaningless
  refine ⟨hgood, hdenotes, ?_, hread (by decide), hdefault (by decide), hrefused⟩
  exact Int.ofNat_inj.mp (hraised (by decide))

end Command

end Weave
