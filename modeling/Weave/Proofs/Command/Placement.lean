import Weave.Proofs.Command.Phrases

namespace Weave.Command

/-! Reading the arguments. A phrase ends the run of plain arguments before it and leaves
none behind. -/

namespace Progress

def take (progress : Progress) (phrase : Phrase) : Progress :=
  { progress.close with options := progress.options.give phrase }

@[simp] theorem options_close (progress : Progress) :
    progress.close.options = progress.options := by
  unfold close
  split <;> rfl

@[simp] theorem close_close (progress : Progress) : progress.close.close = progress.close := by
  unfold close
  split <;> simp

theorem close_with_options (progress : Progress) (options : Options) :
    ({ progress with options := options } : Progress).close =
      { progress.close with options := options } := by
  unfold close
  split <;> rfl

@[simp] theorem close_take (progress : Progress) (phrase : Phrase) :
    (progress.take phrase).close = progress.take phrase := by
  rw [take, close_with_options, close_close]

/-- Nothing but the options changes where no run is open. -/
theorem foldl_take_of_closed {progress : Progress} (hclosed : progress.close = progress)
    (phrases : List Phrase) :
    phrases.foldl take progress =
      { progress with options := phrases.foldl Options.give progress.options } := by
  induction phrases generalizing progress with
  | nil => rfl
  | cons phrase phrases ih =>
      rw [List.foldl_cons, ih (close_take progress phrase), take, hclosed]
      rfl

theorem close_foldl_take (progress : Progress) (phrases : List Phrase) :
    (phrases.foldl take progress).close =
      { progress.close with options := phrases.foldl Options.give progress.options } := by
  cases phrases with
  | nil =>
      rw [List.foldl_nil, List.foldl_nil, ← close_with_options]
  | cons phrase phrases =>
      rw [List.foldl_cons, foldl_take_of_closed (close_take progress phrase),
        close_with_options, close_take]
      rfl

theorem read_phrase (progress : Progress) (phrase : Phrase) (rest : List Token) :
    progress.read (phrase.tokens ++ rest) = (progress.take phrase).read rest := by
  cases phrase with
  | flag flag name hname => simp [Phrase.tokens, read, take, Options.give]
  | apart setting name value hname hvalue hfits =>
      simp [Phrase.tokens, read, take, Options.give, Options.assign_of_fits _ hfits]
  | joined setting name value hname hvalue hfits =>
      simp [Phrase.tokens, read, take, Options.give, Options.assignJoined, hvalue,
        Options.assign_of_fits _ hfits]

theorem read_phrases (progress : Progress) (phrases : List Phrase) (rest : List Token) :
    progress.read (phrases.flatMap Phrase.tokens ++ rest) =
      (phrases.foldl take progress).read rest := by
  induction phrases generalizing progress with
  | nil => rfl
  | cons phrase phrases ih =>
      rw [List.flatMap_cons, List.append_assoc, read_phrase, ih]
      rfl

theorem read_files (progress : Progress) (files : List Text) (rest : List Token) :
    progress.read (files.map .plain ++ rest) =
      ({ progress with
        run := progress.run ++ files, runFiles := progress.runFiles ++ files } :
          Progress).read rest := by
  induction files generalizing progress with
  | nil => simp
  | cons file files ih =>
      rw [List.map_cons, List.cons_append, read, ih]
      simp [hold]

theorem foldl_take_start (phrases : List Phrase) :
    phrases.foldl take {} = { options := Options.given phrases } := by
  rw [foldl_take_of_closed rfl, Options.foldl_give]

theorem close_first_run {progress : Progress} (hfiles : progress.files = [])
    (hrun : progress.runFiles ≠ []) :
    progress.close =
      { progress with files := progress.runFiles, run := [], runFiles := [] } :=
  if_pos ⟨hfiles, hrun⟩

theorem finish_of_files {files : List Text} (hfiles : files ≠ []) (options : Options) :
    finish { options := options, files := files } = .ok (.weave files options) := by
  simp [finish, hfiles]

theorem read_around (before after : List Phrase) {files : List Text} (hfiles : files ≠ []) :
    read {} (before.flatMap Phrase.tokens ++
        (files.map .plain ++ after.flatMap Phrase.tokens)) =
      .ok (.weave files (Options.given (before ++ after))) := by
  rw [read_phrases, foldl_take_start, read_files, ← List.append_nil (after.flatMap _),
    read_phrases, read, close_foldl_take, close_first_run rfl hfiles,
    ← Options.foldl_give_given]
  exact finish_of_files hfiles _

theorem read_separated (phrases : List Phrase) {files others : List Text}
    (hfiles : files ++ others ≠ []) :
    read {} (phrases.flatMap Phrase.tokens ++
        (files.map .plain ++ .separator :: others.map .plain)) =
      .ok (.weave (files ++ others) (Options.given phrases)) := by
  rw [read_phrases, foldl_take_start, read_files, read, ← List.append_nil (others.map _),
    read_files, read, close_first_run rfl hfiles]
  exact finish_of_files hfiles _

end Progress

theorem Request.ofArguments_of_tokens {arguments : List Text} {tokens : List Token}
    (htokens : Token.ofArguments arguments = .ok tokens) :
    ofArguments arguments = Progress.read {} tokens := by
  rw [ofArguments, htokens]

theorem ofArguments_around (before after : List Phrase) {files : List Text}
    (hfiles : ∀ file ∈ files, Bare file) (hne : files ≠ []) :
    Request.ofArguments (before.flatMap Phrase.arguments ++ files ++
        after.flatMap Phrase.arguments) =
      .ok (.weave files (Options.given (before ++ after))) := by
  have hafter : Token.ofArguments (after.flatMap Phrase.arguments) =
      .ok (after.flatMap Phrase.tokens) := by
    have hend : Token.ofArguments [] = .ok [] := rfl
    simpa using Token.ofArguments_phrases after hend
  have htokens := Token.ofArguments_phrases before (Token.ofArguments_files hfiles hafter)
  rw [List.append_assoc, Request.ofArguments_of_tokens htokens, Progress.read_around _ _ hne]

/-- Options may stand before the files and behind them. The files come out as they are, a flag
is raised if it is given, and a setting has the last value it is given, or its default; so it
does not matter how the options of different names are mixed and how they are spelled. -/
theorem options_anywhere {files : List Text} (hfiles : ∀ file ∈ files, Bare file)
    (hne : files ≠ []) (before after : List Phrase) :
    Request.ofArguments (before.flatMap Phrase.arguments ++ files ++
          after.flatMap Phrase.arguments) =
        .ok (.weave files (Options.given (before ++ after))) ∧
      (∀ settings,
        (Phrase.lastValue .jobs (before ++ after) = none →
          (Options.given (before ++ after)).workers settings = settings.jobs) ∧
        ∀ value, Phrase.lastValue .jobs (before ++ after) = some value →
          ∃ number, Text.integer? value = some number ∧ 1 ≤ number ∧
            ((Options.given (before ++ after)).workers settings : Int) = number) ∧
      ∀ earlier later : List Phrase,
        (∀ switch, Phrase.mentions switch (earlier ++ later) =
          Phrase.mentions switch (before ++ after)) →
        Request.ofArguments (earlier.flatMap Phrase.arguments ++ files ++
            later.flatMap Phrase.arguments) =
          Request.ofArguments (before.flatMap Phrase.arguments ++ files ++
            after.flatMap Phrase.arguments) := by
  refine ⟨ofArguments_around before after hfiles hne, fun settings => ⟨?_, ?_⟩, ?_⟩
  · intro hvalue
    rw [Options.workers, Options.jobs_given_of_none hvalue, Choice.getD_unset]
  · intro value hvalue
    obtain ⟨number, hnumber, hpos, hjobs⟩ := Options.jobs_given_of_some hvalue
    refine ⟨number, hnumber, hpos, ?_⟩
    rw [Options.workers, hjobs, Choice.getD_made]
    omega
  · intro earlier later hsame
    rw [ofArguments_around before after hfiles hne, ofArguments_around earlier later hfiles hne,
      Options.given_congr hsame]

/-- A negative number is a value, a lone dash and an empty text are files, and of two numbers
of workers the later one counts. -/
theorem options_anywhere_sample :
    (∀ file ∈ ["-".toList, "".toList, "a b".toList], Bare file) ∧
      Request.ofArguments ["--std".toList, "--lang".toList, "-1.5".toList, "-".toList,
          "".toList, "a b".toList, "--j=+2".toList, "--jobs".toList, " 1_0".toList] =
        .ok (.weave ["-".toList, "".toList, "a b".toList]
          { language := .made "-1.5".toList, stdout := true, jobs := .made 10 }) := by
  have hfiles : ∀ file ∈ ["-".toList, "".toList, "a b".toList], Bare file := by decide
  exact ⟨hfiles, (options_anywhere hfiles (by decide)
    [.flag .stdout "--std".toList (by decide),
      .apart .language "--lang".toList "-1.5".toList (by decide) rfl (by intro h; cases h)]
    [.joined .jobs "--j".toList "+2".toList (by decide) (by decide)
        fun _ => ⟨2, by decide, by decide⟩,
      .apart .jobs "--jobs".toList " 1_0".toList (by decide) rfl
        fun _ => ⟨10, by decide, by decide⟩]).1⟩

/-- Behind a separator every argument is a file, whatever it looks like, and the options are
those in front. -/
theorem files_behind_separator {files : List Text} (hfiles : ∀ file ∈ files, Bare file)
    (others : List Text) (hne : files ++ others ≠ []) (phrases : List Phrase) :
    Request.ofArguments (phrases.flatMap Phrase.arguments ++ files ++
        Token.separatorText :: others) =
      .ok (.weave (files ++ others) (Options.given phrases)) := by
  have htokens := Token.ofArguments_phrases phrases
    (Token.ofArguments_files hfiles (Token.ofArguments_separator others))
  rw [List.append_assoc, Request.ofArguments_of_tokens htokens, Progress.read_separated _ hne]

/-- The first separator is taken away, a second one is a file. -/
theorem files_behind_separator_sample :
    (∀ file ∈ ["-".toList], Bare file) ∧
      Request.ofArguments ["--verbose".toList, "--output-dir=--x".toList, "-".toList,
          "--".toList, "--".toList, "-h".toList, "--stdout=1".toList] =
        .ok (.weave ["-".toList, "--".toList, "-h".toList, "--stdout=1".toList]
          { outputDir := .made "--x".toList, verbose := true }) := by
  have hfiles : ∀ file ∈ ["-".toList], Bare file := by decide
  exact ⟨hfiles, files_behind_separator hfiles
    ["--".toList, "-h".toList, "--stdout=1".toList] (by decide)
    [.flag .verbose "--verbose".toList (by decide),
      .joined .outputDir "--output-dir".toList "--x".toList (by decide) (by decide)
        (by intro h; cases h)]⟩

end Weave.Command
