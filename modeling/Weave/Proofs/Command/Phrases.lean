import Mathlib.Data.List.Induction
import Weave.Command.Options

namespace Weave.Command

/-! Options as they are given, apart from where they stand: a name, perhaps cut short, and for
a setting a value behind it or joined to it. -/

/-- A beginning of the name of a switch that begins no other name. -/
def Switch.CutTo (switch : Switch) (name : Text) : Prop :=
  name <+: switch.name ∧ ∀ other ∈ Switch.all, name <+: other.name → other = switch

instance (switch : Switch) (name : Text) : Decidable (switch.CutTo name) :=
  inferInstanceAs (Decidable (_ ∧ _))

/-- Any value is one for a setting, but the number of workers is a number. -/
def Setting.Fits (setting : Setting) (value : Text) : Prop :=
  setting = .jobs → ∃ number, Text.integer? value = some number ∧ 1 ≤ number

inductive Phrase
  | flag (flag : Flag) (name : Text) (hname : (Switch.flag flag).CutTo name)
  | apart (setting : Setting) (name value : Text)
      (hname : (Switch.setting setting).CutTo name)
      (hvalue : Token.ofArgument value = .ok (.plain value)) (hfits : setting.Fits value)
  | joined (setting : Setting) (name value : Text)
      (hname : (Switch.setting setting).CutTo name)
      (hvalue : value ≠ Token.separatorText) (hfits : setting.Fits value)

namespace Phrase

def arguments : Phrase → List Text
  | .flag _ name _ => [name]
  | .apart _ name value _ _ _ => [name, value]
  | .joined _ name value _ _ _ => [name ++ '=' :: value]

def tokens : Phrase → List Token
  | .flag raised _ _ => [.switch (.flag raised) none]
  | .apart setting _ value _ _ _ => [.switch (.setting setting) none, .plain value]
  | .joined setting _ value _ _ _ => [.switch (.setting setting) (some value)]

def switch : Phrase → Switch
  | .flag raised _ _ => .flag raised
  | .apart setting _ _ _ _ _ => .setting setting
  | .joined setting _ _ _ _ _ => .setting setting

def value? : Phrase → Option Text
  | .flag _ _ _ => none
  | .apart _ _ value _ _ _ => some value
  | .joined _ _ value _ _ _ => some value

/-- What is said about one switch, in order. -/
def mentions (switch : Switch) (phrases : List Phrase) : List (Option Text) :=
  (phrases.filter fun phrase => phrase.switch = switch).map value?

def lastValue (setting : Setting) (phrases : List Phrase) : Option Text :=
  (mentions (.setting setting) phrases).getLast?.join

end Phrase

/-- The number of workers that a value stands for. -/
def Options.count? (value : Text) : Option Nat :=
  (Text.integer? value).map Int.toNat

/-- What options come to: a flag that is given is raised, and of a setting the last value
counts. -/
def Options.given (phrases : List Phrase) : Options where
  language := .ofOption (Phrase.lastValue .language phrases)
  outputDir := .ofOption (Phrase.lastValue .outputDir phrases)
  stdout := phrases.any fun phrase => phrase.switch = .stdout
  jobs := .ofOption ((Phrase.lastValue .jobs phrases).bind Options.count?)
  verbose := phrases.any fun phrase => phrase.switch = .verbose

/-- An argument that cannot be taken for an option. -/
def Bare (argument : Text) : Prop :=
  argument = [] ∨ argument = ['-'] ∨ argument.head? ≠ some '-'

instance (argument : Text) : Decidable (Bare argument) :=
  inferInstanceAs (Decidable (_ ∨ _))

/-! What the arguments are taken for. -/

namespace Switch

variable {switch : Switch} {name : Text}

theorem separator_prefix_name (switch : Switch) : Token.separatorText <+: switch.name := by
  have hall : ∀ other ∈ all, Token.separatorText <+: other.name := by decide
  exact hall switch (mem_all switch)

theorem equals_not_mem_name (switch : Switch) : '=' ∉ switch.name := by
  have hall : ∀ other ∈ all, '=' ∉ other.name := by decide
  exact hall switch (mem_all switch)

theorem filter_eq_all (switch : Switch) : all.filter (· = switch) = [switch] := by
  have hall : ∀ other ∈ all, all.filter (· = other) = [other] := by decide
  exact hall switch (mem_all switch)

theorem CutTo.named_eq (hname : switch.CutTo name) : named name = [switch] := by
  rw [← filter_eq_all switch]
  apply List.filter_congr
  intro other hother
  rw [Bool.eq_iff_iff, List.isPrefixOf_iff_prefix, decide_eq_true_iff]
  constructor
  · exact hname.2 other hother
  · rintro rfl
    exact hname.1

/-- All names begin with the separator, so that no part of it stands for one of them. -/
theorem CutTo.not_prefix_separator (hname : switch.CutTo name) :
    ¬name <+: Token.separatorText := by
  intro hshort
  have hall : ∀ other : Switch, other = switch := fun other =>
    hname.2 other (mem_all other) (hshort.trans (separator_prefix_name other))
  exact absurd ((hall help).trans (hall version).symm) (by decide)

theorem CutTo.exists_tail (hname : switch.CutTo name) :
    ∃ tail, name = '-' :: '-' :: tail := by
  rcases List.prefix_or_prefix_of_prefix hname.1 (separator_prefix_name switch) with
    hshort | ⟨tail, htail⟩
  · exact absurd hshort hname.not_prefix_separator
  · exact ⟨tail, htail.symm⟩

theorem CutTo.equals_not_mem (hname : switch.CutTo name) : '=' ∉ name :=
  fun hmem => equals_not_mem_name switch (hname.1.subset hmem)

end Switch

namespace Token

variable {switch : Switch} {name : Text}

theorem forall_ne_equals (hname : '=' ∉ name) :
    ∀ character ∈ name, decide (character ≠ '=') = true :=
  fun _ hmem => decide_eq_true fun heq => hname (heq ▸ hmem)

theorem splitValue_of_no_equals (hname : '=' ∉ name) : splitValue name = (name, none) := by
  have hdropped : (name ++ []).dropWhile (· ≠ '=') = [] :=
    List.dropWhile_append_of_pos (forall_ne_equals hname)
  rw [List.append_nil] at hdropped
  rw [splitValue, hdropped]

theorem splitValue_joined (hname : '=' ∉ name) (value : Text) :
    splitValue (name ++ '=' :: value) = (name, some value) := by
  rw [splitValue, List.dropWhile_append_of_pos (forall_ne_equals hname),
    List.takeWhile_append_of_pos (forall_ne_equals hname)]
  simp

theorem ofArgument_cut (hname : switch.CutTo name) :
    ofArgument name = .ok (.switch switch none) := by
  obtain ⟨tail, htail⟩ := hname.exists_tail
  have hlong : ofArgument name = long name := by
    rw [htail]
    rfl
  rw [hlong, long, splitValue_of_no_equals hname.equals_not_mem]
  simp only [hname.named_eq]

theorem ofArgument_cut_joined (hname : switch.CutTo name) (value : Text) :
    ofArgument (name ++ '=' :: value) = .ok (.switch switch (some value)) := by
  obtain ⟨tail, htail⟩ := hname.exists_tail
  have hlong : ofArgument (name ++ '=' :: value) = long (name ++ '=' :: value) := by
    rw [htail]
    rfl
  rw [hlong, long, splitValue_joined hname.equals_not_mem]
  simp only [hname.named_eq]

theorem ofArgument_separator :
    ofArgument separatorText = .error (.ambiguous separatorText Switch.all) := rfl

theorem ofArguments_cons {argument : Text} {token : Token} {rest : List Text}
    {tokens : List Token} (htoken : ofArgument argument = .ok token)
    (hrest : ofArguments rest = .ok tokens) :
    ofArguments (argument :: rest) = .ok (token :: tokens) := by
  have hother : argument ≠ separatorText := by
    rintro rfl
    rw [ofArgument_separator] at htoken
    cases htoken
  rw [ofArguments, if_neg hother, htoken, hrest]

theorem ofArguments_phrase (phrase : Phrase) {rest : List Text} {tokens : List Token}
    (hrest : ofArguments rest = .ok tokens) :
    ofArguments (phrase.arguments ++ rest) = .ok (phrase.tokens ++ tokens) := by
  cases phrase with
  | flag flag name hname => exact ofArguments_cons (ofArgument_cut hname) hrest
  | apart setting name value hname hvalue hfits =>
      exact ofArguments_cons (ofArgument_cut hname) (ofArguments_cons hvalue hrest)
  | joined setting name value hname hvalue hfits =>
      exact ofArguments_cons (ofArgument_cut_joined hname value) hrest

theorem ofArguments_phrases (phrases : List Phrase) {rest : List Text}
    {tokens : List Token} (hrest : ofArguments rest = .ok tokens) :
    ofArguments (phrases.flatMap Phrase.arguments ++ rest) =
      .ok (phrases.flatMap Phrase.tokens ++ tokens) := by
  induction phrases with
  | nil => exact hrest
  | cons phrase phrases ih =>
      rw [List.flatMap_cons, List.flatMap_cons, List.append_assoc, List.append_assoc]
      exact ofArguments_phrase phrase ih

theorem ofArgument_bare {argument : Text} (hbare : Bare argument) :
    ofArgument argument = .ok (.plain argument) := by
  rcases hbare with rfl | rfl | hhead
  · rfl
  · rfl
  · cases argument with
    | nil => rfl
    | cons first rest =>
        have hfirst : first ≠ '-' := fun heq => hhead (congrArg some heq)
        simp [ofArgument, hfirst]

theorem ofArguments_files {files rest : List Text} {tokens : List Token}
    (hfiles : ∀ file ∈ files, Bare file) (hrest : ofArguments rest = .ok tokens) :
    ofArguments (files ++ rest) = .ok (files.map .plain ++ tokens) := by
  induction files with
  | nil => exact hrest
  | cons file files ih =>
      rw [List.forall_mem_cons] at hfiles
      exact ofArguments_cons (ofArgument_bare hfiles.1) (ih hfiles.2)

theorem ofArguments_separator (rest : List Text) :
    ofArguments (separatorText :: rest) = .ok (.separator :: rest.map .plain) :=
  if_pos rfl

end Token

/-! What the options come to. -/

theorem Phrase.lastValue_concat (setting : Setting) (phrases : List Phrase)
    (phrase : Phrase) :
    lastValue setting (phrases ++ [phrase]) =
      if phrase.switch = .setting setting then phrase.value? else lastValue setting phrases := by
  by_cases hswitch : phrase.switch = .setting setting
  · simp [lastValue, mentions, hswitch]
  · simp [lastValue, mentions, hswitch]

theorem Phrase.any_eq_mentions (switch : Switch) (phrases : List Phrase) :
    (phrases.any fun phrase => phrase.switch = switch) =
      !(mentions switch phrases).isEmpty := by
  rw [Bool.eq_iff_iff]
  simp [mentions]

theorem Phrase.fits {phrase : Phrase} {setting : Setting} {value : Text}
    (hswitch : phrase.switch = .setting setting) (hvalue : phrase.value? = some value) :
    setting.Fits value := by
  cases phrase with
  | flag flag name hname => cases hswitch
  | apart other name own hname hplain hfits =>
      cases hswitch
      cases hvalue
      exact hfits
  | joined other name own hname hother hfits =>
      cases hswitch
      cases hvalue
      exact hfits

theorem Phrase.fits_of_lastValue {setting : Setting} {phrases : List Phrase} {value : Text}
    (hvalue : lastValue setting phrases = some value) : setting.Fits value := by
  have hmem : some value ∈ mentions (.setting setting) phrases :=
    List.mem_of_getLast? (Option.join_eq_some_iff.mp hvalue)
  obtain ⟨phrase, hphrase, hgiven⟩ := List.mem_map.mp hmem
  exact Phrase.fits (by simpa using (List.mem_filter.mp hphrase).2) hgiven

namespace Options

def put (options : Options) (value : Text) : Setting → Options
  | .language => { options with language := .made value }
  | .outputDir => { options with outputDir := .made value }
  | .jobs => { options with jobs := .ofOption (count? value) }

def give (options : Options) : Phrase → Options
  | .flag flag _ _ => options.raise flag
  | .apart setting _ value _ _ _ => options.put value setting
  | .joined setting _ value _ _ _ => options.put value setting

theorem assign_of_fits (options : Options) {setting : Setting} {value : Text}
    (hfits : setting.Fits value) :
    options.assign value setting = .ok (options.put value setting) := by
  cases setting with
  | language => rfl
  | outputDir => rfl
  | jobs =>
      obtain ⟨number, hnumber, hpos⟩ := hfits rfl
      have hsmall : ¬number < 1 := by omega
      simp [assign, jobsOf, hnumber, hsmall, put, count?, Choice.ofOption]

theorem given_concat (phrases : List Phrase) (phrase : Phrase) :
    given (phrases ++ [phrase]) = (given phrases).give phrase := by
  cases phrase with
  | flag flag name hname =>
      cases flag <;>
        simp [given, give, raise, Phrase.lastValue_concat, Phrase.switch]
  | apart setting name value hname hvalue hfits =>
      cases setting <;>
        simp [given, give, put, Phrase.lastValue_concat, Phrase.switch, Phrase.value?,
          Choice.ofOption]
  | joined setting name value hname hvalue hfits =>
      cases setting <;>
        simp [given, give, put, Phrase.lastValue_concat, Phrase.switch, Phrase.value?,
          Choice.ofOption]

theorem foldl_give (phrases : List Phrase) : phrases.foldl give {} = given phrases := by
  -- From the end, since it is the last phrase that decides.
  induction phrases using List.reverseRecOn with
  | nil => rfl
  | append_singleton phrases phrase ih =>
      rw [List.foldl_append, ih, given_concat]
      rfl

theorem foldl_give_given (before after : List Phrase) :
    after.foldl give (given before) = given (before ++ after) := by
  rw [← foldl_give, ← foldl_give, List.foldl_append]

/-- Only what is said about each switch counts, in the order in which it is said. -/
theorem given_congr {phrases others : List Phrase}
    (hsame : ∀ switch, Phrase.mentions switch phrases = Phrase.mentions switch others) :
    given phrases = given others := by
  have hvalue : ∀ setting,
      Phrase.lastValue setting phrases = Phrase.lastValue setting others := by
    intro setting
    rw [Phrase.lastValue, hsame, Phrase.lastValue]
  have hany : ∀ switch : Switch, (phrases.any fun phrase => phrase.switch = switch) =
      others.any fun phrase => phrase.switch = switch := by
    intro switch
    rw [Phrase.any_eq_mentions, hsame, ← Phrase.any_eq_mentions]
  simp only [given, hvalue, hany]

theorem jobs_given_of_none {phrases : List Phrase}
    (hvalue : Phrase.lastValue .jobs phrases = none) : (given phrases).jobs = .unset := by
  simp [given, hvalue, Choice.ofOption]

theorem jobs_given_of_some {phrases : List Phrase} {value : Text}
    (hvalue : Phrase.lastValue .jobs phrases = some value) :
    ∃ number, Text.integer? value = some number ∧ 1 ≤ number ∧
      (given phrases).jobs = .made number.toNat := by
  obtain ⟨number, hnumber, hpos⟩ := Phrase.fits_of_lastValue hvalue rfl
  refine ⟨number, hnumber, hpos, ?_⟩
  simp [given, hvalue, count?, hnumber, Choice.ofOption]

end Options

end Weave.Command
