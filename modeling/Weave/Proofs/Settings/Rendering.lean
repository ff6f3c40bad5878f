import Mathlib.Data.List.Chain
import Mathlib.Logic.ExistsUnique
import Weave.Proofs.Text.Fields
import Weave.Settings
import Weave.Text.Lines

namespace Weave

namespace EnvFile

/-! How a list of assignments may be written down, line by line. -/

def IsGap (text : Text) : Prop :=
  ∀ character ∈ text, character = ' ' ∨ character = '\t'

def OnOneLine (text : Text) : Prop :=
  ∀ character ∈ text, isLineEnd character = false

instance (text : Text) : Decidable (IsGap text) :=
  List.decidableBAll _ text

instance (text : Text) : Decidable (OnOneLine text) :=
  List.decidableBAll _ text

/-- Identifiers are keys, and so are all other names without a blank, a quote, `=` or `#`.
The word in front of an assignment is no key. -/
structure IsKey (key : Text) : Prop where
  ne_nil : key ≠ []
  ne_export : key ≠ exportWord
  characters : ∀ character ∈ key, isKeyCharacter character = true ∧
    character ≠ Text.singleQuote ∧ character ≠ Text.doubleQuote

/-- A value without line ends and without characters that a quoted value could take for
more than themselves. -/
def IsPlain (value : Text) : Prop :=
  ∀ character ∈ value, character ∉
    ['\n', '\r', Text.singleQuote, Text.doubleQuote, '$', Text.backslash, '\x00']

instance (value : Text) : Decidable (IsPlain value) :=
  List.decidableBAll _ value

/-- No `#` follows a blank. -/
abbrev Unbroken (text : Text) : Prop :=
  text.IsChain fun former latter => Text.isBlank former = true → latter ≠ '#'

/-- A value that needs no quotes: no blank at either end, no `#` at its front and none
after a blank. -/
structure IsBare (value : Text) : Prop where
  first : ∀ character ∈ value.head?, Text.isBlank character = false ∧ character ≠ '#'
  last : ∀ character ∈ value.getLast?, Text.isBlank character = false
  unbroken : Unbroken value

inductive Spells (value : Text) : Text → Prop
  | quoted {mark : Char} (hmark : mark = Text.singleQuote ∨ mark = Text.doubleQuote) :
      Spells value (mark :: (value ++ [mark]))
  | bare (hbare : IsBare value) : Spells value value
  | remarked {gap remark : Text} (hbare : IsBare value) (hvalue : value ≠ [])
      (hgap : IsGap gap) (hwide : gap ≠ []) (hremark : OnOneLine remark) :
      Spells value (value ++ (gap ++ '#' :: remark))

inductive Exports : Text → Prop
  | absent : Exports []
  | present {gap : Text} (hgap : IsGap gap) (hwide : gap ≠ []) :
      Exports (exportWord ++ gap)

/-- A line that is written for an assignment, or between two of them. -/
inductive LineSpells : Option Assignment → Text → Prop
  | blank {line : Text} (hblank : ∀ character ∈ line, Text.isBlank character = true)
      (hline : OnOneLine line) : LineSpells none line
  | remark {gap remark : Text} (hgap : IsGap gap) (hremark : OnOneLine remark) :
      LineSpells none (gap ++ '#' :: remark)
  | assignment {key value indent word before after spelling : Text} (hkey : IsKey key)
      (hvalue : IsPlain value) (hindent : IsGap indent) (hword : Exports word)
      (hbefore : IsGap before) (hafter : IsGap after) (hspelling : Spells value spelling) :
      LineSpells (some (key, value))
        (indent ++ (word ++ (key ++ (before ++ '=' :: (after ++ spelling)))))

/-- A text with its assignments in their order. Every line is ended, but what comes after
the last end may be empty. -/
inductive Renders : List Assignment → Text → Prop
  | last {item : Option Assignment} {line : Text} (hline : LineSpells item line) :
      Renders item.toList line
  | line {item : Option Assignment} {line rest : Text} {ending : Ending}
      {items : List Assignment} (hline : LineSpells item line)
      (hending : ending ≠ .missing) (hrest : Renders items rest) :
      Renders (item.toList ++ items) (line ++ (ending.text ++ rest))

/-! Values. -/

theorem IsGap.blank {gap : Text} (hgap : IsGap gap) :
    ∀ character ∈ gap, Text.isBlank character = true := by
  intro character hmem
  rcases hgap character hmem with rfl | rfl <;> decide

theorem IsGap.ne_hash {gap : Text} (hgap : IsGap gap) :
    ∀ character ∈ gap, character ≠ '#' := by
  intro character hmem
  rcases hgap character hmem with rfl | rfl <;> decide

theorem IsPlain.not_quote {value : Text} (hvalue : IsPlain value) {mark : Char}
    (hmark : mark = Text.singleQuote ∨ mark = Text.doubleQuote) : mark ∉ value := by
  intro hmem
  have hplain := hvalue mark hmem
  rcases hmark with rfl | rfl <;> simp at hplain

theorem quotedValue?_closed {mark : Char} {value : Text} (hvalue : mark ∉ value) :
    quotedValue? mark (value ++ [mark]) = some value := by
  have hinside := Text.forall_ne_of_not_mem hvalue
  have htaken : (value ++ [mark]).takeWhile (· ≠ mark) = value :=
    Text.takeWhile_field hinside (by simp)
  have hdropped : (value ++ [mark]).dropWhile (· ≠ mark) = [mark] :=
    Text.dropWhile_field hinside (by simp)
  simp only [quotedValue?, hdropped, htaken]
  rfl

theorem unbroken_of_ne_hash {text : Text} (htext : ∀ character ∈ text, character ≠ '#') :
    Unbroken text := by
  induction text with
  | nil => exact .nil
  | cons first rest ih =>
      rw [Unbroken, List.isChain_cons]
      refine ⟨fun latter hlatter _ => ?_, ?_⟩
      · exact htext latter (List.mem_cons_of_mem first (List.mem_of_head? hlatter))
      · exact ih fun character hmem => htext character (List.mem_cons_of_mem first hmem)

theorem beforeComment_of_unbroken {text : Text} (htext : Unbroken text) :
    beforeComment text = text := by
  induction text with
  | nil => rfl
  | cons first rest ih =>
      obtain ⟨hfirst, hrest⟩ := List.isChain_cons.mp htext
      rw [beforeComment, if_neg, ih hrest]
      simp only [Bool.and_eq_true, decide_eq_true_eq, not_and]
      intro hblank hhash
      exact hfirst '#' hhash hblank rfl

theorem beforeComment_append {front : Text} {blank : Char}
    (hblank : Text.isBlank blank = true) (hfront : Unbroken (front ++ [blank]))
    (remark : Text) : beforeComment (front ++ blank :: '#' :: remark) = front := by
  induction front with
  | nil => simp [beforeComment, hblank]
  | cons first rest ih =>
      obtain ⟨hfirst, hrest⟩ := List.isChain_cons.mp hfront
      have hhead : (rest ++ blank :: '#' :: remark).head? = (rest ++ [blank]).head? := by
        cases rest <;> rfl
      rw [List.cons_append, beforeComment, if_neg, ih hrest]
      simp only [Bool.and_eq_true, decide_eq_true_eq, not_and, hhead]
      intro hbefore hhash
      exact hfirst '#' hhash hbefore rfl

section Bare

variable {value gap : Text}

theorem IsBare.unbroken_after (hbare : IsBare value) (hgap : IsGap gap) :
    Unbroken (gap ++ value) := by
  refine List.isChain_append.mpr ⟨unbroken_of_ne_hash hgap.ne_hash, hbare.unbroken, ?_⟩
  intro _ _ latter hlatter _
  exact (hbare.first latter hlatter).2

theorem IsBare.unbroken_between (hbare : IsBare value) (hgap : IsGap gap) {after : Text}
    (hafter : IsGap after) : Unbroken (after ++ value ++ gap) := by
  refine List.isChain_append.mpr ⟨hbare.unbroken_after hafter,
    unbroken_of_ne_hash hgap.ne_hash, ?_⟩
  intro _ _ latter hlatter _
  exact hgap.ne_hash latter (List.mem_of_head? hlatter)

theorem IsBare.trim_between (hbare : IsBare value) (hvalue : value ≠ []) (hgap : IsGap gap)
    {after : Text} (hafter : IsGap after) : Text.trim (after ++ value ++ gap) = value := by
  have hhead : ∀ character ∈ (value ++ gap).head?, Text.isBlank character = false := by
    rw [List.head?_append_of_ne_nil _ hvalue]
    exact fun character hmem => (hbare.first character hmem).1
  rw [Text.trim, List.append_assoc, Text.trimLeft_append_of_blank hafter.blank,
    Text.trimLeft_of_head hhead, Text.trimRight_append_of_blank hbare.last hgap.blank]

theorem IsBare.unquotedValue_remarked (hbare : IsBare value) (hvalue : value ≠ [])
    (hgap : IsGap gap) (hwide : gap ≠ []) {after : Text} (hafter : IsGap after)
    (remark : Text) :
    unquotedValue (after ++ (value ++ (gap ++ '#' :: remark))) = value := by
  cases hsplit : gap using List.reverseRecOn with
  | nil => exact absurd hsplit hwide
  | append_singleton front blank =>
      rw [hsplit] at hgap
      have hfront : IsGap front := fun character hmem =>
        hgap character (List.mem_append_left [blank] hmem)
      have hunbroken := hbare.unbroken_between hgap hafter
      rw [← List.append_assoc] at hunbroken
      have hcut := beforeComment_append (hgap.blank blank (by simp)) hunbroken remark
      simp only [List.append_assoc, List.cons_append, List.nil_append] at hcut ⊢
      rw [unquotedValue, hcut, ← List.append_assoc]
      exact hbare.trim_between hvalue hfront hafter

theorem IsBare.unquotedValue_eq (hbare : IsBare value) (hvalue : value ≠ []) {after : Text}
    (hafter : IsGap after) : unquotedValue (after ++ value) = value := by
  have hnarrow : IsGap [] := by decide
  have htrim := hbare.trim_between hvalue hnarrow hafter
  rw [List.append_nil] at htrim
  rw [unquotedValue, beforeComment_of_unbroken (hbare.unbroken_after hafter), htrim]

/-- A bare value that is not empty is read as it stands, with what follows it. -/
theorem IsBare.value?_append (hbare : IsBare value) (hplain : IsPlain value)
    (hvalue : value ≠ []) {after : Text} (hafter : IsGap after) (rest : Text) :
    value? (after ++ (value ++ rest)) = some (unquotedValue (after ++ (value ++ rest))) := by
  obtain ⟨first, others, rfl⟩ := List.exists_cons_of_ne_nil hvalue
  have hsingle : first ≠ Text.singleQuote := fun heq =>
    hplain.not_quote (.inl rfl) (heq ▸ List.mem_cons_self)
  have hdouble : first ≠ Text.doubleQuote := fun heq =>
    hplain.not_quote (.inr rfl) (heq ▸ List.mem_cons_self)
  rw [value?, Text.trimLeft_append_of_blank hafter.blank, List.cons_append,
    Text.trimLeft_cons_of_not_blank _ (hbare.first first rfl).1]
  simp [hsingle, hdouble]

end Bare

theorem value?_of_spells {value spelling after : Text} (hplain : IsPlain value)
    (hspelling : Spells value spelling) (hafter : IsGap after) :
    value? (after ++ spelling) = some value := by
  cases hspelling with
  | @quoted mark hmark =>
      have hblank : Text.isBlank mark = false := by
        rcases hmark with rfl | rfl <;> decide
      have hquote : (decide (mark = Text.singleQuote) || decide (mark = Text.doubleQuote)) =
          true := by
        simpa using hmark
      rw [value?, Text.trimLeft_append_of_blank hafter.blank,
        Text.trimLeft_cons_of_not_blank _ hblank]
      simp only [hquote, if_true]
      exact quotedValue?_closed (hplain.not_quote hmark)
  | bare hbare =>
      by_cases hvalue : value = []
      · rw [hvalue, value?, Text.trimLeft_append_of_blank hafter.blank]
        rfl
      · have hread := hbare.value?_append hplain hvalue hafter []
        rw [List.append_nil] at hread
        rw [hread, hbare.unquotedValue_eq hvalue hafter]
  | remarked hbare hvalue hgap hwide =>
      rw [hbare.value?_append hplain hvalue hafter,
        hbare.unquotedValue_remarked hvalue hgap hwide hafter]

/-! Lines. -/

section Key

variable {key rest : Text}

theorem IsKey.inside (hkey : IsKey key) :
    ∀ character ∈ key, isKeyCharacter character = true :=
  fun character hmem => (hkey.characters character hmem).1

theorem not_isKeyCharacter_of_blank {character : Char}
    (hblank : Text.isBlank character = true) : isKeyCharacter character = false := by
  simp [isKeyCharacter, hblank]

/-- A key is never mistaken for the word in front of one: only a whole word is, and the
key is another. -/
theorem IsKey.dropExport_eq (hkey : IsKey key)
    (hrest : ∀ character ∈ rest.head?, isKeyCharacter character = false) :
    dropExport (key ++ rest) = key ++ rest := by
  rw [dropExport, if_neg]
  simp only [Bool.and_eq_true, List.isPrefixOf_iff_prefix, not_and]
  rintro ⟨back, hback⟩ hblank
  rw [← hback, List.drop_left] at hblank
  have hstop : ∀ character ∈ back.head?, isKeyCharacter character = false := by
    intro character hmem
    rw [Option.mem_def.mp hmem] at hblank
    exact not_isKeyCharacter_of_blank hblank
  apply hkey.ne_export
  calc
    key = (key ++ rest).takeWhile isKeyCharacter :=
      (Text.takeWhile_field hkey.inside hrest).symm
    _ = (exportWord ++ back).takeWhile isKeyCharacter := by rw [hback]
    _ = exportWord := Text.takeWhile_field (List.all_eq_true.mp (by decide)) hstop

theorem IsKey.head?_append (hkey : IsKey key) :
    ∀ character ∈ (key ++ rest).head?, Text.isBlank character = false := by
  rw [List.head?_append_of_ne_nil _ hkey.ne_nil]
  intro character hmem
  have hcharacter := (hkey.characters character (List.mem_of_head? hmem)).1
  simp only [isKeyCharacter, Bool.and_eq_true, Bool.not_eq_true'] at hcharacter
  exact hcharacter.2

theorem dropExport_word {gap : Text} (hgap : IsGap gap) (hwide : gap ≠ []) (rest : Text) :
    dropExport (exportWord ++ (gap ++ rest)) = Text.trimLeft rest := by
  obtain ⟨blank, others, rfl⟩ := List.exists_cons_of_ne_nil hwide
  have hblank := hgap.blank blank List.mem_cons_self
  rw [dropExport, List.drop_left, if_pos, Text.trimLeft_append_of_blank hgap.blank]
  simp [List.isPrefixOf_iff_prefix, hblank]

theorem Exports.dropExport_eq {word : Text} (hword : Exports word) (hkey : IsKey key)
    (hrest : ∀ character ∈ rest.head?, isKeyCharacter character = false) {indent : Text}
    (hindent : IsGap indent) :
    dropExport (Text.trimLeft (indent ++ (word ++ (key ++ rest)))) = key ++ rest := by
  rw [Text.trimLeft_append_of_blank hindent.blank]
  cases hword with
  | absent =>
      rw [List.nil_append, Text.trimLeft_of_head hkey.head?_append,
        hkey.dropExport_eq hrest]
  | present hgap hwide =>
      rw [List.append_assoc, Text.trimLeft_of_head (by rintro _ ⟨⟩; decide),
        dropExport_word hgap hwide, Text.trimLeft_of_head hkey.head?_append]

end Key

theorem assignment?_of_spells {item : Option Assignment} {line : Text}
    (hline : LineSpells item line) : assignment? line = item := by
  cases hline with
  | blank hblank =>
      rw [assignment?, Text.trimLeft_eq_nil_iff.mpr hblank]
      rfl
  | remark hgap =>
      rw [assignment?, Text.trimLeft_append_of_blank hgap.blank,
        Text.trimLeft_cons_of_not_blank _ (by decide)]
      rfl
  | @assignment key value indent word before after spelling hkey hvalue hindent hword
      hbefore hafter hspelling =>
      have hrest : ∀ character ∈ (before ++ '=' :: (after ++ spelling)).head?,
          isKeyCharacter character = false := by
        cases before with
        | nil =>
            rintro _ ⟨⟩
            decide
        | cons blank others =>
            rintro _ ⟨⟩
            exact not_isKeyCharacter_of_blank (hbefore.blank blank List.mem_cons_self)
      have hread := Text.takeWhile_field hkey.inside hrest
      have hleft := Text.dropWhile_field hkey.inside hrest
      obtain ⟨first, others, rfl⟩ := List.exists_cons_of_ne_nil hkey.ne_nil
      simp only [assignment?, hword.dropExport_eq hkey hrest hindent, hread, hleft,
        Text.trimLeft_append_of_blank hbefore.blank,
        Text.trimLeft_cons_of_not_blank _ (by decide : Text.isBlank '=' = false),
        value?_of_spells hvalue hspelling hafter, Option.map_some]

/-! Texts. -/

theorem IsGap.onOneLine {gap : Text} (hgap : IsGap gap) : OnOneLine gap := by
  intro character hmem
  rcases hgap character hmem with rfl | rfl <;> decide

theorem IsKey.onOneLine {key : Text} (hkey : IsKey key) : OnOneLine key := by
  intro character hmem
  have hcharacter := (hkey.characters character hmem).1
  cases hend : isLineEnd character with
  | false => rfl
  | true =>
      simp only [isLineEnd, Bool.or_eq_true, decide_eq_true_eq] at hend
      rcases hend with rfl | rfl <;> exact absurd hcharacter (by decide)

theorem IsPlain.onOneLine {value : Text} (hvalue : IsPlain value) : OnOneLine value := by
  intro character hmem
  have hplain := hvalue character hmem
  simp only [List.mem_cons, not_or] at hplain
  simp [isLineEnd, hplain.1, hplain.2.1]

theorem OnOneLine.append {front back : Text} (hfront : OnOneLine front)
    (hback : OnOneLine back) : OnOneLine (front ++ back) := by
  intro character hmem
  rcases List.mem_append.mp hmem with hbefore | hafter
  · exact hfront character hbefore
  · exact hback character hafter

theorem OnOneLine.cons {first : Char} {rest : Text} (hfirst : isLineEnd first = false)
    (hrest : OnOneLine rest) : OnOneLine (first :: rest) := by
  rintro character (- | ⟨_, hmem⟩)
  · exact hfirst
  · exact hrest character hmem

theorem Spells.onOneLine {value spelling : Text} (hvalue : IsPlain value)
    (hspelling : Spells value spelling) : OnOneLine spelling := by
  cases hspelling with
  | @quoted mark hmark =>
      have hend : isLineEnd mark = false := by
        rcases hmark with rfl | rfl <;> decide
      exact .cons hend (hvalue.onOneLine.append (.cons hend (by simp [OnOneLine])))
  | bare => exact hvalue.onOneLine
  | remarked _ _ hgap _ hremark =>
      exact hvalue.onOneLine.append (hgap.onOneLine.append (.cons rfl hremark))

theorem Exports.onOneLine {word : Text} (hword : Exports word) : OnOneLine word := by
  cases hword with
  | absent => simp [OnOneLine]
  | present hgap =>
      have hfirst : OnOneLine exportWord := by decide
      exact hfirst.append hgap.onOneLine

theorem LineSpells.onOneLine {item : Option Assignment} {line : Text}
    (hline : LineSpells item line) : OnOneLine line := by
  cases hline with
  | blank _ hline => exact hline
  | remark hgap hremark => exact hgap.onOneLine.append (.cons rfl hremark)
  | assignment hkey hvalue hindent hword hbefore hafter hspelling =>
      exact hindent.onOneLine.append (hword.onOneLine.append (hkey.onOneLine.append
        (hbefore.onOneLine.append (.cons rfl
          (hafter.onOneLine.append (hspelling.onOneLine hvalue))))))

theorem assignments_append_cons (front : Text) {stop : Char} (hstop : isLineEnd stop = true)
    (rest : Text) :
    assignments (front ++ stop :: rest) = assignments front ++ assignments rest := by
  rw [assignments, List.splitOnP_append_cons _ _ hstop, List.filterMap_append]
  rfl

theorem assignments_line {item : Option Assignment} {line : Text}
    (hline : LineSpells item line) : assignments line = item.toList := by
  rw [assignments, List.splitOnP_eq_singleton hline.onOneLine]
  cases item <;> simp [assignment?_of_spells hline]

theorem assignments_of_renders {items : List Assignment} {text : Text}
    (htext : Renders items text) : assignments text = items := by
  induction htext with
  | last hline => exact assignments_line hline
  | @line item line rest ending items hline hending _ ih =>
      cases ending with
      | missing => exact absurd rfl hending
      | newline =>
          change assignments (line ++ '\n' :: rest) = _
          rw [assignments_append_cons _ rfl, assignments_line hline, ih]
      | returnNewline =>
          -- The second of the two ends leaves an empty line, which assigns nothing.
          change assignments (line ++ '\r' :: ([] ++ '\n' :: rest)) = _
          rw [assignments_append_cons _ rfl, assignments_append_cons _ rfl,
            assignments_line hline, ih]
          rfl

end EnvFile

namespace Settings

/-- Where the value of a key comes from: the environment, if the key is set there at all,
or else the last assignment to it, if there is one. -/
inductive Chosen (environment items : List Assignment) (key : Text) : Option Text → Prop
  | environment {value : Text} (hset : environment.lookup key = some value) :
      Chosen environment items key (some value)
  | file {front back : List Assignment} {value : Text}
      (hunset : environment.lookup key = none)
      (hitems : items = front ++ (key, value) :: back)
      (hlast : ∀ item ∈ back, item.1 ≠ key) : Chosen environment items key (some value)
  | unset (hunset : environment.lookup key = none)
      (habsent : ∀ item ∈ items, item.1 ≠ key) : Chosen environment items key none

variable {environment items : List Assignment} {key : Text}

theorem lookup_reverse_eq_some_iff {value : Text} :
    items.reverse.lookup key = some value ↔
      ∃ front back, items = front ++ (key, value) :: back ∧
        ∀ item ∈ back, item.1 ≠ key := by
  rw [List.lookup_eq_some_iff]
  constructor
  · rintro ⟨back, front, hsplit, hlast⟩
    refine ⟨front.reverse, back.reverse, ?_, ?_⟩
    · rw [← List.reverse_reverse items, hsplit]
      simp
    · intro item hitem heq
      have hother := hlast item (List.mem_reverse.mp hitem)
      simp [heq] at hother
  · rintro ⟨front, back, rfl, hlast⟩
    refine ⟨back.reverse, front.reverse, by simp, ?_⟩
    intro item hitem
    simpa using (hlast item (List.mem_reverse.mp hitem)).symm

theorem lookup_reverse_eq_none_iff :
    items.reverse.lookup key = none ↔ ∀ item ∈ items, item.1 ≠ key := by
  rw [List.lookup_eq_none_iff]
  constructor
  · intro hother item hitem heq
    have hne := hother item (List.mem_reverse.mpr hitem)
    simp [heq] at hne
  · intro habsent item hitem
    simpa using (habsent item (List.mem_reverse.mp hitem)).symm

theorem chosen_iff {choice : Option Text} :
    Chosen environment items key choice ↔ choice = lookup environment items key := by
  constructor
  · intro hchosen
    cases hchosen with
    | environment hset => simp [lookup, hset]
    | file hunset hitems hlast =>
        have hfound := lookup_reverse_eq_some_iff.mpr ⟨_, _, hitems, hlast⟩
        simp [lookup, hunset, hfound]
    | unset hunset habsent =>
        have hnone := lookup_reverse_eq_none_iff.mpr habsent
        simp [lookup, hunset, hnone]
  · rintro rfl
    cases hset : environment.lookup key with
    | some value =>
        rw [lookup, hset]
        exact .environment hset
    | none =>
        rw [lookup, hset, Option.none_or]
        cases hfound : items.reverse.lookup key with
        | none => exact .unset hset (lookup_reverse_eq_none_iff.mp hfound)
        | some value =>
            obtain ⟨front, back, hitems, hlast⟩ := lookup_reverse_eq_some_iff.mp hfound
            exact .file hset hitems hlast

/-- Settings do not depend on how the file is written: every key has its value from the
environment, or else from its last assignment, or else it is the default. -/
theorem ofEnvironment_of_renders {items : List Assignment} {text : Text}
    (htext : EnvFile.Renders items text) (environment : List Assignment) :
    (∀ key, ∃! choice, Chosen environment items key choice) ∧
      ∀ language suffix jobs, Chosen environment items languageKey language →
        Chosen environment items suffixKey suffix →
        Chosen environment items jobsKey jobs →
        ofEnvironment environment (EnvFile.assignments text) =
          ⟨language.getD "js".toList, suffix.getD ".md".toList,
            (jobs.map jobsOf).getD 4⟩ := by
  refine ⟨fun key => ⟨lookup environment items key, chosen_iff.mpr rfl, ?_⟩, ?_⟩
  · intro choice hchoice
    exact chosen_iff.mp hchoice
  · intro language suffix jobs hlanguage hsuffix hjobs
    rw [EnvFile.assignments_of_renders htext, chosen_iff.mp hlanguage, chosen_iff.mp hsuffix,
      chosen_iff.mp hjobs]
    rfl

/-- A line with a quoted value, then one with a bare value and a remark. -/
def twiceText : Text :=
  "export JDI_JOBS='8'".toList ++ ('\r' :: '\n' :: "JDI_JOBS=2 # b".toList)

theorem renders_twice : EnvFile.Renders [(jobsKey, ['8']), (jobsKey, ['2'])] twiceText := by
  have hkey : EnvFile.IsKey jobsKey :=
    ⟨by decide, by decide, @of_decide_eq_true _ (List.decidableBAll _ jobsKey) rfl⟩
  have hbare : EnvFile.IsBare ['2'] := by
    refine ⟨?_, ?_, .singleton _⟩
    all_goals
      rintro _ ⟨⟩
      decide
  have hnarrow : EnvFile.IsGap [] := by decide
  have hgap : EnvFile.IsGap [' '] := by decide
  have hquoted : EnvFile.LineSpells (some (jobsKey, ['8'])) "export JDI_JOBS='8'".toList :=
    .assignment hkey (by decide) hnarrow (.present hgap (by decide)) hnarrow hnarrow
      (.quoted (.inl rfl))
  have hremarked : EnvFile.LineSpells (some (jobsKey, ['2'])) "JDI_JOBS=2 # b".toList :=
    .assignment hkey (by decide) hnarrow .absent hnarrow hnarrow
      (.remarked hbare (by decide) hgap (by decide)
        (by decide : EnvFile.OnOneLine [' ', 'b']))
  exact @EnvFile.Renders.line _ _ _ .returnNewline _ hquoted (by decide) (.last hremarked)

/-- The later of two assignments counts, and so does an empty value in the environment. -/
theorem ofEnvironment_of_renders_twice :
    EnvFile.Renders [(jobsKey, ['8']), (jobsKey, ['2'])] twiceText ∧
      ofEnvironment [(languageKey, [])] (EnvFile.assignments twiceText) =
        ⟨[], ".md".toList, 2⟩ := by
  refine ⟨renders_twice, ?_⟩
  exact (ofEnvironment_of_renders renders_twice [(languageKey, [])]).2 (some []) none
    (some ['2']) (.environment rfl) (.unset rfl (by decide))
    (@Chosen.file _ _ _ [(jobsKey, ['8'])] [] ['2'] rfl rfl (by simp))

end Settings

end Weave
