import Mathlib.Data.List.Basic
import Mathlib.Data.Nat.Digits.Defs
import Weave.Text.Numeral
import Weave.Text.Radix

namespace Weave.Text

def digitValue (character : Char) : Nat :=
  (digit? character).getD 0

theorem digit?_of_isDigit {character : Char} (hdigit : isDigit character = true) :
    digit? character = some (digitValue character) := by
  obtain ⟨value, hvalue⟩ := Option.isSome_iff_exists.mp hdigit
  simp [digitValue, hvalue]

theorem isDigit_of_digit? {character : Char} {value : Nat}
    (hdigit : digit? character = some value) :
    isDigit character = true ∧ digitValue character = value := by
  simp [isDigit, digitValue, hdigit]

namespace Numeral

/-! The numerals as a grammar: a sign or none, then groups of digits with an underscore
between one group and the next. -/

inductive Sign
  | missing
  | plus
  | minus

def Sign.text : Sign → Text
  | .missing => []
  | .plus => ['+']
  | .minus => ['-']

def Sign.apply : Sign → Nat → Int
  | .missing, number => number
  | .plus, number => number
  | .minus, number => -number

structure Grouped (groups : List Text) : Prop where
  ne_nil : groups ≠ []
  group_ne_nil : ∀ group ∈ groups, group ≠ []
  isDigit : ∀ group ∈ groups, ∀ character ∈ group, isDigit character = true

instance (groups : List Text) : Decidable (Grouped groups) :=
  decidable_of_iff (groups ≠ [] ∧ (∀ group ∈ groups, group ≠ []) ∧
      ∀ group ∈ groups, group.all Text.isDigit = true)
    ⟨fun ⟨hne, hnonempty, hdigits⟩ =>
        ⟨hne, hnonempty, fun group hgroup => List.all_eq_true.mp (hdigits group hgroup)⟩,
      fun hgroups => ⟨hgroups.ne_nil, hgroups.group_ne_nil, fun group hgroup =>
        List.all_eq_true.mpr (hgroups.isDigit group hgroup)⟩⟩

/-- The number a text stands for: the blanks around it do not count, and it has at most 4300
digits, the zeros in front among them. -/
def Denotes (text : Text) (number : Int) : Prop :=
  ∃ (sign : Sign) (groups : List Text), Grouped groups ∧
    trim text = sign.text ++ List.intercalate ['_'] groups ∧
    groups.flatten.length ≤ 4300 ∧
    number = sign.apply (Nat.ofDigits 10 (groups.flatten.map digitValue).reverse)

/-- No information separators, which are blank but do not surround a number. -/
def Unseparated (text : Text) : Prop :=
  ∀ character ∈ text, ¬(0x1C ≤ character.toNat ∧ character.toNat ≤ 0x1F)

instance (text : Text) : Decidable (Unseparated text) :=
  List.decidableBAll _ text

/-! The digits of a numeral. -/

theorem intercalate_cons_cons_cons (separator : Text) (character : Char) (group : Text)
    (groups : List Text) :
    List.intercalate separator ((character :: group) :: groups) =
      character :: List.intercalate separator (group :: groups) := by
  cases groups <;> simp [List.intercalate_cons_cons]

theorem moreDigits?_underscore (rest : Text) : moreDigits? ('_' :: rest) = digits? rest := by
  cases rest <;> rfl

theorem moreDigits?_digit {character : Char} (hdigit : isDigit character = true)
    (rest : Text) :
    moreDigits? (character :: rest) = (moreDigits? rest).map (digitValue character :: ·) := by
  have hother : character ≠ '_' := by
    rintro rfl
    exact absurd hdigit (by decide)
  rw [moreDigits?.eq_def]
  simp only [if_neg hother, digit?_of_isDigit hdigit, Option.bind_some]

theorem digits?_cons {character : Char} (hdigit : isDigit character = true) (rest : Text) :
    digits? (character :: rest) = moreDigits? (character :: rest) := by
  rw [moreDigits?_digit hdigit, digits?, digit?_of_isDigit hdigit, Option.bind_some]

theorem moreDigits?_append {group : Text}
    (hgroup : ∀ character ∈ group, isDigit character = true) (rest : Text) :
    moreDigits? (group ++ rest) =
      (moreDigits? rest).map (group.map digitValue ++ ·) := by
  induction group with
  | nil => simp
  | cons character group ih =>
      rw [List.forall_mem_cons] at hgroup
      rw [List.cons_append, moreDigits?_digit hgroup.1, ih hgroup.2, Option.map_map]
      rfl

theorem digits?_append {group : Text} (hne : group ≠ [])
    (hgroup : ∀ character ∈ group, isDigit character = true) (rest : Text) :
    digits? (group ++ rest) = (moreDigits? rest).map (group.map digitValue ++ ·) := by
  obtain ⟨character, others, rfl⟩ := List.exists_cons_of_ne_nil hne
  rw [List.cons_append, digits?_cons (hgroup character List.mem_cons_self),
    ← List.cons_append, moreDigits?_append hgroup]

theorem digits?_intercalate {groups : List Text} (hgroups : Grouped groups) :
    digits? (List.intercalate ['_'] groups) = some (groups.flatten.map digitValue) := by
  obtain ⟨hne, hnonempty, hdigits⟩ := hgroups
  induction groups with
  | nil => exact absurd rfl hne
  | cons group groups ih =>
      rw [List.forall_mem_cons] at hnonempty hdigits
      have hfirst := digits?_append hnonempty.1 hdigits.1
      cases groups with
      | nil => simpa [moreDigits?] using hfirst []
      | cons next groups =>
          have hrest := ih (List.cons_ne_nil next groups) hnonempty.2 hdigits.2
          rw [List.intercalate_cons_cons, List.append_assoc, hfirst, List.singleton_append,
            moreDigits?_underscore, hrest, Option.map_some, ← List.map_append]
          rfl

theorem exists_of_digit_cons {character : Char} {rest : Text} {values : List Nat}
    (hvalues : ((digit? character).bind fun value => (moreDigits? rest).map (value :: ·)) =
      some values) :
    isDigit character = true ∧
      ∃ others, moreDigits? rest = some others ∧ values = digitValue character :: others := by
  obtain ⟨value, hdigit, hmore⟩ := Option.bind_eq_some_iff.mp hvalues
  obtain ⟨others, hothers, rfl⟩ := Option.map_eq_some_iff.mp hmore
  obtain ⟨hcharacter, rfl⟩ := isDigit_of_digit? hdigit
  exact ⟨hcharacter, others, hothers, rfl⟩

/-- What follows a digit continues its group, which may end at once. -/
theorem exists_groups_of_moreDigits? {text : Text} {values : List Nat}
    (hvalues : moreDigits? text = some values) :
    ∃ group groups, text = List.intercalate ['_'] (group :: groups) ∧
      (∀ other ∈ groups, other ≠ []) ∧
      (∀ other ∈ group :: groups, ∀ character ∈ other, isDigit character = true) ∧
      values = (group :: groups).flatten.map digitValue := by
  fun_induction moreDigits? text generalizing values with
  | case1 => exact ⟨[], [], rfl, by simp, by simp, by simpa using hvalues.symm⟩
  | case2 => cases hvalues
  | case3 second rest ih =>
      obtain ⟨hsecond, others, hothers, rfl⟩ := exists_of_digit_cons hvalues
      obtain ⟨group, groups, rfl, hnonempty, hdigits, rfl⟩ := ih hothers
      -- The underscore ends the group before it; the digit behind it begins the next one.
      refine ⟨[], (second :: group) :: groups, ?_, ?_, ?_, by simp⟩
      · rw [List.intercalate_cons_cons, intercalate_cons_cons_cons]
        rfl
      · simpa using hnonempty
      · simpa [hsecond] using hdigits
  | case4 first rest hother ih =>
      obtain ⟨hfirst, others, hothers, rfl⟩ := exists_of_digit_cons hvalues
      obtain ⟨group, groups, rfl, hnonempty, hdigits, rfl⟩ := ih hothers
      refine ⟨first :: group, groups, ?_, hnonempty, ?_, by simp⟩
      · rw [intercalate_cons_cons_cons]
      · simpa [hfirst] using hdigits

theorem exists_groups_of_digits? {text : Text} {values : List Nat}
    (hvalues : digits? text = some values) :
    ∃ groups, Grouped groups ∧ text = List.intercalate ['_'] groups ∧
      values = groups.flatten.map digitValue := by
  cases text with
  | nil => cases hvalues
  | cons first rest =>
      obtain ⟨hfirst, others, hothers, rfl⟩ := exists_of_digit_cons hvalues
      obtain ⟨group, groups, rfl, hnonempty, hdigits, rfl⟩ :=
        exists_groups_of_moreDigits? hothers
      refine ⟨(first :: group) :: groups, ⟨by simp, ?_, ?_⟩, ?_, by simp⟩
      · simpa using hnonempty
      · simpa [hfirst] using hdigits
      · rw [intercalate_cons_cons_cons]

theorem value_eq_ofDigits (digits : List Nat) :
    value digits = Nat.ofDigits 10 digits.reverse := by
  rw [value, Nat.ofDigits_eq_foldr, List.foldr_reverse]
  apply List.foldl_ext
  intro total digit _
  simp only [Nat.cast_id]
  omega

theorem natural?_eq_some_iff {text : Text} {number : Nat} :
    natural? text = some number ↔
      ∃ groups, Grouped groups ∧ text = List.intercalate ['_'] groups ∧
        groups.flatten.length ≤ 4300 ∧
        number = Nat.ofDigits 10 (groups.flatten.map digitValue).reverse := by
  rw [natural?, Option.bind_eq_some_iff]
  constructor
  · rintro ⟨values, hvalues, hnumber⟩
    obtain ⟨groups, hgroups, htext, rfl⟩ := exists_groups_of_digits? hvalues
    rw [List.length_map] at hnumber
    split at hnumber
    · next hlength =>
        rw [value_eq_ofDigits] at hnumber
        exact ⟨groups, hgroups, htext, hlength, (Option.some.inj hnumber).symm⟩
    · cases hnumber
  · rintro ⟨groups, hgroups, rfl, hlength, rfl⟩
    refine ⟨groups.flatten.map digitValue, digits?_intercalate hgroups, ?_⟩
    rw [List.length_map, maxDigits, if_pos hlength, value_eq_ofDigits]

/-! The sign, and the blanks around the whole. -/

theorem isDigit_of_natural? {first : Char} {rest : Text} {absolute : Nat}
    (habsolute : natural? (first :: rest) = some absolute) : isDigit first = true := by
  obtain ⟨values, hvalues, -⟩ := Option.bind_eq_some_iff.mp habsolute
  exact (exists_of_digit_cons hvalues).1

theorem signed?_minus (rest : Text) :
    signed? ('-' :: rest) = (natural? rest).map fun number : Nat => -(number : Int) := by
  cases hrest : natural? rest <;> simp [signed?, hrest]

theorem signed?_eq_some_iff {text : Text} {number : Int} :
    signed? text = some number ↔
      ∃ (sign : Sign) (body : Text) (absolute : Nat), text = sign.text ++ body ∧
        natural? body = some absolute ∧ number = sign.apply absolute := by
  constructor
  · intro hnumber
    cases text with
    | nil => cases hnumber
    | cons first rest =>
        by_cases hminus : first = '-'
        · rw [hminus, signed?_minus] at hnumber
          obtain ⟨absolute, habsolute, hsame⟩ := Option.map_eq_some_iff.mp hnumber
          exact ⟨.minus, rest, absolute, by rw [hminus]; rfl, habsolute, hsame.symm⟩
        · rw [signed?, if_neg hminus] at hnumber
          split at hnumber
          · next hplus =>
              obtain ⟨absolute, habsolute, hsame⟩ := Option.map_eq_some_iff.mp hnumber
              exact ⟨.plus, rest, absolute, by rw [hplus]; rfl, habsolute, hsame.symm⟩
          · obtain ⟨absolute, habsolute, hsame⟩ := Option.map_eq_some_iff.mp hnumber
            exact ⟨.missing, first :: rest, absolute, rfl, habsolute, hsame.symm⟩
  · rintro ⟨sign, body, absolute, rfl, habsolute, rfl⟩
    cases sign with
    | plus => simp [Sign.text, signed?, habsolute, Sign.apply]
    | minus => simp [Sign.text, signed?_minus, habsolute, Sign.apply]
    | missing =>
        cases body with
        | nil => cases habsolute
        | cons first rest =>
            -- A sign is no digit, so that a numeral without one is not read as if it had.
            have hfirst := isDigit_of_natural? habsolute
            have hminus : first ≠ '-' := fun heq => absurd (heq ▸ hfirst) (by decide)
            have hplus : first ≠ '+' := fun heq => absurd (heq ▸ hfirst) (by decide)
            simp [Sign.text, signed?, hminus, hplus, habsolute, Sign.apply]

theorem dropWhile_isPadding {text : Text} (hplain : Unseparated text) :
    text.dropWhile isPadding = text.dropWhile isBlank := by
  induction text with
  | nil => rfl
  | cons character text ih =>
      rw [Unseparated, List.forall_mem_cons] at hplain
      have hsame : isPadding character = isBlank character := by
        simp only [isPadding, Bool.and_eq_left_iff_imp, Bool.not_eq_true', Bool.and_eq_false_iff,
          decide_eq_false_iff_not]
        omega
      rw [List.dropWhile_cons, List.dropWhile_cons, hsame, ih hplain.2]

theorem strip_eq_trim {text : Text} (hplain : Unseparated text) :
    strip text = trim text := by
  rw [strip, trim, trimRight, trimLeft, dropWhile_isPadding hplain, dropWhile_isPadding]
  intro character hmem
  apply hplain
  exact (List.dropWhile_sublist isBlank).subset (List.mem_reverse.mp hmem)

end Numeral

theorem integer?_eq_some_iff {text : Text} (hplain : Numeral.Unseparated text)
    {number : Int} : integer? text = some number ↔ Numeral.Denotes text number := by
  rw [integer?, Numeral.strip_eq_trim hplain, Numeral.signed?_eq_some_iff]
  constructor
  · rintro ⟨sign, body, absolute, htext, habsolute, rfl⟩
    obtain ⟨groups, hgroups, rfl, hlength, rfl⟩ := Numeral.natural?_eq_some_iff.mp habsolute
    exact ⟨sign, groups, hgroups, htext, hlength, rfl⟩
  · rintro ⟨sign, groups, hgroups, htext, hlength, rfl⟩
    exact ⟨sign, _, _, htext,
      Numeral.natural?_eq_some_iff.mpr ⟨groups, hgroups, rfl, hlength, rfl⟩, rfl⟩

theorem integer?_eq_none_iff {text : Text} (hplain : Numeral.Unseparated text) :
    integer? text = none ↔ ∀ number, ¬Numeral.Denotes text number := by
  rw [Option.eq_none_iff_forall_ne_some]
  exact forall_congr' fun number => not_congr (integer?_eq_some_iff hplain)

/-! The decimal text of a number denotes it. -/

theorem toNat_of_mem_decimal {number : Nat} {character : Char}
    (hmem : character ∈ decimal number) : 48 ≤ character.toNat ∧ character.toNat ≤ 57 := by
  simpa [Char.isDigit, UInt32.le_iff_toNat_le] using isDigit_of_mem_decimal hmem

theorem unseparated_decimal (number : Nat) : Numeral.Unseparated (decimal number) := by
  intro character hmem
  have hrange := toNat_of_mem_decimal hmem
  omega

theorem digit?_of_mem_decimal {number : Nat} {character : Char}
    (hmem : character ∈ decimal number) : digit? character = some (character.toNat - 48) := by
  have hfind : zeros.find? (fun start => start ≤ character.toNat &&
      character.toNat ≤ start + 9) = some 48 :=
    List.find?_cons_of_pos (by simpa using toNat_of_mem_decimal hmem)
  rw [digit?, hfind, Option.map_some]

theorem trim_decimal (number : Nat) : trim (decimal number) = decimal number := by
  have hkept : ∀ text : Text, (∀ character ∈ text, character ∈ decimal number) →
      text.dropWhile isBlank = text := by
    intro text htext
    cases text with
    | nil => rfl
    | cons character text =>
        have hrange := toNat_of_mem_decimal (htext character List.mem_cons_self)
        have hblank : isBlank character = false := by
          simp only [isBlank, blankRanges, List.any_cons, List.any_nil, Bool.or_false,
            Bool.or_eq_false_iff, Bool.and_eq_false_imp, decide_eq_true_eq,
            decide_eq_false_iff_not]
          omega
        rw [List.dropWhile_cons_of_neg (by simp [hblank])]
  rw [trim, trimLeft, hkept _ fun _ hmem => hmem, trimRight,
    hkept _ fun _ hmem => List.mem_reverse.mp hmem, List.reverse_reverse]

theorem ofDigits_decimal (number : Nat) :
    Nat.ofDigits 10 ((decimal number).map digitValue).reverse = number := by
  calc
    Nat.ofDigits 10 ((decimal number).map digitValue).reverse =
        Numeral.value ((decimal number).map digitValue) :=
      (Numeral.value_eq_ofDigits _).symm
    _ = Nat.ofDigitChars 10 (decimal number) 0 := by
      rw [Numeral.value, List.foldl_map]
      apply List.foldl_ext
      intro total character hmem
      rw [(isDigit_of_digit? (digit?_of_mem_decimal hmem)).2, Nat.mul_comm]
      rfl
    _ = number := Nat.ofDigitChars_toDigits (by decide) (by decide)

theorem denotes_decimal {number : Nat} (hlength : (decimal number).length ≤ 4300) :
    Numeral.Denotes (decimal number) number := by
  refine ⟨.missing, [decimal number], ⟨by simp, ?_, ?_⟩, ?_, ?_, ?_⟩
  · simpa using decimal_ne_nil number
  · simpa using fun character hmem => (isDigit_of_digit? (digit?_of_mem_decimal hmem)).1
  · rw [trim_decimal, List.intercalate_singleton]
    rfl
  · simpa using hlength
  · rw [List.flatten_singleton, ofDigits_decimal]
    rfl

end Weave.Text
