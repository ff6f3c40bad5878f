import Mathlib.Algebra.Group.Nat.Defs
import Weave.Text.Radix

namespace Weave.Text

/-! A field of a text ends where a class of characters does. -/

section Field

variable {isInside : Char → Bool} {field rest : Text}

theorem takeWhile_field (hfield : ∀ character ∈ field, isInside character = true)
    (hrest : ∀ character ∈ rest.head?, isInside character = false) :
    (field ++ rest).takeWhile isInside = field := by
  rw [List.takeWhile_append_of_pos hfield]
  cases rest with
  | nil => simp
  | cons first rest => simp [hrest first rfl]

theorem dropWhile_field (hfield : ∀ character ∈ field, isInside character = true)
    (hrest : ∀ character ∈ rest.head?, isInside character = false) :
    (field ++ rest).dropWhile isInside = rest := by
  rw [List.dropWhile_append_of_pos hfield]
  cases rest with
  | nil => rfl
  | cons first rest => simp [hrest first rfl]

end Field

theorem forall_ne_of_not_mem {mark : Char} {field : Text} (hfield : mark ∉ field) :
    ∀ character ∈ field, decide (character ≠ mark) = true := by
  intro character hmem
  have hother : character ≠ mark := fun heq => hfield (heq ▸ hmem)
  exact decide_eq_true hother

/-- A field without a mark ends where the mark comes for the first time, or with the
text. -/
theorem field_inj {mark : Char} {field other rest remainder : Text} (hfield : mark ∉ field)
    (hother : mark ∉ other) (hrest : ∀ character ∈ rest.head?, character = mark)
    (hremainder : ∀ character ∈ remainder.head?, character = mark)
    (heq : field ++ rest = other ++ remainder) : field = other ∧ rest = remainder := by
  have hsame : field = other := by
    rw [← takeWhile_field (forall_ne_of_not_mem hfield) (by simpa using hrest), heq,
      takeWhile_field (forall_ne_of_not_mem hother) (by simpa using hremainder)]
  refine ⟨hsame, ?_⟩
  rw [hsame] at heq
  exact List.append_cancel_left heq

theorem field_cons_inj {mark : Char} {field other rest remainder : Text}
    (hfield : mark ∉ field) (hother : mark ∉ other)
    (heq : field ++ mark :: rest = other ++ mark :: remainder) :
    field = other ∧ rest = remainder := by
  obtain ⟨hsame, htail⟩ := field_inj hfield hother (by simp) (by simp) heq
  exact ⟨hsame, List.tail_eq_of_cons_eq htail⟩

/-! Blanks around a text. -/

theorem trimLeft_append_of_blank {front : Text}
    (hfront : ∀ character ∈ front, isBlank character = true) (back : Text) :
    trimLeft (front ++ back) = trimLeft back :=
  List.dropWhile_append_of_pos hfront

theorem trimLeft_of_head {text : Text}
    (htext : ∀ character ∈ text.head?, isBlank character = false) : trimLeft text = text := by
  cases text with
  | nil => rfl
  | cons first rest => exact trimLeft_cons_of_not_blank rest (htext first rfl)

theorem trimRight_append_of_blank {front back : Text}
    (hfront : ∀ character ∈ front.getLast?, isBlank character = false)
    (hback : ∀ character ∈ back, isBlank character = true) :
    trimRight (front ++ back) = front := by
  change (trimLeft (front ++ back).reverse).reverse = front
  rw [List.reverse_append, trimLeft_append_of_blank (by simpa using hback),
    trimLeft_of_head (by simpa using hfront), List.reverse_reverse]

/-! Numbers, and numbers of a fixed width. -/

theorem ofDigitChars_padded (width number : Nat) :
    Nat.ofDigitChars 10 (padded width number) 0 = number := by
  rw [padded, padLeft, Nat.ofDigitChars_append, Nat.ofDigitChars_replicate_zero,
    Nat.mul_zero]
  exact Nat.ofDigitChars_toDigits (by decide) (by decide)

theorem padded_inj {width first second : Nat} (heq : padded width first = padded width second) :
    first = second := by
  rw [← ofDigitChars_padded width first, heq, ofDigitChars_padded]

theorem decimal_inj {first second : Nat} (heq : decimal first = decimal second) :
    first = second := by
  have hread : ∀ number, Nat.ofDigitChars 10 (decimal number) 0 = number :=
    fun _ => Nat.ofDigitChars_toDigits (by decide) (by decide)
  rw [← hread first, heq, hread]

theorem length_padded {width number : Nat} (hwidth : 0 < width)
    (hnumber : number < 10 ^ width) : (padded width number).length = width := by
  have hdecimal : (decimal number).length ≤ width :=
    (Nat.length_toDigits_le_iff (by decide) hwidth).mpr hnumber
  rw [padded, length_padLeft, Nat.max_eq_left hdecimal]

theorem not_mem_decimal {mark : Char} (hmark : mark.isDigit = false) (number : Nat) :
    mark ∉ decimal number := by
  intro hmem
  rw [isDigit_of_mem_decimal hmem] at hmark
  cases hmark

theorem not_mem_padded {mark : Char} (hmark : mark.isDigit = false) (width number : Nat) :
    mark ∉ padded width number := by
  intro hmem
  rcases List.mem_append.mp hmem with hzero | hdigit
  · rw [List.eq_of_mem_replicate hzero] at hmark
    cases hmark
  · exact not_mem_decimal hmark number hdigit

end Weave.Text
