namespace Weave

/-- Text is a list of Unicode scalar values. -/
abbrev Text := List Char

namespace Text

/-! The blank characters: the bidirectional types WS, B and S of the Unicode
character database together with the space separators. -/

def blankRanges : List (Nat × Nat) :=
  [(0x0009, 0x000D), (0x001C, 0x0020), (0x0085, 0x0085), (0x00A0, 0x00A0),
   (0x1680, 0x1680), (0x2000, 0x200A), (0x2028, 0x2029), (0x202F, 0x202F),
   (0x205F, 0x205F), (0x3000, 0x3000)]

def isBlank (character : Char) : Bool :=
  blankRanges.any fun range =>
    range.1 ≤ character.toNat && character.toNat ≤ range.2

def trimLeft (text : Text) : Text :=
  text.dropWhile isBlank

def trimRight (text : Text) : Text :=
  (text.reverse.dropWhile isBlank).reverse

def trim (text : Text) : Text :=
  trimRight (trimLeft text)

@[simp] theorem trimLeft_nil : trimLeft [] = [] := rfl

@[simp] theorem trimRight_nil : trimRight [] = [] := rfl

theorem trimLeft_cons_of_blank {character : Char} (text : Text)
    (hblank : isBlank character = true) :
    trimLeft (character :: text) = trimLeft text := by
  simp [trimLeft, hblank]

theorem trimLeft_cons_of_not_blank {character : Char} (text : Text)
    (hblank : isBlank character = false) :
    trimLeft (character :: text) = character :: text := by
  simp [trimLeft, hblank]

theorem trimLeft_eq_nil_iff {text : Text} :
    trimLeft text = [] ↔ ∀ character ∈ text, isBlank character = true := by
  induction text with
  | nil => simp
  | cons first rest ih =>
      cases hblank : isBlank first with
      | true => simp [trimLeft_cons_of_blank, hblank, ih]
      | false => simp [trimLeft_cons_of_not_blank, hblank]

end Text

end Weave
