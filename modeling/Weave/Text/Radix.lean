import Weave.Text.Blank

namespace Weave.Text

def padLeft (width : Nat) (digits : Text) : Text :=
  List.replicate (width - digits.length) '0' ++ digits

def decimal (number : Nat) : Text :=
  Nat.toDigits 10 number

def padded (width number : Nat) : Text :=
  padLeft width (decimal number)

def hexadecimal (width number : Nat) : Text :=
  padLeft width (Nat.toDigits 16 number)

theorem decimal_ne_nil (number : Nat) : decimal number ≠ [] :=
  Nat.toDigits_ne_nil

theorem isDigit_of_mem_decimal {number : Nat} {character : Char}
    (hmem : character ∈ decimal number) : character.isDigit = true :=
  Nat.isDigit_of_mem_toDigits (by decide) (by decide) hmem

theorem length_padLeft (width : Nat) (digits : Text) :
    (padLeft width digits).length = max width digits.length := by
  simp only [padLeft, List.length_append, List.length_replicate]
  omega

end Weave.Text
