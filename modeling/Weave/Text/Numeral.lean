import Weave.Text.Digit

namespace Weave.Text

/-! Integers as users write them: blanks around, one sign, decimal digits of
any script with single underscores between them, at most 4300 digits. -/

namespace Numeral

def maxDigits : Nat := 4300

/-- The information separators are blank, but do not surround a number. -/
def isPadding (character : Char) : Bool :=
  isBlank character && !(0x1C ≤ character.toNat && character.toNat ≤ 0x1F)

def strip (text : Text) : Text :=
  ((text.dropWhile isPadding).reverse.dropWhile isPadding).reverse

/-- What may follow a digit: more digits, each after at most one underscore. -/
def moreDigits? : Text → Option (List Nat)
  | [] => some []
  | first :: rest =>
      if first = '_' then
        match rest with
        | [] => none
        | second :: rest =>
            (digit? second).bind fun value => (moreDigits? rest).map (value :: ·)
      else
        (digit? first).bind fun value => (moreDigits? rest).map (value :: ·)

def digits? : Text → Option (List Nat)
  | [] => none
  | first :: rest =>
      (digit? first).bind fun value => (moreDigits? rest).map (value :: ·)

def value (digits : List Nat) : Nat :=
  digits.foldl (fun total digit => total * 10 + digit) 0

def natural? (text : Text) : Option Nat :=
  (digits? text).bind fun digits =>
    if digits.length ≤ maxDigits then some (value digits) else none

def signed? : Text → Option Int
  | [] => none
  | first :: rest =>
      if first = '-' then (natural? rest).map fun number => -(number : Int)
      else if first = '+' then (natural? rest).map Int.ofNat
      else (natural? (first :: rest)).map Int.ofNat

end Numeral

def integer? (text : Text) : Option Int :=
  Numeral.signed? (Numeral.strip text)

end Weave.Text
