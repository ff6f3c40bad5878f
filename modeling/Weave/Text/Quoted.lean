import Weave.Text.Printable
import Weave.Text.Radix

namespace Weave.Text

/-! Quoted text, as messages show names and values: single quotes unless the
text has a single quote and no double one, with a backslash in front of the
quote and the backslash, and hidden characters written by their code. -/

def singleQuote : Char := '\x27'

def doubleQuote : Char := '\x22'

def backslash : Char := '\x5c'

def quoteMark (text : Text) : Char :=
  if text.contains singleQuote && !text.contains doubleQuote then doubleQuote
  else singleQuote

/-- A character written by its code, in as few digits as its size allows. -/
def code (character : Char) : Text :=
  if character.toNat ≤ 0xFF then
    backslash :: 'x' :: hexadecimal 2 character.toNat
  else if character.toNat ≤ 0xFFFF then
    backslash :: 'u' :: hexadecimal 4 character.toNat
  else backslash :: 'U' :: hexadecimal 8 character.toNat

def escape (mark character : Char) : Text :=
  if character = mark || character = backslash then [backslash, character]
  else if character = '\t' then [backslash, 't']
  else if character = '\n' then [backslash, 'n']
  else if character = '\r' then [backslash, 'r']
  else if isPrintable character then [character]
  else code character

def quoted (text : Text) : Text :=
  let mark := quoteMark text
  mark :: text.flatMap (escape mark) ++ [mark]

def ascii (text : Text) : Text :=
  text.flatMap fun character =>
    if character.toNat < 0x80 then [character] else code character

end Weave.Text
