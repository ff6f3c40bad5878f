import Weave.Text.Quoted

namespace Weave

namespace Template

/-! Texts with fields. A field is a percent sign, then, each of them optional, a
key in parentheses, flags, a width, a point with a precision, and a size letter
without a meaning, and last a letter that says how a value is written. A field
without a key stands for the whole table of values. Two percent signs stand for
one. -/

/-- What a field may stand for. Of most values only the kind and the written
form matter. -/
inductive Value
  | text (content : Text)
  | truth (flag : Bool)
  | nothing
  | other (kind written : Text)
  deriving DecidableEq, Repr

abbrev Table := List (Text × Value)

namespace Value

def kind : Value → Text
  | .text _ => "str".toList
  | .truth _ => "bool".toList
  | .nothing => "NoneType".toList
  | .other kind _ => kind

def written : Value → Text
  | .text content => content
  | .truth true => "True".toList
  | .truth false => "False".toList
  | .nothing => "None".toList
  | .other _ written => written

def quoted : Value → Text
  | .text content => Text.quoted content
  | value => value.written

end Value

def Table.written (table : Table) : Text :=
  let members := table.map fun (key, value) => Text.quoted key ++ [':', ' '] ++ value.quoted
  '\x7b' :: List.intercalate [',', ' '] members ++ ['\x7d']

def Table.value (table : Table) : Value :=
  .other "dict".toList table.written

inductive Flaw
  | openKey
  | unknownKey (key : Text)
  | cutShort
  | unknownLetter (letter : Char) (position : Nat)
  | valueTaken
  | sizeNotInteger
  | widthTooBig
  | precisionTooBig
  | tooManyDigits
  | notInteger (letter : Char) (kind : Text)
  | notNumber (letter : Char) (kind : Text)
  | notReal (kind : Text)
  | notCharacter
  | tooLong
  deriving DecidableEq, Repr

def Flaw.message : Flaw → Text
  | .openKey => "incomplete format key".toList
  | .unknownKey key => Text.quoted key
  | .cutShort => "incomplete format".toList
  | .unknownLetter letter position =>
      let shown := if 31 ≤ letter.toNat ∧ letter.toNat ≤ 126 then letter else '?'
      "unsupported format character '".toList ++ shown :: "' (0x".toList ++
        Text.hexadecimal 1 letter.toNat ++ ") at index ".toList ++ Text.decimal position
  | .valueTaken => "not enough arguments for format string".toList
  | .sizeNotInteger => "* wants int".toList
  | .widthTooBig => "width too big".toList
  | .precisionTooBig => "precision too big".toList
  | .tooManyDigits => "precision too large".toList
  | .notInteger letter kind =>
      '%' :: letter :: " format: an integer is required, not ".toList ++ kind
  | .notNumber letter kind =>
      '%' :: letter :: " format: a real number is required, not ".toList ++ kind
  | .notReal kind => "must be real number, not ".toList ++ kind
  | .notCharacter => "%c requires int or char".toList
  | .tooLong => []

structure Layout where
  flags : List Char := []
  width : Nat := 0
  precision : Option Nat := none
  deriving DecidableEq, Repr

namespace Layout

def isFlag (character : Char) : Bool :=
  ['-', '+', ' ', '#', '0'].contains character

def has (layout : Layout) (flag : Char) : Bool :=
  layout.flags.contains flag

def maxWidth : Nat := 0x7FFFFFFFFFFFFFFF

def maxPrecision : Nat := 0x7FFFFFFF

def maxDigits : Nat := maxPrecision - 3

def maxLength : Nat := 0x40000000

/-- Fill a field up to its width: blanks go behind a field that is aligned to
the left, zeros between its head and its body, and blanks in front of any other
field. -/
def fill (layout : Layout) (zeros : Bool) (head body : Text) : Except Flaw Text :=
  let missing := layout.width - (head.length + body.length)
  if maxLength < layout.width then .error .tooLong
  else if layout.has '-' then .ok (head ++ body ++ List.replicate missing ' ')
  else if zeros then .ok (head ++ List.replicate missing '0' ++ body)
  else .ok (List.replicate missing ' ' ++ head ++ body)

def text (layout : Layout) (content : Text) : Except Flaw Text :=
  match layout.precision with
  | none => layout.fill false [] content
  | some count => layout.fill false [] (content.take count)

def sign (layout : Layout) : Text :=
  if layout.has '+' then ['+'] else if layout.has ' ' then [' '] else []

def number (layout : Layout) (mark digits : Text) : Except Flaw Text :=
  layout.fill (layout.has '0') (layout.sign ++ mark) digits

/-- The precision of an integer is its least number of digits. -/
def integer (layout : Layout) (mark digits : Text) : Except Flaw Text :=
  let count := layout.precision.getD 0
  if maxDigits < count then .error .tooManyDigits
  else if maxLength < count then .error .tooLong
  else
    layout.number (if layout.has '#' then mark else []) (Text.padLeft count digits)

/-- A whole number with places, which are all zero, and what comes after
them. -/
def real (layout : Layout) (digits : Text) (places : Nat) (ending : Text) :
    Except Flaw Text :=
  let point := if places ≠ 0 ∨ layout.has '#' then ['.'] else []
  if maxLength < places then .error .tooLong
  else layout.number [] (digits ++ point ++ List.replicate places '0' ++ ending)

end Layout

def count (flag : Bool) : Nat :=
  if flag then 1 else 0

def upper (text : Text) : Text :=
  text.map Char.toUpper

def writeInteger (layout : Layout) (letter : Char) (flag : Bool) : Except Flaw Text :=
  match letter with
  | 'o' => layout.integer ['0', 'o'] (Nat.toDigits 8 (count flag))
  | 'x' => layout.integer ['0', 'x'] (Nat.toDigits 16 (count flag))
  | 'X' => layout.integer ['0', 'X'] (upper (Nat.toDigits 16 (count flag)))
  | _ => layout.integer [] (Text.decimal (count flag))

/-- A real number: with places, with places and an exponent, or with as many
digits as the precision says, where zeros at the end are left out unless the
form is the alternate one. -/
def writeReal (layout : Layout) (letter : Char) (flag : Bool) : Except Flaw Text :=
  let digits := Text.decimal (count flag)
  let places := layout.precision.getD 6
  match letter with
  | 'e' => layout.real digits places "e+00".toList
  | 'E' => layout.real digits places "E+00".toList
  | 'g' | 'G' => layout.real digits (if layout.has '#' then max 1 places - 1 else 0) []
  | _ => layout.real digits places []

def writeCharacter (layout : Layout) : Value → Except Flaw Text
  | .text [character] => layout.fill false [] [character]
  | .truth flag => layout.fill false [] [Char.ofNat (count flag)]
  | _ => .error .notCharacter

def write (layout : Layout) (letter : Char) (position : Nat) (value : Value) :
    Except Flaw Text :=
  if letter = 's' then layout.text value.written
  else if letter = 'r' then layout.text value.quoted
  else if letter = 'a' then layout.text (Text.ascii value.quoted)
  else if letter = 'c' then writeCharacter layout value
  else if ['d', 'i', 'u', 'o', 'x', 'X'].contains letter then
    match value with
    | .truth flag => writeInteger layout letter flag
    | _ =>
        if ['d', 'i', 'u'].contains letter then .error (.notNumber letter value.kind)
        else .error (.notInteger letter value.kind)
  else if ['e', 'E', 'f', 'F', 'g', 'G'].contains letter then
    match value with
    | .truth flag => writeReal layout letter flag
    | _ => .error (.notReal value.kind)
  else .error (.unknownLetter letter position)

/-! Reading a field. The cursor holds the text still to be read and the value
the field stands for, until something takes it. -/

structure Cursor where
  rest : Text
  value : Option Value
  deriving DecidableEq, Repr

/-- The key up to its closing parenthesis, and the text after that.
Parentheses inside a key match. -/
def splitKey (depth : Nat) : Text → Option (Text × Text)
  | [] => none
  | first :: rest =>
      if first = ')' ∧ depth = 0 then some ([], rest)
      else
        let inner :=
          if first = '(' then depth + 1 else if first = ')' then depth - 1 else depth
        (splitKey inner rest).map fun (key, after) => (first :: key, after)

namespace Cursor

def take (cursor : Cursor) : Except Flaw (Value × Cursor) :=
  match cursor.value with
  | none => .error .valueTaken
  | some value => .ok (value, { cursor with value := none })

def readKey (table : Table) (cursor : Cursor) : Except Flaw Cursor :=
  match cursor.rest with
  | '(' :: rest =>
      match splitKey 0 rest with
      | none => .error .openKey
      | some (key, after) =>
          match table.lookup key with
          | none => .error (.unknownKey key)
          | some value => .ok ⟨after, some value⟩
  | _ => .ok cursor

/-- A size is written in digits, or a star takes the value for it. -/
def readSize (limit : Nat) (excess : Flaw) (cursor : Cursor) :
    Except Flaw (Option Nat × Cursor) :=
  match cursor.rest with
  | '*' :: rest => do
      match ← cursor.take with
      | (.truth flag, taken) => return (some (count flag), { taken with rest := rest })
      | _ => throw .sizeNotInteger
  | _ =>
      let digits := cursor.rest.takeWhile Char.isDigit
      let size := digits.foldl (fun sum digit => sum * 10 + (digit.toNat - '0'.toNat)) 0
      if digits = [] then .ok (none, cursor)
      else if limit < size then .error excess
      else .ok (some size, { cursor with rest := cursor.rest.dropWhile Char.isDigit })

def readPrecision (cursor : Cursor) : Except Flaw (Option Nat × Cursor) :=
  match cursor.rest with
  | '.' :: rest => do
      let (size, after) ←
        { cursor with rest := rest }.readSize Layout.maxPrecision .precisionTooBig
      return (some (size.getD 0), after)
  | _ => .ok (none, cursor)

def readLayout (cursor : Cursor) : Except Flaw (Layout × Cursor) := do
  let flags := cursor.rest.takeWhile Layout.isFlag
  let afterFlags := { cursor with rest := cursor.rest.dropWhile Layout.isFlag }
  let (width, afterWidth) ← afterFlags.readSize Layout.maxWidth .widthTooBig
  let (precision, after) ← afterWidth.readPrecision
  return (⟨flags, width.getD 0, precision⟩, after)

def skipSizeLetter (cursor : Cursor) : Cursor :=
  match cursor.rest with
  | first :: rest =>
      if ['h', 'l', 'L'].contains first then { cursor with rest := rest } else cursor
  | [] => cursor

/-- A field after its percent sign, written out. The whole text has `size`
characters. -/
def readField (table : Table) (size : Nat) (cursor : Cursor) :
    Except Flaw (Text × Cursor) := do
  let (layout, after) ← (← cursor.readKey table).readLayout
  match after.skipSizeLetter with
  | ⟨[], _⟩ => throw .cutShort
  | ⟨letter :: rest, value⟩ =>
      let (value, taken) ← Cursor.take ⟨rest, value⟩
      let written ← write layout letter (size - rest.length - 1) value
      return (written, taken)

/-- The fuel bounds the number of steps, each of which reads a character or
more. -/
def expand (table : Table) (size : Nat) : Nat → Cursor → Except Flaw Text
  | 0, _ => .ok []
  | fuel + 1, cursor =>
      match cursor.rest with
      | [] => .ok []
      | '%' :: '%' :: rest => do
          return '%' :: (← expand table size fuel { cursor with rest := rest })
      | '%' :: rest => do
          let (written, after) ← readField table size { cursor with rest := rest }
          return written ++ (← expand table size fuel after)
      | first :: rest => do
          return first :: (← expand table size fuel { cursor with rest := rest })

end Cursor

/-- The text with every field written out, or the first flaw. -/
def expand (table : Table) (text : Text) : Except Flaw Text :=
  Cursor.expand table text.length text.length ⟨text, some table.value⟩

end Template

end Weave
