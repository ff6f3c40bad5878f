import Weave.Text.Quoted
import Weave.Text.Word

namespace Weave.Text

/-! Filling lines of a given width. A text is cut into chunks: runs of spaces,
words, and the parts of words that may be divided at a hyphen or a dash. A
chunk wider than a line is broken. -/

namespace Wrap

def isSpace (character : Char) : Bool :=
  (0x09 ≤ character.toNat && character.toNat ≤ 0x0D) || character = ' '

def isWordEdge (character : Char) : Bool :=
  isWord character || ['!', doubleQuote, singleQuote, '&', '.', ',', '?'].contains character

def startsDash (after : Text) : Bool :=
  2 ≤ (after.takeWhile (· = '-')).length && (after.dropWhile (· = '-')).head?.any isWord

def startsLetters : Text → Bool
  | first :: '-' :: second :: _ => isLetter first && isLetter second
  | first :: second :: _ => isLetter first && isLetter second
  | _ => false

/-- Whether a hyphen after the text `before`, given backwards, may divide a
word. -/
def allowsHyphen : Text → Bool
  | last :: '-' :: first :: _ => isLetter first && isLetter last
  | last :: first :: _ => isLetter last && isLetter first
  | _ => false

/-- The number of characters of the word that goes on with `after`. The text
`before`, given backwards, ends with the part of the word seen so far. -/
def wordLength (before : Text) : Text → Nat
  | [] => 0
  | first :: after =>
      if isSpace first then 0
      else if first = '-' && allowsHyphen before && startsLetters after then 1
      else if before.head?.any isWordEdge && startsDash (first :: after) then 0
      else 1 + wordLength (first :: before) after

def chunkLength (before : Text) : Text → Nat
  | [] => 0
  | first :: after =>
      if isSpace first then 1 + (after.takeWhile isSpace).length
      else if before.head?.any isWordEdge && startsDash (first :: after) then
        1 + (after.takeWhile (· = '-')).length
      else 1 + wordLength (first :: before) after

theorem chunkLength_pos (before : Text) (first : Char) (after : Text) :
    1 ≤ chunkLength before (first :: after) := by
  simp only [chunkLength]
  split
  · omega
  · split <;> omega

def chunks (before : Text) : Text → List Text
  | [] => []
  | first :: after =>
      let size := chunkLength before (first :: after)
      let chunk := (first :: after).take size
      chunk :: chunks (chunk.reverse ++ before) ((first :: after).drop size)
termination_by text => text.length
decreasing_by
  have := chunkLength_pos before first after
  simp only [List.length_drop, List.length_cons]
  omega

def isBlankChunk (chunk : Text) : Bool :=
  chunk.all isBlank

/-- Where to break a chunk that is wider than the room left for it: after its
last hyphen that fits, unless only hyphens stand before it. -/
def breakPoint (room : Nat) (chunk : Text) : Nat :=
  let fitting := chunk.take room
  let kept := (fitting.reverse.dropWhile (· ≠ '-')).length
  if (fitting.take (kept - 1)).any (· ≠ '-') then kept else room

/-- The chunks that fit on a line after `used` characters, and the rest. -/
def fill (width used : Nat) : List Text → List Text × List Text
  | [] => ([], [])
  | chunk :: rest =>
      if used + chunk.length ≤ width then
        let (line, left) := fill width (used + chunk.length) rest
        (chunk :: line, left)
      else ([], chunk :: rest)

/-- A chunk that would not fit even on an empty line is broken here. -/
def fillBreaking (width : Nat) (all : List Text) : List Text × List Text :=
  match fill width 0 all with
  | (line, []) => (line, [])
  | (line, chunk :: rest) =>
      if width < chunk.length then
        let size := breakPoint (width - line.flatten.length) chunk
        (line ++ [chunk.take size], chunk.drop size :: rest)
      else (line, chunk :: rest)

def dropBlankEnd (line : List Text) : List Text :=
  match line.getLast? with
  | some chunk => if isBlankChunk chunk then line.dropLast else line
  | none => line

def dropBlankStart : List Text → List Text
  | [] => []
  | chunk :: rest => if isBlankChunk chunk then rest else chunk :: rest

/-- Lines from chunks. The fuel bounds the number of lines. -/
def lines (width : Nat) : Nat → List Text → List Text
  | 0, _ => []
  | _ + 1, [] => []
  | fuel + 1, all =>
      let (line, left) := fillBreaking width all
      match dropBlankEnd line with
      | [] => lines width fuel (dropBlankStart left)
      | line => line.flatten :: lines width fuel (dropBlankStart left)

def pushSqueezed (character : Char) (rest : Text) : Text :=
  if isSpace character then
    if rest.head? = some ' ' then rest else ' ' :: rest
  else character :: rest

/-- Every run of spaces becomes one, and no blank is left at the ends. -/
def squeeze (text : Text) : Text :=
  trim (text.foldr pushSqueezed [])

end Wrap

def wrap (width : Nat) (text : Text) : List Text :=
  let squeezed := Wrap.squeeze text
  Wrap.lines width (2 * squeezed.length + 1) (Wrap.chunks [] squeezed)

end Weave.Text
