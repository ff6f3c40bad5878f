import Weave.Text.Quoted

namespace Weave

abbrev Bytes := List UInt8

namespace Utf8

def encodeChar (character : Char) : Bytes :=
  let code := character.toNat
  if code < 0x80 then [UInt8.ofNat code]
  else if code < 0x800 then
    [UInt8.ofNat (0xC0 + code / 64), UInt8.ofNat (0x80 + code % 64)]
  else if code < 0x10000 then
    [UInt8.ofNat (0xE0 + code / 4096), UInt8.ofNat (0x80 + code / 64 % 64),
      UInt8.ofNat (0x80 + code % 64)]
  else
    [UInt8.ofNat (0xF0 + code / 262144), UInt8.ofNat (0x80 + code / 4096 % 64),
      UInt8.ofNat (0x80 + code / 64 % 64), UInt8.ofNat (0x80 + code % 64)]

def encode (text : Text) : Bytes :=
  text.flatMap encodeChar

@[simp] theorem encode_append (front back : Text) :
    encode (front ++ back) = encode front ++ encode back := by
  simp [encode]

inductive Reason
  | badStart
  | badContinuation
  | endOfData
  deriving DecidableEq, Repr

/-! The bytes of at most one character: a whole character, the beginning of
one, or neither, and then some bytes at the front are to blame. The second byte
of some characters has a narrower range, which keeps out overlong forms,
surrogates and codes that are too large. A surrogate is refused at its third
byte. -/

inductive Reading
  | character (character : Char)
  | unfinished
  | broken (size : Nat) (reason : Reason)
  deriving DecidableEq, Repr

def secondRange (lead : Nat) : Nat × Nat :=
  match lead with
  | 0xE0 => (0xA0, 0xBF)
  | 0xED => (0x80, 0x9F)
  | 0xF0 => (0x90, 0xBF)
  | 0xF4 => (0x80, 0x8F)
  | _ => (0x80, 0xBF)

def isSecond (lead second : UInt8) : Bool :=
  (secondRange lead.toNat).1 ≤ second.toNat && second.toNat ≤ (secondRange lead.toNat).2

def isContinuation (byte : UInt8) : Bool :=
  0x80 ≤ byte.toNat && byte.toNat ≤ 0xBF

def isSurrogate (lead second : UInt8) : Bool :=
  lead.toNat = 0xED && 0xA0 ≤ second.toNat && second.toNat ≤ 0xBF

def isLead (byte : UInt8) : Bool :=
  0xC2 ≤ byte.toNat && byte.toNat ≤ 0xF4

def read : Bytes → Reading
  | [lead] =>
      if lead.toNat < 0x80 then .character (Char.ofNat lead.toNat)
      else if isLead lead then .unfinished
      else .broken 1 .badStart
  | [lead, second] =>
      if isSecond lead second then
        if lead.toNat < 0xE0 then
          .character (Char.ofNat (lead.toNat % 32 * 64 + second.toNat % 64))
        else .unfinished
      else if isSurrogate lead second then .unfinished
      else .broken 1 .badContinuation
  | [lead, second, third] =>
      if isSurrogate lead second then .broken 1 .badContinuation
      else if isContinuation third then
        if lead.toNat < 0xF0 then
          .character (Char.ofNat
            (lead.toNat % 16 * 4096 + second.toNat % 64 * 64 + third.toNat % 64))
        else .unfinished
      else .broken 2 .badContinuation
  | [lead, second, third, fourth] =>
      if isContinuation fourth then
        .character (Char.ofNat
          (lead.toNat % 8 * 262144 + second.toNat % 64 * 4096 +
            third.toNat % 64 * 64 + fourth.toNat % 64))
      else .broken 3 .badContinuation
  | _ => .broken 1 .badStart

/-- The bytes that could not be decoded and where they stand in their window. -/
structure Fault where
  position : Nat
  bytes : Bytes
  reason : Reason
  deriving DecidableEq, Repr

def Reason.message : Reason → Text
  | .badStart => "invalid start byte".toList
  | .badContinuation => "invalid continuation byte".toList
  | .endOfData => "unexpected end of data".toList

def Fault.place (fault : Fault) : Text :=
  match fault.bytes with
  | [byte] =>
      "byte 0x".toList ++ Text.hexadecimal 2 byte.toNat ++ " in position ".toList ++
        Text.decimal fault.position
  | bytes =>
      "bytes in position ".toList ++ Text.decimal fault.position ++ ['-'] ++
        Text.decimal (fault.position + bytes.length - 1)

def Fault.message (fault : Fault) : Text :=
  "'utf-8' codec can't decode ".toList ++ fault.place ++ [':', ' '] ++
    fault.reason.message

/-! A decoder takes one byte at a time. It holds the bytes of the unfinished
character; `reversed` is the decoded text, newest character first. -/

structure Decoder where
  held : Bytes := []
  position : Nat := 0
  reversed : Text := []
  deriving DecidableEq, Repr

namespace Decoder

def text (decoder : Decoder) : Text :=
  decoder.reversed.reverse

def push (decoder : Decoder) (byte : UInt8) : Except Fault Decoder :=
  match read (decoder.held ++ [byte]) with
  | .character character =>
      .ok ⟨[], decoder.position + 1, character :: decoder.reversed⟩
  | .unfinished =>
      .ok ⟨decoder.held ++ [byte], decoder.position + 1, decoder.reversed⟩
  | .broken size reason =>
      .error ⟨decoder.position - decoder.held.length,
        (decoder.held ++ [byte]).take size, reason⟩

def pushAll (decoder : Decoder) : Bytes → Except Fault Decoder
  | [] => .ok decoder
  | byte :: rest =>
      match decoder.push byte with
      | .ok next => next.pushAll rest
      | .error fault => .error fault

/-- A window begins with the held bytes, and positions count from there. -/
def newWindow (decoder : Decoder) : Decoder :=
  { decoder with position := decoder.held.length }

/-- Bytes still held at the end are a fault of their own. -/
def leftover : Bytes → Option Fault
  | [] => none
  | [lead, second] =>
      if isSurrogate lead second then some ⟨0, [lead], .badContinuation⟩
      else some ⟨0, [lead, second], .endOfData⟩
  | held => some ⟨0, held, .endOfData⟩

/-- Decoding block by block. A block that cannot be decoded adds nothing to the
text. -/
def decodeBlocks (decoder : Decoder) : List Bytes → Text × Option Fault
  | [] => (decoder.text, leftover decoder.held)
  | block :: rest =>
      match decoder.newWindow.pushAll block with
      | .ok next => next.decodeBlocks rest
      | .error fault => (decoder.text, some fault)

@[simp] theorem pushAll_nil (decoder : Decoder) : decoder.pushAll [] = .ok decoder := rfl

theorem pushAll_append (decoder : Decoder) (front back : Bytes) :
    decoder.pushAll (front ++ back) =
      match decoder.pushAll front with
      | .ok next => next.pushAll back
      | .error fault => .error fault := by
  induction front generalizing decoder with
  | nil => rfl
  | cons byte front ih =>
      simp only [List.cons_append, pushAll]
      cases decoder.push byte with
      | ok next => exact ih next
      | error fault => rfl

end Decoder

/-- Cut off blocks of a size, at most a given number of them; what is left is
the last block. -/
def cutBlocks (size : Nat) : Nat → Bytes → List Bytes
  | 0, bytes => [bytes]
  | count + 1, bytes =>
      if bytes.length ≤ size then [bytes]
      else bytes.take size :: cutBlocks size count (bytes.drop size)

def blocks (size : Nat) (bytes : Bytes) : List Bytes :=
  cutBlocks size bytes.length bytes

def decode (blockSize : Nat) (bytes : Bytes) : Text × Option Fault :=
  Decoder.decodeBlocks {} (blocks blockSize bytes)

theorem flatten_cutBlocks (size count : Nat) (bytes : Bytes) :
    (cutBlocks size count bytes).flatten = bytes := by
  induction count generalizing bytes with
  | zero => simp [cutBlocks]
  | succ count ih =>
      simp only [cutBlocks]
      split
      · simp
      · simp [ih]

@[simp] theorem flatten_blocks (size : Nat) (bytes : Bytes) :
    (blocks size bytes).flatten = bytes :=
  flatten_cutBlocks size bytes.length bytes

end Utf8

end Weave
