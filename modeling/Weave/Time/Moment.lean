import Weave.Time.Date

namespace Weave

/-! A moment is a clock reading. The zone, if there is one, has an offset in
microseconds and a label; an empty label is not shown. -/

structure Zone where
  offset : Int
  label : Text
  deriving DecidableEq, Repr

structure Moment where
  date : Date
  hour : Nat
  minute : Nat
  second : Nat
  zone : Option Zone := none
  deriving DecidableEq, Repr

namespace Zone

/-- The hours, minutes, seconds and microseconds of an offset, without its sign. -/
structure Span where
  hours : Nat
  minutes : Nat
  seconds : Nat
  micros : Nat
  deriving DecidableEq, Repr

def Span.ofMicros (micros : Nat) : Span where
  hours := micros / 3600000000
  minutes := micros / 60000000 % 60
  seconds := micros / 1000000 % 60
  micros := micros % 1000000

/-- Seconds are written if anything below a minute is left, microseconds only
if they are not zero. -/
def Span.write (separator : Text) (span : Span) : Text :=
  let minutes :=
    Text.padded 2 span.hours ++ separator ++ Text.padded 2 span.minutes
  let seconds := separator ++ Text.padded 2 span.seconds
  if span.micros ≠ 0 then minutes ++ seconds ++ '.' :: Text.padded 6 span.micros
  else if span.seconds ≠ 0 then minutes ++ seconds
  else minutes

def sign (offset : Int) : Char :=
  if offset < 0 then '-' else '+'

def writeOffset (separator : Text) (offset : Int) : Text :=
  sign offset :: (Span.ofMicros offset.natAbs).write separator

def utc : Text := ['U', 'T', 'C']

/-- A zone known only by its offset is labelled by it. -/
def ofOffset (offset : Int) : Zone where
  offset := offset
  label := if offset = 0 then utc else utc ++ writeOffset [':'] offset

def write (zone : Zone) : Text :=
  let offset := writeOffset [] zone.offset
  if zone.label = [] then offset
  else offset ++ [' ', '('] ++ zone.label ++ [')']

end Zone

namespace Moment

def writeTime (moment : Moment) : Text :=
  Text.padded 2 moment.hour ++ ':' :: Text.padded 2 moment.minute ++
    ':' :: Text.padded 2 moment.second

def writeDate (date : Date) : Text :=
  date.weekday.short ++ ' ' :: Date.shortMonth date.month ++
    ' ' :: Text.padded 2 date.day ++ ' ' :: Text.decimal date.year

def write (moment : Moment) : Text :=
  writeDate moment.date ++ ' ' :: writeTime moment ++ [' ', 'G', 'M', 'T'] ++
    match moment.zone with
    | none => []
    | some zone => zone.write

end Moment

end Weave
