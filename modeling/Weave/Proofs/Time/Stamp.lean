import Weave.Proofs.Text.Fields
import Weave.Time.Moment

namespace Weave

namespace Zone

/-- Less than a day to either side. -/
structure Valid (zone : Zone) : Prop where
  lower : -86400000000 < zone.offset
  upper : zone.offset < 86400000000

theorem Valid.natAbs_lt {zone : Zone} (hzone : zone.Valid) :
    zone.offset.natAbs < 86400000000 := by
  have hlower := hzone.lower
  have hupper := hzone.upper
  omega

namespace Span

/-- The parts have the sizes that the parts of less than a day have. -/
structure Proper (span : Span) : Prop where
  hours_lt : span.hours < 24
  minutes_lt : span.minutes < 60
  seconds_lt : span.seconds < 60

theorem proper_ofMicros {micros : Nat} (hmicros : micros < 86400000000) :
    (ofMicros micros).Proper := by
  constructor <;> simp only [ofMicros] <;> omega

theorem ofMicros_inj {first second : Nat} (heq : ofMicros first = ofMicros second) :
    first = second := by
  simp only [ofMicros, mk.injEq] at heq
  omega

/-- What is written of a span after its minutes. -/
def belowMinute (span : Span) : Text :=
  if span.micros ≠ 0 then Text.padded 2 span.seconds ++ '.' :: Text.padded 6 span.micros
  else if span.seconds ≠ 0 then Text.padded 2 span.seconds
  else []

theorem write_nil (span : Span) :
    span.write [] =
      Text.padded 2 span.hours ++ (Text.padded 2 span.minutes ++ span.belowMinute) := by
  simp only [write, belowMinute, List.append_nil, List.nil_append]
  split
  · simp
  · split <;> simp

variable {first second : Span}

theorem belowMinute_inj (hfirst : first.seconds < 60) (hsecond : second.seconds < 60)
    (heq : first.belowMinute = second.belowMinute) :
    first.seconds = second.seconds ∧ first.micros = second.micros := by
  have hwidth : (Text.padded 2 first.seconds).length = 2 :=
    Text.length_padded (by decide) (by omega)
  have hother : (Text.padded 2 second.seconds).length = 2 :=
    Text.length_padded (by decide) (by omega)
  -- The three forms differ in length: nothing, two digits, and more than two.
  have hlength := congrArg List.length heq
  unfold belowMinute at heq hlength
  by_cases hmicros : first.micros = 0 <;> by_cases hmore : second.micros = 0
  · by_cases hzero : first.seconds = 0 <;> by_cases hnone : second.seconds = 0
    · omega
    · simp [hmicros, hmore, hzero, hnone, hother] at hlength
    · simp [hmicros, hmore, hzero, hnone, hwidth] at hlength
    · simp only [hmicros, hmore, hzero, hnone, ne_eq, not_true, not_false_iff, if_true,
        if_false] at heq
      exact ⟨Text.padded_inj heq, by omega⟩
  · simp only [hmicros, hmore, ne_eq, not_true, not_false_iff, if_true, if_false] at hlength
    split at hlength <;> simp [hwidth, hother] at hlength
  · simp only [hmicros, hmore, ne_eq, not_true, not_false_iff, if_true, if_false] at hlength
    split at hlength <;> simp [hwidth, hother] at hlength
  · simp only [hmicros, hmore, ne_eq, not_false_iff, if_true] at heq
    obtain ⟨hseconds, hrest⟩ := List.append_inj heq (hwidth.trans hother.symm)
    exact ⟨Text.padded_inj hseconds,
      Text.padded_inj (List.tail_eq_of_cons_eq hrest)⟩

theorem write_inj (hfirst : first.Proper) (hsecond : second.Proper)
    (heq : first.write [] = second.write []) : first = second := by
  have hwidth : ∀ {left right : Nat}, left < 60 → right < 60 →
      (Text.padded 2 left).length = (Text.padded 2 right).length := by
    intro left right hleft hright
    rw [Text.length_padded (by decide) (by omega), Text.length_padded (by decide) (by omega)]
  have hlate := hfirst.hours_lt
  have hlater := hsecond.hours_lt
  rw [write_nil, write_nil] at heq
  obtain ⟨hhours, hrest⟩ := List.append_inj heq (hwidth (by omega) (by omega))
  obtain ⟨hminutes, hbelow⟩ :=
    List.append_inj hrest (hwidth hfirst.minutes_lt hsecond.minutes_lt)
  obtain ⟨hseconds, hmicros⟩ := belowMinute_inj hfirst.seconds_lt hsecond.seconds_lt hbelow
  cases first
  cases second
  simp only [mk.injEq]
  exact ⟨Text.padded_inj hhours, Text.padded_inj hminutes, hseconds, hmicros⟩

theorem blank_not_mem_write (span : Span) : ' ' ∉ span.write [] := by
  have hpadded : ∀ width number, ' ' ∉ Text.padded width number :=
    Text.not_mem_padded rfl
  rw [write_nil, belowMinute]
  split
  · simp [hpadded]
  · split <;> simp [hpadded]

end Span

theorem sign_eq_minus_iff (offset : Int) : sign offset = '-' ↔ offset < 0 := by
  by_cases hnegative : offset < 0 <;> simp [sign, hnegative]

theorem writeOffset_inj {first second : Int} (hfirst : first.natAbs < 86400000000)
    (hsecond : second.natAbs < 86400000000)
    (heq : writeOffset [] first = writeOffset [] second) : first = second := by
  obtain ⟨hsign, hspan⟩ := List.cons.inj heq
  have habsolute := Span.ofMicros_inj (Span.write_inj (Span.proper_ofMicros hfirst)
    (Span.proper_ofMicros hsecond) hspan)
  have hside : first < 0 ↔ second < 0 := by
    rw [← sign_eq_minus_iff, hsign, sign_eq_minus_iff]
  omega

theorem blank_not_mem_writeOffset (offset : Int) : ' ' ∉ writeOffset [] offset := by
  have hsign : sign offset ≠ ' ' := by
    unfold sign
    split <;> decide
  simp [writeOffset, hsign.symm, Span.blank_not_mem_write]

/-- What is written of a zone after its offset. -/
def remark (zone : Zone) : Text :=
  if zone.label = [] then [] else [' ', '('] ++ zone.label ++ [')']

theorem write_eq (zone : Zone) : zone.write = writeOffset [] zone.offset ++ zone.remark := by
  simp only [write, remark]
  split <;> simp

theorem head?_remark (zone : Zone) : ∀ character ∈ zone.remark.head?, character = ' ' := by
  unfold remark
  split <;> simp

theorem remark_inj {first second : Zone} (heq : first.remark = second.remark) :
    first.label = second.label := by
  unfold remark at heq
  split at heq
  · next hnone =>
      split at heq
      · next hother => rw [hnone, hother]
      · cases heq
  · split at heq
    · cases heq
    · exact List.append_cancel_left (List.append_cancel_right heq)

theorem write_inj {first second : Zone} (hfirst : first.Valid) (hsecond : second.Valid)
    (heq : first.write = second.write) : first = second := by
  rw [write_eq, write_eq] at heq
  obtain ⟨hoffset, hremark⟩ := Text.field_inj (blank_not_mem_writeOffset first.offset)
    (blank_not_mem_writeOffset second.offset) first.head?_remark second.head?_remark heq
  have hsame := writeOffset_inj hfirst.natAbs_lt hsecond.natAbs_lt hoffset
  have hlabel := remark_inj hremark
  cases first
  cases second
  exact congr (congrArg mk hsame) hlabel

end Zone

namespace Date

theorem blank_not_mem_short (weekday : Weekday) : ' ' ∉ weekday.short := by
  cases weekday <;> decide

theorem blank_not_mem_shortMonth (month : Nat) : ' ' ∉ shortMonth month := by
  unfold shortMonth
  split <;> decide

theorem shortMonth_inj {first second : Nat} (hfirst : 1 ≤ first ∧ first ≤ 12)
    (hsecond : 1 ≤ second ∧ second ≤ 12) (heq : shortMonth first = shortMonth second) :
    first = second := by
  have hmonths : ∀ first ≤ 12, ∀ second ≤ 12, 1 ≤ first → 1 ≤ second →
      shortMonth first = shortMonth second → first = second := by decide
  exact hmonths first hfirst.2 second hsecond.2 hfirst.1 hsecond.1 heq

end Date

namespace Moment

/-- A date of the calendar, a time of the day, and an offset of less than a day if there
is one. -/
structure Valid (moment : Moment) : Prop where
  date : moment.date.Valid
  hour_lt : moment.hour < 24
  minute_lt : moment.minute < 60
  second_lt : moment.second < 60
  zone : ∀ zone ∈ moment.zone, zone.Valid

def zoneText (moment : Moment) : Text :=
  match moment.zone with
  | none => []
  | some zone => zone.write

theorem write_fields (moment : Moment) :
    moment.write = moment.date.weekday.short ++ ' ' ::
      (Date.shortMonth moment.date.month ++ ' ' ::
        (Text.padded 2 moment.date.day ++ ' ' ::
          (Text.decimal moment.date.year ++ ' ' ::
            (Text.padded 2 moment.hour ++ ':' ::
              (Text.padded 2 moment.minute ++ ':' ::
                (Text.padded 2 moment.second ++ ' ' ::
                  (['G', 'M', 'T'] ++ moment.zoneText))))))) := by
  simp only [write, writeDate, writeTime, List.append_assoc, List.cons_append,
    List.nil_append]
  rfl

theorem zoneText_inj {first second : Moment} (hfirst : first.Valid) (hsecond : second.Valid)
    (heq : first.zoneText = second.zoneText) : first.zone = second.zone := by
  have hmarked : ∀ zone : Zone, zone.write ≠ [] := by
    intro zone
    simp [Zone.write_eq, Zone.writeOffset]
  unfold zoneText at heq
  cases hzone : first.zone with
  | none =>
      cases hother : second.zone with
      | none => rfl
      | some other =>
          simp only [hzone, hother] at heq
          exact absurd heq.symm (hmarked other)
  | some zone =>
      cases hother : second.zone with
      | none =>
          simp only [hzone, hother] at heq
          exact absurd heq (hmarked zone)
      | some other =>
          simp only [hzone, hother] at heq
          rw [Zone.write_inj (hfirst.zone zone hzone) (hsecond.zone other hother) heq]

/-- A stamp is unambiguous: it tells the date, the time, the offset to the microsecond,
whether there is one, and the label. -/
theorem write_injective {first second : Moment} (hfirst : first.Valid)
    (hsecond : second.Valid) (heq : first.write = second.write) : first = second := by
  have hblank : ∀ width number, ' ' ∉ Text.padded width number :=
    Text.not_mem_padded rfl
  have hcolon : ∀ width number, ':' ∉ Text.padded width number :=
    Text.not_mem_padded rfl
  have hyear : ∀ number, ' ' ∉ Text.decimal number := Text.not_mem_decimal rfl
  rw [write_fields, write_fields] at heq
  obtain ⟨-, heq⟩ := Text.field_cons_inj (Date.blank_not_mem_short _)
    (Date.blank_not_mem_short _) heq
  obtain ⟨hmonth, heq⟩ := Text.field_cons_inj (Date.blank_not_mem_shortMonth _)
    (Date.blank_not_mem_shortMonth _) heq
  obtain ⟨hday, heq⟩ := Text.field_cons_inj (hblank _ _) (hblank _ _) heq
  obtain ⟨hyear, heq⟩ := Text.field_cons_inj (hyear _) (hyear _) heq
  obtain ⟨hhour, heq⟩ := Text.field_cons_inj (hcolon _ _) (hcolon _ _) heq
  obtain ⟨hminute, heq⟩ := Text.field_cons_inj (hcolon _ _) (hcolon _ _) heq
  obtain ⟨hsecs, heq⟩ := Text.field_cons_inj (hblank _ _) (hblank _ _) heq
  have hzone := zoneText_inj hfirst hsecond (List.append_cancel_left heq)
  have hmonths := Date.shortMonth_inj ⟨hfirst.date.month_pos, hfirst.date.month_le⟩
    ⟨hsecond.date.month_pos, hsecond.date.month_le⟩ hmonth
  obtain ⟨⟨_, _, _⟩, _, _, _, _⟩ := first
  obtain ⟨⟨_, _, _⟩, _, _, _, _⟩ := second
  simp only [mk.injEq, Date.mk.injEq]
  exact ⟨⟨Text.decimal_inj hyear, hmonths, Text.padded_inj hday⟩,
    Text.padded_inj hhour, Text.padded_inj hminute,
    Text.padded_inj hsecs, hzone⟩

/-- Half a second behind and half a second ahead are told apart, under a label that has
brackets in it. -/
theorem write_injective_sample :
    Valid ⟨⟨1, 1, 1⟩, 0, 0, 0, some ⟨-500000, "a) (b".toList⟩⟩ ∧
      Valid ⟨⟨1, 1, 1⟩, 0, 0, 0, some ⟨500000, "a) (b".toList⟩⟩ ∧
      write ⟨⟨1, 1, 1⟩, 0, 0, 0, some ⟨-500000, "a) (b".toList⟩⟩ ≠
        write ⟨⟨1, 1, 1⟩, 0, 0, 0, some ⟨500000, "a) (b".toList⟩⟩ := by
  have hdate : (Date.mk 1 1 1).Valid := by
    constructor <;> decide
  have hvalid : ∀ zone : Zone, zone.Valid → Valid ⟨⟨1, 1, 1⟩, 0, 0, 0, some zone⟩ := by
    intro zone hzone
    refine ⟨hdate, Nat.zero_lt_succ 23, Nat.zero_lt_succ 59, Nat.zero_lt_succ 59, ?_⟩
    rintro other ⟨⟩
    exact hzone
  have hbehind := hvalid ⟨-500000, "a) (b".toList⟩ ⟨by decide, by decide⟩
  have hahead := hvalid ⟨500000, "a) (b".toList⟩ ⟨by decide, by decide⟩
  refine ⟨hbehind, hahead, fun heq => ?_⟩
  have hsame := write_injective hbehind hahead heq
  exact absurd hsame (by decide)

end Moment

end Weave
