import DefinedQuant.Lib.Calendar
import DefinedQuant.Lib.FixedDigits
import DefinedQuant.Lib.Json.Size

/-!
# Aware datetimes

A date and time of the day with an offset from UTC of less than a day. Two aware datetimes are
compared by the instants that they name, and `isoformat` writes one down: the fraction and the small
parts of the offset only where they are not zero.
-/

open Calendar FixedDigits Json

/-- `datetime` with a `tzinfo`, the offset in microseconds. -/
structure Calendar.AwareDatetime where
  wall : Moment
  offset : ℤ
  offset_low : -86400000000 < offset
  offset_high : offset < 86400000000
  deriving DecidableEq

/-- `datetime(year, month, day, hour, minute, second, microsecond, tzinfo)`: nothing where a part is
out of range. -/
def Calendar.datetime (year month day hour minute second microsecond : ℕ) (offset : ℤ) :
    Option AwareDatetime :=
  if hDate : (1 ≤ year ∧ year ≤ 9999) ∧ (1 ≤ month ∧ month ≤ 12) ∧ 1 ≤ day ∧
    day ≤ daysInMonth year month then
    if hTime : hour ≤ 23 ∧ minute ≤ 59 ∧ second < 60 ∧ microsecond < 1000000 then
      if hOffset : -86400000000 < offset ∧ offset < 86400000000 then
        some { wall := { date := { year, month, day
                                   year_pos := hDate.1.1, year_le := hDate.1.2, month_pos :=
                                     hDate.2.1.1
                                   month_le := hDate.2.1.2, day_pos := hDate.2.2.1, day_le :=
                                     hDate.2.2.2 }
                         minutes := 60 * hour + minute, second, microsecond, minutes_lt := by omega
                         second_lt := hTime.2.2.1, microsecond_lt := hTime.2.2.2 }
               offset, offset_low := hOffset.1, offset_high := hOffset.2 }
      else none
    else none
  else none

namespace Calendar.AwareDatetime

/-- The instant that a datetime names. -/
def instant (t : AwareDatetime) : ℤ := t.wall.instant - t.offset

/-- A part behind its separator, if it is not zero. -/
def unlessZero (separator : CodePoint) (digits n : ℕ) : Text :=
  if n = 0 then [] else separator :: padded digits n

/-- The offset as `isoformat` writes it. -/
def offsetText (offset : ℤ) : Text :=
  let n := offset.natAbs
  let seconds := n / 1000000
  let micros := n % 1000000
  (if offset < 0 then 0x2D else 0x2B) :: (padded 2 (seconds / 3600) ++ 0x3A :: padded 2
    (seconds / 60 % 60) ++
    (if seconds % 60 = 0 ∧ micros = 0 then [] else 0x3A :: padded 2 (seconds % 60) ++
      unlessZero 0x2E 6 micros))

/-- `datetime.isoformat` -/
def isoformat (t : AwareDatetime) : Text :=
  padded 4 t.wall.date.year ++ 0x2D :: padded 2 t.wall.date.month ++
    0x2D :: padded 2 t.wall.date.day ++
    0x54 :: padded 2 t.wall.hour ++ 0x3A :: padded 2 t.wall.minute ++
    0x3A :: padded 2 t.wall.second ++
    unlessZero 0x2E 6 t.wall.microsecond ++ offsetText t.offset

theorem length_padded (n v : ℕ) : (padded n v).length = n := by
  rw [padded, Json.digitsText, List.length_map, length_fixedDigits]

theorem length_unlessZero_le (separator : CodePoint) (digits n : ℕ) :
    (unlessZero separator digits n).length ≤ digits + 1 := by
  unfold unlessZero
  split_ifs
  · exact Nat.zero_le _
  · rw [List.length_cons, length_padded]

theorem length_offsetText_le (offset : ℤ) : (offsetText offset).length ≤ 16 := by
  unfold offsetText
  have hMicros := length_unlessZero_le 0x2E 6 (offset.natAbs % 1000000)
  simp only [List.length_cons, List.length_append, length_padded]
  split_ifs
  · simp
  · simp only [List.length_cons, List.length_append, length_padded]
    omega

/-- An ISO form is not empty and takes at most 42 characters. -/
theorem length_isoformat (t : AwareDatetime) : 1 ≤ t.isoformat.length ∧
    t.isoformat.length ≤ 42 := by
  have hMicros := length_unlessZero_le 0x2E 6 t.wall.microsecond
  have hOffset := length_offsetText_le t.offset
  unfold isoformat
  simp only [List.length_cons, List.length_append, length_padded]
  omega

theorem encodable_padded (n v : ℕ) : Text.Encodable (padded n v) := by
  intro c hc
  obtain ⟨d, -, rfl⟩ := List.mem_map.1 hc
  have hVal : (Json.digitChar d).val = 48 + d % 10 := rfl
  rintro ⟨hLow, -⟩
  omega

theorem encodable_unlessZero {separator : CodePoint} (h : ¬ separator.IsSurrogate) (digits n : ℕ) :
    Text.Encodable (unlessZero separator digits n) := by
  unfold unlessZero
  split_ifs
  · exact Text.encodable_nil
  · exact Text.encodable_cons.2 ⟨h, encodable_padded _ _⟩

theorem encodable_offsetText (offset : ℤ) : Text.Encodable (offsetText offset) := by
  unfold offsetText
  simp only [Text.encodable_cons, Text.encodable_append]
  refine ⟨?_, ⟨encodable_padded _ _, by decide, encodable_padded _ _⟩, ?_⟩
  · split_ifs <;> decide
  · split_ifs
    · exact Text.encodable_nil
    · simp only [Text.encodable_cons, Text.encodable_append]
      exact ⟨⟨by decide, encodable_padded _ _⟩, encodable_unlessZero (by decide) _ _⟩

theorem encodable_isoformat (t : AwareDatetime) : Text.Encodable t.isoformat := by
  have hMicros := encodable_unlessZero (by decide : ¬ CodePoint.IsSurrogate 0x2E) 6
    t.wall.microsecond
  have hOffset := encodable_offsetText t.offset
  unfold isoformat
  simp only [Text.encodable_cons, Text.encodable_append, encodable_padded, hMicros, hOffset,
    and_true, true_and]
  decide

end Calendar.AwareDatetime
