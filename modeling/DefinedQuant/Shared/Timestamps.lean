import DefinedQuant.Lib.FixedDigits
import DefinedQuant.Shared.DataRecords.Dataset
import DefinedQuant.Shared.HostFailures

/-!
# Canonical timestamps

`canonicalTimestamp` reads a timestamp of a subset of RFC 3339, moves it to UTC and writes it again.
`Denotes` says what instant a text of the subset stands for, in the terms of the calendar alone; the
conversion accepts what denotes an instant of the calendar and forgets everything else about it. How
`strftime` writes a year below 1000 depends on the platform, and the payload's validator takes four
digits only.
-/

namespace DatasetRegistry

open Calendar FixedDigits Decimal Json HostFailures

/-! ## Timestamps as text -/

/-- The zone of a timestamp. -/
inductive Zone where
  | utc
  | offset (negative : Bool) (hours minutes : ℕ)
  deriving DecidableEq

def Zone.text : Zone → Text
  | .utc => [0x5A]
  | .offset negative hours minutes =>
      (if negative then 0x2D else 0x2B) :: (padded 2 hours ++ 0x3A :: padded 2 minutes)

/-- How far the zone is ahead of UTC. -/
def Zone.ahead : Zone → ℤ
  | .utc => 0
  | .offset negative hours minutes =>
      if negative then -(60 * hours + minutes : ℕ) else (60 * hours + minutes : ℕ)

/-- The groups of `_TIMESTAMP`; a timestamp without a fraction has no fraction digits. -/
structure Timestamp where
  year : ℕ
  month : ℕ
  day : ℕ
  hour : ℕ
  minute : ℕ
  second : ℕ
  fraction : List ℕ
  zone : Zone
  deriving DecidableEq

/-- The digits of a fraction behind their point. -/
def fractionPart : List ℕ → Text
  | [] => []
  | d :: ds => 0x2E :: digitsText (d :: ds)

/-- The part of a timestamp behind the year. -/
def Timestamp.rest (f : Timestamp) : Text :=
  0x2D :: (padded 2 f.month ++ 0x2D :: (padded 2 f.day ++ 0x54 :: (padded 2 f.hour ++
    0x3A :: (padded 2 f.minute ++ 0x3A ::
      (padded 2 f.second ++ (fractionPart f.fraction ++ f.zone.text))))))

def Timestamp.text (f : Timestamp) : Text := padded 4 f.year ++ f.rest

/-- The character at the front. -/
def readChar (c : CodePoint) : Text → Option Text
  | [] => none
  | front :: t => if front = c then some t else none

/-- One to six digits behind a point, if a point is there. -/
def readFraction : Text → Option (List ℕ × Text)
  | [] => some ([], [])
  | front :: t =>
      if front = 0x2E then
        if 1 ≤ (scanDigits t).1.length ∧ (scanDigits t).1.length ≤ 6 then some (scanDigits t)
          else none
      else some ([], front :: t)

/-- A zone up to the end of the text. -/
def readZone : Text → Option Zone
  | [] => none
  | sign :: t =>
      if sign = 0x5A then
        if t = [] then some .utc else none
      else if sign = 0x2B ∨ sign = 0x2D then do
        let (hours, t) ← readNumber 2 t
        let t ← readChar 0x3A t
        let (minutes, t) ← readNumber 2 t
        if t = [] then some (.offset (decide (sign = 0x2D)) hours minutes) else none
      else none

/-- The groups of the pattern behind the year. -/
def readRest (year : ℕ) (t : Text) : Option Timestamp := do
  let t ← readChar 0x2D t
  let (month, t) ← readNumber 2 t
  let t ← readChar 0x2D t
  let (day, t) ← readNumber 2 t
  let t ← readChar 0x54 t
  let (hour, t) ← readNumber 2 t
  let t ← readChar 0x3A t
  let (minute, t) ← readNumber 2 t
  let t ← readChar 0x3A t
  let (second, t) ← readNumber 2 t
  let (fraction, t) ← readFraction t
  let zone ← readZone t
  some { year, month, day, hour, minute, second, fraction, zone }

/-- `_TIMESTAMP.fullmatch`. The digits that the pattern accepts beyond ASCII are refused by
`datetime.fromisoformat` with the same failure, and left out here. -/
def matchTimestamp (value : Text) : Option Timestamp := do
  let (year, t) ← readNumber 4 value
  readRest year t

/-! ## Conversion -/

/-- `_invalid_dataset("invalid_timestamp")` -/
def invalidTimestamp : Raised :=
  .host .invalidDataset [(py "finding_codes", .list [.lit "invalid_timestamp"])]

/-- The fraction in microseconds. -/
def Timestamp.microsecond (f : Timestamp) : ℕ :=
  ofDigitList (f.fraction ++ List.replicate (6 - f.fraction.length) 0)

/-- `datetime.fromisoformat`, up to the zone: a date of the calendar and a time of the day. -/
def Timestamp.fromisoformat (f : Timestamp) : Option Moment :=
  if hDate : (1 ≤ f.year ∧ f.year ≤ 9999) ∧ (1 ≤ f.month ∧ f.month ≤ 12) ∧
      1 ≤ f.day ∧ f.day ≤ daysInMonth f.year f.month then
    if hTime : f.hour ≤ 23 ∧ f.minute ≤ 59 ∧ f.second ≤ 59 ∧ f.microsecond < 1000000 then
      some { date := { year := f.year, month := f.month, day := f.day
                       year_pos := hDate.1.1, year_le := hDate.1.2, month_pos := hDate.2.1.1
                       month_le := hDate.2.1.2, day_pos := hDate.2.2.1, day_le := hDate.2.2.2 }
             minutes := 60 * f.hour + f.minute, second := f.second, microsecond := f.microsecond
             minutes_lt := by omega, second_lt := by omega, microsecond_lt := hTime.2.2.2 }
    else none
  else none

/-- The digits that `%Y` writes: four of them, or on some platforms no zeros in front. -/
def yearDigits (pads : Bool) (year : ℕ) : List ℕ := if pads then fixedDigits 4 year
    else natDigits year

/-- `strftime("%Y-%m-%dT%H:%M:%S")` -/
def strftime (pads : Bool) (utc : Moment) : Text :=
  digitsText (yearDigits pads utc.date.year) ++ 0x2D :: (padded 2 utc.date.month ++
    0x2D :: (padded 2 utc.date.day ++ 0x54 :: (padded 2 utc.hour ++ 0x3A :: (padded 2 utc.minute ++
      0x3A :: padded 2 utc.second))))

/-- The canonical text of a moment of UTC: its fraction, if it has one, without trailing zeros. -/
def canonicalText (pads : Bool) (utc : Moment) : Text :=
  strftime pads utc ++
    (if utc.microsecond = 0 then []
      else 0x2E :: digitsText (stripZeros (fixedDigits 6 utc.microsecond))) ++
    [0x5A]

/-- The hours or minutes of the zone lie outside a day. -/
def Zone.Beyond : Zone → Prop
  | .utc => False
  | .offset _ hours minutes => 23 < hours ∨ 59 < minutes

instance (zone : Zone) : Decidable zone.Beyond :=
  match zone with
  | .utc => inferInstanceAs (Decidable False)
  | .offset _ hours minutes => inferInstanceAs (Decidable (23 < hours ∨ 59 < minutes))

/-- `_canonical_timestamp` -/
def canonicalTimestamp (pads : Bool) (value : Text) : Except Raised Text :=
  match matchTimestamp value with
  | none => .error invalidTimestamp
  | some f =>
      if f.hour = 24 ∨ f.second = 60 then .error invalidTimestamp
      else if f.zone.Beyond then .error invalidTimestamp
      else
        -- `astimezone` overflows where the calendar has no date
        match f.fromisoformat.bind (fun parsed => parsed.minusMinutes f.zone.ahead) with
        | none => .error invalidTimestamp
        | some utc => .ok (canonicalText pads utc)

/-! ## What a timestamp denotes -/

/-- The offset of a zone is less than a day. -/
def Zone.Valid : Zone → Prop
  | .utc => True
  | .offset _ hours minutes => hours ≤ 23 ∧ minutes ≤ 59

/-- The fields are those of a moment, written in a zone. -/
structure Timestamp.At (f : Timestamp) (m : Moment) : Prop where
  year : m.date.year = f.year
  month : m.date.month = f.month
  day : m.date.day = f.day
  hour : m.hour = f.hour
  minute : m.minute = f.minute
  second : m.second = f.second
  digits : f.fraction.length ≤ 6 ∧ ∀ d ∈ f.fraction, d < 10
  microsecond : m.microsecond = ofDigitList f.fraction * 10 ^ (6 - f.fraction.length)
  zone : f.zone.Valid

/-- A text of the subset denotes an instant, in microseconds of UTC. -/
def Denotes (value : Text) (instant : ℤ) : Prop :=
  ∃ f m, Timestamp.At f m ∧ value = f.text ∧ instant = m.instant - f.zone.ahead * 60000000

/-! ## Matching -/

/-- The groups fit the digits of the pattern. -/
structure Timestamp.Written (f : Timestamp) : Prop where
  year : f.year < 10 ^ 4
  month : f.month < 10 ^ 2
  day : f.day < 10 ^ 2
  hour : f.hour < 10 ^ 2
  minute : f.minute < 10 ^ 2
  second : f.second < 10 ^ 2
  fraction : f.fraction.length ≤ 6 ∧ ∀ d ∈ f.fraction, d < 10
  zone : ∀ negative hours minutes, f.zone = .offset negative hours minutes → hours < 10 ^ 2 ∧
    minutes < 10 ^ 2

/-- A symbol is read when it stands at the front. -/
theorem readChar_eq_some {c : CodePoint} {t rest : Text} : readChar c t = some rest ↔
    t = c :: rest := by
  cases t with
  | nil => simp [readChar]
  | cons front t =>
      rw [readChar, List.cons.injEq]
      split_ifs with hFront
      · rw [Option.some.injEq]
        exact (and_iff_right hFront).symm
      · simp [hFront]

/-- What no fraction and no digit starts. -/
def Plain (t : Text) : Prop := ∀ c tail, t = c :: tail → digit? c = none ∧ c ≠ 0x2E

/-- A written fraction is read back. -/
theorem readFraction_fractionPart {ds : List ℕ} (hLength : ds.length ≤ 6) (hLt : ∀ d ∈ ds, d < 10)
    {rest : Text} (hRest : Plain rest) : readFraction (fractionPart ds ++ rest) =
    some (ds, rest) := by
  cases ds with
  | nil =>
      show readFraction rest = some ([], rest)
      cases rest with
      | nil => rfl
      | cons c tail => rw [readFraction, if_neg (hRest c tail rfl).2]
  | cons d ds =>
      have hScan := scanDigits_digitsText hLt (fun c tail h => (hRest c tail h).1)
      show readFraction (0x2E :: (digitsText (d :: ds) ++ rest)) = _
      rw [readFraction, if_pos rfl, hScan, if_pos ⟨Nat.le_add_left 1 _, hLength⟩]

/-- Scanned digits are digits. -/
theorem digit?_mem_scanDigits (t : Text) : ∀ d ∈ (scanDigits t).1, d < 10 := by
  induction t with
  | nil => exact fun d hd => absurd hd List.not_mem_nil
  | cons c t ih =>
      intro d hd
      rw [scanDigits] at hd
      split at hd
      · rename_i e hDigit
        rcases List.mem_cons.1 hd with rfl | hd
        · exact (digit?_eq_some.1 hDigit).1
        · exact ih d hd
      · exact absurd hd List.not_mem_nil

/-- Scanned digits and what is left make up the text. -/
theorem digitsText_scanDigits (t : Text) : digitsText (scanDigits t).1 ++ (scanDigits t).2 = t := by
  induction t with
  | nil => rfl
  | cons c t ih =>
      rw [scanDigits]
      split
      · rename_i e hDigit
        rw [(digit?_eq_some.1 hDigit).2]
        exact congrArg (digitChar e :: ·) ih
      · rfl

/-- What is read as a fraction is a fraction of at most six digits. -/
theorem readFraction_eq_some {t rest : Text} {ds : List ℕ} (h : readFraction t = some (ds, rest)) :
    (ds.length ≤ 6 ∧ ∀ d ∈ ds, d < 10) ∧ t = fractionPart ds ++ rest := by
  have hNil : ([] : List ℕ).length ≤ 6 ∧ ∀ d ∈ ([] : List ℕ), d < 10 :=
    ⟨Nat.zero_le 6, fun d hd => absurd hd List.not_mem_nil⟩
  cases t with
  | nil =>
      cases h
      exact ⟨hNil, rfl⟩
  | cons front t =>
      rw [readFraction] at h
      split_ifs at h with hPoint hLength
      · have hDigits := congrArg Prod.fst (Option.some.inj h)
        have hTail := congrArg Prod.snd (Option.some.inj h)
        have hText := digitsText_scanDigits t
        have hLt := digit?_mem_scanDigits t
        rw [hDigits] at hLength hLt hText
        rw [hTail] at hText
        refine ⟨⟨hLength.2, hLt⟩, ?_⟩
        cases ds with
        | nil => exact absurd hLength.1 (Nat.not_succ_le_zero 0)
        | cons d ds => rw [hPoint, ← hText]; rfl
      · cases h
        exact ⟨hNil, rfl⟩

/-- A zone opens with neither a digit nor a point. -/
theorem plain_zone (zone : Zone) : Plain zone.text := by
  intro c tail h
  cases zone with
  | utc =>
      cases h
      decide
  | offset negative hours minutes =>
      obtain ⟨rfl, -⟩ := List.cons.inj h
      cases negative <;> decide

/-- What is read as a zone is the text of that zone. -/
theorem readZone_eq_some {t : Text} {zone : Zone} : readZone t = some zone ↔
    (∀ negative hours minutes, zone = .offset negative hours minutes → hours < 10 ^ 2 ∧
      minutes < 10 ^ 2) ∧
      t = zone.text := by
  cases t with
  | nil =>
      constructor
      -- A zone is the letter `Z` at the end, or a sign with two numbers of two digits.
      · intro h
        cases h
      · rintro ⟨-, h⟩
        cases zone <;> cases h
  | cons sign t =>
      rw [readZone]
      constructor
      · intro h
        split_ifs at h with hUtc hEnd hSign
        · cases h
          refine ⟨fun _ _ _ hZone => (by cases hZone), ?_⟩
          rw [hUtc, hEnd]
          rfl
        · simp only [bind, Option.bind_eq_some_iff, Prod.exists, readNumber_eq_some,
            readChar_eq_some] at h
          obtain ⟨hours, _, ⟨hHours, rfl⟩, _, rfl, minutes, rest, ⟨hMinutes, rfl⟩, h⟩ := h
          split_ifs at h with hEnd
          cases h
          refine ⟨fun _ _ _ hZone => (by cases hZone; exact ⟨hHours, hMinutes⟩), ?_⟩
          rw [hEnd, List.append_nil]
          rcases hSign with rfl | rfl <;> rfl
      · rintro ⟨hWritten, h⟩
        cases zone with
        | utc =>
            cases h
            rfl
        | offset negative hours minutes =>
            obtain ⟨hHours, hMinutes⟩ := hWritten negative hours minutes rfl
            obtain ⟨rfl, rfl⟩ := List.cons.inj h
            have hNotUtc : (if negative then 0x2D else 0x2B : CodePoint) ≠ 0x5A := by
              cases negative <;> decide
            have hSign : (if negative then 0x2D else 0x2B : CodePoint) = 0x2B ∨
                (if negative then 0x2D else 0x2B : CodePoint) = 0x2D := by
              cases negative
              · exact .inl rfl
              · exact .inr rfl
            rw [if_neg hNotUtc, if_pos hSign]
            simp only [bind, Option.bind_eq_some_iff, Prod.exists, readNumber_eq_some,
              readChar_eq_some]
            refine ⟨hours, _, ⟨hHours, rfl⟩, _, rfl, minutes, [],
              ⟨hMinutes, (List.append_nil _).symm⟩, ?_⟩
            rw [if_pos rfl]
            cases negative <;> rfl

/-- The pattern behind the year takes exactly what fits it. -/
theorem readRest_eq_some {year : ℕ} (hYear : year < 10 ^ 4) {t : Text} {f : Timestamp} :
    readRest year t = some f ↔ f.Written ∧ f.year = year ∧ t = f.rest := by
  unfold readRest
  simp only [bind, Option.bind_eq_some_iff, Prod.exists, readNumber_eq_some, readChar_eq_some]
  constructor
  · rintro ⟨_, rfl, month, _, ⟨hMonth, rfl⟩, _, rfl, day, _, ⟨hDay, rfl⟩, _, rfl, hour, _,
      ⟨hHour, rfl⟩, _, rfl, minute, _, ⟨hMinute, rfl⟩, _, rfl, second, _, ⟨hSecond, rfl⟩, fraction,
      t, hFraction, zone, hZone, h⟩
    obtain ⟨hDigits, rfl⟩ := readFraction_eq_some hFraction
    obtain ⟨hNumbers, rfl⟩ := readZone_eq_some.1 hZone
    cases h
    exact ⟨⟨hYear, hMonth, hDay, hHour, hMinute, hSecond, hDigits, hNumbers⟩, rfl, rfl⟩
  · rintro ⟨h, rfl, rfl⟩
    refine ⟨_, rfl, f.month, _, ⟨h.month, rfl⟩, _, rfl, f.day, _, ⟨h.day, rfl⟩, _, rfl, f.hour, _,
      ⟨h.hour, rfl⟩, _, rfl, f.minute, _, ⟨h.minute, rfl⟩, _, rfl, f.second, _, ⟨h.second, rfl⟩,
      f.fraction, _, readFraction_fractionPart h.fraction.1 h.fraction.2 (plain_zone _), f.zone,
      readZone_eq_some.2 ⟨h.zone, rfl⟩, rfl⟩

/-- The pattern takes exactly the texts of groups that fit it. -/
theorem matchTimestamp_eq_some {value : Text} {f : Timestamp} :
    matchTimestamp value = some f ↔ f.Written ∧ value = f.text := by
  unfold matchTimestamp
  simp only [bind, Option.bind_eq_some_iff, Prod.exists, readNumber_eq_some]
  constructor
  · rintro ⟨year, t, ⟨hYear, rfl⟩, h⟩
    obtain ⟨hWritten, rfl, rfl⟩ := (readRest_eq_some hYear).1 h
    exact ⟨hWritten, rfl⟩
  · rintro ⟨h, rfl⟩
    exact ⟨f.year, f.rest, ⟨h.year, rfl⟩, (readRest_eq_some h.year).2 ⟨h, rfl, rfl⟩⟩

/-! ## Conversion -/

/-- The digits of the fraction, filled up to six. -/
theorem Timestamp.microsecond_eq (f : Timestamp) :
    f.microsecond = ofDigitList f.fraction * 10 ^ (6 - f.fraction.length) := by
  unfold Timestamp.microsecond
  rw [ofDigitList_append, ofDigitList_replicate_zero, List.length_replicate, Nat.add_zero]

/-- A valid zone is less than a day ahead or behind. -/
theorem Zone.Valid.ahead_lt {zone : Zone} (h : zone.Valid) : -1440 < zone.ahead ∧
    zone.ahead < 1440 := by
  cases zone with
  | utc => exact ⟨by decide, by decide⟩
  | offset negative hours minutes =>
      have hHours : hours ≤ 23 := h.1
      have hMinutes : minutes ≤ 59 := h.2
      simp only [Zone.ahead]
      split_ifs <;> omega

/-- A zone is valid unless it is beyond its bounds. -/
theorem Zone.valid_iff (zone : Zone) : zone.Valid ↔ ¬ zone.Beyond := by
  cases zone with
  | utc => exact ⟨fun _ h => h, fun _ => trivial⟩
  | offset negative hours minutes =>
      show hours ≤ 23 ∧ minutes ≤ 59 ↔ ¬ (23 < hours ∨ 59 < minutes)
      omega

/-- The fields of a moment fit the pattern. -/
theorem Timestamp.At.written {f : Timestamp} {m : Moment} (h : f.At m) : f.Written := by
  have hYear := m.date.year_le
  have hMonth := m.date.month_le
  have hDay := m.date.day_le.trans (daysInMonth_bounds _ _).2
  have hMinutes := m.minutes_lt
  have hSecond := m.second_lt
  have hHourEq : m.minutes / 60 = f.hour := h.hour
  have hMinuteEq : m.minutes % 60 = f.minute := h.minute
  rw [h.year] at hYear
  rw [h.month] at hMonth
  rw [h.day] at hDay
  rw [h.second] at hSecond
  refine ⟨by omega, by omega, by omega, by omega, by omega, by omega, h.digits, ?_⟩
  intro negative hours minutes hZone
  have hValid := h.zone
  rw [hZone] at hValid
  exact ⟨Nat.lt_of_le_of_lt hValid.1 (by decide), Nat.lt_of_le_of_lt hValid.2 (by decide)⟩

/-- A timestamp at a moment is parsed to that moment. -/
theorem Timestamp.At.fromisoformat {f : Timestamp} {m : Moment} (h : f.At m) :
    f.fromisoformat = some m := by
  have hMicrosecond : f.microsecond = m.microsecond := f.microsecond_eq.trans h.microsecond.symm
  have hMinutes := m.minutes_lt
  have hSecond := m.second_lt
  have hHourEq : m.minutes / 60 = f.hour := h.hour
  have hMinuteEq : m.minutes % 60 = f.minute := h.minute
  have hDate : (1 ≤ f.year ∧ f.year ≤ 9999) ∧ (1 ≤ f.month ∧ f.month ≤ 12) ∧
      1 ≤ f.day ∧ f.day ≤ daysInMonth f.year f.month := by
    rw [← h.year, ← h.month, ← h.day]
    exact ⟨⟨m.date.year_pos, m.date.year_le⟩, ⟨m.date.month_pos, m.date.month_le⟩, m.date.day_pos,
      m.date.day_le⟩
  have hTime : f.hour ≤ 23 ∧ f.minute ≤ 59 ∧ f.second ≤ 59 ∧ f.microsecond < 1000000 := by
    rw [hMicrosecond, ← h.second]
    exact ⟨by omega, by omega, by omega, m.microsecond_lt⟩
  unfold Timestamp.fromisoformat
  rw [dif_pos hDate, dif_pos hTime]
  refine congrArg some (Moment.instant_injective ?_)
  have hDateEq :
    (⟨f.year, f.month, f.day, hDate.1.1, hDate.1.2, hDate.2.1.1, hDate.2.1.2, hDate.2.2.1,
      hDate.2.2.2⟩ : Date) = m.date :=
    Date.ext_iff_fields.2 ⟨h.year.symm, h.month.symm, h.day.symm⟩
  have hMinutesEq : 60 * f.hour + f.minute = m.minutes := by omega
  unfold Moment.instant
  simp only [hDateEq, hMinutesEq, ← h.second, hMicrosecond]

/-- A timestamp that is parsed to a moment is at it. -/
theorem at_of_fromisoformat {f : Timestamp} {m : Moment} (hWritten : f.Written)
    (hZone : f.zone.Valid) (h : f.fromisoformat = some m) : f.At m := by
  unfold Timestamp.fromisoformat at h
  split_ifs at h with hDate hTime
  cases h
  refine ⟨rfl, rfl, rfl, ?_, ?_, rfl, hWritten.fraction, f.microsecond_eq, hZone⟩
  · show (60 * f.hour + f.minute) / 60 = f.hour
    omega
  · show (60 * f.hour + f.minute) % 60 = f.minute
    omega

/-- The conversion of a text, without its refusals. -/
theorem canonicalTimestamp_eq_ok {pads : Bool} {value out : Text} :
    canonicalTimestamp pads value = .ok out ↔ ∃ f m utc, Timestamp.At f m ∧ value = f.text ∧
      m.minusMinutes f.zone.ahead = some utc ∧ out = canonicalText pads utc := by
  unfold canonicalTimestamp
  constructor
  · intro h
    cases hMatch : matchTimestamp value with
    | none =>
        rw [hMatch] at h
        cases h
    | some f =>
        rw [hMatch] at h
        dsimp only at h
        split_ifs at h with hLeap hZone
        split at h
        · cases h
        · rename_i utc hUtc
          cases h
          obtain ⟨m, hMoment, hMinus⟩ := Option.bind_eq_some_iff.1 hUtc
          obtain ⟨hWritten, hText⟩ := matchTimestamp_eq_some.1 hMatch
          exact ⟨f, m, utc, at_of_fromisoformat hWritten ((Zone.valid_iff _).2 hZone) hMoment,
            hText, hMinus, rfl⟩
  · rintro ⟨f, m, utc, hAt, rfl, hMinus, rfl⟩
    have hMatch := matchTimestamp_eq_some.2 ⟨hAt.written, rfl⟩
    have hMinutes := m.minutes_lt
    have hSecond := m.second_lt
    have hHourEq : m.minutes / 60 = f.hour := hAt.hour
    have hLeap : ¬ (f.hour = 24 ∨ f.second = 60) := by
      rw [← hAt.second]
      omega
    rw [hMatch]
    dsimp only
    rw [if_neg hLeap, if_neg ((Zone.valid_iff _).1 hAt.zone), hAt.fromisoformat, Option.bind_some,
      hMinus]

/-- A text is accepted where it denotes an instant of the calendar, and written as its moment of
UTC. -/
theorem canonicalTimestamp_iff_denotes {pads : Bool} {value out : Text} :
    canonicalTimestamp pads value = .ok out ↔
      ∃ utc : Moment, Denotes value utc.instant ∧ out = canonicalText pads utc := by
  rw [canonicalTimestamp_eq_ok]
  constructor
  · rintro ⟨f, m, utc, hAt, rfl, hMinus, rfl⟩
    obtain ⟨hLow, hHigh⟩ := hAt.zone.ahead_lt
    exact ⟨utc, ⟨f, m, hAt, rfl, Moment.instant_minusMinutes hLow hHigh hMinus⟩, rfl⟩
  · rintro ⟨utc, ⟨f, m, hAt, rfl, hInstant⟩, rfl⟩
    obtain ⟨hLow, hHigh⟩ := hAt.zone.ahead_lt
    refine ⟨f, m, utc, hAt, rfl, ?_, rfl⟩
    cases hMinus : m.minusMinutes f.zone.ahead with
    | none => exact absurd hInstant (Moment.minusMinutes_eq_none hLow hHigh hMinus utc)
    | some n =>
        have hSame := Moment.instant_minusMinutes hLow hHigh hMinus
        rw [Moment.instant_injective (hSame.trans hInstant.symm)]

/-- A text denotes one instant. -/
theorem denotes_unique {value : Text} {i j : ℤ} (hi : Denotes value i) (hj : Denotes value j) :
    i = j := by
  obtain ⟨f, m, hAt, rfl, rfl⟩ := hi
  obtain ⟨g, n, hAt', hText, rfl⟩ := hj
  have hMatch := matchTimestamp_eq_some.2 ⟨hAt.written, rfl⟩
  rw [matchTimestamp_eq_some.2 ⟨hAt'.written, hText⟩] at hMatch
  obtain rfl := Option.some.inj hMatch
  have hMoment := hAt.fromisoformat
  rw [hAt'.fromisoformat] at hMoment
  rw [Option.some.inj hMoment]

/-! ## Canonical texts -/

/-- The fields that the canonical text of a moment has. -/
def utcFields (m : Moment) : Timestamp where
  year := m.date.year
  month := m.date.month
  day := m.date.day
  hour := m.hour
  minute := m.minute
  second := m.second
  fraction := if m.microsecond = 0 then [] else stripZeros (fixedDigits 6 m.microsecond)
  zone := .utc

/-- Six digits of a fraction, without the zeros at the end. -/
theorem stripZeros_fixedDigits {n v : ℕ} (h : v < 10 ^ n) :
    (stripZeros (fixedDigits n v)).length ≤ n ∧ (∀ d ∈ stripZeros (fixedDigits n v), d < 10) ∧
      v = ofDigitList (stripZeros (fixedDigits n v)) *
        10 ^ (n - (stripZeros (fixedDigits n v)).length) := by
  obtain ⟨k, hk⟩ := stripZeros_append (fixedDigits n v)
  have hLength := congrArg List.length hk
  rw [List.length_append, List.length_replicate, length_fixedDigits] at hLength
  have hValue := congrArg ofDigitList hk
  rw [ofDigitList_fixedDigits h, ofDigitList_append, ofDigitList_replicate_zero,
    List.length_replicate, Nat.add_zero] at hValue
  refine ⟨by omega, fun d hd => ?_, ?_⟩
  · refine fixedDigits_lt (n := n) (v := v) ?_
    rw [hk]
    exact List.mem_append_left _ hd
  · have hZeros : n - (stripZeros (fixedDigits n v)).length = k := by omega
    rw [hZeros]
    exact hValue

/-- The UTC fields of a moment are at it. -/
theorem utcFields_at (m : Moment) : (utcFields m).At m := by
  by_cases hZero : m.microsecond = 0
  · have hFraction : (utcFields m).fraction = [] := if_pos hZero
    refine ⟨rfl, rfl, rfl, rfl, rfl, rfl, ?_, ?_, trivial⟩
    · rw [hFraction]
      exact ⟨Nat.zero_le 6, fun d hd => absurd hd List.not_mem_nil⟩
    · rw [hFraction, hZero, ofDigitList_nil, Nat.zero_mul]
  · have hFraction : (utcFields m).fraction = stripZeros (fixedDigits 6 m.microsecond) :=
      if_neg hZero
    obtain ⟨hLength, hLt, hValue⟩ := stripZeros_fixedDigits (n := 6) m.microsecond_lt
    refine ⟨rfl, rfl, rfl, rfl, rfl, rfl, ?_, ?_, trivial⟩
    · rw [hFraction]
      exact ⟨hLength, hLt⟩
    · rw [hFraction]
      exact hValue

/-- The fraction of the canonical form has no trailing zero. -/
theorem fractionPart_utcFields (m : Moment) : fractionPart (utcFields m).fraction =
    if m.microsecond = 0 then []
      else 0x2E :: digitsText (stripZeros (fixedDigits 6 m.microsecond)) := by
  unfold utcFields
  dsimp only
  split_ifs with hZero
  · rfl
  · have hValue := (stripZeros_fixedDigits (n := 6) m.microsecond_lt).2.2
    cases hDigits : stripZeros (fixedDigits 6 m.microsecond) with
    | nil =>
        rw [hDigits, ofDigitList_nil, Nat.zero_mul] at hValue
        exact absurd hValue hZero
    | cons d ds => rfl

/-- A canonical text is a year and the rest of its fields. -/
theorem canonicalText_eq (pads : Bool) (m : Moment) :
    canonicalText pads m = digitsText (yearDigits pads m.date.year) ++ (utcFields m).rest := by
  unfold canonicalText strftime Timestamp.rest
  rw [fractionPart_utcFields]
  simp only [List.append_assoc, List.cons_append]
  rfl

/-- The digits of a year are digits. -/
theorem yearDigits_lt {pads : Bool} {year : ℕ} : ∀ d ∈ yearDigits pads year, d < 10 := by
  unfold yearDigits
  split_ifs
  · exact fun d => fixedDigits_lt
  · exact (digits_natDigits year).2

/-- They give the year back, padded or not. -/
theorem ofDigitList_yearDigits (pads : Bool) {year : ℕ} (h : year ≤ 9999) :
    ofDigitList (yearDigits pads year) = year := by
  unfold yearDigits
  split_ifs
  · exact ofDigitList_fixedDigits (by omega)
  · exact ofDigitList_natDigits year

/-- Different moments have different texts, whatever the platform does with the year. -/
theorem canonicalText_injective {pads : Bool} {m n : Moment}
    (h : canonicalText pads m = canonicalText pads n) : m = n := by
  rw [canonicalText_eq, canonicalText_eq] at h
  obtain ⟨hDigits, hTail⟩ := digitsText_append_inj yearDigits_lt yearDigits_lt rfl h
  have hYear := congrArg ofDigitList hDigits
  rw [ofDigitList_yearDigits pads m.date.year_le, ofDigitList_yearDigits pads n.date.year_le]
    at hYear
  have hRest : (utcFields m).rest = (utcFields n).rest := congrArg (0x2D :: ·) hTail
  have hRead := (readRest_eq_some (utcFields_at m).written.year).2 ⟨(utcFields_at m).written,
    rfl, rfl⟩
  have hReadN := (readRest_eq_some (utcFields_at n).written.year).2 ⟨(utcFields_at n).written,
    rfl, rfl⟩
  have hSameYear : (utcFields m).year = (utcFields n).year := hYear
  rw [hRest, hSameYear, hReadN] at hRead
  have hMoment := (utcFields_at m).fromisoformat
  rw [← Option.some.inj hRead, (utcFields_at n).fromisoformat] at hMoment
  exact (Option.some.inj hMoment).symm

/-- Where the year fills four digits, the text is that of the fields. -/
theorem canonicalText_eq_text {pads : Bool} {m : Moment} (h : pads = true ∨ 1000 ≤ m.date.year) :
    canonicalText pads m = (utcFields m).text := by
  have hDigits : yearDigits pads m.date.year = fixedDigits 4 m.date.year := by
    unfold yearDigits
    split_ifs with hPads
    · rfl
    · rcases h with h | h
      · exact absurd h hPads
      · have hHigh := m.date.year_le
        exact natDigits_eq_fixedDigits (k := 3) h (by omega)
  rw [canonicalText_eq, hDigits]
  rfl

/-- And elsewhere no timestamp at all. -/
theorem canonicalTimestamp_short_year {m : Moment} (h : m.date.year < 1000) :
    canonicalTimestamp false (canonicalText false m) = .error invalidTimestamp := by
  have hLength : (natDigits m.date.year).length < 4 :=
    Nat.lt_succ_of_le (length_natDigits_le (by decide) h)
  have hMatch : matchTimestamp (canonicalText false m) = none := by
    rw [canonicalText_eq]
    unfold matchTimestamp
    have hRead := readNumber_short hLength (c := 0x2D) rfl (utcFields m).rest.tail
    show (readNumber 4 (digitsText (natDigits m.date.year) ++ 0x2D :: (utcFields m).rest.tail)).bind
      _ = none
    rw [hRead]
    rfl
  unfold canonicalTimestamp
  rw [hMatch]

/-! ## The validator of payloads -/

/-- The number of the code point of a digit. -/
theorem val_digitChar (d : ℕ) : (digitChar d).val = 48 + d % 10 := rfl

/-- A written digit is an ASCII digit. -/
theorem isDigit_digitChar (d : ℕ) : (digitChar d).isDigit = true := by
  rw [CodePoint.isDigit, val_digitChar]
  simp only [Bool.and_eq_true, decide_eq_true_eq]
  omega

/-- The places of a timestamp up to the seconds. -/
def Timestamp.places (f : Timestamp) : Text :=
  padded 4 f.year ++ 0x2D ::
    (padded 2 f.month ++ 0x2D :: (padded 2 f.day ++ 0x54 :: (padded 2 f.hour ++
    0x3A :: (padded 2 f.minute ++ 0x3A :: padded 2 f.second))))

/-- The text of a timestamp: its places, its fraction and its zone. -/
theorem Timestamp.text_eq_places (f : Timestamp) :
    f.text = f.places ++ (fractionPart f.fraction ++ f.zone.text) := by
  unfold Timestamp.text Timestamp.rest Timestamp.places
  simp only [List.append_assoc, List.cons_append]

/-- The places fit the template of the pattern. -/
theorem fitsTemplate_places (f : Timestamp) :
    DataRecords.fitsTemplate (py "dddd-dd-ddTdd:dd:dd") f.places = true := by
  have hTemplate : py "dddd-dd-ddTdd:dd:dd" = [0x64, 0x64, 0x64, 0x64, 0x2D, 0x64, 0x64, 0x2D,
    0x64, 0x64,
      0x54, 0x64, 0x64, 0x3A, 0x64, 0x64, 0x3A, 0x64, 0x64] := by decide
  rw [hTemplate]
  simp [Timestamp.places, padded, fixedDigits, digitsText, DataRecords.fitsTemplate,
    isDigit_digitChar]

/-- A short fraction without a trailing zero fits the pattern. -/
theorem isFraction_fractionPart {ds : List ℕ} (hLength : ds.length ≤ 6) (hLast : ds.getLast? ≠ some 0)
    (hLt : ∀ d ∈ ds, d < 10) : DataRecords.isFraction (fractionPart ds) = true := by
  cases ds with
  | nil => rfl
  | cons d ds =>
      have hAll : (digitsText (d :: ds)).all CodePoint.isDigit = true := by
        rw [List.all_eq_true]
        intro c hc
        obtain ⟨e, -, rfl⟩ := List.mem_map.1 hc
        exact isDigit_digitChar e
      have hEnd : (digitsText (d :: ds)).getLast? ≠ some 0x30 := by
        rw [digitsText, List.getLast?_map]
        intro h
        obtain ⟨e, he, hChar⟩ := Option.map_eq_some_iff.1 h
        have hVal := congrArg Fin.val hChar
        rw [val_digitChar] at hVal
        have hSmall := hLt e (List.mem_of_getLast? he)
        have hZero : e = 0 := by
          have hThirty : ((0x30 : CodePoint) : ℕ) = 48 := rfl
          omega
        exact hLast (he.trans (congrArg some hZero))
      have hCount : (digitsText (d :: ds)).length ≤ 6 := by rw [digitsText, List.length_map]; exact hLength
      have hSome : 1 ≤ (digitsText (d :: ds)).length := Nat.le_add_left 1 _
      unfold DataRecords.isFraction fractionPart
      simp only [hAll, hCount, hSome]
      simp [hEnd]

/-- Reading written digits from the left gives their number. -/
theorem foldl_digitsText {ds : List ℕ} (h : ∀ d ∈ ds, d < 10) :
    (digitsText ds).foldl (fun n c => 10 * n + (c.val - 48)) 0 = ofDigitList ds := by
  induction ds using List.reverseRecOn with
  | nil => rfl
  | append_singleton ds d ih =>
      have hInit := ih (fun e he => h e (List.mem_append_left _ he))
      have hLast := h d (List.mem_append_right _ List.mem_cons_self)
      rw [digitsText, List.map_append, List.foldl_append]
      show 10 * (digitsText ds).foldl _ 0 + ((digitChar d).val - 48) = _
      rw [hInit, ofDigitList_concat, val_digitChar]
      omega

/-- A number that stands behind some places of a text is read there. -/
theorem digitsAt_append {pre rest : Text} {start n v : ℕ} (hStart : pre.length = start)
    (hv : v < 10 ^ n) :
    DataRecords.digitsAt (pre ++ (padded n v ++ rest)) start n = v := by
  have hLength : (padded n v).length = n := by rw [padded, digitsText, List.length_map,
    length_fixedDigits]
  unfold DataRecords.digitsAt
  rw [List.drop_left' hStart, List.take_left' hLength, padded,
    foldl_digitsText (fun d => fixedDigits_lt), ofDigitList_fixedDigits hv]

/-- The validator accepts a moment of UTC whose fraction does not end in a zero. -/
theorem isCanonicalTimestamp_text {f : Timestamp} {m : Moment} (h : f.At m) (hZone : f.zone = .utc)
    (hLast : f.fraction.getLast? ≠ some 0) : DataRecords.isCanonicalTimestamp f.text = true := by
  have hWritten := h.written
  have hText : f.text = (f.places ++ fractionPart f.fraction) ++ [0x5A] := by
    rw [f.text_eq_places, hZone, ← List.append_assoc]
    rfl
  have hPlaces : f.places.length = 19 := by simp [Timestamp.places, padded, digitsText]
  -- The pattern reads the fields at fixed places, and what is behind them up to the `Z`.
  have hEnd : f.text.getLast? = some 0x5A := by rw [hText, List.getLast?_concat]
  have hFront : f.text.take 19 = f.places := by rw [f.text_eq_places, List.take_left' hPlaces]
  have hBehind : (f.text.drop 19).dropLast = fractionPart f.fraction := by
    rw [hText, List.append_assoc, List.drop_left' hPlaces, List.dropLast_concat]
  have hYear : DataRecords.digitsAt f.text 0 4 = f.year :=
    @digitsAt_append [] _ _ _ _ rfl hWritten.year
  have hMonth : DataRecords.digitsAt f.text 5 2 = f.month :=
    @digitsAt_append (padded 4 f.year ++ [0x2D]) _ _ _ _ rfl hWritten.month
  have hDay : DataRecords.digitsAt f.text 8 2 = f.day :=
    @digitsAt_append (padded 4 f.year ++ 0x2D :: (padded 2 f.month ++ [0x2D])) _ _ _ _ rfl
      hWritten.day
  have hHour : DataRecords.digitsAt f.text 11 2 = f.hour :=
    @digitsAt_append (padded 4 f.year ++ 0x2D :: (padded 2 f.month ++ 0x2D ::
      (padded 2 f.day ++ [0x54])))
      _ _ _ _ rfl hWritten.hour
  have hMinute : DataRecords.digitsAt f.text 14 2 = f.minute :=
    @digitsAt_append (padded 4 f.year ++ 0x2D :: (padded 2 f.month ++ 0x2D :: (padded 2 f.day ++
      0x54 :: (padded 2 f.hour ++ [0x3A])))) _ _ _ _ rfl hWritten.minute
  have hSecond : DataRecords.digitsAt f.text 17 2 = f.second :=
    @digitsAt_append (padded 4 f.year ++ 0x2D :: (padded 2 f.month ++ 0x2D :: (padded 2 f.day ++
      0x54 :: (padded 2 f.hour ++ 0x3A :: (padded 2 f.minute ++ [0x3A]))))) _ _ _ _ rfl
        hWritten.second
  -- The calendar has checked their ranges.
  have hYearPos := m.date.year_pos
  have hMonthPos := m.date.month_pos
  have hMonthLe := m.date.month_le
  have hDayPos := m.date.day_pos
  have hDayLe := m.date.day_le
  have hMinutes := m.minutes_lt
  have hSeconds := m.second_lt
  have hHourEq : m.minutes / 60 = f.hour := h.hour
  have hMinuteEq : m.minutes % 60 = f.minute := h.minute
  rw [h.day, h.year, h.month] at hDayLe
  rw [h.year] at hYearPos
  rw [h.month] at hMonthPos hMonthLe
  rw [h.day] at hDayPos
  rw [h.second] at hSeconds
  have hDays : f.day ≤ daysInMonth f.year f.month := hDayLe
  unfold DataRecords.isCanonicalTimestamp
  simp only [hEnd, hFront, hBehind, hYear, hMonth, hDay, hHour, hMinute, hSecond,
    fitsTemplate_places, isFraction_fractionPart h.digits.1 hLast h.digits.2, Bool.and_eq_true,
    decide_eq_true_eq, beq_self_eq_true, true_and]
  exact ⟨⟨⟨⟨⟨hYearPos, hMonthPos⟩, hMonthLe⟩, hDayPos⟩, hDays⟩, by omega⟩

/-- The fraction of the UTC fields does not end with zero. -/
theorem utcFields_getLast (m : Moment) : (utcFields m).fraction.getLast? ≠ some 0 := by
  by_cases hZero : m.microsecond = 0
  · have hFraction : (utcFields m).fraction = [] := if_pos hZero
    rw [hFraction]
    exact Option.some_ne_none _ ∘ Eq.symm
  · have hFraction : (utcFields m).fraction = stripZeros (fixedDigits 6 m.microsecond) :=
      if_neg hZero
    rw [hFraction]
    exact fun h => stripZeros_getLast h rfl

/-! ## Main result -/

/-- A text is accepted exactly when it denotes an instant of the calendar, and two accepted texts
have one output exactly when they denote one instant, on every platform. The output denotes the
instant again, comes back unchanged from the conversion and is accepted by the payload's validator
exactly when the platform pads the year or the year of UTC fills four digits. -/
theorem timestamps_canonical_iff (pads : Bool) :
    (∀ value, (∃ out, canonicalTimestamp pads value = .ok out) ↔ ∃ utc : Moment,
      Denotes value utc.instant) ∧
      (∀ value value' out out', canonicalTimestamp pads value = .ok out →
        canonicalTimestamp pads value' = .ok out' →
          (out = out' ↔ ∃ instant, Denotes value instant ∧ Denotes value' instant)) ∧
      ∀ value out (utc : Moment), canonicalTimestamp pads value = .ok out →
        Denotes value utc.instant →
        ((Denotes out utc.instant ∧ canonicalTimestamp pads out = .ok out ∧
          DataRecords.validateCanonicalTimestamp out = .ok ()) ↔ pads = true ∨
            1000 ≤ utc.date.year) := by
  -- Everything is read off the moment that a text denotes; the canonical text is a function of
  -- it.
  refine ⟨fun value => ⟨?_, ?_⟩, ?_, ?_⟩
  · rintro ⟨out, h⟩
    obtain ⟨utc, hDenotes, -⟩ := canonicalTimestamp_iff_denotes.1 h
    exact ⟨utc, hDenotes⟩
  · rintro ⟨utc, hDenotes⟩
    exact ⟨_, canonicalTimestamp_iff_denotes.2 ⟨utc, hDenotes, rfl⟩⟩
  · intro value value' out out' h h'
    obtain ⟨utc, hDenotes, rfl⟩ := canonicalTimestamp_iff_denotes.1 h
    obtain ⟨utc', hDenotes', rfl⟩ := canonicalTimestamp_iff_denotes.1 h'
    constructor
    · intro hEq
      rw [← canonicalText_injective hEq] at hDenotes'
      exact ⟨_, hDenotes, hDenotes'⟩
    · rintro ⟨instant, hInstant, hInstant'⟩
      have hSame :=
        (denotes_unique hDenotes hInstant).trans (denotes_unique hDenotes' hInstant').symm
      rw [Moment.instant_injective hSame]
  · intro value out utc h hDenotes
    obtain ⟨utc', hDenotes', rfl⟩ := canonicalTimestamp_iff_denotes.1 h
    obtain rfl := Moment.instant_injective (denotes_unique hDenotes hDenotes')
    constructor
    -- A year of less than four digits that is not padded is refused when it is read again.
    · rintro ⟨-, hAgain, -⟩
      cases pads with
      | true => exact .inl rfl
      | false =>
          refine .inr ?_
          by_contra hShort
          rw [canonicalTimestamp_short_year (Nat.lt_of_not_le hShort)] at hAgain
          cases hAgain
    · intro hYear
      have hText := canonicalText_eq_text hYear
      have hSelf : Denotes (canonicalText pads utc) utc.instant := by
        refine ⟨utcFields utc, utc, utcFields_at utc, hText, ?_⟩
        show utc.instant = utc.instant - 0 * 60000000
        omega
      refine ⟨hSelf, canonicalTimestamp_iff_denotes.2 ⟨utc, hSelf, rfl⟩, ?_⟩
      unfold DataRecords.validateCanonicalTimestamp
      rw [hText, isCanonicalTimestamp_text (utcFields_at utc) rfl (utcFields_getLast utc)]
      rfl

/-- A year below 1000 loses its zeros where `strftime` does not pad, and the output is then no
timestamp. -/
theorem short_year_not_canonical :
    canonicalTimestamp false (py "0999-01-01T00:00:00Z") = .ok (py "999-01-01T00:00:00Z") ∧
      canonicalTimestamp false (py "999-01-01T00:00:00Z") = .error invalidTimestamp ∧
      DataRecords.validateCanonicalTimestamp (py "999-01-01T00:00:00Z")
        = .error ⟨"timestamp is not in canonical UTC form"⟩ := by
  refine ⟨rfl, rfl, ?_⟩
  decide

end DatasetRegistry
