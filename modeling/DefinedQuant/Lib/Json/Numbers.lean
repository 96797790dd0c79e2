import DefinedQuant.Lib.Decimal
import DefinedQuant.Lib.Json.Value

/-!
# JSON numbers

A number token is a sign, integer digits, and optional fraction and exponent digits. Python's
scanner splits it off the text greedily, and reads it as an `int` when there is neither fraction nor
exponent and as a `float` otherwise. `intToken` is what `int.__repr__` prints and `floatToken` what
`float.__repr__` prints for a finite double; both are read back as the number they came from.
-/

namespace Json

open Decimal (ofDigitList digitList)

/-- The parts of a number literal; `exponent` has its sign first. -/
structure NumberToken where
  negative : Bool
  integer : List ℕ
  fraction : Option (List ℕ)
  exponent : Option (Bool × List ℕ)

/-! ## Writing -/

/-- A decimal digit. -/
def digitChar (d : ℕ) : CodePoint := ⟨48 + d % 10, by omega⟩

/-- A run of decimal digits. -/
def digitsText (ds : List ℕ) : Text := ds.map digitChar

/-- The fraction of a literal. -/
def fractionText : Option (List ℕ) → Text
  | none => []
  | some ds => 0x2E :: digitsText ds

/-- The exponent of a literal, its sign always written. -/
def exponentText : Option (Bool × List ℕ) → Text
  | none => []
  | some (negative, ds) => 0x65 :: (if negative then 0x2D else 0x2B) :: digitsText ds

/-- The text of a literal. -/
def NumberToken.text (t : NumberToken) : Text :=
  (if t.negative then [0x2D] else []) ++ digitsText t.integer ++ fractionText t.fraction ++
    exponentText t.exponent

/-- The digits of a number, with `0` for zero. -/
def natDigits (n : ℕ) : List ℕ := if n = 0 then [0] else digitList n

/-- `int.__repr__` -/
def intToken (n : ℤ) : NumberToken where
  negative := decide (n < 0)
  integer := natDigits n.natAbs
  fraction := none
  exponent := none

/-- Exponent digits, at least two of them. -/
def exponentDigits (n : ℕ) : List ℕ := if n < 10 then [0, n] else digitList n

/-- The digits after the point in scientific notation, if there are any. -/
def restFraction (ds : List ℕ) : Option (List ℕ) :=
  if ds.length ≤ 1 then none else some (ds.drop 1)

/-- `float.__repr__` of nonzero digits `ds`, the decimal point before the digit of index `point`:
fixed notation from `1e-4` up to below `1e16`, scientific notation elsewhere. -/
def pointToken (negative : Bool) (ds : List ℕ) (point : ℤ) : NumberToken :=
  if -4 < point ∧ point ≤ 16 then
    if point ≤ 0 then
      ⟨negative, [0], some (List.replicate (-point).toNat 0 ++ ds), none⟩
    else if (ds.length : ℤ) ≤ point then
      ⟨negative, ds ++ List.replicate (point.toNat - ds.length) 0, some [0], none⟩
    else ⟨negative, ds.take point.toNat, some (ds.drop point.toNat), none⟩
  else
    ⟨negative, ds.take 1, restFraction ds,
      some (decide (point < 1), exponentDigits (point - 1).natAbs)⟩

/-- `float.__repr__` of a positive decimal, up to the sign. -/
def decimalToken (negative : Bool) (x : Decimal) : NumberToken :=
  pointToken negative (Decimal.stripZeros (digitList x.digits))
    (x.exponent + (digitList x.digits).length)

/-- `float.__repr__` of a finite double. -/
def floatToken (negative : Bool) (m : ℕ) : NumberToken :=
  if m = 0 then ⟨negative, [0], some [0], none⟩ else decimalToken negative (Decimal.shortest m)

/-! ## Reading -/

/-- The value of a decimal digit. -/
def digit? (c : CodePoint) : Option ℕ :=
  if 48 ≤ c.val ∧ c.val ≤ 57 then some (c.val - 48) else none

/-- The digits at the front of the text. -/
def scanDigits : Text → List ℕ × Text
  | [] => ([], [])
  | c :: rest =>
      match digit? c with
      | some d => (d :: (scanDigits rest).1, (scanDigits rest).2)
      | none => ([], c :: rest)

/-- `0`, or a nonzero digit and the digits after it. -/
def scanInteger : Text → Option (List ℕ × Text)
  | [] => none
  | c :: rest =>
      match digit? c with
      | none => none
      | some 0 => some ([0], rest)
      | some d => some (d :: (scanDigits rest).1, (scanDigits rest).2)

/-- A point with digits after it, if there is one. -/
def scanFraction : Text → Option (List ℕ) × Text
  | [] => (none, [])
  | c :: rest =>
      if c = 0x2E ∧ (scanDigits rest).1 ≠ [] then (some (scanDigits rest).1, (scanDigits rest).2)
      else (none, c :: rest)

/-- The sign of an exponent, if there is one. -/
def scanExponentSign : Text → Bool × Text
  | [] => (false, [])
  | c :: rest =>
      if c = 0x2D then (true, rest) else if c = 0x2B then (false, rest) else (false, c :: rest)

/-- An exponent letter with an optional sign and digits after it, if there is one. -/
def scanExponent : Text → Option (Bool × List ℕ) × Text
  | [] => (none, [])
  | c :: rest =>
      let signed := scanExponentSign rest
      if (c = 0x65 ∨ c = 0x45) ∧ (scanDigits signed.2).1 ≠ [] then
        (some (signed.1, (scanDigits signed.2).1), (scanDigits signed.2).2)
      else (none, c :: rest)

/-- The unsigned part of a number literal at the front of the text. -/
def scanUnsigned (negative : Bool) (t : Text) : Option (NumberToken × Text) := do
  let (integer, rest) ← scanInteger t
  let fraction := scanFraction rest
  let exponent := scanExponent fraction.2
  return (⟨negative, integer, fraction.1, exponent.1⟩, exponent.2)

/-- The number literal at the front of the text, as `NUMBER_RE` matches it. -/
def scanNumber : Text → Option (NumberToken × Text)
  | [] => none
  | c :: rest => if c = 0x2D then scanUnsigned true rest else scanUnsigned false (c :: rest)

/-- `sys.int_info.default_max_str_digits` -/
def maxStrDigits : ℕ := 4300

/-- The exponent of a literal. -/
def NumberToken.scale (t : NumberToken) : ℤ :=
  match t.exponent with
  | none => 0
  | some (negative, ds) => if negative then -(ofDigitList ds : ℤ) else ofDigitList ds

/-- The decimal a literal spells, without its sign. -/
def NumberToken.decimal (t : NumberToken) : Decimal where
  digits := ofDigitList (t.integer ++ t.fraction.getD [])
  exponent := t.scale - ((t.fraction.getD []).length : ℤ)

/-- The value of a number literal. -/
def NumberToken.value (t : NumberToken) : Except ValueError Value :=
  if t.fraction = none ∧ t.exponent = none then
    if maxStrDigits < t.integer.length then
      .error ⟨"Exceeds the limit (4300 digits) for integer string conversion"⟩
    else .ok (.int (if t.negative then -(ofDigitList t.integer : ℤ) else ofDigitList t.integer))
  else .ok (.float (Binary64.ofDecimal t.negative t.decimal))

/-! ## The scanner splits a written literal off the text -/

/-- A digit list as a literal can hold it. -/
def Digits (ds : List ℕ) : Prop := ds ≠ [] ∧ ∀ d ∈ ds, d < 10

/-- The parts of a literal that the grammar allows: no superfluous leading zero, and digits wherever
there is a fraction or an exponent. -/
structure NumberToken.WellFormed (t : NumberToken) : Prop where
  integer : Digits t.integer
  leading : t.integer = [0] ∨ t.integer.head? ≠ some 0
  fraction : ∀ ds, t.fraction = some ds → Digits ds
  exponent : ∀ b ds, t.exponent = some (b, ds) → Digits ds

/-- Text that no number literal runs on into. -/
def EndsNumber (rest : Text) : Prop :=
  ∀ c tail, rest = c :: tail → digit? c = none ∧ c ≠ 0x2E ∧ c ≠ 0x65 ∧ c ≠ 0x45

/-- The digit of a written digit. -/
theorem digit?_digitChar {d : ℕ} (h : d < 10) : digit? (digitChar d) = some d := by
  have hVal : (digitChar d).val = 48 + d := by
    show 48 + d % 10 = 48 + d
    omega
  unfold digit?
  rw [hVal, if_pos (by omega)]
  congr 1
  omega

/-- Digits are read up to the first other character. -/
theorem scanDigits_digitsText {ds : List ℕ} (hds : ∀ d ∈ ds, d < 10) {rest : Text}
    (hRest : ∀ c tail, rest = c :: tail → digit? c = none) :
    scanDigits (digitsText ds ++ rest) = (ds, rest) := by
  induction ds with
  | nil =>
      cases rest with
      | nil => rfl
      | cons c tail =>
          show scanDigits (c :: tail) = ([], c :: tail)
          rw [scanDigits, hRest c tail rfl]
  | cons d ds ih =>
      have hd : d < 10 := hds d List.mem_cons_self
      have hIh := ih (fun e he => hds e (List.mem_cons_of_mem _ he))
      show scanDigits (digitChar d :: (digitsText ds ++ rest)) = (d :: ds, rest)
      rw [scanDigits, digit?_digitChar hd, hIh]

/-- Written digits are scanned back, if they do not open with a superfluous zero. -/
theorem scanInteger_digitsText {ds : List ℕ} (hds : Digits ds)
    (hLeading : ds = [0] ∨ ds.head? ≠ some 0) {rest : Text}
    (hRest : ∀ c tail, rest = c :: tail → digit? c = none) :
    scanInteger (digitsText ds ++ rest) = some (ds, rest) := by
  obtain ⟨hNe, hLt⟩ := hds
  cases ds with
  | nil => exact absurd rfl hNe
  | cons d ds =>
      have hd : d < 10 := hLt d List.mem_cons_self
      have hTail := scanDigits_digitsText (fun e he => hLt e (List.mem_cons_of_mem _ he)) hRest
      show scanInteger (digitChar d :: (digitsText ds ++ rest)) = some (d :: ds, rest)
      rw [scanInteger, digit?_digitChar hd]
      rcases hLeading with hZero | hHead
      · obtain ⟨rfl, rfl⟩ : d = 0 ∧ ds = [] := by simpa using hZero
        rfl
      · have hd0 : d ≠ 0 := by simpa using hHead
        cases d with
        | zero => exact absurd rfl hd0
        | succ d => simp only [hTail]

theorem digit?_point : digit? 0x2E = none := rfl

theorem digit?_e : digit? 0x65 = none := rfl

/-- A written fraction is scanned back. -/
theorem scanFraction_fractionText {f : Option (List ℕ)} (hf : ∀ ds, f = some ds → Digits ds)
    {rest : Text} (hRest : ∀ c tail, rest = c :: tail → digit? c = none)
    (hPoint : ∀ c tail, rest = c :: tail → c ≠ 0x2E) :
    scanFraction (fractionText f ++ rest) = (f, rest) := by
  cases f with
  | none =>
      cases rest with
      | nil => rfl
      | cons c tail =>
          show scanFraction (c :: tail) = (none, c :: tail)
          rw [scanFraction, if_neg (fun h => hPoint c tail rfl h.1)]
  | some ds =>
      obtain ⟨hNe, hLt⟩ := hf ds rfl
      show scanFraction (0x2E :: (digitsText ds ++ rest)) = (some ds, rest)
      rw [scanFraction, scanDigits_digitsText hLt hRest, if_pos ⟨rfl, hNe⟩]

/-- A written exponent is scanned back. -/
theorem scanExponent_exponentText {e : Option (Bool × List ℕ)}
    (he : ∀ b ds, e = some (b, ds) → Digits ds) {rest : Text} (hRest : EndsNumber rest) :
    scanExponent (exponentText e ++ rest) = (e, rest) := by
  cases e with
  | none =>
      cases rest with
      | nil => rfl
      | cons c tail =>
          obtain ⟨-, -, hLower, hUpper⟩ := hRest c tail rfl
          show scanExponent (c :: tail) = (none, c :: tail)
          simp only [scanExponent]
          rw [if_neg (fun h => h.1.elim hLower hUpper)]
  | some p =>
      obtain ⟨negative, ds⟩ := p
      obtain ⟨hNe, hLt⟩ := he negative ds rfl
      have hDigits := scanDigits_digitsText hLt (fun c tail h => (hRest c tail h).1)
      show scanExponent (0x65 :: (if negative then 0x2D else 0x2B) :: (digitsText ds ++ rest))
        = (some (negative, ds), rest)
      have hSign : scanExponentSign ((if negative then 0x2D else 0x2B) :: (digitsText ds ++ rest))
          = (negative, digitsText ds ++ rest) := by
        cases negative <;> rfl
      simp only [scanExponent, hSign, hDigits]
      rw [if_pos ⟨Or.inl trivial, hNe⟩]

/-- No digit is a minus sign. -/
theorem digitChar_ne_minus (d : ℕ) : digitChar d ≠ 0x2D := by
  intro h
  have hVal : 48 + d % 10 = 45 := congrArg Fin.val h
  omega

/-- The scanner splits a written literal off, whatever follows that does not continue it. -/
theorem scanNumber_text {t : NumberToken} (ht : t.WellFormed) {rest : Text}
    (hRest : EndsNumber rest) : scanNumber (t.text ++ rest) = some (t, rest) := by
  obtain ⟨negative, integer, fraction, exponent⟩ := t
  obtain ⟨hInteger, hLeading, hFraction, hExponent⟩ := ht
  -- Each part ends where the next one starts, since no part starts with what could continue the
  -- one before.
  have hNoDigit : ∀ c tail, exponentText exponent ++ rest = c :: tail →
      digit? c = none ∧ c ≠ 0x2E := by
    intro c tail h
    cases exponent with
    | none => exact ⟨(hRest c tail h).1, (hRest c tail h).2.1⟩
    | some p =>
        obtain rfl : (0x65 : CodePoint) = c := List.head_eq_of_cons_eq h
        exact ⟨digit?_e, by decide⟩
  have hNoDigit' : ∀ c tail, fractionText fraction ++ (exponentText exponent ++ rest) = c :: tail →
      digit? c = none := by
    intro c tail h
    cases fraction with
    | none => exact (hNoDigit c tail h).1
    | some ds =>
        obtain rfl : (0x2E : CodePoint) = c := List.head_eq_of_cons_eq h
        exact digit?_point
  have hUnsigned : scanUnsigned negative
      (digitsText integer ++ (fractionText fraction ++ (exponentText exponent ++ rest)))
        = some (⟨negative, integer, fraction, exponent⟩, rest) := by
    unfold scanUnsigned
    rw [scanInteger_digitsText hInteger hLeading hNoDigit']
    simp only [Option.bind_eq_bind, Option.bind_some, Option.pure_def,
      scanFraction_fractionText hFraction (fun c tail h => (hNoDigit c tail h).1)
        (fun c tail h => (hNoDigit c tail h).2),
      scanExponent_exponentText hExponent hRest]
  -- The sign is read before anything else.
  cases negative with
  | true =>
      show scanNumber (0x2D :: (digitsText integer ++ fractionText fraction ++
        exponentText exponent ++ rest)) = _
      rw [scanNumber, if_pos rfl, List.append_assoc, List.append_assoc]
      exact hUnsigned
  | false =>
      obtain ⟨hNe, -⟩ := hInteger
      obtain ⟨d, ds, rfl⟩ := List.exists_cons_of_ne_nil hNe
      show scanNumber (digitChar d :: digitsText ds ++ fractionText fraction ++
        exponentText exponent ++ rest) = _
      rw [List.append_assoc, List.append_assoc, List.cons_append, scanNumber,
        if_neg (digitChar_ne_minus d)]
      exact hUnsigned

/-! ## Integers are read back -/

/-- The digits of a number are digits. -/
theorem digits_natDigits (n : ℕ) : Digits (natDigits n) := by
  unfold natDigits
  split_ifs with h
  · exact ⟨by decide, by decide⟩
  · obtain ⟨d, ds, hEq, -⟩ := Decimal.digitList_head h
    exact ⟨by rw [hEq]; exact List.cons_ne_nil _ _, fun _ => Decimal.digitList_lt⟩

/-- They open with no superfluous zero. -/
theorem natDigits_leading (n : ℕ) : natDigits n = [0] ∨ (natDigits n).head? ≠ some 0 := by
  unfold natDigits
  split_ifs with h
  · exact Or.inl rfl
  · obtain ⟨d, ds, hEq, hd⟩ := Decimal.digitList_head h
    right
    rw [hEq]
    simpa using hd

/-- They give the number back. -/
@[simp] theorem ofDigitList_natDigits (n : ℕ) : ofDigitList (natDigits n) = n := by
  unfold natDigits
  split_ifs with h
  · rw [h]; rfl
  · exact Decimal.ofDigitList_digitList n

/-- The token of an integer is well formed. -/
theorem intToken_wellFormed (n : ℤ) : (intToken n).WellFormed where
  integer := digits_natDigits _
  leading := natDigits_leading _
  fraction := fun _ h => nomatch h
  exponent := fun _ _ h => nomatch h

/-- An integer that may be printed is read back. -/
theorem intToken_value {n : ℤ} (h : (natDigits n.natAbs).length ≤ maxStrDigits) :
    (intToken n).value = .ok (.int n) := by
  unfold NumberToken.value intToken
  rw [if_pos ⟨rfl, rfl⟩, if_neg (Nat.not_lt.2 h)]
  simp only [ofDigitList_natDigits, decide_eq_true_eq]
  congr 2
  split_ifs with hNeg <;> omega

/-! ## Doubles are read back -/

/-- Digits a positive double is printed from: a nonzero digit first. -/
def Leading (ds : List ℕ) : Prop := (∀ d ∈ ds, d < 10) ∧ ∃ d rest, ds = d :: rest ∧ d ≠ 0

/-- Leading digits are digits. -/
theorem Leading.digits {ds : List ℕ} (h : Leading ds) : Digits ds := by
  obtain ⟨hLt, d, rest, rfl, -⟩ := h
  exact ⟨List.cons_ne_nil _ _, hLt⟩

/-- They do not open with zero. -/
theorem Leading.head {ds : List ℕ} (h : Leading ds) : ds.head? ≠ some 0 := by
  obtain ⟨-, d, rest, rfl, hd⟩ := h
  simpa using hd

/-- Taking some of the leading digits, at least one, keeps the first. -/
theorem Leading.take {ds : List ℕ} (h : Leading ds) {n : ℕ} (hn : 0 < n) :
    Leading (ds.take n) := by
  obtain ⟨hLt, d, rest, rfl, hd⟩ := h
  obtain ⟨n, rfl⟩ : ∃ k, n = k + 1 := ⟨n - 1, by omega⟩
  exact ⟨fun e he => hLt e (List.mem_of_mem_take he), d, rest.take n, rfl, hd⟩

/-- The digits of an exponent are digits. -/
theorem digits_exponentDigits (n : ℕ) : Digits (exponentDigits n) := by
  unfold exponentDigits
  split_ifs with h
  · refine ⟨by simp, ?_⟩
    intro d hd
    simp only [List.mem_cons, List.not_mem_nil, or_false] at hd
    omega
  · obtain ⟨d, ds, hEq, -⟩ := Decimal.digitList_head (n := n) (by omega)
    exact ⟨by rw [hEq]; exact List.cons_ne_nil _ _, fun _ => Decimal.digitList_lt⟩

/-- The two digits at least of an exponent give it back. -/
theorem ofDigitList_exponentDigits (n : ℕ) : ofDigitList (exponentDigits n) = n := by
  unfold exponentDigits
  split_ifs with h
  · simp [ofDigitList, Nat.ofDigits_cons]
  · exact Decimal.ofDigitList_digitList n

/-- Zeros may be put in front of digits. -/
theorem digits_zeros_append {n : ℕ} {ds : List ℕ} (h : Digits ds) :
    Digits (List.replicate n 0 ++ ds) := by
  refine ⟨by simp [h.1], ?_⟩
  intro d hd
  rcases List.mem_append.1 hd with hd | hd
  · rw [List.eq_of_mem_replicate hd]
    norm_num
  · exact h.2 d hd

/-- Printed doubles obey the grammar. -/
theorem pointToken_wellFormed (negative : Bool) {ds : List ℕ} (h : Leading ds) (point : ℤ) :
    (pointToken negative ds point).WellFormed := by
  unfold pointToken
  split_ifs with hFixed hSmall hLarge
  · refine ⟨⟨by simp, by simp⟩, Or.inl rfl, ?_, fun _ _ h => nomatch h⟩
    rintro fs ⟨⟩
    exact digits_zeros_append h.digits
  · have hInteger : Leading (ds ++ List.replicate (point.toNat - ds.length) 0) := by
      obtain ⟨hLt, d, rest, rfl, hd⟩ := h
      refine ⟨?_, d, _, rfl, hd⟩
      intro e he
      rcases List.mem_append.1 he with he | he
      · exact hLt e he
      · rw [List.eq_of_mem_replicate he]
        norm_num
    refine ⟨hInteger.digits, Or.inr hInteger.head, ?_, fun _ _ h => nomatch h⟩
    rintro fs ⟨⟩
    exact ⟨by simp, by simp⟩
  · have hInteger := h.take (n := point.toNat) (by omega)
    refine ⟨hInteger.digits, Or.inr hInteger.head, ?_, fun _ _ h => nomatch h⟩
    rintro fs ⟨⟩
    refine ⟨?_, fun d hd => h.1 d (List.mem_of_mem_drop hd)⟩
    intro hNil
    have hLen := congrArg List.length hNil
    rw [List.length_drop, List.length_nil] at hLen
    omega
  · have hInteger := h.take (n := 1) one_pos
    refine ⟨hInteger.digits, Or.inr hInteger.head, ?_, ?_⟩
    · intro fs hfs
      replace hfs : restFraction ds = some fs := hfs
      unfold restFraction at hfs
      split_ifs at hfs with hLen
      cases hfs
      refine ⟨?_, fun d hd => h.1 d (List.mem_of_mem_drop hd)⟩
      intro hNil
      have hZero := congrArg List.length hNil
      rw [List.length_drop, List.length_nil] at hZero
      omega
    · rintro b es ⟨⟩
      exact digits_exponentDigits _

/-- What a printed double spells. -/
theorem pointToken_decimal (negative : Bool) {ds : List ℕ} (h : Leading ds) (point : ℤ) :
    (pointToken negative ds point).decimal.toRat
      = ofDigitList ds * (10 : ℚ) ^ (point - ds.length) := by
  have hTen : (10 : ℚ) ≠ 0 := by norm_num
  have hPos : 0 < ds.length := List.length_pos_of_ne_nil h.digits.1
  unfold pointToken
  split_ifs with hFixed hSmall hLarge
  · -- `0.00ddd`
    have hDigits : ofDigitList ([0] ++ (List.replicate (-point).toNat 0 ++ ds)) =
      ofDigitList ds := by
      rw [Decimal.ofDigitList_append, Decimal.ofDigitList_append,
        Decimal.ofDigitList_replicate_zero]
      simp [ofDigitList]
    simp only [NumberToken.decimal, NumberToken.scale, Decimal.toRat, Option.getD_some, hDigits,
      List.length_append, List.length_replicate]
    congr 2
    omega
  · -- `ddd000.0`
    have hDigits : ofDigitList ((ds ++ List.replicate (point.toNat - ds.length) 0) ++ [0])
        = ofDigitList ds * 10 ^ (point.toNat - ds.length + 1) := by
      rw [Decimal.ofDigitList_append, Decimal.ofDigitList_append,
        Decimal.ofDigitList_replicate_zero]
      simp [ofDigitList, pow_succ, Nat.mul_assoc]
    simp only [NumberToken.decimal, NumberToken.scale, Decimal.toRat, Option.getD_some, hDigits,
      List.length_cons, List.length_nil]
    rw [Nat.cast_mul, Nat.cast_pow, Nat.cast_ofNat, mul_assoc, ← zpow_natCast, ← zpow_add₀ hTen]
    congr 2
    omega
  · -- `dd.ddd`
    simp only [NumberToken.decimal, NumberToken.scale, Decimal.toRat, Option.getD_some,
      List.take_append_drop, List.length_drop]
    congr 2
    omega
  · -- `d.dde+xx`
    have hAll : ds.take 1 ++ (restFraction ds).getD [] = ds := by
      unfold restFraction
      split_ifs with hLen
      · rw [Option.getD_none, List.append_nil, List.take_of_length_le hLen]
      · rw [Option.getD_some, List.take_append_drop]
    have hLength : ((restFraction ds).getD []).length = ds.length - 1 := by
      unfold restFraction
      split_ifs with hLen
      · simp only [Option.getD_none, List.length_nil]; omega
      · simp only [Option.getD_some, List.length_drop]
    simp only [NumberToken.decimal, NumberToken.scale, Decimal.toRat, hAll, hLength,
      ofDigitList_exponentDigits, decide_eq_true_eq]
    congr 2
    split_ifs <;> omega

/-- The digits of the shortest decimal, without trailing zeros, start with a nonzero one. -/
theorem leading_stripZeros {n : ℕ} (hn : n ≠ 0) : Leading (Decimal.stripZeros (digitList n)) := by
  obtain ⟨k, hk⟩ := Decimal.stripZeros_append (digitList n)
  obtain ⟨d, ds, hHead, hd⟩ := Decimal.digitList_head hn
  refine ⟨fun e he => Decimal.digitList_lt (n := n) ?_, ?_⟩
  · rw [hk]
    exact List.mem_append_left _ he
  · cases hStrip : Decimal.stripZeros (digitList n) with
    | nil =>
        rw [hStrip, List.nil_append, hHead] at hk
        have hMem : d ∈ List.replicate k 0 := hk ▸ List.mem_cons_self
        exact absurd (List.eq_of_mem_replicate hMem) hd
    | cons e es =>
        rw [hStrip, hHead, List.cons_append] at hk
        have hde : d = e := List.head_eq_of_cons_eq hk
        exact ⟨e, es, rfl, hde ▸ hd⟩

/-- A printed decimal has the value it was printed from. -/
theorem decimalToken_decimal (negative : Bool) {x : Decimal} (hx : x.digits ≠ 0) :
    (decimalToken negative x).decimal.toRat = x.toRat := by
  have hTen : (10 : ℚ) ≠ 0 := by norm_num
  obtain ⟨k, hk⟩ := Decimal.stripZeros_append (digitList x.digits)
  have hValue : x.digits = ofDigitList (Decimal.stripZeros (digitList x.digits)) * 10 ^ k := by
    have hAppend := Decimal.ofDigitList_append (Decimal.stripZeros (digitList x.digits))
      (List.replicate k 0)
    rw [← hk, Decimal.ofDigitList_digitList, Decimal.ofDigitList_replicate_zero,
      List.length_replicate, Nat.add_zero] at hAppend
    exact hAppend
  have hLength : (digitList x.digits).length
      = (Decimal.stripZeros (digitList x.digits)).length + k := by
    conv_lhs => rw [hk]
    rw [List.length_append, List.length_replicate]
  have hExp : x.exponent + ((digitList x.digits).length : ℤ)
      - ((Decimal.stripZeros (digitList x.digits)).length : ℤ) = (k : ℤ) + x.exponent := by
    omega
  rw [decimalToken, pointToken_decimal _ (leading_stripZeros hx), hExp, zpow_add₀ hTen,
    zpow_natCast, Decimal.toRat]
  conv_rhs => rw [hValue]
  push_cast
  ring

/-- The token of a zero. -/
theorem floatToken_zero (negative : Bool) :
    floatToken negative 0 = ⟨negative, [0], some [0], none⟩ := rfl

/-- The token of every other double is that of its shortest decimal. -/
theorem floatToken_pos (negative : Bool) {m : ℕ} (hm : m ≠ 0) :
    floatToken negative m = decimalToken negative (Decimal.shortest m) := if_neg hm

/-- The token of a double is well formed. -/
theorem floatToken_wellFormed (negative : Bool) (m : ℕ) : (floatToken negative m).WellFormed := by
  by_cases hm : m = 0
  · subst hm
    refine ⟨⟨by simp [floatToken_zero], by simp [floatToken_zero]⟩, Or.inl rfl, ?_,
      fun _ _ h => nomatch h⟩
    rintro fs ⟨⟩
    exact ⟨by simp, by simp⟩
  · rw [floatToken_pos negative hm]
    exact pointToken_wellFormed _ (leading_stripZeros (Decimal.shortest_digits_ne_zero hm)) _

/-- A printed double spells a decimal that rounds to it. -/
theorem floatToken_round (negative : Bool) (m : ℕ) :
    (floatToken negative m).decimal.round = m := by
  by_cases hm : m = 0
  · subst hm
    exact Decimal.round_zero _
  · rw [floatToken_pos negative hm]
    calc (decimalToken negative (Decimal.shortest m)).decimal.round
        = (Decimal.shortest m).round :=
          Decimal.round_congr (decimalToken_decimal _ (Decimal.shortest_digits_ne_zero hm))
      _ = m := Decimal.shortest_round m

/-- A token in point notation has a fraction, so it is read as a double. -/
theorem pointToken_isFloat (negative : Bool) (ds : List ℕ) (point : ℤ) :
    ¬ ((pointToken negative ds point).fraction = none ∧
      (pointToken negative ds point).exponent = none) := by
  unfold pointToken
  split_ifs <;> simp

/-- The token of a double is read as a double. -/
theorem floatToken_isFloat (negative : Bool) (m : ℕ) :
    ¬ ((floatToken negative m).fraction = none ∧ (floatToken negative m).exponent = none) := by
  by_cases hm : m = 0
  · subst hm
    simp [floatToken_zero]
  · rw [floatToken_pos negative hm]
    exact pointToken_isFloat _ _ _

/-- Point notation keeps the sign. -/
theorem pointToken_negative (negative : Bool) (ds : List ℕ) (point : ℤ) :
    (pointToken negative ds point).negative = negative := by
  unfold pointToken
  split_ifs <;> rfl

/-- So does the token of a double. -/
theorem floatToken_negative (negative : Bool) (m : ℕ) :
    (floatToken negative m).negative = negative := by
  by_cases hm : m = 0
  · rw [hm, floatToken_zero]
  · rw [floatToken_pos negative hm]
    exact pointToken_negative _ _ _

/-- A printed finite double is read back. -/
theorem floatToken_value (negative : Bool) (m : Fin (2047 * 2 ^ 52)) :
    (floatToken negative m).value = .ok (.float (.finite negative m)) := by
  unfold NumberToken.value
  rw [if_neg (floatToken_isFloat negative m), floatToken_negative,
    Binary64.ofDecimal_eq (floatToken_round negative m)]

end Json
