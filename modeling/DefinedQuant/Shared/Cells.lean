import DefinedQuant.Shared.DataRecords.FaithfulDocuments
import DefinedQuant.Shared.Timestamps

/-!
# The cells of source files

`jsonCell` takes a decoded JSON value and `csvCell` the text of a CSV field, each for the declared
type of its column. The CSV reader matches numbers against two patterns and leaves them to `int` and
`float`; what the patterns' `\d` takes and the two conversions read is any decimal digit of Unicode,
the digits beyond ASCII being a parameter here. `cells_agree` compares the reader with the JSON
decoder and `jsonCell`.
-/

namespace DatasetRegistry

open Json Canonical Protocol DataRecords HostFailures

/-- What leaves the readers of cells: a failure, or the `OverflowError` of `math.isfinite` for an
integer that no double is near to. -/
inductive CellRaised where
  | raised (failure : Raised)
  | overflowError

/-- `_invalid_dataset` with one code -/
def invalidDataset (code : String) : CellRaised :=
  .raised (.host .invalidDataset [(py "finding_codes", .list [.lit code])])

/-- `_validate_cell_size` -/
def validateCellSize (value : Text) : Except CellRaised Unit :=
  match utf8 value with
  | none => .error (invalidDataset "invalid_unicode")
  | some content =>
      if maxCellBytes < content.length then
        .error (.raised (limitFailure .inputLimitExceeded "decoded_cell_bytes" maxCellBytes
          content.length))
      else .ok ()

/-- What both readers check of a number: `math.isfinite`, the bound of an integer, and that it has a
canonical form. -/
def checkNumber (value : Value) : Except CellRaised Value :=
  match value with
  | .int n =>
      if (Binary64.ofInt n).isFinite = false then .error .overflowError
      else if Canonical.maxSafeInteger < n.natAbs then .error (invalidDataset "invalid_number_cell")
      else do
        let _ ← (canonicalJsonBytes value).mapError (fun _ => invalidDataset "invalid_number_cell")
        return value
  | .float x =>
      if x.isFinite = false then .error (invalidDataset "invalid_number_cell")
      else do
        let _ ← (canonicalJsonBytes value).mapError (fun _ => invalidDataset "invalid_number_cell")
        return value
  | _ => .error (invalidDataset "invalid_number_cell")

/-- `_canonical_timestamp` of a cell, and whether it changed the cell. -/
def timestampCell (pads : Bool) (value : Text) : Except CellRaised (Text × Bool) := do
  let canonical ← (canonicalTimestamp pads value).mapError .raised
  return (canonical, canonical ≠ value)

/-- `_json_cell` -/
def jsonCell (pads : Bool) (value : Value) (dataType : DataType) :
    Except CellRaised (Value × Bool) :=
  if value.isNull then .ok (.null, false)
  else
    match dataType with
    | .boolean =>
        match value with
        | .bool b => .ok (.bool b, false)
        | _ => .error (invalidDataset "invalid_boolean_cell")
    | .integer =>
        match value with
        | .int n =>
            if Canonical.maxSafeInteger < n.natAbs then
              .error (invalidDataset "invalid_integer_cell")
            else .ok (.int n, false)
        | _ => .error (invalidDataset "invalid_integer_cell")
    | .number => do return (← checkNumber value, false)
    | .string =>
        match value with
        | .str s => do
            validateCellSize s
            return (.str s, false)
        | _ => .error (invalidDataset "invalid_string_cell")
    | .timestamp =>
        match value with
        | .str s => do
            validateCellSize s
            let (canonical, changed) ← timestampCell pads s
            return (.str canonical, changed)
        | _ => .error (invalidDataset "invalid_timestamp")

/-! ## The patterns of the CSV reader -/

/-- The decimal digits of Unicode with their values, as `\d`, `int` and `float` know them. -/
structure DecimalDigits where
  value : CodePoint → Option ℕ
  ascii : ∀ c : CodePoint, c.val < 128 → value c = digit? c

namespace DecimalDigits

variable (digits : DecimalDigits)

/-- `\d*` -/
def scan : Text → List ℕ × Text
  | [] => ([], [])
  | c :: rest =>
      match digits.value c with
      | some d => (d :: (scan rest).1, (scan rest).2)
      | none => ([], c :: rest)

/-- `0|[1-9]\d*` -/
def integer : Text → Option (List ℕ × Text)
  | [] => none
  | c :: rest =>
      match digit? c with
      | none => none
      | some 0 => some ([0], rest)
      | some d => some (d :: (digits.scan rest).1, (digits.scan rest).2)

/-- `(?:\.\d+)?` -/
def fraction : Text → Option (List ℕ) × Text
  | [] => (none, [])
  | c :: rest =>
      if c = 0x2E ∧ (digits.scan rest).1 ≠ [] then (some (digits.scan rest).1, (digits.scan rest).2)
      else (none, c :: rest)

/-- `(?:[eE][+-]?\d+)?` -/
def exponent : Text → Option (Bool × List ℕ) × Text
  | [] => (none, [])
  | c :: rest =>
      let signed := scanExponentSign rest
      if (c = 0x65 ∨ c = 0x45) ∧ (digits.scan signed.2).1 ≠ [] then
        (some (signed.1, (digits.scan signed.2).1), (digits.scan signed.2).2)
      else (none, c :: rest)

/-- The sign of a number and the text behind it. -/
def unsigned : Text → Bool × Text
  | [] => (false, [])
  | c :: rest => if c = 0x2D then (true, rest) else (false, c :: rest)

/-- `_JSON_INTEGER.fullmatch` -/
def jsonInteger (t : Text) : Option NumberToken :=
  match digits.integer (unsigned t).2 with
  | some (ds, []) => some ⟨(unsigned t).1, ds, none, none⟩
  | _ => none

/-- `_JSON_NUMBER.fullmatch` -/
def jsonNumber (t : Text) : Option NumberToken :=
  match digits.integer (unsigned t).2 with
  | none => none
  | some (ds, rest) =>
      if (digits.exponent (digits.fraction rest).2).2 = [] then
        some ⟨(unsigned t).1, ds, (digits.fraction rest).1,
          (digits.exponent (digits.fraction rest).2).1⟩
      else none

end DecimalDigits

/-- `int(value)` of a matched text. -/
def intOf (token : NumberToken) : Except CellRaised ℤ :=
  if maxStrDigits < token.integer.length then
    .error (.raised (.value ⟨"Exceeds the limit (4300 digits) for integer string conversion"⟩))
  else .ok (if token.negative then -(Decimal.ofDigitList token.integer : ℤ)
    else Decimal.ofDigitList token.integer)

/-- `float(value)` of a matched text. -/
def floatOf (token : NumberToken) : Binary64 := Binary64.ofDecimal token.negative token.decimal

/-- `int(value) if _JSON_INTEGER.fullmatch(value) else float(value)`, for a text with the groups of
the number pattern. -/
def numberOf (digits : DecimalDigits) (value : Text) (token : NumberToken) :
    Except CellRaised Value :=
  match digits.jsonInteger value with
  | some token => do return .int (← intOf token)
  | none => .ok (.float (floatOf token))

/-- `_csv_cell` for a text that is not an empty field. -/
def csvTyped (digits : DecimalDigits) (pads : Bool) (value : Text) :
    DataType → Except CellRaised (Value × Option NormalizationEventCode × Bool)
  | .string => .ok (.str value, none, false)
  | .boolean =>
      if value = py "true" ∨ value = py "false" then
        .ok (.bool (value = py "true"), some .csvBooleanParsed, false)
      else .error (invalidDataset "invalid_boolean_cell")
  | .integer =>
      match digits.jsonInteger value with
      | none => .error (invalidDataset "invalid_integer_cell")
      | some token => do
          let parsed ← intOf token
          if Canonical.maxSafeInteger < parsed.natAbs then
            .error (invalidDataset "invalid_integer_cell")
          else return (.int parsed, some .csvIntegerParsed, false)
  | .number =>
      match digits.jsonNumber value with
      | none => .error (invalidDataset "invalid_number_cell")
      | some token => do
          let parsed ← numberOf digits value token
          return (← checkNumber parsed, some .csvNumberParsed, false)
  | .timestamp => do
      let (canonical, changed) ← timestampCell pads value
      return (.str canonical, none, changed)

/-- `_csv_cell` -/
def csvCell (digits : DecimalDigits) (pads : Bool) (value : Text) (dataType : DataType) :
    Except CellRaised (Value × Option NormalizationEventCode × Bool) := do
  validateCellSize value
  if value = [] ∧ dataType ≠ .string then return (.null, some .csvEmptyFieldToNull, false)
  else csvTyped digits pads value dataType

/-! ## The patterns on texts without other digits -/

namespace DecimalDigits

variable {digits : DecimalDigits}

/-- No character beyond ASCII is a digit. -/
def OnlyAscii (digits : DecimalDigits) (t : Text) : Prop :=
  ∀ c ∈ t, 128 ≤ c.val → digits.value c = none

/-- On a text with ASCII digits only, a digit has its ASCII value. -/
theorem value_eq {t : Text} (h : digits.OnlyAscii t) {c : CodePoint} (hc : c ∈ t) :
    digits.value c = digit? c := by
  by_cases hAscii : c.val < 128
  · exact digits.ascii c hAscii
  · have hNone : digit? c = none := by
      unfold digit?
      rw [if_neg]
      omega
    rw [h c hc (by omega), hNone]

/-- So has what follows its first symbol. -/
theorem OnlyAscii.tail {c : CodePoint} {t : Text} (h : digits.OnlyAscii (c :: t)) :
    digits.OnlyAscii t :=
  fun d hd => h d (List.mem_cons_of_mem _ hd)

/-- On such a text the digits scanned are those of JSON. -/
theorem scan_eq {t : Text} (h : digits.OnlyAscii t) : digits.scan t = scanDigits t := by
  induction t with
  | nil => rfl
  | cons c t ih =>
      rw [scan, scanDigits, value_eq h List.mem_cons_self]
      cases digit? c with
      | none => rfl
      | some d =>
          dsimp only
          rw [ih h.tail]

/-- Scanning leaves a part of the text. -/
theorem onlyAscii_scanDigits {t : Text} (h : digits.OnlyAscii t) :
    digits.OnlyAscii (scanDigits t).2 := by
  intro c hc
  refine h c ?_
  rw [← digitsText_scanDigits t]
  exact List.mem_append_right _ hc

/-- So is the integer. -/
theorem integer_eq {t : Text} (h : digits.OnlyAscii t) : digits.integer t = scanInteger t := by
  cases t with
  | nil => rfl
  | cons c t =>
      rw [integer, scan_eq h.tail]
      rfl

/-- What is left after an integer has ASCII digits only. -/
theorem onlyAscii_scanInteger {t rest : Text} {ds : List ℕ} (h : digits.OnlyAscii t)
    (hScan : scanInteger t = some (ds, rest)) : digits.OnlyAscii rest := by
  cases t with
  | nil => cases hScan
  | cons c t =>
      rw [scanInteger] at hScan
      split at hScan
      · cases hScan
      · cases hScan
        exact h.tail
      · cases hScan
        exact onlyAscii_scanDigits h.tail

/-- So is the fraction. -/
theorem fraction_eq {t : Text} (h : digits.OnlyAscii t) : digits.fraction t = scanFraction t := by
  cases t with
  | nil => rfl
  | cons c t => rw [fraction, scanFraction, scan_eq h.tail]

/-- What is left after a fraction has ASCII digits only. -/
theorem onlyAscii_scanFraction {t : Text} (h : digits.OnlyAscii t) :
    digits.OnlyAscii (scanFraction t).2 := by
  cases t with
  | nil => exact h
  | cons c t =>
      rw [scanFraction]
      split_ifs
      · exact onlyAscii_scanDigits h.tail
      · exact h

/-- So is the exponent. -/
theorem exponent_eq {t : Text} (h : digits.OnlyAscii t) : digits.exponent t = scanExponent t := by
  cases t with
  | nil => rfl
  | cons c t =>
      have hSigned : digits.OnlyAscii (scanExponentSign t).2 := by
        cases t with
        | nil => exact h.tail
        | cons d t =>
            rw [scanExponentSign]
            split_ifs
            · exact h.tail.tail
            · exact h.tail.tail
            · exact h.tail
      rw [exponent, scanExponent, scan_eq hSigned]

/-- The number literal at the front of a text, behind its sign. -/
theorem scanNumber_eq (t : Text) : scanNumber t = scanUnsigned (unsigned t).1 (unsigned t).2 := by
  cases t with
  | nil => rfl
  | cons c t =>
      rw [scanNumber, unsigned]
      split_ifs <;> rfl

/-- What is left after the sign has ASCII digits only. -/
theorem onlyAscii_unsigned {t : Text} (h : digits.OnlyAscii t) :
    digits.OnlyAscii (unsigned t).2 := by
  cases t with
  | nil => exact h
  | cons c t =>
      rw [unsigned]
      split_ifs
      · exact h.tail
      · exact h

/-- The number pattern matches what the JSON scanner takes whole. -/
theorem jsonNumber_eq_some {t : Text} (h : digits.OnlyAscii t) {token : NumberToken} :
    digits.jsonNumber t = some token ↔ scanNumber t = some (token, []) := by
  have hTail := onlyAscii_unsigned h
  rw [scanNumber_eq, jsonNumber, scanUnsigned, integer_eq hTail]
  cases hInteger : scanInteger (unsigned t).2 with
  | none => simp
  | some read =>
      obtain ⟨ds, rest⟩ := read
      have hRest := onlyAscii_scanInteger hTail hInteger
      have hBehind := onlyAscii_scanFraction hRest
      dsimp only
      rw [fraction_eq hRest, exponent_eq hBehind]
      simp only [bind, Option.bind, pure, Option.some.injEq, Prod.mk.injEq]
      split_ifs with hEnd
      · rw [Option.some.injEq]
        exact (and_iff_left hEnd).symm
      · simp [hEnd]

/-- The integer pattern matches the literals without fraction and exponent. -/
theorem jsonInteger_eq_some {t : Text} {token : NumberToken} :
    digits.jsonInteger t = some token ↔
      digits.jsonNumber t = some token ∧ token.fraction = none ∧ token.exponent = none := by
  unfold jsonInteger jsonNumber
  cases digits.integer (unsigned t).2 with
  | none => simp
  | some read =>
      obtain ⟨ds, rest⟩ := read
      cases rest with
      | nil =>
          have hEnd : (digits.exponent (digits.fraction []).2).2 = [] := rfl
          dsimp only
          rw [if_pos hEnd, Option.some.injEq]
          constructor
          · rintro rfl
            exact ⟨rfl, rfl, rfl⟩
          · exact fun h => Option.some.inj h.1
      | cons c rest =>
          dsimp only
          constructor
          · intro h
            cases h
          · rintro ⟨h, hFraction, hExponent⟩
            split_ifs at h with hEnd
            cases h
            rw [fraction] at hFraction hExponent hEnd
            split_ifs at hFraction hExponent hEnd
            rw [exponent] at hExponent hEnd
            dsimp only at hExponent hEnd
            split_ifs at hExponent hEnd

end DecimalDigits

/-! ## Literals of JSON -/

/-- A text that is one literal of JSON, with nothing around it. -/
def IsLiteral (t : Text) : Prop :=
  t = py "null" ∨ t = py "true" ∨ t = py "false" ∨ (∃ token, scanNumber t = some (token, [])) ∨
    ∃ inner s, t = quote :: inner ∧ scanString (inner.length + 1) inner = some (s, [])

/-- A text that is a whole number opens with what opens a number. -/
theorem startsNumber_of_scanNumber {t : Text} {token : NumberToken}
    (h : scanNumber t = some (token, [])) :
    ∃ c tail, t = c :: tail ∧ StartsNumber c := by
  cases t with
  | nil => cases h
  | cons c tail =>
      refine ⟨c, tail, rfl, ?_⟩
      rw [scanNumber] at h
      split_ifs at h with hMinus
      · exact .inl hMinus
      · cases hDigit : digit? c with
        | none =>
            simp only [scanUnsigned, scanInteger, hDigit, bind, Option.bind] at h
            cases h
        | some d => exact .inr ⟨d, (FixedDigits.digit?_eq_some.1 hDigit).2⟩

/-- A number is decoded to its value. -/
theorem loads_number {t : Text} {token : NumberToken} (h : scanNumber t = some (token, [])) :
    loads t = token.value := by
  obtain ⟨c, tail, rfl, hStart⟩ := startsNumber_of_scanNumber h
  have hRange := hStart.range
  have hNone : ∀ {a : CodePoint} (p : Text), 57 < a.val → strip (a :: p) (c :: tail) = none := by
    intro a p ha
    refine strip_cons_ne ?_ _ _
    rintro rfl
    omega
  have hNull : strip (py "null") (c :: tail) = none := hNone _ (by decide)
  have hTrue : strip (py "true") (c :: tail) = none := hNone _ (by decide)
  have hFalse : strip (py "false") (c :: tail) = none := hNone _ (by decide)
  have hScalar : parseScalar (c :: tail) = token.value.bind (fun v => .ok (v, [])) := by
    unfold parseScalar
    rw [hNull, hTrue, hFalse, h]
    rfl
  have hQuote : c ≠ quote := by
    rintro rfl
    exact absurd hRange.1 (by decide)
  have hBracket : c ≠ 0x5B := by
    rintro rfl
    exact absurd hRange.2 (by decide)
  have hBrace : c ≠ 0x7B := by
    rintro rfl
    exact absurd hRange.2 (by decide)
  have hParse : parseValue (2 * (c :: tail).length + 1) (c :: tail) = parseScalar (c :: tail) := by
    rw [parseValue, if_neg hQuote, if_neg hBracket, if_neg hBrace]
  unfold loads
  rw [skipSpace_cons hStart.startsValue.1, hParse, hScalar]
  cases token.value <;> rfl

/-- A quoted text that is scanned whole loads as a text. -/
theorem loads_string {inner s : Text} (h : scanString (inner.length + 1) inner = some (s, [])) :
    loads (quote :: inner) = .ok (.str s) := by
  have hParse : parseValue (2 * (quote :: inner).length + 1) (quote :: inner) =
    .ok (.str s, []) := by
    rw [parseValue, if_pos rfl, h]
  unfold loads
  rw [skipSpace_cons (by decide), hParse]
  rfl

/-- `true` loads as a boolean. -/
theorem loads_true : loads (py "true") = .ok (.bool true) := rfl

/-- `false` loads as a boolean. -/
theorem loads_false : loads (py "false") = .ok (.bool false) := rfl

/-- `null` loads as null. -/
theorem loads_null : loads (py "null") = .ok .null := rfl

/-- Strict decoding of an encoded text that does not start with a byte-order mark. -/
theorem strictJsonLoads_eq_ok {t : Text} {content : Bytes} (hContent : utf8 t = some content)
    (hMark : t.head? ≠ some 0xFEFF) {v : Value} :
    strictJsonLoads content none = .ok v ↔ loads t = .ok v ∧ Accepts v := by
  unfold strictJsonLoads
  rw [utf8Decode_of_utf8 hContent]
  simp only [Option.any_none, Bool.false_eq_true, if_false, if_neg hMark]
  constructor
  · intro h
    obtain ⟨u, hLoads, h⟩ := Except.bind_eq_ok.1 h
    obtain ⟨bs, hBytes, h⟩ := Except.bind_eq_ok.1 h
    cases h
    exact ⟨hLoads, bs, hBytes⟩
  · rintro ⟨hLoads, bs, hBytes⟩
    exact Except.bind_eq_ok.2 ⟨v, hLoads, Except.bind_eq_ok.2 ⟨bs, hBytes, rfl⟩⟩

/-! ## Numbers -/

/-- A number cell is a number with a canonical form. -/
theorem checkNumber_eq_ok {v w : Value} : checkNumber v = .ok w ↔
    ((∃ n, v = .int n) ∨ ∃ x, v = .float x) ∧ Accepts v ∧ w = v := by
  constructor
  · intro h
    unfold checkNumber at h
    split at h
    · rename_i n
      split_ifs at h
      obtain ⟨bs, hBytes, h⟩ := Except.bind_eq_ok.1 h
      cases h
      exact ⟨.inl ⟨n, rfl⟩, ⟨bs, Except.mapError_eq_ok.1 hBytes⟩, rfl⟩
    · rename_i x
      split_ifs at h
      obtain ⟨bs, hBytes, h⟩ := Except.bind_eq_ok.1 h
      cases h
      exact ⟨.inr ⟨x, rfl⟩, ⟨bs, Except.mapError_eq_ok.1 hBytes⟩, rfl⟩
    · cases h
  · rintro ⟨⟨n, rfl⟩ | ⟨x, rfl⟩, hAccepts, rfl⟩
    · have hSafe := accepts_int.1 hAccepts
      have hFinite : (Binary64.ofInt n).isFinite = true := by
        have hRat := Binary64.toRat?_ofInt (n := n) (Nat.lt_of_le_of_lt hSafe (by decide))
        cases hDouble : Binary64.ofInt n with
        | finite negative m => rfl
        | _ => rw [hDouble] at hRat; cases hRat
      obtain ⟨bs, hBytes⟩ := hAccepts
      have hFine : ¬ (Binary64.ofInt n).isFinite = false := by
        rw [hFinite]
        exact Bool.noConfusion
      unfold checkNumber
      dsimp only
      rw [if_neg hFine, if_neg (Nat.not_lt.2 hSafe), hBytes]
      rfl
    · have hFinite := isFinite_of_accepts hAccepts
      obtain ⟨bs, hBytes⟩ := hAccepts
      unfold checkNumber
      dsimp only
      rw [hFinite, if_neg Bool.noConfusion, hBytes]
      rfl

/-- The CSV reader's conversions give the value of the literal. -/
theorem numberOf_eq_ok {digits : DecimalDigits} {t : Text} {token : NumberToken}
    (hMatch : digits.jsonNumber t = some token) {v : Value} :
    numberOf digits t token = .ok v ↔ token.value = .ok v := by
  unfold numberOf NumberToken.value
  by_cases hPlain : token.fraction = none ∧ token.exponent = none
  · rw [DecimalDigits.jsonInteger_eq_some.2 ⟨hMatch, hPlain⟩, if_pos hPlain]
    dsimp only
    unfold intOf
    split_ifs <;> simp [bind, Except.bind, pure, Except.pure]
  · have hNone : digits.jsonInteger t = none := by
      cases hInteger : digits.jsonInteger t with
      | none => rfl
      | some other =>
          obtain ⟨hOther, hShape⟩ := DecimalDigits.jsonInteger_eq_some.1 hInteger
          rw [hMatch] at hOther
          rw [← Option.some.inj hOther] at hShape
          exact absurd hShape hPlain
    rw [hNone, if_neg hPlain]
    dsimp only
    rw [Except.ok.injEq, Except.ok.injEq, floatOf]

/-- The value of a number token is an integer or a double. -/
theorem value_number {token : NumberToken} {v : Value} (h : token.value = .ok v) :
    (∃ n, v = .int n) ∨ ∃ x, v = .float x := by
  unfold NumberToken.value at h
  split_ifs at h with hPlain hLong hNegative
  · cases h
    exact .inl ⟨_, rfl⟩
  · cases h
    exact .inl ⟨_, rfl⟩
  · cases h
    exact .inr ⟨_, rfl⟩

/-! ## Both readers -/

/-- A cell passes the check of its size when it encodes within the limit. -/
theorem validateCellSize_eq_ok {t : Text} {u : Unit} : validateCellSize t = .ok u ↔
    ∃ content, utf8 t = some content ∧ content.length ≤ maxCellBytes := by
  unfold validateCellSize
  cases utf8 t with
  | none => simp
  | some content =>
      dsimp only
      split_ifs with hLarge
      · simp only [Option.some.injEq, false_iff]
        rintro ⟨_, rfl, hSmall⟩
        exact absurd hLarge (Nat.not_lt.2 hSmall)
      · simp only [true_iff]
        exact ⟨content, rfl, Nat.not_lt.1 hLarge⟩

/-- What strict decoding makes of a literal that is not `null`. -/
theorem decoded_literal {t : Text} {content : Bytes} {u : Value} (hLiteral : IsLiteral t)
    (hNull : t ≠ py "null")
    (hContent : utf8 t = some content) (h : strictJsonLoads content none = .ok u) :
    (t = py "true" ∧ u = .bool true) ∨ (t = py "false" ∧ u = .bool false) ∨
      (∃ token, scanNumber t = some (token, []) ∧ token.value = .ok u) ∨ ∃ s, u = .str s := by
  rcases hLiteral with rfl | rfl | rfl | ⟨token, hScan⟩ | ⟨inner, s, rfl, hScan⟩
  · exact absurd rfl hNull
  · have hLoads := ((strictJsonLoads_eq_ok hContent (by decide)).1 h).1
    rw [loads_true] at hLoads
    exact .inl ⟨rfl, (Except.ok.inj hLoads).symm⟩
  · have hLoads := ((strictJsonLoads_eq_ok hContent (by decide)).1 h).1
    rw [loads_false] at hLoads
    exact .inr (.inl ⟨rfl, (Except.ok.inj hLoads).symm⟩)
  · obtain ⟨c, tail, rfl, hStart⟩ := startsNumber_of_scanNumber hScan
    have hMark : (c :: tail).head? ≠ some 0xFEFF := fun hHead =>
      hStart.startsValue.2.2.2 (Option.some.inj hHead)
    have hLoads := ((strictJsonLoads_eq_ok hContent hMark).1 h).1
    rw [loads_number hScan] at hLoads
    exact .inr (.inr (.inl ⟨token, hScan, hLoads⟩))
  · have hMark : (quote :: inner).head? ≠ some 0xFEFF := by
      rw [List.head?_cons]
      decide
    have hLoads := ((strictJsonLoads_eq_ok hContent hMark).1 h).1
    rw [loads_string hScan] at hLoads
    exact .inr (.inr (.inr ⟨s, (Except.ok.inj hLoads).symm⟩))

/-- A cell that is a whole number loads as that number. -/
theorem strictJsonLoads_number {t : Text} {content : Bytes} {token : NumberToken} {u : Value}
    (hContent : utf8 t = some content) (hScan : scanNumber t = some (token, []))
    (hValue : token.value = .ok u)
    (hAccepts : Accepts u) : strictJsonLoads content none = .ok u := by
  obtain ⟨c, tail, rfl, hStart⟩ := startsNumber_of_scanNumber hScan
  have hMark : (c :: tail).head? ≠ some 0xFEFF := fun hHead =>
    hStart.startsValue.2.2.2 (Option.some.inj hHead)
  exact (strictJsonLoads_eq_ok hContent hMark).2 ⟨(loads_number hScan).trans hValue, hAccepts⟩

/-- What the JSON path makes of a text: one literal other than `null`, of the size of a cell,
strictly decoded and taken for the type. -/
def JsonAccepts (pads : Bool) (t : Text) (dataType : DataType) (v : Value) : Prop :=
  IsLiteral t ∧ t ≠ py "null" ∧ ∃ content u changed, utf8 t = some content ∧
    content.length ≤ maxCellBytes ∧
    strictJsonLoads content none = .ok u ∧ jsonCell pads u dataType = .ok (v, changed)

/-- What the CSV reader makes of it. -/
def CsvAccepts (digits : DecimalDigits) (pads : Bool) (t : Text) (dataType : DataType) (v : Value) :
    Prop :=
  ∃ event changed, csvCell digits pads t dataType = .ok (v, event, changed)

variable {digits : DecimalDigits} {pads : Bool} {t : Text} {v : Value}

/-- The shape that every typed cell of the CSV reader has. -/
theorem csvCell_eq_ok {dataType : DataType} (hNonempty : t ≠ [])
    {r : Value × Option NormalizationEventCode × Bool} :
    csvCell digits pads t dataType = .ok r ↔
      (∃ content, utf8 t = some content ∧ content.length ≤ maxCellBytes) ∧
        csvTyped digits pads t dataType = .ok r := by
  unfold csvCell
  rw [Except.bind_eq_ok]
  simp only [validateCellSize_eq_ok]
  have hEmpty : ¬ (t = [] ∧ dataType ≠ .string) := fun h => hNonempty h.1
  rw [if_neg hEmpty]
  exact ⟨fun ⟨_, hSize, h⟩ => ⟨hSize, h⟩, fun ⟨hSize, h⟩ => ⟨(), hSize, h⟩⟩

/-- A CSV cell is a boolean exactly when it is spelled `true` or `false`. -/
theorem csvTyped_boolean :
    (∃ event changed, csvTyped digits pads t .boolean = .ok (v, event, changed)) ↔
    (t = py "true" ∧ v = .bool true) ∨ (t = py "false" ∧ v = .bool false) := by
  unfold csvTyped
  constructor
  · rintro ⟨event, changed, h⟩
    dsimp only at h
    split_ifs at h with hConstant
    · cases h
      rcases hConstant with rfl | rfl
      · exact .inl ⟨rfl, by simp⟩
      · exact .inr ⟨rfl, by simp⟩
  · rintro (⟨rfl, rfl⟩ | ⟨rfl, rfl⟩)
    · exact ⟨some .csvBooleanParsed, false, rfl⟩
    · exact ⟨some .csvBooleanParsed, false, rfl⟩

/-- A CSV cell with ASCII digits is an integer exactly when it is a JSON integer within the safe
range. -/
theorem csvTyped_integer (hDigits : digits.OnlyAscii t) :
    (∃ event changed, csvTyped digits pads t .integer = .ok (v, event, changed)) ↔
      ∃ token n, scanNumber t = some (token, []) ∧ token.value = .ok (.int n) ∧
        n.natAbs ≤ Canonical.maxSafeInteger ∧ v = .int n := by
  unfold csvTyped
  dsimp only
  -- The pattern of the source is the grammar of JSON for a text with ASCII digits; then `int` and
  -- `json.loads` read the same number.
  constructor
  · rintro ⟨event, changed, h⟩
    cases hMatch : digits.jsonInteger t with
    | none =>
        rw [hMatch] at h
        cases h
    | some token =>
        rw [hMatch] at h
        obtain ⟨n, hParsed, h⟩ := Except.bind_eq_ok.1 h
        split_ifs at h with hSafe
        cases h
        obtain ⟨hNumber, -⟩ := DecimalDigits.jsonInteger_eq_some.1 hMatch
        have hValue : numberOf digits t token = .ok (.int n) := by
          unfold numberOf
          rw [hMatch]
          dsimp only
          rw [hParsed]
          rfl
        exact ⟨token, n, (DecimalDigits.jsonNumber_eq_some hDigits).1 hNumber,
          (numberOf_eq_ok hNumber).1 hValue, Nat.not_lt.1 hSafe, rfl⟩
  · rintro ⟨token, n, hScan, hValue, hSafe, rfl⟩
    have hNumber := (DecimalDigits.jsonNumber_eq_some hDigits).2 hScan
    have hPlain : token.fraction = none ∧ token.exponent = none := by
      by_contra hPlain
      unfold NumberToken.value at hValue
      rw [if_neg hPlain] at hValue
      cases hValue
    have hMatch := DecimalDigits.jsonInteger_eq_some.2 ⟨hNumber, hPlain⟩
    have hParsed := (numberOf_eq_ok hNumber).2 hValue
    unfold numberOf at hParsed
    rw [hMatch] at hParsed
    obtain ⟨m, hInt, hEq⟩ := Except.bind_eq_ok.1 hParsed
    cases hEq
    refine ⟨some .csvIntegerParsed, false, ?_⟩
    rw [hMatch]
    refine Except.bind_eq_ok.2 ⟨n, hInt, ?_⟩
    rw [if_neg (Nat.not_lt.2 hSafe)]
    rfl

/-- A CSV cell with ASCII digits is a number exactly when it is a JSON number the encoder accepts. -/
theorem csvTyped_number (hDigits : digits.OnlyAscii t) :
    (∃ event changed, csvTyped digits pads t .number = .ok (v, event, changed)) ↔
      ∃ token, scanNumber t = some (token, []) ∧ token.value = .ok v ∧ Accepts v := by
  unfold csvTyped
  dsimp only
  constructor
  · rintro ⟨event, changed, h⟩
    cases hMatch : digits.jsonNumber t with
    | none =>
        rw [hMatch] at h
        cases h
    | some token =>
        rw [hMatch] at h
        obtain ⟨parsed, hParsed, h⟩ := Except.bind_eq_ok.1 h
        obtain ⟨checked, hChecked, h⟩ := Except.bind_eq_ok.1 h
        cases h
        obtain ⟨-, hAccepts, rfl⟩ := checkNumber_eq_ok.1 hChecked
        exact ⟨token, (DecimalDigits.jsonNumber_eq_some hDigits).1 hMatch, (numberOf_eq_ok hMatch).1
          hParsed, hAccepts⟩
  · rintro ⟨token, hScan, hValue, hAccepts⟩
    have hMatch := (DecimalDigits.jsonNumber_eq_some hDigits).2 hScan
    refine ⟨some .csvNumberParsed, false, ?_⟩
    rw [hMatch]
    exact Except.bind_eq_ok.2 ⟨v, (numberOf_eq_ok hMatch).2 hValue,
      Except.bind_eq_ok.2 ⟨v, checkNumber_eq_ok.2 ⟨value_number hValue, hAccepts, rfl⟩, rfl⟩⟩

/-- A JSON cell is a number exactly when its value is one the encoder accepts. -/
theorem jsonCell_number {u : Value} (hNull : u.isNull = false) :
    (∃ changed, jsonCell pads u .number = .ok (v, changed)) ↔
      ((∃ n, u = .int n) ∨ ∃ x, u = .float x) ∧ Accepts u ∧ v = u := by
  unfold jsonCell
  rw [hNull, if_neg Bool.noConfusion]
  dsimp only
  constructor
  · rintro ⟨changed, h⟩
    obtain ⟨w, hChecked, h⟩ := Except.bind_eq_ok.1 h
    cases h
    exact checkNumber_eq_ok.1 hChecked
  · intro h
    exact ⟨false, Except.bind_eq_ok.2 ⟨v, checkNumber_eq_ok.2 h, rfl⟩⟩

/-- The two readers of cells take the same texts for the same values, as long as no digit beyond
ASCII occurs: a CSV field is read as its type exactly when it is one literal of JSON, other than
`null` and no larger than a cell, that strict decoding and the JSON reader of cells accept for the
type. -/
theorem cells_agree {dataType : DataType} (hDigits : digits.OnlyAscii t) (hNonempty : t ≠ [])
    (hType : dataType = .integer ∨ dataType = .number ∨ dataType = .boolean) :
    CsvAccepts digits pads t dataType v ↔ JsonAccepts pads t dataType v := by
  have hCsv : CsvAccepts digits pads t dataType v ↔
      (∃ content, utf8 t = some content ∧ content.length ≤ maxCellBytes) ∧
        ∃ event changed, csvTyped digits pads t dataType = .ok (v, event, changed) := by
    unfold CsvAccepts
    simp only [csvCell_eq_ok hNonempty]
    exact ⟨fun ⟨e, c, hSize, h⟩ => ⟨hSize, e, c, h⟩, fun ⟨hSize, e, c, h⟩ => ⟨e, c, hSize, h⟩⟩
  rw [hCsv]
  -- Each of the three types reads a literal of JSON, so that the cell is compared through the
  -- token it was scanned as.
  constructor
  · rintro ⟨⟨content, hContent, hSize⟩, hTyped⟩
    rcases hType with rfl | rfl | rfl
    · obtain ⟨token, n, hScan, hValue, hSafe, rfl⟩ := (csvTyped_integer hDigits).1 hTyped
      refine ⟨.inr (.inr (.inr (.inl ⟨token, hScan⟩))), ?_, content, .int n, false, hContent, hSize,
        strictJsonLoads_number hContent hScan hValue (accepts_int.2 hSafe), ?_⟩
      · rintro rfl
        cases hScan
      · unfold jsonCell
        dsimp only [Value.isNull]
        rw [if_neg (Nat.not_lt.2 hSafe)]
        rfl
    · obtain ⟨token, hScan, hValue, hAccepts⟩ := (csvTyped_number hDigits).1 hTyped
      have hNumber := value_number hValue
      have hNotNull : v.isNull = false := by rcases hNumber with ⟨n, rfl⟩ | ⟨x, rfl⟩ <;> rfl
      obtain ⟨changed, hCell⟩ := (@jsonCell_number pads _ _ hNotNull).2 ⟨hNumber, hAccepts, rfl⟩
      refine ⟨.inr (.inr (.inr (.inl ⟨token, hScan⟩))), ?_, content, v, changed, hContent, hSize,
        strictJsonLoads_number hContent hScan hValue hAccepts, hCell⟩
      rintro rfl
      cases hScan
    · rcases csvTyped_boolean.1 hTyped with ⟨rfl, rfl⟩ | ⟨rfl, rfl⟩
      · exact ⟨.inr (.inl rfl), by simp, content, .bool true, false, hContent, hSize,
          (strictJsonLoads_eq_ok hContent (by decide)).2 ⟨loads_true, accepts_bool true⟩, rfl⟩
      · exact ⟨.inr (.inr (.inl rfl)), by simp, content, .bool false, false, hContent, hSize,
          (strictJsonLoads_eq_ok hContent (by decide)).2 ⟨loads_false, accepts_bool false⟩, rfl⟩
  · rintro ⟨hLiteral, hNull, content, u, changed, hContent, hSize, hLoads, hCell⟩
    refine ⟨⟨content, hContent, hSize⟩, ?_⟩
    -- A cell that loads as a literal is a boolean, a number or a text; a text is no cell of these
    -- types.
    rcases decoded_literal hLiteral hNull hContent hLoads with ⟨rfl, rfl⟩ | ⟨rfl, rfl⟩ | ⟨token,
      hScan, hValue⟩ |
      ⟨s, rfl⟩
    · rcases hType with rfl | rfl | rfl
      · cases hCell
      · cases hCell
      · cases hCell
        exact csvTyped_boolean.2 (.inl ⟨rfl, rfl⟩)
    · rcases hType with rfl | rfl | rfl
      · cases hCell
      · cases hCell
      · cases hCell
        exact csvTyped_boolean.2 (.inr ⟨rfl, rfl⟩)
    · have hNumber := value_number hValue
      have hNotNull : u.isNull = false := by rcases hNumber with ⟨n, rfl⟩ | ⟨x, rfl⟩ <;> rfl
      rcases hType with rfl | rfl | rfl
      · unfold jsonCell at hCell
        rw [hNotNull, if_neg Bool.noConfusion] at hCell
        rcases hNumber with ⟨n, rfl⟩ | ⟨x, rfl⟩
        · dsimp only at hCell
          split_ifs at hCell with hSafe
          cases hCell
          exact (csvTyped_integer hDigits).2 ⟨token, n, hScan, hValue, Nat.not_lt.1 hSafe, rfl⟩
        · cases hCell
      · obtain ⟨-, hAccepts, rfl⟩ := (jsonCell_number hNotNull).1 ⟨changed, hCell⟩
        exact (csvTyped_number hDigits).2 ⟨token, hScan, hValue, hAccepts⟩
      · rcases hNumber with ⟨n, rfl⟩ | ⟨x, rfl⟩
        · cases hCell
        · cases hCell
    · rcases hType with rfl | rfl | rfl
      · cases hCell
      · cases hCell
      · cases hCell

/-- The category `Nd` of Unicode. -/
def unicodeDigits : DecimalDigits where
  value c := (CodePoint.decimalZeros.find? (fun first => first ≤ c.val && c.val ≤ first + 9)).map
    (c.val - ·)
  ascii c hc := by
    have hZeros : CodePoint.decimalZeros = 0x30 :: CodePoint.decimalZeros.tail := rfl
    have hLarge : ∀ first ∈ CodePoint.decimalZeros.tail, 128 ≤ first := by decide
    have hRest : CodePoint.decimalZeros.tail.find? (fun first => first ≤ c.val && c.val ≤ first + 9)
      = none := by
      refine List.find?_eq_none.2 (fun first hFirst hRange => ?_)
      rw [Bool.and_eq_true, decide_eq_true_iff] at hRange
      have hFar := hLarge first hFirst
      omega
    rw [hZeros, List.find?_cons, hRest]
    unfold digit?
    by_cases hDigit : 48 ≤ c.val ∧ c.val ≤ 57
    · rw [if_pos hDigit]
      simp [hDigit.1, hDigit.2]
    · rw [if_neg hDigit]
      have hNot : (decide (48 ≤ c.val) && decide (c.val ≤ 48 + 9)) = false := by
        rw [Bool.and_eq_false_iff, decide_eq_false_iff_not, decide_eq_false_iff_not]
        omega
      rw [hNot]
      rfl

/-- `12` is the integer twelve in both formats. -/
theorem cells_agree_twelve : CsvAccepts unicodeDigits true (py "12") .integer (.int 12) ↔
    JsonAccepts true (py "12") .integer (.int 12) :=
  cells_agree (by intro c hc; simp [py] at hc; rcases hc with rfl | rfl <;> decide) (by decide)
    (.inl rfl)

/-- `null` is a literal that the JSON reader takes for any type, and no boolean of the CSV reader,
whose missing cells are empty fields. -/
theorem null_refused_by_csv : IsLiteral (py "null") ∧
    strictJsonLoads (utf8Raw (py "null")) none = .ok .null ∧
    jsonCell true .null .boolean = .ok (.null, false) ∧
    csvCell unicodeDigits true (py "null") .boolean =
      .error (invalidDataset "invalid_boolean_cell") := by
  have hContent : utf8 (py "null") = some (utf8Raw (py "null")) := by decide
  exact ⟨.inl rfl, (strictJsonLoads_eq_ok hContent (by decide)).2 ⟨loads_null, accepts_null⟩,
    rfl, rfl⟩

end DatasetRegistry
