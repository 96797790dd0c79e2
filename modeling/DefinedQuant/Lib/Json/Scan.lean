import DefinedQuant.Lib.Json.Read

/-!
# How reading JSON fails

`json.loads` without hooks reads from the front and stops at the first thing that it cannot take: a
syntax error, which it reports as a `JSONDecodeError`, an integer literal of more digits than the
interpreter converts, a plain `ValueError`, or an array or object inside as many others as the
interpreter lets it recurse, a `RecursionError`. `scan` says which of them it is; the depth is a
parameter. `Scans` is the grammar of what stands at the front of a text up to the first obstacle,
and the reader fails with an obstacle exactly where the grammar meets it.
-/

namespace Json

/-- How `json.loads` fails. -/
inductive Failure where
  | decodeError
  | valueError
  | recursionError
  deriving DecidableEq, Repr

/-- The constants at the front of a text. -/
def scanWord (t : Text) : Option Text :=
  [py "null", py "true", py "false", py "NaN", py "Infinity", py "-Infinity"].findSome?
    (fun word => strip word t)

/-- An integer literal of more digits than `int` converts. -/
def NumberToken.IsOversized (token : NumberToken) : Prop :=
  token.fraction = none ∧ token.exponent = none ∧ maxStrDigits < token.integer.length

instance (token : NumberToken) : Decidable token.IsOversized :=
  inferInstanceAs (Decidable (_ ∧ _ ∧ _))

/-- The text behind the constant or number at the front. -/
def scanScalar (t : Text) : Except Failure Text :=
  match scanWord t with
  | some rest => .ok rest
  | none =>
      match scanNumber t with
      | some (token, rest) => if token.IsOversized then .error .valueError else .ok rest
      | none => .error .decodeError

/-- The text behind a string, whose opening quote is taken off. -/
def scanQuoted (t : Text) : Option Text := (scanString (t.length + 1) t).map Prod.snd

/-- What an opening symbol opens. -/
inductive Bracket where
  | array
  | object
  deriving DecidableEq

def Bracket.closing : Bracket → CodePoint
  | .array => 0x5D
  | .object => 0x7D

def opens (c : CodePoint) : Option Bracket := if c = 0x5B then some .array
    else if c = 0x7B then some .object else none

/-- The text behind the key of a member and the colon. -/
def scanKey : Text → Option Text
  | [] => none
  | c :: rest =>
      if c = quote then do
        let rest ← scanQuoted rest
        match skipSpace rest with
        | 0x3A :: rest => return skipSpace rest
        | _ => none
      else none

/-- Where the value of an element begins. -/
def Bracket.elementValue : Bracket → Text → Option Text
  | .array, t => some t
  | .object, t => scanKey t

mutual

/-- The text behind the value at the front, in which `depth` arrays and objects may still be opened. -/
def scanValue : ℕ → ℕ → Text → Except Failure Text
  | 0, _, _ => .error .decodeError
  | _ + 1, _, [] => .error .decodeError
  | fuel + 1, depth, c :: rest =>
      if c = quote then
        match scanQuoted rest with
        | some rest => .ok rest
        | none => .error .decodeError
      else
        match opens c with
        | none => scanScalar (c :: rest)
        | some bracket =>
            match depth with
            | 0 => .error .recursionError
            | depth + 1 =>
                match strip [bracket.closing] (skipSpace rest) with
                | some rest => .ok rest
                | none => scanElements bracket fuel depth (skipSpace rest)

/-- The text behind the elements of an array or object and the closing symbol. -/
def scanElements (bracket : Bracket) : ℕ → ℕ → Text → Except Failure Text
  | 0, _, _ => .error .decodeError
  | fuel + 1, depth, t =>
      match bracket.elementValue t with
      | none => .error .decodeError
      | some t => do
          let rest ← scanValue fuel depth t
          match skipSpace rest with
          | [] => .error .decodeError
          | c :: rest =>
              if c = 0x2C then scanElements bracket fuel depth (skipSpace rest)
              else if c = bracket.closing then return rest
              else .error .decodeError

end

/-- `json.loads(text)`, up to the value that it returns -/
def scan (depth : ℕ) (t : Text) : Except Failure Unit := do
  let rest ← scanValue (2 * t.length + 1) depth (skipSpace t)
  if skipSpace rest = [] then return () else throw .decodeError

/-! ## The grammar up to the first obstacle -/

/-- What is no error of syntax. -/
inductive Obstacle where
  | oversizedInteger
  | tooDeep
  deriving DecidableEq

def Obstacle.failure : Obstacle → Failure
  | .oversizedInteger => .valueError
  | .tooDeep => .recursionError

/-- What a part of a text leads to: the text behind it, or an obstacle in it. -/
inductive Reached where
  | past (rest : Text)
  | meets (obstacle : Obstacle)

def Reached.result : Reached → Except Failure Text
  | .past rest => .ok rest
  | .meets obstacle => .error obstacle.failure

/-- The parts of a document. -/
inductive Part where
  | value
  | elements (bracket : Bracket)

/-- A part at the front of a text, in which `depth` arrays and objects may still be opened. -/
inductive Scans : Part → ℕ → Text → Reached → Prop
  | string {depth : ℕ} {rest after : Text} : scanQuoted rest = some after →
      Scans .value depth (quote :: rest) (.past after)
  | scalar {depth : ℕ} {c : CodePoint} {rest after : Text} : c ≠ quote → opens c = none →
      scanScalar (c :: rest) = .ok after → Scans .value depth (c :: rest) (.past after)
  | oversized {depth : ℕ} {c : CodePoint} {rest after : Text} {token : NumberToken} : c ≠ quote →
    opens c = none →
      scanWord (c :: rest) = none → scanNumber (c :: rest) = some (token, after) →
        token.IsOversized →
      Scans .value depth (c :: rest) (.meets .oversizedInteger)
  | tooDeep {c : CodePoint} {rest : Text} {bracket : Bracket} : opens c = some bracket →
      Scans .value 0 (c :: rest) (.meets .tooDeep)
  | empty {depth : ℕ} {c : CodePoint} {rest after : Text} {bracket : Bracket} :
    opens c = some bracket →
      strip [bracket.closing] (skipSpace rest) = some after → Scans .value (depth + 1) (c :: rest)
        (.past after)
  | bracket {depth : ℕ} {c : CodePoint} {rest : Text} {bracket : Bracket} {reached : Reached} :
      opens c = some bracket → strip [bracket.closing] (skipSpace rest) = none →
      Scans (.elements bracket) depth (skipSpace rest) reached →
        Scans .value (depth + 1) (c :: rest) reached
  | inside {depth : ℕ} {t value : Text} {bracket : Bracket} {obstacle : Obstacle} :
      bracket.elementValue t = some value → Scans .value depth value (.meets obstacle) →
      Scans (.elements bracket) depth t (.meets obstacle)
  | last {depth : ℕ} {t value rest after : Text} {bracket : Bracket} :
    bracket.elementValue t = some value →
      Scans .value depth value (.past rest) → skipSpace rest = bracket.closing :: after →
      Scans (.elements bracket) depth t (.past after)
  | more {depth : ℕ} {t value rest after : Text} {bracket : Bracket} {reached : Reached} :
      bracket.elementValue t = some value → Scans .value depth value (.past rest) →
        skipSpace rest = 0x2C :: after →
      Scans (.elements bracket) depth (skipSpace after) reached → Scans (.elements bracket) depth t
        reached

/-! ## Every part takes characters off the text -/

/-- White space is only dropped. -/
theorem length_skipSpace_le (t : Text) : (skipSpace t).length ≤ t.length :=
  (List.dropWhile_suffix isSpace).length_le

/-- What is left after a prefix is shorter by the prefix. -/
theorem length_strip {p t rest : Text} (h : strip p t = some rest) :
    rest.length + p.length = t.length := by
  induction p generalizing t with
  | nil =>
      cases h
      rfl
  | cons a p ih =>
      cases t with
      | nil => cases h
      | cons b t =>
          rw [strip] at h
          split_ifs at h
          have hRest := ih h
          rw [List.length_cons, List.length_cons]
          omega

/-- Four hexadecimal digits take something off the text. -/
theorem length_scanHex4 {t rest : Text} {n : Fin 0x10000} (h : scanHex4 t = some (n, rest)) :
    rest.length < t.length := by
  unfold scanHex4 at h
  split at h
  · simp only [Option.bind_eq_bind, Option.bind_eq_some_iff, Option.pure_def, Option.some.injEq,
      Prod.mk.injEq] at h
    obtain ⟨_, _, _, _, _, _, _, _, -, rfl⟩ := h
    simp only [List.length_cons]
    omega
  · cases h

/-- So does a Unicode escape. -/
theorem length_scanUnicode {t rest : Text} {c : CodePoint} (h : scanUnicode t = some (c, rest)) :
    rest.length < t.length := by
  unfold scanUnicode at h
  rw [Option.bind_eq_bind, Option.bind_eq_some_iff] at h
  obtain ⟨⟨high, afterHigh⟩, hHigh, h⟩ := h
  have hFirst := length_scanHex4 hHigh
  dsimp only at h
  split at h
  · split at h
    · rw [Option.bind_eq_some_iff] at h
      obtain ⟨⟨low, afterLow⟩, hLow, h⟩ := h
      have hSecond := length_scanHex4 hLow
      simp only [List.length_cons] at hFirst
      -- only the text behind is of interest: the arithmetic of the pair is too large to match on
      by_cases hPair : 0xDC00 ≤ low.val ∧ low.val ≤ 0xDFFF
      · rw [dif_pos hPair, Option.pure_def, Option.some.injEq, Prod.mk.injEq] at h
        have hRest : afterLow = rest := h.2
        rw [← hRest]
        omega
      · rw [dif_neg hPair, Option.pure_def, Option.some.injEq, Prod.mk.injEq] at h
        rw [← h.2, List.length_cons, List.length_cons]
        omega
    · cases h
      exact hFirst
  · cases h
    exact hFirst

/-- So does a character of a string. -/
theorem length_scanChar {t rest : Text} {c : CodePoint} (h : scanChar t = some (c, rest)) :
    rest.length < t.length := by
  unfold scanChar at h
  split at h
  · cases h
  · split_ifs at h
    · split at h
      · cases h
      · split_ifs at h
        · have hUnicode := length_scanUnicode h
          simp only [List.length_cons]
          omega
        · rw [Option.map_eq_some_iff] at h
          obtain ⟨_, -, hPair⟩ := h
          cases hPair
          simp only [List.length_cons]
          omega
    · cases h
      exact Nat.lt_succ_self _

/-- So does the rest of a string. -/
theorem length_scanString {fuel : ℕ} {t rest s : Text} (h : scanString fuel t = some (s, rest)) :
    rest.length < t.length := by
  induction fuel generalizing t s with
  | zero => cases h
  | succ fuel ih =>
      cases t with
      | nil => cases h
      | cons c tail =>
          rw [scanString] at h
          split_ifs at h
          · cases h
            exact Nat.lt_succ_self _
          · simp only [Option.bind_eq_bind, Option.bind_eq_some_iff, Option.pure_def,
              Option.some.injEq] at h
            obtain ⟨⟨d, afterChar⟩, hChar, ⟨s', afterString⟩, hString, hPair⟩ := h
            cases hPair
            exact (ih hString).trans (length_scanChar hChar)

/-- So does a string with its quotes. -/
theorem length_scanQuoted {t rest : Text} (h : scanQuoted t = some rest) :
    rest.length < t.length := by
  rw [scanQuoted, Option.map_eq_some_iff] at h
  obtain ⟨⟨s, after⟩, hString, rfl⟩ := h
  exact length_scanString hString

/-- Digits are only taken off. -/
theorem length_scanDigits (t : Text) : (scanDigits t).2.length ≤ t.length := by
  induction t with
  | nil => exact le_rfl
  | cons c t ih =>
      rw [scanDigits]
      split
      · exact ih.trans (Nat.le_succ _)
      · exact le_rfl

/-- An integer takes at least one digit. -/
theorem length_scanInteger {t rest : Text} {ds : List ℕ} (h : scanInteger t = some (ds, rest)) :
    rest.length < t.length := by
  cases t with
  | nil => cases h
  | cons c t =>
      rw [scanInteger] at h
      split at h
      · cases h
      · cases h
        exact Nat.lt_succ_self _
      · cases h
        exact Nat.lt_succ_of_le (length_scanDigits t)

/-- A fraction may be empty. -/
theorem length_scanFraction (t : Text) : (scanFraction t).2.length ≤ t.length := by
  cases t with
  | nil => exact le_rfl
  | cons c t =>
      rw [scanFraction]
      split_ifs
      · exact (length_scanDigits t).trans (Nat.le_succ _)
      · exact le_rfl

/-- So may the sign of an exponent. -/
theorem length_scanExponentSign (t : Text) : (scanExponentSign t).2.length ≤ t.length := by
  cases t with
  | nil => exact le_rfl
  | cons c t =>
      rw [scanExponentSign]
      split_ifs
      · exact Nat.le_succ _
      · exact Nat.le_succ _
      · exact le_rfl

/-- So may an exponent. -/
theorem length_scanExponent (t : Text) : (scanExponent t).2.length ≤ t.length := by
  cases t with
  | nil => exact le_rfl
  | cons c t =>
      have hSign := length_scanExponentSign t
      rw [scanExponent]
      split_ifs
      · exact ((length_scanDigits _).trans hSign).trans (Nat.le_succ _)
      · exact le_rfl

/-- A number without its sign takes something off. -/
theorem length_scanUnsigned {negative : Bool} {t rest : Text} {token : NumberToken}
    (h : scanUnsigned negative t = some (token, rest)) : rest.length < t.length := by
  simp only [scanUnsigned, Option.bind_eq_bind, Option.bind_eq_some_iff, Option.pure_def,
    Option.some.injEq, Prod.mk.injEq] at h
  obtain ⟨⟨integer, after⟩, hInteger, -, rfl⟩ := h
  exact ((length_scanExponent _).trans (length_scanFraction _)).trans_lt
    (length_scanInteger hInteger)

/-- So does a number. -/
theorem length_scanNumber {t rest : Text} {token : NumberToken}
    (h : scanNumber t = some (token, rest)) :
    rest.length < t.length := by
  cases t with
  | nil => cases h
  | cons c t =>
      rw [scanNumber] at h
      split_ifs at h
      · exact (length_scanUnsigned h).trans (Nat.lt_succ_self _)
      · exact length_scanUnsigned h

/-- So does one of the words. -/
theorem length_scanWord {t rest : Text} (h : scanWord t = some rest) : rest.length < t.length := by
  obtain ⟨word, hWord, hStrip⟩ := List.exists_of_findSome?_eq_some h
  have hLength := length_strip hStrip
  have hPos : 0 < word.length := by
    simp only [List.mem_cons, List.not_mem_nil, or_false] at hWord
    rcases hWord with rfl | rfl | rfl | rfl | rfl | rfl
    all_goals decide
  omega

/-- So does every scalar. -/
theorem length_scanScalar {t rest : Text} (h : scanScalar t = .ok rest) :
    rest.length < t.length := by
  unfold scanScalar at h
  split at h
  · next hWord =>
    cases h
    exact length_scanWord hWord
  · split at h
    · next hNumber =>
      split_ifs at h
      cases h
      exact length_scanNumber hNumber
    · cases h

/-- So does a key with its colon. -/
theorem length_scanKey {t rest : Text} (h : scanKey t = some rest) : rest.length < t.length := by
  cases t with
  | nil => cases h
  | cons c t =>
      rw [scanKey] at h
      split_ifs at h
      rw [Option.bind_eq_bind, Option.bind_eq_some_iff] at h
      obtain ⟨after, hQuoted, h⟩ := h
      have hString := length_scanQuoted hQuoted
      have hBefore := length_skipSpace_le after
      split at h
      · next value hColon =>
        cases h
        rw [hColon, List.length_cons] at hBefore
        have hAfter := length_skipSpace_le value
        rw [List.length_cons]
        omega
      · cases h

/-- The value of an element stands at its end. -/
theorem length_elementValue {bracket : Bracket} {t value : Text}
    (h : bracket.elementValue t = some value) :
    value.length ≤ t.length := by
  cases bracket with
  | array =>
      cases h
      exact le_rfl
  | object => exact (length_scanKey h).le

/-- What stands behind a part is shorter than the text. -/
theorem Scans.length {part : Part} {depth : ℕ} {t : Text} {reached : Reached}
    (h : Scans part depth t reached) :
    ∀ rest, reached = .past rest → rest.length < t.length := by
  -- By induction on the derivation; what meets an obstacle leaves nothing to compare.
  induction h with
  | string hQuoted =>
      rintro _ ⟨⟩
      exact (length_scanQuoted hQuoted).trans (Nat.lt_succ_self _)
  | scalar _ _ hScalar =>
      rintro _ ⟨⟩
      exact length_scanScalar hScalar
  | oversized => exact nofun
  | tooDeep => exact nofun
  | @empty depth c rest after bracket _ hStrip =>
      rintro _ ⟨⟩
      have hLength := length_strip hStrip
      have hSpace := length_skipSpace_le rest
      rw [List.length_cons]
      omega
  | @bracket depth c rest bracket reached _ _ _ ih =>
      intro after hPast
      have hSpace := length_skipSpace_le rest
      have hInside := ih after hPast
      rw [List.length_cons]
      omega
  | inside => exact nofun
  | @last depth t value rest after bracket hValue _ hClose ih =>
      rintro _ ⟨⟩
      have hShort := length_elementValue hValue
      have hRest := ih rest rfl
      have hSpace := length_skipSpace_le rest
      rw [hClose, List.length_cons] at hSpace
      omega
  | @more depth t value rest after bracket reached hValue _ hComma _ ihValue ihMore =>
      intro final hPast
      have hShort := length_elementValue hValue
      have hRest := ihValue rest rfl
      have hSpace := length_skipSpace_le rest
      have hNext := length_skipSpace_le after
      have hMore := ihMore final hPast
      rw [hComma, List.length_cons] at hSpace
      omega

/-! ## The reader follows the grammar -/

/-- The reader of a part. -/
def Part.scan : Part → ℕ → ℕ → Text → Except Failure Text
  | .value => scanValue
  | .elements bracket => scanElements bracket

/-- How many calls deep the reader of a part may go: an opening symbol takes two. -/
def Part.calls (t : Text) : Part → ℕ
  | .value => 2 * t.length
  | .elements _ => 2 * t.length + 1

/-- An integer with too many digits is a ValueError. -/
theorem scanScalar_of_isOversized {t after : Text} {token : NumberToken} (hWord : scanWord t = none)
    (hNumber : scanNumber t = some (token, after)) (h : token.IsOversized) :
    scanScalar t = .error .valueError := by
  unfold scanScalar
  rw [hWord, hNumber]
  exact if_pos h

/-- No bracket is a quote. -/
theorem ne_quote_of_opens {c : CodePoint} {bracket : Bracket} (h : opens c = some bracket) :
    c ≠ quote := by
  rintro rfl
  cases h

/-- A bracket that opens is followed by its closing one or by elements, one level deeper. -/
theorem scanValue_bracket {fuel depth : ℕ} {c : CodePoint} {rest : Text} {bracket : Bracket}
    (hOpens : opens c = some bracket) :
    scanValue (fuel + 1) (depth + 1) (c :: rest) =
      match strip [bracket.closing] (skipSpace rest) with
      | some rest => .ok rest
      | none => scanElements bracket fuel depth (skipSpace rest) := by
  rw [scanValue, if_neg (ne_quote_of_opens hOpens), hOpens]

/-- An element whose value is read. -/
theorem scanElements_past {fuel depth : ℕ} {t value rest after : Text} {c : CodePoint}
    {bracket : Bracket}
    (hValue : bracket.elementValue t = some value) (hPast : scanValue fuel depth value = .ok rest)
    (hNext : skipSpace rest = c :: after) :
    scanElements bracket (fuel + 1) depth t =
      if c = 0x2C then scanElements bracket fuel depth (skipSpace after)
      else if c = bracket.closing then .ok after else .error .decodeError := by
  rw [scanElements, hValue]
  simp only [hPast, bind, Except.bind, hNext]
  rfl

/-- An element whose value is refused. -/
theorem scanElements_error {fuel depth : ℕ} {t value : Text} {failure : Failure} {bracket : Bracket}
    (hValue : bracket.elementValue t = some value)
    (hError : scanValue fuel depth value = .error failure) :
    scanElements bracket (fuel + 1) depth t = .error failure := by
  rw [scanElements, hValue]
  simp only [hError, bind, Except.bind]

/-- No closing bracket is a comma. -/
theorem Bracket.closing_ne_comma (bracket : Bracket) : bracket.closing ≠ 0x2C := by
  cases bracket <;> decide

/-- What the grammar reaches, the reader returns. -/
theorem Scans.scan_eq {part : Part} {depth : ℕ} {t : Text} {reached : Reached}
    (h : Scans part depth t reached) :
    ∀ fuel, part.calls t ≤ fuel → part.scan (fuel + 1) depth t = reached.result := by
  -- By induction on the derivation. The fuel bounds the calls, which the lengths of what is left
  -- bound in turn.
  induction h with
  | @string depth rest after hQuoted =>
      intro fuel _
      show scanValue (fuel + 1) depth (quote :: rest) = .ok after
      rw [scanValue, if_pos rfl, hQuoted]
  | @scalar depth c rest after hQuote hOpens hScalar =>
      intro fuel _
      show scanValue (fuel + 1) depth (c :: rest) = .ok after
      rw [scanValue, if_neg hQuote, hOpens]
      exact hScalar
  | @oversized depth c rest after token hQuote hOpens hWord hNumber hOversized =>
      intro fuel _
      show scanValue (fuel + 1) depth (c :: rest) = .error .valueError
      rw [scanValue, if_neg hQuote, hOpens]
      exact scanScalar_of_isOversized hWord hNumber hOversized
  | @tooDeep c rest bracket hOpens =>
      intro fuel _
      show scanValue (fuel + 1) 0 (c :: rest) = .error .recursionError
      rw [scanValue, if_neg (ne_quote_of_opens hOpens), hOpens]
  | @empty depth c rest after bracket hOpens hStrip =>
      intro fuel _
      show scanValue (fuel + 1) (depth + 1) (c :: rest) = .ok after
      rw [scanValue_bracket hOpens, hStrip]
  | @bracket depth c rest bracket reached hOpens hStrip _ ih =>
      intro fuel hFuel
      have hSpace := length_skipSpace_le rest
      simp only [Part.calls, List.length_cons] at hFuel ih
      obtain ⟨fuel, rfl⟩ := Nat.exists_eq_add_one_of_ne_zero (n := fuel) (by omega)
      show scanValue (fuel + 1 + 1) (depth + 1) (c :: rest) = reached.result
      rw [scanValue_bracket hOpens, hStrip]
      exact ih fuel (by omega)
  | @inside depth t value bracket obstacle hValue _ ih =>
      intro fuel hFuel
      have hShort := length_elementValue hValue
      simp only [Part.calls] at hFuel ih
      obtain ⟨fuel, rfl⟩ := Nat.exists_eq_add_one_of_ne_zero (n := fuel) (by omega)
      exact scanElements_error hValue (ih fuel (by omega))
  | @last depth t value rest after bracket hValue _ hClose ih =>
      intro fuel hFuel
      have hShort := length_elementValue hValue
      simp only [Part.calls] at hFuel ih
      obtain ⟨fuel, rfl⟩ := Nat.exists_eq_add_one_of_ne_zero (n := fuel) (by omega)
      have hPast : scanValue (fuel + 1) depth value = .ok rest := ih fuel (by omega)
      refine (scanElements_past hValue hPast hClose).trans ?_
      rw [if_neg bracket.closing_ne_comma, if_pos rfl]
      rfl
  | @more depth t value rest after bracket reached hValue hReached hComma _ ihValue ihMore =>
      intro fuel hFuel
      have hShort := length_elementValue hValue
      have hRest := hReached.length rest rfl
      have hSpace := length_skipSpace_le rest
      have hNext := length_skipSpace_le after
      rw [hComma, List.length_cons] at hSpace
      simp only [Part.calls] at hFuel ihValue ihMore
      obtain ⟨fuel, rfl⟩ := Nat.exists_eq_add_one_of_ne_zero (n := fuel) (by omega)
      have hPast : scanValue (fuel + 1) depth value = .ok rest := ihValue fuel (by omega)
      refine (scanElements_past hValue hPast hComma).trans ?_
      rw [if_pos rfl]
      exact ihMore fuel (by omega)

/-- What the reader returns is what it returned or the obstacle that it met. -/
theorem scanScalar_eq_result {t : Text} {reached : Reached} (h : scanScalar t = reached.result) :
    (∃ after, reached = .past after ∧ scanScalar t = .ok after) ∨
      (reached = .meets .oversizedInteger ∧ scanWord t = none ∧
        ∃ token after, scanNumber t = some (token, after) ∧ token.IsOversized) := by
  cases reached with
  | past after => exact .inl ⟨after, rfl, h⟩
  | meets obstacle =>
      right
      unfold scanScalar at h
      split at h
      · cases h
      · next hWord =>
        split at h
        · next token after hNumber =>
          split_ifs at h with hOversized
          · cases obstacle with
            | oversizedInteger => exact ⟨rfl, hWord, token, after, hNumber, hOversized⟩
            | tooDeep => cases h
          · cases h
        · cases obstacle <;> cases h

/-- What the reader returns, the grammar reaches. -/
theorem scans_of_scan (part : Part) {fuel depth : ℕ} {t : Text} {reached : Reached}
    (h : part.scan fuel depth t = reached.result) : Scans part depth t reached := by
  -- What the grammar reaches is never a mere syntax error.
  have hNot : ∀ {reached : Reached}, Except.error Failure.decodeError ≠ reached.result := by
    intro reached hSame
    cases reached with
    | past rest => cases hSame
    | meets obstacle => cases obstacle <;> cases hSame
  -- By induction on the fuel, along the cases of the two scanners; each way out is a rule of the
  -- grammar.
  induction fuel generalizing part depth t reached with
  | zero => cases part <;> exact absurd h hNot
  | succ fuel ih =>
      cases part with
      | value =>
          cases t with
          | nil => exact absurd h hNot
          | cons c rest =>
              change scanValue (fuel + 1) depth (c :: rest) = reached.result at h
              rw [scanValue] at h
              split at h
              · next hQuote =>
                subst hQuote
                split at h
                · next after hQuoted =>
                  cases reached with
                  | past _ =>
                      cases h
                      exact .string hQuoted
                  | meets obstacle => cases obstacle <;> cases h
                · exact absurd h hNot
              · next hQuote =>
                split at h
                · next hOpens =>
                  obtain ⟨after, rfl, hScalar⟩ | ⟨rfl, hWord, token, after, hNumber, hOversized⟩ :=
                    scanScalar_eq_result h
                  · exact .scalar hQuote hOpens hScalar
                  · exact .oversized hQuote hOpens hWord hNumber hOversized
                · next bracket hOpens =>
                  split at h
                  · cases reached with
                    | past _ => cases h
                    | meets obstacle =>
                        cases obstacle with
                        | oversizedInteger => cases h
                        | tooDeep => exact .tooDeep hOpens
                  · split at h
                    · next after hStrip =>
                      cases reached with
                      | past _ =>
                          cases h
                          exact .empty hOpens hStrip
                      | meets obstacle => cases obstacle <;> cases h
                    · next hStrip => exact .bracket hOpens hStrip (ih (.elements bracket) h)
      -- Elements: the value of the first one is scanned, and what follows it decides between the
      -- last element and more.
      | elements bracket =>
          change scanElements bracket (fuel + 1) depth t = reached.result at h
          rw [scanElements] at h
          split at h
          · exact absurd h hNot
          · next value hValue =>
            cases hRead : scanValue fuel depth value with
            | error failure =>
                rw [hRead] at h
                cases reached with
                | past _ => cases h
                | meets obstacle => exact .inside hValue (ih .value (hRead.trans h))
            | ok rest =>
                have hPast : Scans .value depth value (.past rest) := ih .value hRead
                rw [hRead] at h
                simp only [bind, Except.bind] at h
                split at h
                · exact absurd h hNot
                · next c after hNext =>
                  split_ifs at h with hComma hClose
                  · subst hComma
                    exact .more hValue hPast hNext (ih (.elements bracket) h)
                  · subst hClose
                    cases reached with
                    | past _ =>
                        cases h
                        exact .last hValue hPast hNext
                    | meets obstacle => cases obstacle <;> cases h
                  · exact absurd h hNot

/-! ## Documents -/

/-- A text whose front, behind its white space, meets an obstacle before any error of syntax. -/
def Meets (depth : ℕ) (t : Text) (obstacle : Obstacle) : Prop :=
  Scans .value depth (skipSpace t) (.meets obstacle)

/-- A text that is one document. -/
def IsDocument (depth : ℕ) (t : Text) : Prop :=
  ∃ rest, Scans .value depth (skipSpace t) (.past rest) ∧ skipSpace rest = []

/-- With enough fuel the scanner gives what the grammar says. -/
theorem scanValue_eq_result {depth : ℕ} {t : Text} {reached : Reached} :
    scanValue (2 * t.length + 1) depth (skipSpace t) = reached.result ↔
      Scans .value depth (skipSpace t) reached := by
  refine ⟨fun h => @scans_of_scan .value (2 * t.length + 1) _ _ _ h, fun h => h.scan_eq _ ?_⟩
  have hSpace := length_skipSpace_le t
  show 2 * (skipSpace t).length ≤ 2 * t.length
  omega

/-- The reader fails with an obstacle exactly where the text meets it. -/
theorem scan_eq_failure {depth : ℕ} {t : Text} {obstacle : Obstacle} :
    scan depth t = .error obstacle.failure ↔ Meets depth t obstacle := by
  rw [Meets, ← scanValue_eq_result, scan]
  cases hRead : scanValue (2 * t.length + 1) depth (skipSpace t) with
  | error failure =>
      show Except.error failure = Except.error obstacle.failure ↔
        Except.error failure = Except.error obstacle.failure
      rw [Except.error.injEq, Except.error.injEq]
  | ok rest =>
      simp only [bind, Except.bind]
      split_ifs
      · exact ⟨nofun, nofun⟩
      · cases obstacle
        · exact ⟨nofun, nofun⟩
        · exact ⟨nofun, nofun⟩

/-- The scanner accepts exactly the documents within the depth. -/
theorem scan_eq_ok {depth : ℕ} {t : Text} {u : Unit} : scan depth t = .ok u ↔
    IsDocument depth t := by
  rw [scan, Except.bind_eq_ok]
  constructor
  · rintro ⟨rest, hRead, h⟩
    split_ifs at h with hSpace
    exact ⟨rest, scanValue_eq_result.1 hRead, hSpace⟩
  · rintro ⟨rest, hScans, hSpace⟩
    exact ⟨rest, scanValue_eq_result.2 hScans, if_pos hSpace⟩

end Json
