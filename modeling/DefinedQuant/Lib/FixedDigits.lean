import DefinedQuant.Lib.Json.Numbers

/-!
# Numbers in a fixed number of digits

A number below `10 ^ n` has one form of `n` digits, zeros in front included, and the reader of `n`
digits takes exactly that form off the front of a text.
-/

namespace FixedDigits

open Decimal Json

/-- The last `n` decimal digits of a number. -/
def fixedDigits : ℕ → ℕ → List ℕ
  | 0, _ => []
  | n + 1, v => fixedDigits n (v / 10) ++ [v % 10]

/-- A number in `n` digits. -/
def padded (n v : ℕ) : Text := digitsText (fixedDigits n v)

/-- `n` digits at the front of a text. -/
def readDigits : ℕ → Text → Option (List ℕ × Text)
  | 0, t => some ([], t)
  | _ + 1, [] => none
  | n + 1, c :: t =>
      match digit? c, readDigits n t with
      | some d, some (ds, rest) => some (d :: ds, rest)
      | _, _ => none

/-- The number that `n` digits spell. -/
def readNumber (n : ℕ) (t : Text) : Option (ℕ × Text) :=
  (readDigits n t).map (fun read => (ofDigitList read.1, read.2))

/-! ## Digits and numbers -/

@[simp] theorem length_fixedDigits (n v : ℕ) : (fixedDigits n v).length = n := by
  induction n generalizing v with
  | zero => rfl
  | succ n ih => rw [fixedDigits, List.length_append, ih, List.length_singleton]

theorem fixedDigits_lt {n v d : ℕ} (h : d ∈ fixedDigits n v) : d < 10 := by
  induction n generalizing v with
  | zero => cases h
  | succ n ih =>
      rw [fixedDigits, List.mem_append] at h
      rcases h with h | h
      · exact ih h
      · rw [List.mem_singleton.1 h]
        exact Nat.mod_lt _ (by decide)

theorem ofDigitList_concat (ds : List ℕ) (d : ℕ) : ofDigitList (ds ++ [d]) = 10 * ofDigitList ds +
    d := by
  rw [ofDigitList_append]
  show ofDigitList ds * 10 ^ 1 + ofDigitList [d] = _
  have hOne : ofDigitList [d] = d := by simp [ofDigitList]
  rw [hOne]
  omega

theorem ofDigitList_fixedDigits {n v : ℕ} (h : v < 10 ^ n) : ofDigitList (fixedDigits n v) = v := by
  induction n generalizing v with
  | zero =>
      rw [Nat.pow_zero] at h
      have hZero : v = 0 := by omega
      rw [hZero]
      rfl
  | succ n ih =>
      have hDiv : v / 10 < 10 ^ n := by
        rw [Nat.pow_succ] at h
        omega
      rw [fixedDigits, ofDigitList_concat, ih hDiv]
      omega

theorem ofDigitList_lt {ds : List ℕ} (h : ∀ d ∈ ds, d < 10) : ofDigitList ds < 10 ^ ds.length := by
  induction ds using List.reverseRecOn with
  | nil => exact Nat.one_pos
  | append_singleton ds d ih =>
      have hInit := ih (fun e he => h e (List.mem_append_left _ he))
      have hLast := h d (List.mem_append_right _ List.mem_cons_self)
      rw [ofDigitList_concat, List.length_append, List.length_singleton, Nat.pow_succ]
      omega

/-- Digits are the form of the number they spell. -/
theorem fixedDigits_ofDigitList {ds : List ℕ} (h : ∀ d ∈ ds, d < 10) :
    fixedDigits ds.length (ofDigitList ds) = ds := by
  induction ds using List.reverseRecOn with
  | nil => rfl
  | append_singleton ds d ih =>
      have hInit := ih (fun e he => h e (List.mem_append_left _ he))
      have hLast := h d (List.mem_append_right _ List.mem_cons_self)
      rw [ofDigitList_concat, List.length_append, List.length_singleton, fixedDigits]
      have hDiv : (10 * ofDigitList ds + d) / 10 = ofDigitList ds := by omega
      have hMod : (10 * ofDigitList ds + d) % 10 = d := by omega
      rw [hDiv, hMod, hInit]

/-! ## Reading -/

theorem digit?_eq_some {c : CodePoint} {d : ℕ} : digit? c = some d ↔ d < 10 ∧ c = digitChar d := by
  constructor
  · intro h
    unfold digit? at h
    split_ifs at h with hRange
    have hd : c.val - 48 = d := Option.some.inj h
    refine ⟨by omega, Fin.ext ?_⟩
    show c.val = 48 + d % 10
    omega
  · rintro ⟨hd, rfl⟩
    exact digit?_digitChar hd

theorem readDigits_eq_some {n : ℕ} {t rest : Text} {ds : List ℕ} :
    readDigits n t = some (ds, rest) ↔ ds.length = n ∧ (∀ d ∈ ds, d < 10) ∧
      t = digitsText ds ++ rest := by
  -- By induction on the number of digits.
  induction n generalizing t ds with
  | zero =>
      rw [readDigits]
      constructor
      · intro h
        cases h
        exact ⟨rfl, fun d hd => absurd hd List.not_mem_nil, rfl⟩
      · rintro ⟨hLength, _, hText⟩
        obtain rfl := List.eq_nil_of_length_eq_zero hLength
        rw [hText]
        rfl
  | succ n ih =>
      cases t with
      | nil =>
          rw [readDigits]
          constructor
          · intro h
            cases h
          · rintro ⟨hLength, _, hText⟩
            cases ds with
            | nil => cases hLength
            | cons d ds => cases hText
      | cons c t =>
          rw [readDigits]
          constructor
          · intro h
            split at h
            · rename_i d ds' rest' hDigit hRead
              cases h
              obtain ⟨hd, rfl⟩ := digit?_eq_some.1 hDigit
              obtain ⟨hLength, hLt, rfl⟩ := ih.1 hRead
              exact ⟨congrArg (· + 1) hLength, List.forall_mem_cons.2 ⟨hd, hLt⟩, rfl⟩
            · cases h
          · rintro ⟨hLength, hLt, hText⟩
            cases ds with
            | nil => cases hLength
            | cons d ds =>
                obtain ⟨hd, hLt⟩ := List.forall_mem_cons.1 hLt
                obtain ⟨rfl, hRest⟩ := List.cons.inj hText
                rw [digit?_digitChar hd, ih.2 ⟨Nat.succ.inj hLength, hLt, hRest⟩]

/-- The reader takes exactly the form of `n` digits. -/
theorem readNumber_eq_some {n v : ℕ} {t rest : Text} :
    readNumber n t = some (v, rest) ↔ v < 10 ^ n ∧ t = padded n v ++ rest := by
  unfold readNumber
  rw [Option.map_eq_some_iff]
  constructor
  · rintro ⟨⟨ds, rest'⟩, hRead, hEq⟩
    cases hEq
    obtain ⟨rfl, hLt, rfl⟩ := readDigits_eq_some.1 hRead
    refine ⟨ofDigitList_lt hLt, ?_⟩
    rw [padded, fixedDigits_ofDigitList hLt]
  · rintro ⟨hLt, rfl⟩
    refine ⟨(fixedDigits n v, rest), readDigits_eq_some.2 ⟨length_fixedDigits n v, fun d =>
      fixedDigits_lt, rfl⟩,
      ?_⟩
    rw [ofDigitList_fixedDigits hLt]

/-- Too few digits in front of another character are not read. -/
theorem readNumber_short {n : ℕ} {ds : List ℕ} {c : CodePoint} (h : ds.length < n)
    (hc : digit? c = none) (rest : Text) : readNumber n (digitsText ds ++ c :: rest) = none := by
  suffices hRead : readDigits n (digitsText ds ++ c :: rest) = none by
    rw [readNumber, hRead, Option.map_none]
  induction ds generalizing n with
  | nil =>
      obtain ⟨n, rfl⟩ := Nat.exists_eq_succ_of_ne_zero (Nat.ne_of_gt h)
      show readDigits (n + 1) (c :: rest) = none
      rw [readDigits, hc]
  | cons d ds ih =>
      obtain ⟨n, rfl⟩ := Nat.exists_eq_succ_of_ne_zero (Nat.ne_of_gt (Nat.zero_lt_of_lt h))
      show readDigits (n + 1) (digitChar d :: (digitsText ds ++ c :: rest)) = none
      rw [readDigits, ih (Nat.lt_of_succ_lt_succ h)]
      split
      · rename_i hNone
        cases hNone
      · rfl

/-- A run of digits ends where another character stands. -/
theorem digitsText_append_inj {ds es : List ℕ} {c : CodePoint} {r s : Text} (hds : ∀ d ∈ ds, d < 10)
    (hes : ∀ d ∈ es, d < 10) (hc : digit? c = none)
    (h : digitsText ds ++ c :: r = digitsText es ++ c :: s) : ds = es ∧ r = s := by
  have hEnds : ∀ tail : Text, ∀ c' tail', c :: tail = c' :: tail' → digit? c' = none := by
    intro tail c' tail' hEq
    rw [← (List.cons.inj hEq).1, hc]
  have hLeft := scanDigits_digitsText hds (hEnds r)
  have hRight := scanDigits_digitsText hes (hEnds s)
  rw [h, hRight] at hLeft
  obtain ⟨hDigits, hRest⟩ := Prod.mk.inj hLeft
  exact ⟨hDigits.symm, (List.cons.inj hRest).2.symm⟩

/-! ## Digits without the zeros in front -/

theorem length_natDigits_le {n k : ℕ} (hk : 1 ≤ k) (h : n < 10 ^ k) : (natDigits n).length ≤ k := by
  unfold natDigits
  split_ifs with hZero
  · exact hk
  · rw [digitList, List.length_reverse]
    exact (Nat.digits_length_le_iff (by decide) n).2 h

theorem lt_length_natDigits {n k : ℕ} (h : 10 ^ k ≤ n) : k < (natDigits n).length := by
  have hPos : n ≠ 0 := Nat.ne_of_gt (Nat.lt_of_lt_of_le (Nat.pow_pos (by decide)) h)
  unfold natDigits
  rw [if_neg hPos, digitList, List.length_reverse]
  exact (Nat.lt_digits_length_iff (by decide) n).2 h

/-- Nothing is padded where the number fills its digits. -/
theorem natDigits_eq_fixedDigits {n k : ℕ} (hLow : 10 ^ k ≤ n) (hHigh : n < 10 ^ (k + 1)) :
    natDigits n = fixedDigits (k + 1) n := by
  have hAtLeast := lt_length_natDigits hLow
  have hAtMost := length_natDigits_le (Nat.le_add_left 1 k) hHigh
  have hLength : (natDigits n).length = k + 1 := by omega
  have hForm := fixedDigits_ofDigitList (digits_natDigits n).2
  rw [hLength, ofDigitList_natDigits] at hForm
  exact hForm.symm

/-! ## Zeros behind -/

/-- Digits whose run of zeros at the end is cut end with another digit. -/
theorem stripZeros_getLast {ds : List ℕ} {d : ℕ} (h : (stripZeros ds).getLast? = some d) :
    d ≠ 0 := by
  unfold stripZeros at h
  rw [List.getLast?_reverse] at h
  intro hZero
  have hHead := List.head?_dropWhile_not (· == 0) ds.reverse
  rw [h, hZero] at hHead
  simp at hHead

end FixedDigits
