import DefinedQuant.Categories.SeriesRules
import DefinedQuant.Lib.AwareDatetime
import DefinedQuant.Shared.ComponentOutput
import Mathlib.Algebra.Order.Field.Basic
import Mathlib.Data.Rat.Cast.Defs
import Mathlib.Data.String.Basic

/-!
# Calculations of components

What the components have in common: the exceptions and the partial operations of Python over the
numbers of an ordered field, to which a finite double is converted exactly; the guidance of a
contract without defaults; and the sizes of the texts that they compose.
-/

namespace Calculation

open Calendar (AwareDatetime)
open Validation
open SeriesRules
open ComponentOutput (isBlank Derivation)
open Visualization (Invalid ValidNotes)
open Protocol (charsWithin)

/-- `sys.maxsize`, above which no tuple has items. -/
def maxsize : ℕ := 2 ^ 63 - 1

/-! ## Exceptions and arithmetic -/

/-- A raised exception. -/
inductive Raised where
  | preflight (e : Validation.Raised)
  /-- `DomainError` with one violation of a rule and its context. -/
  | domainError (rule message : String) (context : Fields := [])
  | zeroDivisionError
  | valueError (message : String)
  | indexError
  | validationError (e : Invalid)
  /-- A double that is no number of the field. -/
  | notExact

/-- A `ValueError` that leaves a validator is a `ValidationError` of its model. -/
def Raised.inValidator : Raised → Raised
  | .valueError message => .validationError ⟨"", message⟩
  | e => e

/-- The doubles as exact numbers: which of them are finite, and how `format(x, ".6g")` writes them. -/
structure Floats (K : Type) where
  isFinite : K → Bool
  sixDigits : K → Text
  sixDigits_encodable : ∀ x, Text.Encodable (sixDigits x)
  sixDigits_length : ∀ x, (sixDigits x).length ≤ 13

/-- Doubles of which the exact numbers are finite. -/
structure Doubles (K : Type) [Field K] extends Floats K where
  isFinite_toRat : ∀ (x : Binary64) (q : ℚ), x.toRat? = some q → isFinite q = true

/-- Zero is a finite double. -/
theorem Doubles.isFinite_zero {K : Type} [Field K] (doubles : Doubles K) :
    doubles.isFinite 0 = true := by
  have hZero : (Binary64.ofInt 0).toRat? = some ((0 : ℤ) : ℚ) := Binary64.toRat?_ofInt (by decide)
  simpa using doubles.isFinite_toRat _ _ hZero

/-- `xs[i]` -/
def item {α : Type} (xs : List α) (i : ℕ) : Except Raised α :=
  match xs[i]? with
  | some x => .ok x
  | none => .error .indexError

/-- Reading an index the list has answers that element. -/
theorem item_of_getElem? {α : Type} {xs : List α} {i : ℕ} {x : α} (h : xs[i]? = some x) :
    item xs i = .ok x := by
  rw [item, h]

/-- A bound of a slice: a negative one counts from the end. -/
def sliceBound (length : ℕ) (i : ℤ) : ℕ :=
  (if i < 0 then max 0 (i + length) else min i length).toNat

/-- `xs[start:stop]` -/
def slice {α : Type} (xs : List α) (start stop : ℤ) : List α :=
  (xs.take (sliceBound xs.length stop)).drop (sliceBound xs.length start)

/-- `xs[start:]` -/
def sliceFrom {α : Type} (xs : List α) (start : ℤ) : List α := xs.drop (sliceBound xs.length start)

/-- `range(start, stop)` -/
def range (start stop : ℤ) : List ℤ :=
  (List.range (stop - start).toNat).map (fun i : ℕ => start + i)

/-- `range(start, stop)` holds the integers between its bounds. -/
theorem mem_range {start stop i : ℤ} : i ∈ range start stop ↔ start ≤ i ∧ i < stop := by
  unfold range
  rw [List.mem_map]
  constructor
  · rintro ⟨k, hk, rfl⟩
    rw [List.mem_range] at hk
    omega
  · rintro ⟨hStart, hStop⟩
    exact ⟨(i - start).toNat, List.mem_range.2 (by omega), by omega⟩

/-- A range has as many elements as its bounds are apart. -/
theorem length_range (start stop : ℤ) : (range start stop).length = (stop - start).toNat := by
  simp [range]

/-- The element at an index of a range. -/
theorem getElem?_range {start stop : ℤ} {i : ℕ} (h : i < (stop - start).toNat) :
    (range start stop)[i]? = some (start + i) := by
  simp [range, h]

/-- A range repeats nothing. -/
theorem nodup_range (start stop : ℤ) : (range start stop).Nodup :=
  List.nodup_range.map (fun _ _ h => Int.ofNat_inj.1 (add_left_cancel h))

/-- A slice between two positions of the list. -/
theorem slice_of_le {α : Type} {xs : List α} {start stop : ℕ} (hStop : stop ≤ xs.length)
    (hStart : start ≤ stop) : slice xs start stop = (xs.drop start).take (stop - start) := by
  have hBound : ∀ i : ℕ, i ≤ xs.length → sliceBound xs.length i = i := by
    intro i hi
    unfold sliceBound
    rw [if_neg (by omega)]
    omega
  rw [slice, hBound stop hStop, hBound start (hStart.trans hStop), List.drop_take]

/-- A slice from a position within the list drops what stands before it. -/
theorem sliceFrom_of_le {α : Type} {xs : List α} {start : ℕ} (h : start ≤ xs.length) :
    sliceFrom xs start = xs.drop start := by
  unfold sliceFrom sliceBound
  rw [if_neg (by omega)]
  congr 1
  omega

section

variable {K : Type} [Field K] [LinearOrder K]

/-- `a / b` -/
def divide (a b : K) : Except Raised K := if b = 0 then .error .zeroDivisionError else .ok (a / b)

/-- A division by a number that is not zero raises nothing. -/
theorem divide_of_ne_zero {a b : K} (h : b ≠ 0) : divide a b = .ok (a / b) := if_neg h

/-- `math.sqrt(x)` -/
def squareRoot (sqrt : K → K) (x : K) : Except Raised K :=
  if x < 0 then .error (.valueError "math domain error") else .ok (sqrt x)

/-- `math.sqrt` raises nothing on a number that is not negative. -/
theorem squareRoot_of_nonneg {sqrt : K → K} {x : K} (h : 0 ≤ x) :
    squareRoot sqrt x = .ok (sqrt x) := if_neg (not_lt.2 h)

/-- `math.hypot(a, b)` -/
def hypot (sqrt : K → K) (a b : K) : K := sqrt (a * a + b * b)

/-- `sys.float_info.min` -/
def floatInfoMin : K := 1 / 2 ^ 1022

/-- The number of the field that a double is. -/
def exact (x : Binary64) : Except Raised K :=
  match x.toRat? with
  | some q => .ok (q : K)
  | none => .error .notExact

omit [LinearOrder K] in
/-- The numbers of finite doubles. -/
theorem exists_mapM_exact {xs : List Binary64} (h : ∀ x ∈ xs, x.isFinite = true) :
    ∃ numbers : List K, xs.mapM exact = .ok numbers := by
  refine Except.exists_mapM_eq_ok (fun x hx => ?_)
  obtain ⟨q, hq⟩ := Binary64.exists_toRat?_of_isFinite (h x hx)
  exact ⟨(q : K), by rw [exact, hq]⟩

end

section

variable {K : Type} [LinearOrder K]

/-- `min(xs)` -/
def smallest : List K → Except Raised K
  | [] => .error (.valueError "min() iterable argument is empty")
  | x :: xs => .ok (xs.foldl min x)

/-- `max(xs)` -/
def largest : List K → Except Raised K
  | [] => .error (.valueError "max() iterable argument is empty")
  | x :: xs => .ok (xs.foldl max x)

/-- `min` answers on every list that is not empty. -/
theorem exists_smallest {xs : List K} (h : xs ≠ []) : ∃ m, smallest xs = .ok m := by
  cases xs with
  | nil => exact absurd rfl h
  | cons x xs => exact ⟨_, rfl⟩

/-- The minimum is one of the numbers, and none is smaller. -/
theorem smallest_spec {xs : List K} {m : K} (h : smallest xs = .ok m) : m ∈ xs ∧ ∀ x ∈ xs,
    m ≤ x := by
  cases xs with
  | nil => cases h
  | cons x xs =>
      obtain rfl := Except.ok.inj h
      clear h
      induction xs generalizing x with
      | nil => exact ⟨List.mem_cons_self, fun y hy => (List.mem_singleton.1 hy).ge⟩
      | cons y ys ih =>
          obtain ⟨hMem, hBound⟩ := ih (min x y)
          rw [List.forall_mem_cons] at hBound
          rw [List.foldl_cons]
          refine ⟨?_, ?_⟩
          · rcases List.mem_cons.1 hMem with hFirst | hRest
            · rw [hFirst]
              rcases min_choice x y with hMin | hMin
              · rw [hMin]
                exact List.mem_cons_self
              · rw [hMin]
                exact List.mem_cons_of_mem _ List.mem_cons_self
            · exact List.mem_cons_of_mem _ (List.mem_cons_of_mem _ hRest)
          · rw [List.forall_mem_cons, List.forall_mem_cons]
            exact ⟨hBound.1.trans (min_le_left x y), hBound.1.trans (min_le_right x y), hBound.2⟩

/-- `max` answers on every list that is not empty. -/
theorem exists_largest {xs : List K} (h : xs ≠ []) : ∃ m, largest xs = .ok m := by
  cases xs with
  | nil => exact absurd rfl h
  | cons x xs => exact ⟨_, rfl⟩

end

/-- The validation of a model, as the component that builds it sees it. -/
def validated (result : Except Invalid Unit) : Except Raised Unit :=
  result.mapError Raised.validationError

/-- A validator that is turned into a raise passes exactly when the validator does. -/
theorem validated_eq_ok {result : Except Invalid Unit} {u : Unit} : validated result = .ok u ↔
    result = .ok u :=
  Except.mapError_eq_ok

/-! ## Guidance -/

/-- What is evaluated of `guidance` of a contract without defaults. -/
def guidanceOf (questions : List (String × String × String)) (rules : List Rule) :
    List (Option Text × PyValue) :=
  [(some (py "required_questions"), .seq .list (questions.map (fun q => question q.1 q.2.1 q.2.2))),
    (some (py "allowed_defaults"), .seq .list []),
    (some (py "constraints"), .seq .list (rules.map Rule.toObject))]

/-- The rules of a contract have outcomes on some values: none of them is spelled wrongly. -/
structure Outcomes (stdev : List Binary64 → Except Text Binary64) (values : Fields)
    (rules : List Rule) (outcomes : List Bool) : Prop where
  spelled : ∀ rule ∈ rules, rule.Spelled
  distinct : (rules.map Rule.id).Nodup
  evaluates : List.Forall₂ (Evaluates stdev values) rules outcomes

section

variable {stdev : List Binary64 → Except Text Binary64} {values : Fields} {rules : List Rule}
    {outcomes : List Bool}
  {questions : List (String × String × String)}

/-- The violations of the rules that fire. -/
def violationsOf (rules : List Rule) (outcomes : List Bool) : List Violation :=
  ((rules.zip outcomes).filter Prod.snd).map (fun p => p.1.violation)

/-- With the outcome of every rule known, the evaluator answers the violations of the rules that
held. -/
theorem evaluateConstraints_guidanceOf (h : Outcomes stdev values rules outcomes) :
    evaluateConstraints stdev (guidanceOf questions rules) values =
      .ok (violationsOf rules outcomes) := by
  apply evaluateConstraints_rules
  · simp [PyValue.get?, guidanceOf, List.lookup_cons, py_beq]
  · exact h.spelled
  · exact h.distinct
  · exact h.evaluates

/-- No blocking rule fires. -/
theorem noneBlocks_of_violations (hNone : ∀ v ∈ violationsOf rules outcomes,
    v.severity ≠ .blocking) :
    NoneBlocks rules outcomes := by
  intro p hp hFires
  exact hNone p.1.violation (List.mem_map.2 ⟨p, List.mem_filter.2 ⟨hp, hFires⟩, rfl⟩)

/-- The values answer every question, so no default is filled in. -/
theorem effectiveValues_guidanceOf (hSupplied : ∀ q ∈ questions, hasField values (py q.1)) :
    effectiveValues stdev (guidanceOf questions rules) values = .ok values := by
  have hRead : (questions.map (fun q => question q.1 q.2.1 q.2.2)).mapM readQuestion =
      .ok (questions.map (fun q => { target := py q.1
                                     default := none
                                     missing := { id := text q.1, field := py q.1, ask := text q.2.1, why := text q.2.2 } })) := by
    rw [Except.mapM_eq_ok, List.forall₂_map_left_iff, List.forall₂_map_right_iff]
    exact List.forall₂_same.2 (fun q _ => readQuestion_question q.1 q.2.1 q.2.2)
  apply effectiveValues_of_supplied _ _ hRead
  · intro q hq
    obtain ⟨q, hMem, rfl⟩ := List.mem_map.1 hq
    exact hSupplied q hMem
  · simp [PyValue.get?, guidanceOf, List.lookup_cons, py_beq]
  · simp [PyValue.get?, guidanceOf]

/-- A preflight that passes has found no blocking violation. -/
theorem not_blocking_of_preflight (h : Outcomes stdev values rules outcomes)
    (hSupplied : ∀ q ∈ questions, hasField values (py q.1)) {warnings : List Violation}
    (hPreflight : preflight stdev (.mapping (guidanceOf questions rules)) values = .ok warnings) :
    ∀ v ∈ violationsOf rules outcomes, v.severity ≠ .blocking := by
  unfold preflight at hPreflight
  obtain ⟨effective, hEffective, hPreflight⟩ := Except.bind_eq_ok.1 hPreflight
  cases hEffective.symm.trans (effectiveValues_guidanceOf hSupplied)
  obtain ⟨violations, hViolations, hPreflight⟩ := Except.bind_eq_ok.1 hPreflight
  cases hViolations.symm.trans (evaluateConstraints_guidanceOf h)
  obtain ⟨⟨⟩, hNone, -⟩ := Except.bind_eq_ok.1 hPreflight
  rw [Except.raiseIf_eq_ok, not_not, List.filter_eq_nil_iff] at hNone
  exact fun v hv hBlocking => hNone v hv (decide_eq_true hBlocking)

variable (questions) in
/-- The preflight of values that answer every question and that no blocking rule refuses. -/
theorem preflight_guidanceOf (h : Outcomes stdev values rules outcomes)
    (hSupplied : ∀ q ∈ questions, hasField values (py q.1))
    (hNone : ∀ v ∈ violationsOf rules outcomes, v.severity ≠ .blocking) :
    preflight stdev (.mapping (guidanceOf questions rules)) values =
      .ok ((violationsOf rules outcomes).filter (fun v => v.severity = .warning)) := by
  have hEffective : effectiveValues stdev (guidanceOf questions rules) values = .ok values :=
    effectiveValues_guidanceOf hSupplied
  have hBlocking : (violationsOf rules outcomes).filter (fun v => v.severity = .blocking) = [] := by
    rw [List.filter_eq_nil_iff]
    intro v hv
    simpa using hNone v hv
  simp [preflight, hEffective, evaluateConstraints_guidanceOf h, hBlocking, Except.raiseIf, bind,
    Except.bind, pure, Except.pure]

variable (questions) in
/-- Behind its preflight a component goes on with the warnings. -/
theorem bind_preflight_guidanceOf {α : Type} (h : Outcomes stdev values rules outcomes)
    (hSupplied : ∀ q ∈ questions, hasField values (py q.1))
    (hNone : ∀ v ∈ violationsOf rules outcomes, v.severity ≠ .blocking)
    (rest : List Violation → Except Raised α) :
    ((preflight stdev (.mapping (guidanceOf questions rules)) values).mapError Raised.preflight >>=
      rest) =
      rest ((violationsOf rules outcomes).filter (fun v => v.severity = .warning)) := by
  rw [Except.mapError_eq_ok.2 (preflight_guidanceOf questions h hSupplied hNone)]
  rfl

/-- Each violation is that of a rule, in the order of the rules. -/
theorem sublist_violationsOf (h : Outcomes stdev values rules outcomes) :
    (violationsOf rules outcomes).Sublist (rules.map Rule.violation) := by
  have hPairs : (rules.zip outcomes).map Prod.fst = rules :=
    List.map_fst_zip h.evaluates.length_eq.le
  have hFired : ((rules.zip outcomes).filter Prod.snd).Sublist (rules.zip outcomes) :=
    List.filter_sublist
  have hMap := hFired.map (fun p => p.1.violation)
  rw [← Function.comp_def Rule.violation Prod.fst, ← List.map_map (l := rules.zip outcomes),
    hPairs] at hMap
  exact hMap

end

/-! ## Composed texts -/

/-- A text that is encodable and has a number of characters within bounds. -/
structure Sized (low high : ℕ) (t : Text) : Prop where
  encodable : Text.Encodable t
  low : low ≤ t.length
  high : t.length ≤ high

/-- The bytes of a literal bound its code points. -/
theorem sized_py (s : String) : Sized 0 s.utf8ByteSize (py s) :=
  ⟨encodable_py s, Nat.zero_le _, length_py_le s⟩

/-- A literal that is not empty has at least one code point. -/
theorem sized_literal (s : String) (h : py s ≠ []) : Sized 1 s.utf8ByteSize (py s) :=
  ⟨encodable_py s, List.length_pos_iff.2 h, length_py_le s⟩

/-- Lengths add up over a concatenation. -/
theorem Sized.append {a b c d : ℕ} {s t : Text} (hs : Sized a b s) (ht : Sized c d t) :
    Sized (a + c) (b + d) (s ++ t) := by
  refine ⟨fun c hc => ?_, ?_, ?_⟩
  · rcases List.mem_append.1 hc with hc | hc
    · exact hs.encodable c hc
    · exact ht.encodable c hc
  · rw [List.length_append]
    exact Nat.add_le_add hs.low ht.low
  · rw [List.length_append]
    exact Nat.add_le_add hs.high ht.high

/-- A bound on the length settles the check of a text field. -/
theorem Sized.charsWithin {a b low high : ℕ} {t : Text} (h : Sized a b t) (hLow : low ≤ a)
    (hHigh : b ≤ high) :
    charsWithin low high t = true := by
  unfold Protocol.charsWithin
  rw [decide_eq_true h.encodable, decide_eq_true (hLow.trans h.low),
    decide_eq_true (h.high.trans hHigh)]
  rfl

/-- `str(n)` -/
def digits (n : ℕ) : Text := Json.digitsText (Json.natDigits n)

/-- `str(i)` -/
def intDigits (i : ℤ) : Text := if i < 0 then py "-" ++ digits i.natAbs else digits i.natAbs

/-- A count of items has at most 19 digits. -/
theorem sized_digits {n : ℕ} (h : n ≤ maxsize) : Sized 1 19 (digits n) := by
  refine ⟨?_, ?_, ?_⟩
  · intro c hc
    obtain ⟨d, -, rfl⟩ := List.mem_map.1 hc
    have hVal : (Json.digitChar d).val = 48 + d % 10 := rfl
    rintro ⟨hLow, -⟩
    omega
  · rw [digits, Json.digitsText, List.length_map]
    exact Nat.lt_of_lt_of_le Nat.zero_lt_one (by
      by_cases hZero : n = 0
      · rw [hZero]
        exact le_rfl
      · exact FixedDigits.lt_length_natDigits (k := 0) (by omega))
  · rw [digits, Json.digitsText, List.length_map]
    exact FixedDigits.length_natDigits_le (by decide) (lt_of_le_of_lt h (by decide))

/-- A count that fits `sys.maxsize` is written in at most 19 digits. -/
theorem sized_intDigits {i : ℤ} (hLow : 0 ≤ i) (hHigh : i ≤ maxsize) :
    Sized 1 19 (intDigits i) := by
  rw [intDigits, if_neg (not_lt.2 hLow)]
  exact sized_digits (by omega)

/-- `isoformat` takes at most 42 characters. -/
theorem sized_isoformat (t : AwareDatetime) : Sized 1 42 t.isoformat :=
  ⟨t.encodable_isoformat, t.length_isoformat.1, t.length_isoformat.2⟩

/-- `.6g` takes at most 13 characters. -/
theorem sized_sixDigits {K : Type} (floats : Floats K) (x : K) : Sized 0 13 (floats.sixDigits x) :=
  ⟨floats.sixDigits_encodable x, Nat.zero_le _, floats.sixDigits_length x⟩

/-- A text that stands as a message of an output and as a note of a chart. -/
structure IsNote (t : Text) : Prop where
  within : Protocol.charsWithin 1 500 t = true
  notBlank : isBlank t = false

/-- A concatenation is blank when both of its parts are. -/
theorem isBlank_append (s t : Text) : isBlank (s ++ t) = (isBlank s && isBlank t) := List.all_append

/-- A text that is not blank has a code point. -/
theorem pos_of_not_blank {t : Text} (h : isBlank t = false) : 1 ≤ t.length := by
  cases t with
  | nil => cases h
  | cons c t => exact Nat.le_add_left 1 t.length

/-- A text that starts with a literal that is not blank. -/
theorem isNote_of_sized {a b : ℕ} {t : Text} (hBlank : isBlank t = false) (h : Sized a b t)
    (hHigh : b ≤ 500) :
    IsNote t :=
  ⟨Sized.charsWithin ⟨h.encodable, pos_of_not_blank hBlank, h.high⟩ le_rfl hHigh, hBlank⟩

/-- A literal that is not blank and not long stands as a note. -/
theorem isNote_py {s : String} (hBlank : isBlank (py s) = false) (hSize : s.utf8ByteSize ≤ 500) :
    IsNote (py s) :=
  isNote_of_sized hBlank (sized_py s) hSize

/-- At most twenty notes pass the check of a list of notes. -/
theorem validNotes_of_isNote {notes : List Text} (hCount : notes.length ≤ 20)
    (h : ∀ note ∈ notes, IsNote note) :
    ValidNotes notes :=
  ⟨hCount, fun note hNote => (h note hNote).within⟩

/-- The validator of the messages passes a list of notes. -/
theorem validateMessages_of_isNote {field : String} {notes : List Text}
    (h : ∀ note ∈ notes, IsNote note) :
    ComponentOutput.validateMessages field notes = .ok () := by
  rw [ComponentOutput.validateMessages, Except.raiseIf_eq_ok, List.any_eq_true]
  rintro ⟨note, hNote, hBlank⟩
  rw [(h note hNote).notBlank] at hBlank
  cases hBlank

/-- The messages of all rules stand as notes. -/
def MessagesStand (rules : List Rule) : Prop :=
  rules.length ≤ 20 ∧ ∀ rule ∈ rules, isBlank (py rule.message) = false ∧
    rule.message.utf8ByteSize ≤ 500

instance (rules : List Rule) : Decidable (MessagesStand rules) :=
  inferInstanceAs (Decidable (_ ∧ _))

/-- A test of a message, over its characters. -/
def standsAsNote (cs : List Char) : Bool :=
  !isBlank (cs.map CodePoint.ofChar) && decide (String.utf8Len cs ≤ 500)

/-- A message that passes the Boolean test is neither blank nor too long. -/
theorem message_stands {cs : List Char} (h : standsAsNote cs = true) :
    isBlank (py (String.ofList cs)) = false ∧ (String.ofList cs).utf8ByteSize ≤ 500 := by
  rw [standsAsNote, Bool.and_eq_true, Bool.not_eq_true', decide_eq_true_eq] at h
  rw [py_ofList, String.utf8ByteSize_ofList]
  exact h

/-- The warnings of a preflight stand as notes. -/
theorem isNote_warnings {stdev : List Binary64 → Except Text Binary64} {values : Fields}
    {rules : List Rule} {outcomes : List Bool} (h : Outcomes stdev values rules outcomes)
    (hStand : MessagesStand rules) :
    (((violationsOf rules outcomes).filter (fun v => v.severity = .warning)).map
      Violation.message).length ≤ 20 ∧
      ∀ note ∈ ((violationsOf rules outcomes).filter (fun v => v.severity = .warning)).map
        Violation.message,
        IsNote note := by
  obtain ⟨hCount, hEach⟩ := hStand
  have hSub : ((violationsOf rules outcomes).filter (fun v => v.severity = .warning)).Sublist
      (rules.map Rule.violation) := List.filter_sublist.trans (sublist_violationsOf h)
  refine ⟨?_, fun note hNote => ?_⟩
  · rw [List.length_map]
    exact hSub.length_le.trans ((List.length_map _).le.trans hCount)
  · obtain ⟨v, hv, rfl⟩ := List.mem_map.1 hNote
    obtain ⟨rule, hRule, rfl⟩ := List.mem_map.1 (hSub.subset hv)
    exact isNote_py (hEach rule hRule).1 (hEach rule hRule).2

/-! ## Answers and refusals -/

/-- A calculation refuses in one way, or it gives something with a property. -/
def Answers {α : Type} (refusal : Raised) (P : α → Prop) (x : Except Raised α) : Prop :=
  x = .error refusal ∨ ∃ a, x = .ok a ∧ P a

section

variable {α β : Type} {refusal : Raised} {P : α → Prop} {Q : β → Prop}

/-- A value that satisfies the predicate is an answer. -/
theorem Answers.ok {a : α} (h : P a) : Answers refusal P (.ok a) := .inr ⟨a, rfl, h⟩

/-- A computation that answers may be followed by another one. -/
theorem Answers.bind {x : Except Raised α} {f : α → Except Raised β} (hx : Answers refusal P x)
    (hf : ∀ a, P a → Answers refusal Q (f a)) : Answers refusal Q (x >>= f) := by
  obtain rfl | ⟨a, rfl, ha⟩ := hx
  · exact .inl rfl
  · exact hf a ha

/-- What is certain to succeed changes nothing. -/
theorem Answers.of_ok {x : Except Raised α} {f : α → Except Raised β} {a : α} (hx : x = .ok a)
    (hf : Answers refusal Q (f a)) : Answers refusal Q (x >>= f) := by
  rw [hx]
  exact hf

/-- A check that may refuse. -/
theorem Answers.raiseIf {p : Prop} [Decidable p] {f : Unit → Except Raised β}
    (hf : ¬ p → Answers refusal Q (f ())) : Answers refusal Q (Except.raiseIf p refusal >>= f) := by
  by_cases h : p
  · exact .inl (by rw [Except.raiseIf, if_pos h]; rfl)
  · rw [Except.raiseIf, if_neg h]
    exact hf h

/-- The predicate on the answer may be weakened. -/
theorem Answers.imp {x : Except Raised α} {P' : α → Prop} (hx : Answers refusal P x)
    (h : ∀ a, P a → P' a) :
    Answers refusal P' x := by
  obtain rfl | ⟨a, rfl, ha⟩ := hx
  · exact .inl rfl
  · exact .inr ⟨a, rfl, h a ha⟩

/-- The loop over a list stops at the first refusal. -/
theorem Answers.mapM {f : α → Except Raised β} {R : α → β → Prop} {xs : List α}
    (h : ∀ x ∈ xs, Answers refusal (R x) (f x)) : Answers refusal (List.Forall₂ R xs)
    (xs.mapM f) := by
  induction xs with
  | nil => exact .ok .nil
  | cons x xs ih =>
      rw [List.forall_mem_cons] at h
      rw [List.mapM_cons]
      refine h.1.bind (fun y hy => (ih h.2).bind (fun ys hys => ?_))
      exact .ok (.cons hy hys)

end

/-- A component never fails late: its rules evaluate, and where no blocking rule fires, it refuses a
result in its declared way or gives an output with a property. -/
def NeverFailsLate {α : Type} (evaluated : Except Validation.Raised (List Violation))
    (refusal : Raised) (P : α → Prop) (result : Except Raised α) : Prop :=
  ∃ violations, evaluated = .ok violations ∧
    ((∀ v ∈ violations, v.severity ≠ .blocking) → Answers refusal P result)

/-- A component that does not fail late, refuses nothing by its rules and returns, gives an output
with the property. -/
theorem NeverFailsLate.exists_output {α : Type} {violations : List Violation} {refusal : Raised}
    {P : α → Prop} {result : Except Raised α} (h : NeverFailsLate (.ok violations) refusal P result)
    (hNone : ∀ v ∈ violations, v.severity ≠ .blocking) (hReturns : result.isOk = true) :
    ∃ output, result = .ok output ∧ P output := by
  obtain ⟨evaluated, hEvaluated, hAnswers⟩ := h
  cases hEvaluated
  rcases hAnswers hNone with hRefused | hOutput
  · rw [hRefused] at hReturns
    cases hReturns
  · exact hOutput

/-! ## Lineage -/

/-- Some timestamp is not later than the one before it. -/
def notIncreasing (timestamps : List AwareDatetime) : Bool :=
  (timestamps.zip timestamps.tail).any (fun p => decide (p.2.instant ≤ p.1.instant))

/-- Instants that strictly increase pass the check on the order of the timestamps. -/
theorem notIncreasing_of_isChain {timestamps : List AwareDatetime}
    (h : (timestamps.map AwareDatetime.instant).IsChain (· < ·)) :
    notIncreasing timestamps = false := by
  rw [List.isChain_map] at h
  exact any_neighbours_eq_false.2 (h.imp (fun _ _ hLess => not_le.2 hLess))

/-- What stands at an index of an enumeration. -/
theorem getElem?_map_zipIdx {α β : Type} {f : α × ℕ → β} {xs : List α} {i : ℕ} {y : β}
    (h : (xs.zipIdx.map f)[i]? = some y) : ∃ x, xs[i]? = some x ∧ y = f (x, i) := by
  rw [List.getElem?_map, List.getElem?_zipIdx, Option.map_map, Option.map_eq_some_iff] at h
  obtain ⟨x, hx, rfl⟩ := h
  exact ⟨x, hx, by rw [Function.comp_apply, Nat.zero_add]⟩

/-- The partner of an item of the second list. -/
theorem exists_partner {α β : Type} {R : α → β → Prop} {xs : List α} {ys : List β}
    (h : List.Forall₂ R xs ys) :
    ∀ {i : ℕ} {y : β}, ys[i]? = some y → ∃ x, xs[i]? = some x ∧ R x y := by
  induction h with
  | nil => exact nofun
  | cons hHead _ ih =>
      intro i y hy
      cases i with
      | zero =>
          cases hy
          exact ⟨_, rfl, hHead⟩
      | succ i => exact ih hy

end Calculation
