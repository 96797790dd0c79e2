import DefinedQuant.Lib.Binary64
import DefinedQuant.Lib.Json.Value
import Mathlib.Data.List.Lex
import Mathlib.Order.Fin.Basic
import Mathlib.Order.WithBot

/-!
# Python values and their comparisons

The values that Python code reads from a contract or dumps from a model, with `==`, the order
comparisons and `in`. Numbers of any type compare by their exact values, and a NaN equals nothing
and is in order with nothing. Sequences of one type compare by the first items that differ. An order
comparison that Python refuses with a `TypeError` is `none`.

That a container finds an item by identity before it asks for equality makes a difference only for a
NaN, and is left out.
-/

open Json (SeqKind)

/-- A Python value; a key that is not a string is `none`. -/
inductive PyValue where
  | none
  | bool (b : Bool)
  | int (n : ℤ)
  | float (x : Binary64)
  | str (s : Text)
  /-- A datetime with a time zone, as the instant that it names. -/
  | instant (t : ℤ)
  | seq (kind : SeqKind) (xs : List PyValue)
  | mapping (m : List (Option Text × PyValue))

namespace PyValue

/-- The value of a number on the extended line; a NaN has none. -/
abbrev Magnitude := Option (WithBot (WithTop ℚ))

/-- A point of the line. -/
def point (q : ℚ) : WithBot (WithTop ℚ) := ((q : WithTop ℚ) : WithBot (WithTop ℚ))

/-- The exact value of a double. -/
def ofBinary64 : Binary64 → Magnitude
  | .nan => Option.none
  | .inf negative => some (if negative then ⊥ else ⊤)
  | .finite negative m => (Binary64.toRat? (.finite negative m)).map point

/-- The exact value of a number: a bool is an int. -/
def magnitude? : PyValue → Option Magnitude
  | .bool b => some (some (point (if b then 1 else 0)))
  | .int n => some (some (point n))
  | .float x => some (ofBinary64 x)
  | _ => Option.none

/-- `<`, `<=`, `>` and `>=`. -/
inductive OrderOp where
  | lt
  | le
  | gt
  | ge
  deriving DecidableEq, Repr

/-- A comparison in a linear order. -/
def OrderOp.holds {α : Type*} [LinearOrder α] : OrderOp → α → α → Bool
  | .lt, a, b => decide (a < b)
  | .le, a, b => decide (a ≤ b)
  | .gt, a, b => decide (b < a)
  | .ge, a, b => decide (b ≤ a)

/-- The comparison of two numbers. -/
def OrderOp.holdsOf (op : OrderOp) : Magnitude → Magnitude → Bool
  | some a, some b => op.holds a b
  | _, _ => false

/-- `==` of two numbers. -/
def sameMagnitude : Magnitude → Magnitude → Bool
  | some a, some b => decide (a = b)
  | _, _ => false

/-- `==` of values without items. -/
def equalScalars (a b : PyValue) : Bool :=
  match magnitude? a, magnitude? b with
  | some x, some y => sameMagnitude x y
  | _, _ =>
      match a, b with
      | .none, .none => true
      | .str s, .str t => decide (s = t)
      | .instant s, .instant t => decide (s = t)
      | _, _ => false

mutual

/-- `a == b` -/
def equal : PyValue → PyValue → Bool
  | .seq kind xs, b =>
      match b with
      | .seq kind' ys => decide (kind = kind') && equalItems xs ys
      | _ => false
  | .mapping m, b =>
      match b with
      | .mapping m' => decide (m.length = m'.length) && equalMembers m m'
      | _ => false
  | a, b => equalScalars a b

def equalItems : List PyValue → List PyValue → Bool
  | [], [] => true
  | x :: xs, y :: ys => equal x y && equalItems xs ys
  | _, _ => false

def equalMembers : List (Option Text × PyValue) → List (Option Text × PyValue) → Bool
  | [], _ => true
  | (key, x) :: m, m' =>
      (match m'.lookup key with
        | some y => equal x y
        | Option.none => false) && equalMembers m m'

end

mutual

/-- `a < b` and the other order comparisons; `none` is a `TypeError`. -/
def order (op : OrderOp) : PyValue → PyValue → Option Bool
  | .seq kind xs, b =>
      match b with
      | .seq kind' ys => if kind = kind' then orderItems op xs ys else Option.none
      | _ => Option.none
  | .str s, b =>
      match b with
      | .str t => some (op.holds s t)
      | _ => Option.none
  | .instant s, b =>
      match b with
      | .instant t => some (op.holds s t)
      | _ => Option.none
  | a, b =>
      match magnitude? a, magnitude? b with
      | some x, some y => some (op.holdsOf x y)
      | _, _ => Option.none

def orderItems (op : OrderOp) : List PyValue → List PyValue → Option Bool
  | [], ys => some (op.holds 0 ys.length)
  | xs, [] => some (op.holds xs.length 0)
  | x :: xs, y :: ys => if equal x y then orderItems op xs ys else order op x y

end

/-- `a in items` -/
def isIn (a : PyValue) (items : List PyValue) : Bool := items.any (fun item => equal item a)

/-- `mapping.get(key)` for a text key. -/
def get? (m : List (Option Text × PyValue)) (key : String) : Option PyValue :=
  m.lookup (some (py key))

/-- The keys of a mapping are the given ones. -/
def keysAre (m : List (Option Text × PyValue)) (keys : List String) : Bool :=
  (m.map Prod.fst).all (fun key => decide (key ∈ keys.map (fun k => some (py k)))) &&
    keys.all (fun key => decide (some (py key) ∈ m.map Prod.fst))

/-- Every key of a mapping is a text. -/
def keysAreText (m : List (Option Text × PyValue)) : Bool := m.all (fun p => p.1.isSome)

/-! ## Comparisons of scalars -/

@[simp] theorem point_lt_point {p q : ℚ} : point p < point q ↔ p < q := by
  rw [point, point, WithBot.coe_lt_coe, WithTop.coe_lt_coe]

@[simp] theorem point_le_point {p q : ℚ} : point p ≤ point q ↔ p ≤ q := by
  rw [point, point, WithBot.coe_le_coe, WithTop.coe_le_coe]

@[simp] theorem point_inj {p q : ℚ} : point p = point q ↔ p = q := by
  rw [point, point, WithBot.coe_inj, WithTop.coe_inj]

theorem holds_point (op : OrderOp) (p q : ℚ) : op.holds (point p) (point q) = op.holds p q := by
  cases op <;> simp [OrderOp.holds]

theorem holds_cast (op : OrderOp) (a b : ℤ) : op.holds (a : ℚ) (b : ℚ) = op.holds a b := by
  cases op <;> simp [OrderOp.holds]

@[simp] theorem order_int (op : OrderOp) (a b : ℤ) :
    order op (.int a) (.int b) = some (op.holds a b) := by
  show some (op.holds (point a) (point b)) = _
  rw [holds_point, holds_cast]

@[simp] theorem order_instant (op : OrderOp) (s t : ℤ) :
    order op (.instant s) (.instant t) = some (op.holds s t) := rfl

/-- The order of a finite double and an integer is that of their values. -/
theorem order_float_int (op : OrderOp) {x : Binary64} {q : ℚ} (hx : x.toRat? = some q) (n : ℤ) :
    order op (.float x) (.int n) = some (op.holds q (n : ℚ)) := by
  have hMagnitude : ofBinary64 x = some (point q) := by
    cases x with
    | nan => cases hx
    | inf negative => cases hx
    | finite negative m => exact congrArg (Option.map point) hx
  show some (op.holdsOf (ofBinary64 x) (some (point n))) = _
  rw [hMagnitude]
  exact congrArg some (holds_point op q n)

@[simp] theorem equal_int (a b : ℤ) : equal (.int a) (.int b) = decide (a = b) := by
  show decide (point a = point b) = _
  simp only [point_inj, Int.cast_inj]

@[simp] theorem equal_bool (a b : Bool) : equal (.bool a) (.bool b) = (a == b) := by
  show decide (point (if a then 1 else 0) = point (if b then 1 else 0)) = _
  cases a <;> cases b <;> simp only [point_inj] <;> rfl

@[simp] theorem equal_str (s t : Text) : equal (.str s) (.str t) = decide (s = t) := rfl

@[simp] theorem equal_none : equal .none .none = true := rfl

@[simp] theorem equal_str_none (s : Text) : equal (.str s) .none = false := rfl

@[simp] theorem equal_seq_none (kind : SeqKind) (xs : List PyValue) :
    equal (.seq kind xs) .none = false := rfl

end PyValue
