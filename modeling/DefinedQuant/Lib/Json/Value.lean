import DefinedQuant.Lib.Binary64
import Mathlib.Data.List.Nodup

/-!
# JSON-compatible values

`Value` is what Python's `json` package reads and writes: `None`, `bool`, `str`, `int`, `float`,
lists and tuples, and dicts with string keys in insertion order. A dict never holds a key twice; as
that is not visible in an association list, `Value.Distinct` says it for every dict inside a value,
and `JsonValue` is the subtype of values that satisfy it.

`pyEq` is Python's `==`, which compares numbers by value, identifies `True` with `1`, and ignores
the order of dict members.
-/

/-- `ValueError`, or one of its subclasses, with its message. -/
structure ValueError where
  message : String
  deriving DecidableEq

namespace Json

/-- The two JSON-compatible sequence types. -/
inductive SeqKind where
  | list
  | tuple
  deriving DecidableEq

/-- A JSON-compatible Python value. -/
inductive Value where
  | null
  | bool (b : Bool)
  | str (s : Text)
  | int (n : ℤ)
  | float (x : Binary64)
  | seq (kind : SeqKind) (xs : List Value)
  | obj (members : List (Text × Value))

/-- The members of a dict, in insertion order. -/
abbrev Members := List (Text × Value)

namespace Value

/-- A Python list. -/
abbrev list (xs : List Value) : Value := .seq .list xs

/-- A string literal as a value. -/
abbrev lit (s : String) : Value := .str (py s)

/-- `value is None` -/
def isNull : Value → Bool
  | .null => true
  | _ => false

/-- Induction over values, with the hypothesis for every item and every member. -/
@[elab_as_elim]
theorem induct {P : Value → Prop} (null : P .null) (bool : ∀ b, P (.bool b))
    (str : ∀ s, P (.str s)) (int : ∀ n, P (.int n)) (float : ∀ x, P (.float x))
    (seq : ∀ kind xs, (∀ x ∈ xs, P x) → P (.seq kind xs))
    (obj : ∀ m : Members, (∀ p ∈ m, P p.2) → P (.obj m)) (v : Value) : P v :=
  @Value.rec P (fun xs => ∀ x ∈ xs, P x) (fun m => ∀ p ∈ m, P p.2) (fun p => P p.2)
    null bool str int float seq obj
    (by simp) (fun x xs hx hxs => List.forall_mem_cons.2 ⟨hx, hxs⟩)
    (by simp) (fun p m hp hm => List.forall_mem_cons.2 ⟨hp, hm⟩)
    (fun _ _ h => h) v

/-! ## Distinct keys -/

mutual

/-- No dict inside the value holds a key twice. -/
def Distinct : Value → Prop
  | .seq _ xs => DistinctItems xs
  | .obj m => (m.map Prod.fst).Nodup ∧ DistinctMembers m
  | _ => True

/-- `Distinct` for every item. -/
def DistinctItems : List Value → Prop
  | [] => True
  | x :: xs => Distinct x ∧ DistinctItems xs

/-- `Distinct` for the value of every member. -/
def DistinctMembers : Members → Prop
  | [] => True
  | (_, x) :: m => Distinct x ∧ DistinctMembers m

end

mutual

/-- `Distinct` is decided by walking the value. -/
def decDistinct : (v : Value) → Decidable (Distinct v)
  | .null => isTrue trivial
  | .bool _ => isTrue trivial
  | .str _ => isTrue trivial
  | .int _ => isTrue trivial
  | .float _ => isTrue trivial
  | .seq _ xs => decDistinctItems xs
  | .obj m => @instDecidableAnd _ _ inferInstance (decDistinctMembers m)

/-- `DistinctItems` is decided item by item. -/
def decDistinctItems : (xs : List Value) → Decidable (DistinctItems xs)
  | [] => isTrue trivial
  | x :: xs => @instDecidableAnd _ _ (decDistinct x) (decDistinctItems xs)

/-- `DistinctMembers` is decided member by member. -/
def decDistinctMembers : (m : Members) → Decidable (DistinctMembers m)
  | [] => isTrue trivial
  | (_, x) :: m => @instDecidableAnd _ _ (decDistinct x) (decDistinctMembers m)

end

instance : DecidablePred Distinct := decDistinct

theorem distinctItems_iff {xs : List Value} : DistinctItems xs ↔ ∀ x ∈ xs, Distinct x := by
  induction xs with
  | nil => simp [DistinctItems]
  | cons x xs ih => simp [DistinctItems, ih]

theorem distinctMembers_iff {m : Members} : DistinctMembers m ↔ ∀ p ∈ m, Distinct p.2 := by
  induction m with
  | nil => simp [DistinctMembers]
  | cons p m ih => simp [DistinctMembers, ih]

@[simp] theorem distinct_seq {kind : SeqKind} {xs : List Value} :
    Distinct (.seq kind xs) ↔ ∀ x ∈ xs, Distinct x := by
  rw [Distinct, distinctItems_iff]

@[simp] theorem distinct_obj {m : Members} :
    Distinct (.obj m) ↔ (m.map Prod.fst).Nodup ∧ ∀ p ∈ m, Distinct p.2 := by
  rw [Distinct, distinctMembers_iff]

theorem distinct_empty : Distinct (.obj []) := by simp

@[simp] theorem distinct_null : Distinct .null := trivial
@[simp] theorem distinct_bool (b : Bool) : Distinct (.bool b) := trivial
@[simp] theorem distinct_str (s : Text) : Distinct (.str s) := trivial
@[simp] theorem distinct_int (n : ℤ) : Distinct (.int n) := trivial
@[simp] theorem distinct_float (x : Binary64) : Distinct (.float x) := trivial

/-! ## Members -/

/-- `members.get(key)`. -/
def get? (key : Text) : Members → Option Value
  | [] => none
  | (k, v) :: m => if k = key then some v else get? key m

@[simp] theorem get?_nil (key : Text) : get? key [] = none := rfl

theorem get?_cons (key k : Text) (v : Value) (m : Members) :
    get? key ((k, v) :: m) = if k = key then some v else get? key m := rfl

/-- A key that is found belongs to a member. -/
theorem mem_of_get? {key : Text} {v : Value} {m : Members} (h : get? key m = some v) :
    (key, v) ∈ m := by
  induction m with
  | nil => cases h
  | cons p m ih =>
      rw [get?_cons] at h
      split_ifs at h with hk
      · cases h
        rw [← hk]
        exact List.mem_cons_self
      · exact List.mem_cons_of_mem _ (ih h)

/-- With distinct keys, lookup finds exactly the members. -/
theorem get?_eq_some_iff {key : Text} {v : Value} {m : Members} (hm : (m.map Prod.fst).Nodup) :
    get? key m = some v ↔ (key, v) ∈ m := by
  refine ⟨mem_of_get?, ?_⟩
  induction m with
  | nil => intro h; cases h
  | cons p m ih =>
      intro h
      obtain ⟨hHead, hTail⟩ := List.nodup_cons.1 hm
      rw [get?_cons]
      rcases List.mem_cons.1 h with rfl | h
      · rw [if_pos rfl]
      · rw [if_neg, ih hTail h]
        rintro rfl
        exact hHead (List.mem_map.2 ⟨_, h, rfl⟩)

theorem get?_eq_none_iff {key : Text} {m : Members} :
    get? key m = none ↔ key ∉ m.map Prod.fst := by
  induction m with
  | nil => simp
  | cons p m ih =>
      rw [get?_cons, List.map_cons, List.mem_cons, not_or]
      split_ifs with hk
      · simp [hk]
      · rw [ih]
        exact ⟨fun h => ⟨fun h' => hk h'.symm, h⟩, fun h => h.2⟩

/-! ## Numbers -/

/-- The exact value of a number; `bool` is not counted as one. -/
def number? : Value → Option ℚ
  | .int n => some n
  | .float x => x.toRat?
  | _ => none

/-- The exact value of anything Python treats as a number, `bool` included. -/
def numeric? : Value → Option ℚ
  | .bool b => some (if b then 1 else 0)
  | v => v.number?

/-! ## Python equality -/

mutual

/-- Python's `left == right`. -/
def pyEq : Value → Value → Bool
  | .null, v => match v with | .null => true | _ => false
  | .str s, v => match v with | .str t => s == t | _ => false
  | .bool b, v => (bool b).numeric? == v.numeric?
  | .int n, v => (int n).numeric? == v.numeric?
  | .float x, v => x.isFinite && (float x).numeric? == v.numeric? ||
      match x, v with
      | .inf a, .float (.inf b) => a == b
      | _, _ => false
  | .seq kind xs, v => match v with
      | .seq kind' ys => kind == kind' && pyEqItems xs ys
      | _ => false
  | .obj m, v => match v with
      | .obj n => m.length == n.length && pyEqMembers m n
      | _ => false

/-- Item by item, for sequences of one length. -/
def pyEqItems : List Value → List Value → Bool
  | [], ys => ys.isEmpty
  | x :: xs, ys => match ys with
      | [] => false
      | y :: ys => pyEq x y && pyEqItems xs ys

/-- Every member is found on the other side with an equal value. -/
def pyEqMembers : Members → Members → Bool
  | [], _ => true
  | (k, x) :: m, n => (match get? k n with | some y => pyEq x y | none => false) && pyEqMembers m n

end

end Value

/-- A value whose dicts have distinct keys, as every Python dict has. -/
structure JsonValue where
  value : Value
  distinct : value.Distinct

end Json
