import DefinedQuant.Lib.Json.Value
import Mathlib.Data.Nat.Notation
import Mathlib.Order.Nat

/-!
# A fragment of JSON Schema

The keywords that say of what type a value is, and of how many items: `type`, `enum`, `const`,
`items`, `minItems`, `uniqueItems`, and the applicators `$ref`, `anyOf` and `oneOf`. The keywords of
one schema hold together; other keywords say nothing here. References are resolved by a parameter.

A chain of references may be endless, so the check takes fuel. A value is valid when the check
accepts it for all fuel from some point on.
-/

namespace Json

namespace Schema

mutual

/-- Equality of instances: numbers by value, members in any order. -/
def same : Value → Value → Bool
  | .null, v => v.isNull
  | .bool b, v => match v with | .bool c => b == c | _ => false
  | .str s, v => match v with | .str t => s == t | _ => false
  | .int n, v => v.number? == some (n : ℚ)
  | .float x, v => match x.toRat? with | some q => v.number? == some q | none => false
  | .seq _ xs, v => match v with | .seq _ ys => sameItems xs ys | _ => false
  | .obj m, v => match v with | .obj n => m.length == n.length && sameMembers m n | _ => false

def sameItems : List Value → List Value → Bool
  | [], ys => ys.isEmpty
  | x :: xs, ys => match ys with
      | [] => false
      | y :: ys => same x y && sameItems xs ys

def sameMembers : Members → Members → Bool
  | [], _ => true
  | (k, x) :: m, n => (match Value.get? k n with | some y => same x y | none => false)
    && sameMembers m n

end

/-- The names of the types that a value has. -/
def typeNames : Value → List String
  | .null => ["null"]
  | .bool _ => ["boolean"]
  | .str _ => ["string"]
  | .int _ => ["integer", "number"]
  | .float x => if x.toRat?.any (fun q => q.den == 1) then ["integer", "number"] else ["number"]
  | .seq _ _ => ["array"]
  | .obj _ => ["object"]

/-- The value has the type of that name. -/
def hasType (name : Text) (v : Value) : Bool := (typeNames v).any (fun t => name == py t)

/-- No two items are equal. -/
def distinctItems : List Value → Bool
  | [] => true
  | x :: xs => xs.all (fun y => !same x y) && distinctItems xs

/-! ## Keywords -/

section Keywords

-- `valid` is the check of a subschema.
variable (valid : Value → Value → Bool) (s : Members) (v : Value)

/-- `$ref` -/
def checkRef (resolve : Text → Option Value) : Bool :=
  match Value.get? (py "$ref") s with
  | some (.str reference) =>
      match resolve reference with
      | some target => valid target v
      | none => true
  | _ => true

/-- `type` -/
def checkType : Bool :=
  match Value.get? (py "type") s with
  | some (.str name) => hasType name v
  | some (.seq _ names) => names.any (fun name => match name with | .str t => hasType t v | _ => false)
  | _ => true

/-- `anyOf` -/
def checkAnyOf : Bool :=
  match Value.get? (py "anyOf") s with
  | some (.seq _ alternatives) => alternatives.any (fun item => valid item v)
  | _ => true

/-- `oneOf` -/
def checkOneOf : Bool :=
  match Value.get? (py "oneOf") s with
  | some (.seq _ alternatives) => alternatives.countP (fun item => valid item v) == 1
  | _ => true

/-- `enum` -/
def checkEnum : Bool :=
  match Value.get? (py "enum") s with
  | some (.seq _ values) => values.any (fun x => same x v)
  | _ => true

/-- `const` -/
def checkConst : Bool :=
  match Value.get? (py "const") s with
  | some x => same x v
  | none => true

/-- `items` -/
def checkItems : Bool :=
  match Value.get? (py "items") s, v with
  | some schema, .seq _ xs => xs.all (valid schema)
  | _, _ => true

/-- `minItems` -/
def checkMinItems : Bool :=
  match Value.get? (py "minItems") s, v with
  | some (.int n), .seq _ xs => n ≤ xs.length
  | _, _ => true

/-- `uniqueItems` -/
def checkUniqueItems : Bool :=
  match Value.get? (py "uniqueItems") s, v with
  | some (.bool true), .seq _ xs => distinctItems xs
  | _, _ => true

end Keywords

/-- The check of a value, with fuel. -/
def validAt (resolve : Text → Option Value) : ℕ → Value → Value → Bool
  | 0, _, _ => false
  | n + 1, .obj s, v =>
      checkRef (validAt resolve n) s v resolve && checkType s v && checkAnyOf (validAt resolve n)
        s v &&
        checkOneOf (validAt resolve n) s v && checkEnum s v && checkConst s v &&
        checkItems (validAt resolve n) s v && checkMinItems s v && checkUniqueItems s v
  | _ + 1, .bool b, _ => b
  | _ + 1, _, _ => true

/-- The value is valid for the schema. -/
def Valid (resolve : Text → Option Value) (schema v : Value) : Prop :=
  ∃ n, ∀ m ≥ n, validAt resolve m schema v = true

/-! ## Schemas and their parts -/

variable {resolve : Text → Option Value} {s : Members} {v : Value} {n : ℕ}

/-- What a schema says of a value that it accepts. -/
structure Accepted (resolve : Text → Option Value) (n : ℕ) (s : Members) (v : Value) : Prop where
  ref : checkRef (validAt resolve n) s v resolve = true
  type : checkType s v = true
  anyOf : checkAnyOf (validAt resolve n) s v = true
  oneOf : checkOneOf (validAt resolve n) s v = true
  enum : checkEnum s v = true
  const : checkConst s v = true
  items : checkItems (validAt resolve n) s v = true
  minItems : checkMinItems s v = true
  uniqueItems : checkUniqueItems s v = true

theorem validAt_obj : validAt resolve (n + 1) (.obj s) v = true ↔ Accepted resolve n s v := by
  unfold validAt
  simp only [Bool.and_eq_true]
  constructor
  · rintro ⟨⟨⟨⟨⟨⟨⟨⟨hRef, hType⟩, hAny⟩, hOne⟩, hEnum⟩, hConst⟩, hItems⟩, hMin⟩, hUnique⟩
    exact ⟨hRef, hType, hAny, hOne, hEnum, hConst, hItems, hMin, hUnique⟩
  · rintro ⟨hRef, hType, hAny, hOne, hEnum, hConst, hItems, hMin, hUnique⟩
    exact ⟨⟨⟨⟨⟨⟨⟨⟨hRef, hType⟩, hAny⟩, hOne⟩, hEnum⟩, hConst⟩, hItems⟩, hMin⟩, hUnique⟩

/-- A value that is valid is accepted with enough fuel. -/
theorem Valid.exists_accepted (h : Valid resolve (.obj s) v) : ∃ n, Accepted resolve n s v := by
  obtain ⟨n, hn⟩ := h
  exact ⟨n, validAt_obj.1 (hn (n + 1) (Nat.le_succ n))⟩

/-- A union has an alternative that accepts the value. -/
theorem exists_alternative {alternatives : List Value} {kind : SeqKind}
    (h : Accepted resolve n s v)
    (hUnion : Value.get? (py "anyOf") s = some (.seq kind alternatives) ∨
      Value.get? (py "oneOf") s = some (.seq kind alternatives)) :
    ∃ item ∈ alternatives, validAt resolve n item v = true := by
  rcases hUnion with hAny | hOne
  · have hCheck := h.anyOf
    rw [checkAnyOf, hAny] at hCheck
    exact List.any_eq_true.1 hCheck
  · have hCheck := h.oneOf
    rw [checkOneOf, hOne] at hCheck
    have hCount : 0 < alternatives.countP (fun item => validAt resolve n item v) := by
      rw [beq_iff_eq.1 hCheck]
      exact Nat.one_pos
    exact List.countP_pos_iff.1 hCount

/-- The keywords of the fragment. -/
def keywords : List String :=
  ["$ref", "type", "anyOf", "oneOf", "enum", "const", "items", "minItems", "uniqueItems"]

/-- Of the keywords of the fragment, the schema has no others than these. -/
def OnlyOf (allowed : List String) (s : Members) : Prop :=
  ∀ key ∈ keywords, key ∉ allowed → Value.get? (py key) s = none

theorem onlyOf_iff {allowed : List String} :
    OnlyOf allowed s ↔ keywords.all (fun key => key ∈ allowed || (Value.get? (py key) s).isNone) =
      true := by
  simp only [OnlyOf, List.all_eq_true, Bool.or_eq_true, decide_eq_true_eq,
    Option.isNone_iff_eq_none]
  exact forall₂_congr (fun key _ => Decidable.or_iff_not_imp_left.symm)

/-- A schema that is a reference alone is its target. -/
theorem valid_of_ref {reference : Text} {target : Value} (hOnly : OnlyOf ["$ref"] s)
    (hRef : Value.get? (py "$ref") s = some (.str reference)) (hTarget : resolve reference = some target)
    (h : Valid resolve target v) : Valid resolve (.obj s) v := by
  obtain ⟨n, hn⟩ := h
  refine ⟨n + 1, fun m hm => ?_⟩
  obtain ⟨m, rfl⟩ : ∃ k, m = k + 1 := ⟨m - 1, by omega⟩
  refine validAt_obj.2 ⟨?_, ?_, ?_, ?_, ?_, ?_, ?_, ?_, ?_⟩
  · rw [checkRef, hRef]
    simp only [hTarget]
    exact hn m (by omega)
  all_goals
    simp only [checkType, checkAnyOf, checkOneOf, checkEnum, checkConst, checkItems, checkMinItems,
      checkUniqueItems]
    rw [hOnly _ (by decide) (by decide)]

/-- A schema that is a union alone accepts what an alternative accepts. -/
theorem valid_of_alternative {kind : SeqKind} {alternatives : List Value} {item : Value}
    (hOnly : OnlyOf ["anyOf"] s) (hAny : Value.get? (py "anyOf") s = some (.seq kind alternatives))
    (hItem : item ∈ alternatives) (h : Valid resolve item v) : Valid resolve (.obj s) v := by
  obtain ⟨n, hn⟩ := h
  refine ⟨n + 1, fun m hm => ?_⟩
  obtain ⟨m, rfl⟩ : ∃ k, m = k + 1 := ⟨m - 1, by omega⟩
  refine validAt_obj.2 ⟨?_, ?_, ?_, ?_, ?_, ?_, ?_, ?_, ?_⟩
  case refine_3 =>
    rw [checkAnyOf, hAny]
    exact List.any_eq_true.2 ⟨item, hItem, hn m (by omega)⟩
  all_goals
    simp only [checkRef, checkType, checkOneOf, checkEnum, checkConst, checkItems, checkMinItems,
      checkUniqueItems]
    rw [hOnly _ (by decide) (by decide)]

/-- A schema that says nothing but a type accepts what has it, arrays aside. -/
theorem valid_of_type (hOnly : OnlyOf ["type", "items", "minItems", "uniqueItems"] s)
    (hType : checkType s v = true)
    (hScalar : ∀ kind xs, v ≠ .seq kind xs) : Valid resolve (.obj s) v := by
  refine ⟨1, fun m hm => ?_⟩
  obtain ⟨m, rfl⟩ : ∃ k, m = k + 1 := ⟨m - 1, by omega⟩
  have hItems : checkItems (validAt resolve m) s v = true := by
    unfold checkItems
    split
    · exact absurd rfl (hScalar _ _)
    · rfl
  have hMinItems : checkMinItems s v = true := by
    unfold checkMinItems
    split
    · exact absurd rfl (hScalar _ _)
    · rfl
  have hUniqueItems : checkUniqueItems s v = true := by
    unfold checkUniqueItems
    split
    · exact absurd rfl (hScalar _ _)
    · rfl
  refine validAt_obj.2 ⟨?_, hType, ?_, ?_, ?_, ?_, hItems, hMinItems, hUniqueItems⟩
  all_goals
    simp only [checkRef, checkAnyOf, checkOneOf, checkEnum, checkConst]
    rw [hOnly _ (by decide) (by decide)]

end Schema

end Json
