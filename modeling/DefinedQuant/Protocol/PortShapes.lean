import DefinedQuant.Lib.Except
import DefinedQuant.Lib.Json.Schema
import DefinedQuant.Protocol.Ports

/-!
# Shapes of semantic ports

How `extract_semantic_port` infers the shape of a field from its generated JSON schema. The
inference follows references and unions down to alternatives that name types, and collects the
shapes of those types. A recursion that exceeds its fuel raises `RecursionError`.

What no shape belongs to, such as an object or a schema without constraints, is left out of the
collection, so a union with a scalar passes as a scalar. `shape_inference` says when the inference
covers all instances.
-/

namespace Protocol

open Json Schema

/-- A raised exception. -/
inductive ShapeError where
  | semanticPortError (message : String)
  | recursionError
  deriving DecidableEq

/-- The set of shapes of a schema. -/
structure Shapes where
  scalar : Bool
  orderedSeries : Bool
  deriving DecidableEq

def Shapes.union (a b : Shapes) : Shapes :=
  ⟨a.scalar || b.scalar, a.orderedSeries || b.orderedSeries⟩

/-- The target of a reference into the definitions. -/
def definition? (root : Members) (reference : Text) : Option Members :=
  if (py "#/$defs/").isPrefixOf reference then
    match Value.get? (py "$defs") root with
    | some (.obj definitions) =>
        match Value.get? (reference.drop (py "#/$defs/").length) definitions with
        | some (.obj target) => some target
        | _ => none
    | _ => none
  else none

/-- The mapping that `$ref` leads to. -/
def target? (root schema : Members) : Option Members :=
  match Value.get? (py "$ref") schema with
  | some (.str reference) => definition? root reference
  | _ => none

/-- `schema.get("anyOf", schema.get("oneOf"))`, when it is a list -/
def alternatives? (schema : Members) : Option (List Value) :=
  match (Value.get? (py "anyOf") schema).or (Value.get? (py "oneOf") schema) with
  | some (.seq .list items) => some items
  | _ => none

/-- The items that are mappings. -/
def mappings (items : List Value) : List Members :=
  items.filterMap (fun item => match item with | .obj m => some m | _ => none)

/-- The names in `type`. -/
def schemaTypes (schema : Members) : List Text :=
  match Value.get? (py "type") schema with
  | some (.str rawType) => [rawType]
  | some (.seq .list items) =>
      if items.all (fun item => match item with | .str _ => true | _ => false) then
        items.filterMap (fun item => match item with | .str t => some t | _ => none)
      else []
  | _ => []

/-- `value is None or isinstance(value, (bool, int, float, str))` -/
def isScalarOrNull : Value → Bool
  | .null | .bool _ | .int _ | .float _ | .str _ => true
  | .seq _ _ | .obj _ => false

/-- Whether `enum`, or else `const`, lists nothing but scalars. -/
def isScalarEnumeration (schema : Members) : Bool :=
  match Value.get? (py "enum") schema, Value.get? (py "const") schema with
  | some (.seq .list values), _ => values.all isScalarOrNull
  | some _, _ => false
  | none, some value => isScalarOrNull value
  | none, none => false

/-- `schema.get("uniqueItems") is not True` -/
def allowsRepeats (schema : Members) : Bool :=
  match Value.get? (py "uniqueItems") schema with
  | some (.bool true) => false
  | _ => true

/-- The type names of scalars; `scalar` is what an enumeration of scalars is given. -/
def scalarNames : List String := ["boolean", "integer", "number", "string", "scalar"]

/-- The shapes of an alternative that is no reference and no union. -/
def leafShapes (schema : Members) : Shapes :=
  let types := (schemaTypes schema).filter (· ≠ py "null")
  { scalar := types.any (fun t => scalarNames.any (fun name => t = py name)) ||
      types.isEmpty && isScalarEnumeration schema
    orderedSeries := decide (py "array" ∈ types) && allowsRepeats schema }

/-- `_schema_shapes` -/
def schemaShapes (root : Members) : ℕ → Members → Except ShapeError Shapes
  | 0, _ => .error .recursionError
  | fuel + 1, schema =>
      match target? root schema with
      | some target => schemaShapes root fuel target
      | none =>
          match alternatives? schema with
          | some items => do
              let shapes ← (mappings items).mapM (schemaShapes root fuel)
              return shapes.foldr Shapes.union ⟨false, false⟩
          | none => .ok (leafShapes schema)

/-- `_array_minimum_items` of an alternative that is no reference and no union. -/
def leafMinimumItems (schema : Members) : List (Option ℤ) :=
  if py "array" ∉ schemaTypes schema then []
  else
    match Value.get? (py "minItems") schema with
    | some (.int minimum) => [some minimum]
    | _ => [none]

/-- `_array_minimum_items` -/
def arrayMinimumItems (root : Members) : ℕ → Members → Except ShapeError (List (Option ℤ))
  | 0, _ => .error .recursionError
  | fuel + 1, schema =>
      match target? root schema with
      | some target => arrayMinimumItems root fuel target
      | none =>
          match alternatives? schema with
          | some items => do return (← (mappings items).mapM (arrayMinimumItems root fuel)).flatten
          | none => .ok (leafMinimumItems schema)

/-- The keywords of the schema itself allow `null`. -/
def namesNull (schema : Members) : Bool :=
  (match Value.get? (py "type") schema with
    | some (.str rawType) => rawType = py "null"
    | some (.seq .list items) => items.any (fun item => match item with | .str t => t = py "null" | _ => false)
    | _ => false) ||
  (match Value.get? (py "const") schema with
    | some value => value.isNull
    | none => false) ||
  match Value.get? (py "enum") schema with
  | some (.seq .list values) => values.any Value.isNull
  | _ => false

/-- `_schema_allows_null` -/
def schemaAllowsNull (root : Members) : ℕ → Members → Except ShapeError Bool
  | 0, _ => .error .recursionError
  | fuel + 1, schema => do
      if ← (target? root schema).elim (.ok false) (schemaAllowsNull root fuel) then return true
      if ← (alternatives? schema).elim (.ok false) (fun items => (mappings items).anyM
        (schemaAllowsNull root fuel)) then
        return true
      return namesNull schema

/-- The schema of a field in the schema of its model. -/
def fieldSchema (modelSchema : Members) (label fieldName : String) : Except ShapeError Members :=
  match Value.get? (py "properties") modelSchema with
  | some (.obj properties) =>
      match Value.get? (py fieldName) properties with
      | some (.obj schema) => .ok schema
      | _ => .error (.semanticPortError (label ++ " has no generated JSON Schema property"))
  | _ => .error (.semanticPortError (label ++ " has no generated JSON Schema property"))

/-- `_field_shape_and_cardinality`, from the schema of the model -/
def fieldShapeAndCardinality (modelName fieldName : String) (modelSchema : Members) (fuel : ℕ) :
    Except ShapeError (PortShape × PortCardinality) := do
  let label := modelName ++ "." ++ fieldName
  let schema ← fieldSchema modelSchema label fieldName
  Except.raiseIf (← schemaAllowsNull modelSchema fuel schema)
    (.semanticPortError (label ++ " semantic-port field cannot be nullable"))
  let shapes ← schemaShapes modelSchema fuel schema
  if shapes = ⟨false, true⟩ then
    let minimums ← arrayMinimumItems modelSchema fuel schema
    Except.raiseIf (minimums.isEmpty || minimums.any (fun minimum => minimum.all (fun n => n < 1)))
      (.semanticPortError (label ++ " one_or_more semantic port requires " ++
        "an ordered array schema with minItems >= 1"))
    return (.orderedSeries, .oneOrMore)
  else if shapes = ⟨true, false⟩ then return (.scalar, .exactlyOne)
  else throw (.semanticPortError (label ++ " field type does not resolve to one " ++
    "unambiguous semantic-port shape"))

/-! ## What an inference has seen -/

/-- An instance of a shape: a scalar that is not `null`, or an array that is not empty. -/
def HasShape : PortShape → Value → Prop
  | .scalar, v => isScalarOrNull v = true ∧ v.isNull = false
  | .orderedSeries, v => ∃ kind x xs, v = .seq kind (x :: xs)

/-- The definitions that references lead to. -/
def definitions (root : Members) (reference : Text) : Option Value :=
  (definition? root reference).map Value.obj

/-- The inference is right: every valid instance has the shape. -/
def Covers (root : Members) (shape : PortShape) (schema : Members) : Prop :=
  ∀ v, Valid (definitions root) (.obj schema) v → HasShape shape v

/-- Every alternative that references and unions lead to is a mapping with a property. -/
inductive EveryLeaf (root : Members) (P : Members → Prop) : Members → Prop
  | ref {schema target} : target? root schema = some target → EveryLeaf root P target →
      EveryLeaf root P schema
  | union {schema items} : target? root schema = none → alternatives? schema = some items →
      (∀ item ∈ items, ∃ m, item = .obj m) → (∀ m ∈ mappings items, EveryLeaf root P m) →
      EveryLeaf root P schema
  | leaf {schema} : target? root schema = none → alternatives? schema = none → P schema →
      EveryLeaf root P schema

/-- References and unions lead from a schema to an alternative. -/
inductive LeadsTo (root : Members) : Members → Members → Prop
  | ref {schema target leaf} : target? root schema = some target → LeadsTo root target leaf →
      LeadsTo root schema leaf
  | union {schema items m leaf} : target? root schema = none → alternatives? schema = some items →
      m ∈ mappings items → LeadsTo root m leaf → LeadsTo root schema leaf
  | leaf {schema} : target? root schema = none → alternatives? schema = none →
    LeadsTo root schema schema

/-- An alternative that has types or enumerates scalars, and is no object. -/
def LeafRead (schema : Members) : Prop :=
  (schemaTypes schema ≠ [] ∨ isScalarEnumeration schema = true) ∧ py "object" ∉ schemaTypes schema

/-- An alternative that is an ordered array. -/
def IsOrdered (schema : Members) : Prop := py "array" ∈ schemaTypes schema ∧
    allowsRepeats schema = true

/-- Nothing is overlooked in any alternative: each has types or enumerates scalars, none is an
object, and where one of them is an array, one is an ordered array. -/
def ReadsAll (root schema : Members) : Prop :=
  EveryLeaf root LeafRead schema ∧
    ((∃ leaf, LeadsTo root schema leaf ∧ py "array" ∈ schemaTypes leaf) →
      ∃ leaf, LeadsTo root schema leaf ∧ IsOrdered leaf)

/-- Nothing is overlooked in an alternative where a shape is inferred: there is no array beside
scalars. -/
def LeafReadAs (shape : PortShape) (schema : Members) : Prop :=
  LeafRead schema ∧ (shape = .scalar → py "array" ∉ schemaTypes schema)

/-- What a finished inference says about a schema that it went through. -/
structure Inferred (root : Members) (shape : PortShape) (fuel : ℕ) (schema : Members) : Prop where
  notNull : schemaAllowsNull root fuel schema = .ok false
  noScalar : shape = .orderedSeries → ∃ shapes, schemaShapes root fuel schema = .ok shapes ∧
    shapes.scalar = false
  minimums : shape = .orderedSeries → ∃ minimums, arrayMinimumItems root fuel schema =
    .ok minimums ∧
    ∀ minimum ∈ minimums, ∃ n, minimum = some n ∧ 1 ≤ n

section

variable {root schema : Members} {shape : PortShape} {fuel : ℕ}

/-- The mappings of a list are its objects. -/
theorem mem_mappings {items : List Value} {m : Members} : m ∈ mappings items ↔
    Value.obj m ∈ items := by
  rw [mappings, List.mem_filterMap]
  constructor
  · rintro ⟨item, hItem, hMapping⟩
    split at hMapping
    · cases hMapping
      exact hItem
    · cases hMapping
  · exact fun h => ⟨_, h, rfl⟩

/-- Shapes that are together not scalar are so one by one. -/
theorem scalar_foldr_union : ∀ {shapes : List Shapes},
    (shapes.foldr Shapes.union ⟨false, false⟩).scalar = false → ∀ s ∈ shapes, s.scalar = false
  | [], _ => fun _ h => absurd h List.not_mem_nil
  | s :: shapes, h => by
      obtain ⟨hHead, hTail⟩ := (Bool.or_eq_false_iff ..).1 h
      exact List.forall_mem_cons.2 ⟨hHead, scalar_foldr_union hTail⟩

/-- A shape is inferred with some fuel. -/
theorem Inferred.pos (h : Inferred root shape fuel schema) : ∃ n, fuel = n + 1 := by
  cases fuel with
  | zero => cases h.notNull
  | succ n => exact ⟨n, rfl⟩

/-- `_schema_allows_null` denies what each of its three questions denies. -/
theorem schemaAllowsNull_eq_false (h : schemaAllowsNull root (fuel + 1) schema = .ok false) :
    (∀ target, target? root schema = some target → schemaAllowsNull root fuel target = .ok false) ∧
      (∀ items, alternatives? schema = some items →
        ∀ m ∈ mappings items, schemaAllowsNull root fuel m = .ok false) ∧
      namesNull schema = false := by
  unfold schemaAllowsNull at h
  obtain ⟨byTarget, hTarget, h⟩ := Except.bind_eq_ok.1 h
  cases byTarget with
  | true => cases h
  | false =>
      obtain ⟨byAlternative, hAlternative, h⟩ := Except.bind_eq_ok.1 h
      cases byAlternative with
      | true => cases h
      | false =>
          refine ⟨fun target hSome => ?_, fun items hSome => ?_, Except.pure_eq_ok.1 h⟩
          · rw [hSome] at hTarget
            exact hTarget
          · rw [hSome] at hAlternative
            exact Except.anyM_eq_false.1 hAlternative

/-- The shape of a reference is that of its target. -/
theorem Inferred.target {target : Members} (h : Inferred root shape (fuel + 1) schema)
    (hTarget : target? root schema = some target) : Inferred root shape fuel target := by
  refine ⟨(schemaAllowsNull_eq_false h.notNull).1 target hTarget, fun hShape => ?_,
    fun hShape => ?_⟩
  · have hShapes := h.noScalar hShape
    simp only [schemaShapes, hTarget] at hShapes
    exact hShapes
  · have hMinimums := h.minimums hShape
    simp only [arrayMinimumItems, hTarget] at hMinimums
    exact hMinimums

/-- The shape of alternatives is that of each. -/
theorem Inferred.alternative {items : List Value} (h : Inferred root shape (fuel + 1) schema)
    (hTarget : target? root schema = none) (hItems : alternatives? schema = some items)
    {m : Members} (hm : m ∈ mappings items) : Inferred root shape fuel m := by
  refine ⟨(schemaAllowsNull_eq_false h.notNull).2.1 items hItems m hm, fun hShape => ?_,
    fun hShape => ?_⟩
  · obtain ⟨shapes, hShapes, hScalar⟩ := h.noScalar hShape
    simp only [schemaShapes, hTarget, hItems] at hShapes
    obtain ⟨each, hEach, hUnion⟩ := Except.bind_eq_ok.1 hShapes
    rw [Except.pure_eq_ok] at hUnion
    rw [← hUnion] at hScalar
    obtain ⟨s, hs, hOne⟩ := (Except.mapM_eq_ok.1 hEach).exists_right hm
    exact ⟨s, hOne, scalar_foldr_union hScalar s hs⟩
  · obtain ⟨minimums, hMinimums, hBounds⟩ := h.minimums hShape
    simp only [arrayMinimumItems, hTarget, hItems] at hMinimums
    obtain ⟨each, hEach, hFlatten⟩ := Except.bind_eq_ok.1 hMinimums
    rw [Except.pure_eq_ok] at hFlatten
    rw [← hFlatten] at hBounds
    obtain ⟨ms, hms, hOne⟩ := (Except.mapM_eq_ok.1 hEach).exists_right hm
    exact ⟨ms, hOne, fun minimum hMem => hBounds minimum (List.mem_flatten.2 ⟨ms, hms, hMem⟩)⟩

/-! ## Alternatives -/

/-- A schema that does not name null has no null among its types. -/
theorem null_not_mem_schemaTypes (h : namesNull schema = false) : py "null" ∉ schemaTypes schema := by
  intro hMem
  have hType := (Bool.or_eq_false_iff ..).1 ((Bool.or_eq_false_iff ..).1 h).1 |>.1
  unfold schemaTypes at hMem
  split at hMem
  next rawType hRaw =>
    rw [hRaw] at hType
    exact of_decide_eq_false hType (List.mem_singleton.1 hMem).symm
  next items hItems =>
    rw [hItems] at hType
    split at hMem
    · obtain ⟨item, hItem, hName⟩ := List.mem_filterMap.1 hMem
      have hNot := List.any_eq_false.1 hType item hItem
      cases item with
      | str t =>
          cases hName
          exact hNot (decide_eq_true rfl)
      | _ => cases hName
    · exact absurd hMem List.not_mem_nil
  next => exact absurd hMem List.not_mem_nil

/-- A schema with types accepts values of these types. -/
theorem exists_type {v : Value} (hTypes : schemaTypes schema ≠ []) (h : checkType schema v = true) :
    ∃ t ∈ schemaTypes schema, hasType t v = true := by
  unfold schemaTypes at hTypes ⊢
  unfold checkType at h
  split at hTypes
  next rawType hRaw =>
    rw [hRaw] at h
    exact ⟨rawType, List.mem_singleton_self _, h⟩
  next items hItems =>
    rw [hItems] at h
    split at hTypes
    next hStrings =>
      obtain ⟨item, hItem, hHas⟩ := List.any_eq_true.1 h
      cases item with
      | str t =>
          refine ⟨t, ?_, hHas⟩
          simp only [hStrings, if_true]
          exact List.mem_filterMap.2 ⟨_, hItem, rfl⟩
      | _ => cases hHas
    · exact absurd rfl hTypes
  next => exact absurd rfl hTypes

/-- A schema accepts the types that it names. -/
theorem checkType_of_mem {t : Text} {v : Value} (hMem : t ∈ schemaTypes schema) (hHas : hasType t v = true) :
    checkType schema v = true := by
  unfold schemaTypes at hMem
  unfold checkType
  split at hMem
  next rawType hRaw =>
    rw [hRaw]
    rw [List.mem_singleton.1 hMem] at hHas
    exact hHas
  next items hItems =>
    rw [hItems]
    split at hMem
    · obtain ⟨item, hItem, hName⟩ := List.mem_filterMap.1 hMem
      cases item with
      | str s =>
          cases hName
          exact List.any_eq_true.2 ⟨_, hItem, hHas⟩
      | _ => cases hName
    · exact absurd hMem List.not_mem_nil
  next => exact absurd hMem List.not_mem_nil

/-- A value equal to a scalar is a scalar. -/
theorem scalar_of_same {x v : Value} (hScalar : isScalarOrNull x = true) (hNull : x.isNull = false)
    (h : same x v = true) : isScalarOrNull v = true ∧ v.isNull = false := by
  cases x with
  | null => cases hNull
  | seq kind xs => cases hScalar
  | obj m => cases hScalar
  | float y =>
      unfold same at h
      split at h
      · cases v <;> first | exact ⟨rfl, rfl⟩ | simp [Value.number?] at h
      · cases h
  | int n => cases v <;> first | exact ⟨rfl, rfl⟩ | simp [same, Value.number?] at h
  | bool b => cases v <;> first | exact ⟨rfl, rfl⟩ | simp [same] at h
  | str t => cases v <;> first | exact ⟨rfl, rfl⟩ | simp [same] at h

/-- An alternative that enumerates scalars and not `null` accepts scalars. -/
theorem scalar_of_enumeration {valid : ℕ} {v : Value} {resolve : Text → Option Value}
    (hEnumeration : isScalarEnumeration schema = true) (hNull : namesNull schema = false)
    (h : Accepted resolve valid schema v) : isScalarOrNull v = true ∧ v.isNull = false := by
  obtain ⟨hTypeConst, hEnumNull⟩ := (Bool.or_eq_false_iff ..).1 hNull
  obtain ⟨-, hConstNull⟩ := (Bool.or_eq_false_iff ..).1 hTypeConst
  unfold isScalarEnumeration at hEnumeration
  split at hEnumeration
  next values hEnum =>
    have hCheck := h.enum
    rw [checkEnum, hEnum] at hCheck
    rw [hEnum] at hEnumNull
    obtain ⟨x, hx, hSame⟩ := List.any_eq_true.1 hCheck
    have hNotNull : x.isNull = false := by simpa using List.any_eq_false.1 hEnumNull x hx
    exact scalar_of_same (List.all_eq_true.1 hEnumeration x hx) hNotNull hSame
  next => cases hEnumeration
  next x _ hConst =>
    have hCheck := h.const
    rw [checkConst, hConst] at hCheck
    rw [hConst] at hConstNull
    exact scalar_of_same hEnumeration hConstNull hCheck
  next => cases hEnumeration

/-- The names of the scalar types make a leaf scalar. -/
theorem leafShapes_scalar_of_mem {t : Text} {name : String} (hMem : t ∈ schemaTypes schema)
    (hName : t = py name) (hScalar : name ∈ scalarNames) : (leafShapes schema).scalar = true := by
  refine (Bool.or_eq_true_iff ..).2
    (.inl (List.any_eq_true.2 ⟨t, List.mem_filter.2 ⟨hMem, ?_⟩, ?_⟩))
  · have hAll : ∀ name ∈ scalarNames, py name ≠ py "null" := by decide
    exact decide_eq_true (hName ▸ hAll name hScalar)
  · exact List.any_eq_true.2 ⟨name, hScalar, decide_eq_true hName⟩

/-- What a leaf in which nothing is overlooked accepts has the shape. -/
theorem hasShape_of_leaf {valid : ℕ} {v : Value} {resolve : Text → Option Value}
    (h : Inferred root shape (fuel + 1) schema) (hTarget : target? root schema = none)
    (hItems : alternatives? schema = none) (hRead : LeafReadAs shape schema)
    (hAccepted : Accepted resolve valid schema v) : HasShape shape v := by
  obtain ⟨⟨hNamed, hObject⟩, hArray⟩ := hRead
  have hNull : namesNull schema = false := (schemaAllowsNull_eq_false h.notNull).2.2
  -- A leaf that admits a scalar cannot have been inferred as a series.
  have hScalarLeaf : (leafShapes schema).scalar = true → shape = .scalar := by
    intro hScalar
    cases shape with
    | scalar => rfl
    | orderedSeries =>
        obtain ⟨shapes, hShapes, hNot⟩ := h.noScalar rfl
        simp only [schemaShapes, hTarget, hItems] at hShapes
        cases hShapes
        rw [hScalar] at hNot
        cases hNot
  -- A leaf without types is read as an enumeration. Otherwise the value has one of the types
  -- named, and the types decide.
  by_cases hTypes : schemaTypes schema = []
  · have hEnumeration := hNamed.resolve_left (not_not_intro hTypes)
    have hShape : shape = .scalar := by
      refine hScalarLeaf ((Bool.or_eq_true_iff ..).2 (.inr ?_))
      rw [hTypes, hEnumeration]
      rfl
    subst hShape
    exact scalar_of_enumeration hEnumeration hNull hAccepted
  · obtain ⟨t, hMem, hHas⟩ := exists_type hTypes hAccepted.type
    obtain ⟨name, hName, hEq⟩ := List.any_eq_true.1 hHas
    have hEq : t = py name := beq_iff_eq.1 hEq
    have hScalarType (hScalar : name ∈ scalarNames) : shape = .scalar :=
      hScalarLeaf (leafShapes_scalar_of_mem hMem hEq hScalar)
    cases v with
    | null =>
        obtain rfl := List.mem_singleton.1 hName
        exact absurd (hEq ▸ hMem) (null_not_mem_schemaTypes hNull)
    | bool b =>
        obtain rfl := List.mem_singleton.1 hName
        obtain rfl := hScalarType (by decide)
        exact ⟨rfl, rfl⟩
    | str s =>
        obtain rfl := List.mem_singleton.1 hName
        obtain rfl := hScalarType (by decide)
        exact ⟨rfl, rfl⟩
    | int n =>
        obtain rfl :=
          hScalarType (List.mem_of_mem_drop (i := 1) (List.mem_of_mem_take (i := 2) hName))
        exact ⟨rfl, rfl⟩
    -- A double with an integral value is an integer for the validator as well.
    | float x =>
        have hNumber : name ∈ ["integer", "number"] := by
          change name ∈ (if x.toRat?.any (fun q => q.den == 1) then ["integer", "number"]
            else ["number"]) at hName
          split at hName
          · exact hName
          · exact List.mem_cons_of_mem _ hName
        obtain rfl :=
          hScalarType (List.mem_of_mem_drop (i := 1) (List.mem_of_mem_take (i := 2) hNumber))
        exact ⟨rfl, rfl⟩
    | obj m =>
        obtain rfl := List.mem_singleton.1 hName
        exact absurd (hEq ▸ hMem) hObject
    | seq kind xs =>
        obtain rfl := List.mem_singleton.1 hName
        subst hEq
        cases shape with
        | scalar => exact absurd hMem (hArray rfl)
        -- The inferred minimum of a series is at least one, and the validator has checked it.
        | orderedSeries =>
            obtain ⟨minimums, hMinimums, hBounds⟩ := h.minimums rfl
            simp only [arrayMinimumItems, hTarget, hItems, leafMinimumItems, hMem,
              not_true_eq_false, if_false] at hMinimums
            cases hMinimums
            have hCheck := hAccepted.minItems
            unfold checkMinItems at hCheck
            split at hBounds
            next minimum hMinItems =>
              obtain ⟨n, hn, hOne⟩ := hBounds _ (List.mem_singleton_self _)
              cases hn
              rw [hMinItems] at hCheck
              have hLength : minimum ≤ (xs.length : ℤ) := of_decide_eq_true hCheck
              cases xs with
              | nil =>
                  have : minimum ≤ 0 := hLength
                  omega
              | cons x xs => exact ⟨kind, x, xs, rfl⟩
            next =>
              obtain ⟨n, hn, -⟩ := hBounds _ (List.mem_singleton_self _)
              cases hn

/-! ## What the inference covers -/

/-- A target is the definition that the reference names. -/
theorem target?_eq_some {target : Members} (h : target? root schema = some target) :
    ∃ reference, Value.get? (py "$ref") schema = some (.str reference) ∧
      definitions root reference = some (.obj target) := by
  unfold target? at h
  split at h
  next reference hRef => exact ⟨reference, hRef, by rw [definitions, h, Option.map_some]⟩
  next => cases h

/-- Alternatives come of `anyOf` or of `oneOf`. -/
theorem alternatives?_eq_some {items : List Value} (h : alternatives? schema = some items) :
    Value.get? (py "anyOf") schema = some (.seq .list items) ∨
      Value.get? (py "oneOf") schema = some (.seq .list items) := by
  unfold alternatives? at h
  split at h
  next hOr =>
    cases h
    exact (Option.or_eq_some_iff.1 hOr).imp id And.right
  next => cases h

/-- An accepted subschema is accepted as a mapping. -/
theorem accepted_of_validAt {valid : ℕ} {m : Members} {v : Value} {resolve : Text → Option Value}
    (h : validAt resolve valid (.obj m) v = true) : ∃ n, Accepted resolve n m v := by
  cases valid with
  | zero => cases h
  | succ n => exact ⟨n, validAt_obj.1 h⟩

/-- Where nothing is overlooked, the schema accepts what has the shape only. -/
theorem EveryLeaf.hasShape (hRead : EveryLeaf root (LeafReadAs shape) schema) {fuel valid : ℕ}
    {v : Value}
    (h : Inferred root shape fuel schema) (hAccepted : Accepted (definitions root) valid schema v) :
    HasShape shape v := by
  induction hRead generalizing fuel valid with
  | ref hTarget hReads ih =>
      obtain ⟨fuel, rfl⟩ := h.pos
      obtain ⟨reference, hRef, hDefinition⟩ := target?_eq_some hTarget
      have hCheck := hAccepted.ref
      simp only [checkRef, hRef, hDefinition] at hCheck
      obtain ⟨n, hn⟩ := accepted_of_validAt hCheck
      exact ih (h.target hTarget) hn
  | union hTarget hItems hMappings hReads ih =>
      obtain ⟨fuel, rfl⟩ := h.pos
      obtain ⟨item, hItem, hValid⟩ := exists_alternative hAccepted (alternatives?_eq_some hItems)
      obtain ⟨m, rfl⟩ := hMappings item hItem
      obtain ⟨n, hn⟩ := accepted_of_validAt hValid
      exact ih m (mem_mappings.2 hItem) (h.alternative hTarget hItems (mem_mappings.2 hItem)) hn
  | leaf hTarget hItems hLeaf =>
      obtain ⟨fuel, rfl⟩ := h.pos
      exact hasShape_of_leaf h hTarget hItems hLeaf hAccepted

/-- Where nothing is overlooked, the inference is right. -/
theorem EveryLeaf.covers (hRead : EveryLeaf root (LeafReadAs shape) schema)
    (h : Inferred root shape fuel schema) : Covers root shape schema := by
  intro v hValid
  obtain ⟨n, hAccepted⟩ := hValid.exists_accepted
  exact hRead.hasShape h hAccepted

/-! ## What is overlooked, without the shape -/

/-- What holds of every leaf holds of the leaf reached. -/
theorem EveryLeaf.leads {P : Members → Prop} (h : EveryLeaf root P schema) {leaf : Members}
    (hLeads : LeadsTo root schema leaf) : P leaf := by
  induction hLeads with
  | ref hTarget _ ih =>
      cases h with
      | ref hSame hEvery =>
          rw [hTarget] at hSame
          cases hSame
          exact ih hEvery
      | union hNone | leaf hNone => rw [hTarget] at hNone; cases hNone
  | union hTarget hItems hm _ ih =>
      cases h with
      | ref hSome => rw [hTarget] at hSome; cases hSome
      | union _ hSame _ hEvery =>
          rw [hItems] at hSame
          cases hSame
          exact ih (hEvery _ hm)
      | leaf _ hNone => rw [hItems] at hNone; cases hNone
  | leaf hTarget hItems =>
      cases h with
      | ref hSome => rw [hTarget] at hSome; cases hSome
      | union _ hSome => rw [hItems] at hSome; cases hSome
      | leaf _ _ hLeaf => exact hLeaf

/-- A property of every alternative that is led to is added to what holds of every one. -/
theorem EveryLeaf.and {P Q : Members → Prop} (h : EveryLeaf root P schema)
    (hLeads : ∀ leaf, LeadsTo root schema leaf → Q leaf) :
    EveryLeaf root (fun leaf => P leaf ∧ Q leaf) schema := by
  induction h with
  | ref hTarget _ ih => exact .ref hTarget (ih (fun leaf h => hLeads leaf (.ref hTarget h)))
  | union hTarget hItems hMappings _ ih =>
      exact .union hTarget hItems hMappings
        (fun m hm => ih m hm (fun leaf h => hLeads leaf (.union hTarget hItems hm h)))
  | leaf hTarget hItems hLeaf => exact .leaf hTarget hItems ⟨hLeaf, hLeads _ (.leaf hTarget hItems)⟩

/-- The property of the leaves may be weakened. -/
theorem EveryLeaf.imp {P Q : Members → Prop} (h : EveryLeaf root P schema)
    (hImp : ∀ leaf, P leaf → Q leaf) :
    EveryLeaf root Q schema := by
  induction h with
  | ref hTarget _ ih => exact .ref hTarget ih
  | union hTarget hItems hMappings _ ih => exact .union hTarget hItems hMappings ih
  | leaf hTarget hItems hLeaf => exact .leaf hTarget hItems (hImp _ hLeaf)

/-- A union is ordered when one of its shapes is. -/
theorem orderedSeries_foldr_union : ∀ {shapes : List Shapes},
    (shapes.foldr Shapes.union ⟨false, false⟩).orderedSeries = true ↔ ∃ s ∈ shapes,
    s.orderedSeries = true
  | [] => by simp
  | s :: shapes => by
      rw [List.foldr_cons, Shapes.union, Bool.or_eq_true, orderedSeries_foldr_union,
        List.exists_mem_cons_iff]

/-- The shapes of a leaf name a series when the leaf is an array of numbers. -/
theorem orderedSeries_leafShapes : (leafShapes schema).orderedSeries = true ↔ IsOrdered schema := by
  have hNull : py "array" ≠ py "null" := by decide
  rw [leafShapes, Bool.and_eq_true, decide_eq_true_eq, List.mem_filter, decide_eq_true_eq]
  exact and_congr_left' (and_iff_left hNull)

/-- `_schema_shapes` finds an ordered series exactly where references and unions lead to an ordered
array. -/
theorem orderedSeries_schemaShapes {shapes : Shapes}
    (h : schemaShapes root fuel schema = .ok shapes) :
    shapes.orderedSeries = true ↔ ∃ leaf, LeadsTo root schema leaf ∧ IsOrdered leaf := by
  -- By induction on the fuel, along the three cases of the source: a reference, alternatives, and
  -- a leaf.
  induction fuel generalizing schema shapes with
  | zero => cases h
  | succ fuel ih =>
      cases hTarget : target? root schema with
      | some target =>
          simp only [schemaShapes, hTarget] at h
          rw [ih h]
          refine exists_congr (fun leaf => and_congr_left' ⟨.ref hTarget, fun hLeads => ?_⟩)
          cases hLeads with
          | ref hSame hLeads =>
              rw [hTarget] at hSame
              cases hSame
              exact hLeads
          | union hNone | leaf hNone => rw [hTarget] at hNone; cases hNone
      | none =>
          cases hItems : alternatives? schema with
          | none =>
              simp only [schemaShapes, hTarget, hItems] at h
              cases h
              rw [orderedSeries_leafShapes]
              refine ⟨fun hOrdered => ⟨schema, .leaf hTarget hItems, hOrdered⟩, ?_⟩
              rintro ⟨leaf, hLeads, hOrdered⟩
              cases hLeads with
              | ref hSome => rw [hTarget] at hSome; cases hSome
              | union _ hSome => rw [hItems] at hSome; cases hSome
              | leaf => exact hOrdered
          | some items =>
              simp only [schemaShapes, hTarget, hItems] at h
              obtain ⟨each, hEach, hUnion⟩ := Except.bind_eq_ok.1 h
              rw [Except.pure_eq_ok] at hUnion
              rw [← hUnion, orderedSeries_foldr_union]
              have hAll := Except.mapM_eq_ok.1 hEach
              constructor
              · rintro ⟨s, hs, hOrdered⟩
                obtain ⟨m, hm, hOne⟩ := hAll.flip.exists_right hs
                obtain ⟨leaf, hLeads, hLeaf⟩ := (ih hOne).1 hOrdered
                exact ⟨leaf, .union hTarget hItems hm hLeads, hLeaf⟩
              · rintro ⟨leaf, hLeads, hLeaf⟩
                cases hLeads with
                | ref hSome => rw [hTarget] at hSome; cases hSome
                | leaf _ hNone => rw [hItems] at hNone; cases hNone
                | union _ hSame hm hLeads =>
                    rw [hItems] at hSame
                    cases hSame
                    obtain ⟨s, hs, hOne⟩ := hAll.exists_right hm
                    exact ⟨s, hs, (ih hOne).2 ⟨leaf, hLeads, hLeaf⟩⟩

/-- Where the inferred shape is the one of the collected shapes, nothing is overlooked as that shape
exactly when nothing is overlooked. -/
theorem everyLeaf_readAs_iff
    (hSeries : shape = .orderedSeries ↔ ∃ leaf, LeadsTo root schema leaf ∧ IsOrdered leaf) :
    EveryLeaf root (LeafReadAs shape) schema ↔ ReadsAll root schema := by
  constructor
  · intro h
    refine ⟨h.imp (fun _ hLeaf => hLeaf.1), fun ⟨leaf, hLeads, hArray⟩ => hSeries.1 ?_⟩
    cases shape with
    | scalar => exact absurd hArray ((h.leads hLeads).2 rfl)
    | orderedSeries => rfl
  · rintro ⟨hEvery, hOrdered⟩
    refine hEvery.and (fun leaf hLeads hShape hArray => ?_)
    have hSame := hSeries.2 (hOrdered ⟨leaf, hLeads, hArray⟩)
    rw [hShape] at hSame
    cases hSame

/-- An alternative that admits what its types say: nothing but types and bounds stand where an
object or anything is admitted, and where arrays are named, there is one. -/
structure PlainLeaf (root schema : Members) : Prop where
  untyped : schemaTypes schema = [] → isScalarEnumeration schema = false →
    OnlyOf ["items", "minItems", "uniqueItems"] schema
  object : py "object" ∈ schemaTypes schema → OnlyOf ["type", "items", "minItems", "uniqueItems"]
    schema
  array : py "array" ∈ schemaTypes schema → ∃ kind xs, Valid (definitions root) (.obj schema)
    (.seq kind xs)

/-- No other keyword stands beside the references and unions. -/
inductive Plain (root : Members) : Members → Prop
  | ref {schema target : Members} : target? root schema = some target → OnlyOf ["$ref"] schema →
    Plain root target →
      Plain root schema
  | union {schema : Members} {items : List Value} : target? root schema = none →
    OnlyOf ["anyOf"] schema →
      alternatives? schema = some items → (∀ item ∈ items, ∃ m, item = .obj m) →
      (∀ m ∈ mappings items, Plain root m) → Plain root schema
  | leaf {schema : Members} : target? root schema = none → alternatives? schema = none →
    PlainLeaf root schema →
      Plain root schema

/-- Null has no shape. -/
theorem not_hasShape_null : ¬ HasShape shape .null := by
  intro h
  cases shape with
  | scalar => exact Bool.noConfusion h.2
  | orderedSeries =>
      obtain ⟨kind, x, xs, h⟩ := h
      cases h

/-- An object has no shape. -/
theorem not_hasShape_obj {m : Members} : ¬ HasShape shape (.obj m) := by
  intro h
  cases shape with
  | scalar => exact Bool.noConfusion h.1
  | orderedSeries =>
      obtain ⟨kind, x, xs, h⟩ := h
      cases h

/-- In a plain alternative, what is overlooked has an instance without the shape. -/
theorem PlainLeaf.leafReadAs (hPlain : PlainLeaf root schema) (h : Covers root shape schema) :
    LeafReadAs shape schema := by
  refine ⟨⟨?_, fun hObject => ?_⟩, fun hShape hArray => ?_⟩
  · by_contra hNot
    obtain ⟨hTypes, hEnumeration⟩ := not_or.1 hNot
    have hOnly := hPlain.untyped (not_not.1 hTypes) (Bool.eq_false_iff.2 hEnumeration)
    have hType : checkType schema .null = true := by
      rw [checkType, hOnly "type" (by decide) (by decide)]
    have hTyped : OnlyOf ["type", "items", "minItems", "uniqueItems"] schema :=
      fun key hKey hOther => hOnly key hKey (fun hMem => hOther (List.mem_cons_of_mem _ hMem))
    exact not_hasShape_null (h .null (valid_of_type hTyped hType (fun _ _ hSeq => by cases hSeq)))
  · have hType : checkType schema (.obj []) = true := checkType_of_mem hObject (by decide)
    exact not_hasShape_obj (h (.obj []) (valid_of_type (hPlain.object hObject) hType
      (fun _ _ hSeq => by cases hSeq)))
  · obtain ⟨kind, xs, hValid⟩ := hPlain.array hArray
    subst hShape
    exact Bool.noConfusion (h _ hValid).1

/-- In a plain schema, a right inference overlooks nothing. -/
theorem Plain.everyLeaf (hPlain : Plain root schema) (h : Covers root shape schema) :
    EveryLeaf root (LeafReadAs shape) schema := by
  induction hPlain with
  | ref hTarget hOnly hPlain ih =>
      obtain ⟨reference, hRef, hDefinition⟩ := target?_eq_some hTarget
      exact .ref hTarget (ih (fun v hValid => h v (valid_of_ref hOnly hRef hDefinition hValid)))
  | union hTarget hOnly hItems hMappings hPlain ih =>
      have hAny := (alternatives?_eq_some hItems).resolve_right (by
        rw [hOnly "oneOf" (by decide) (by decide)]
        exact nofun)
      refine .union hTarget hItems hMappings (fun m hm => ih m hm (fun v hValid => ?_))
      exact h v (valid_of_alternative hOnly hAny (mem_mappings.1 hm) hValid)
  | leaf hTarget hItems hLeaf => exact .leaf hTarget hItems (hLeaf.leafReadAs h)

/-- An inference that returns went through the schema of the field, and its shape is the collected
one. -/
theorem inferred_of_fieldShapeAndCardinality {modelName fieldName : String}
    {cardinality : PortCardinality}
    (h : fieldShapeAndCardinality modelName fieldName root fuel = .ok (shape, cardinality)) :
    ∃ schema, fieldSchema root (modelName ++ "." ++ fieldName) fieldName = .ok schema ∧
      Inferred root shape fuel schema ∧
      (shape = .orderedSeries ↔ ∃ leaf, LeadsTo root schema leaf ∧ IsOrdered leaf) := by
  obtain ⟨schema, hSchema, h⟩ := Except.bind_eq_ok.1 h
  obtain ⟨null, hNull, h⟩ := Except.bind_eq_ok.1 h
  obtain ⟨⟨⟩, hNotNull, h⟩ := Except.bind_eq_ok.1 h
  obtain ⟨shapes, hShapes, h⟩ := Except.bind_eq_ok.1 h
  rw [Bool.eq_false_iff.2 (Except.raiseIf_eq_ok.1 hNotNull)] at hNull
  refine ⟨schema, hSchema, ?_⟩
  rw [← orderedSeries_schemaShapes hShapes]
  -- A series has passed the check on its minimum, which is one at least.
  split at h
  next hSeries =>
    obtain ⟨minimums, hMinimums, h⟩ := Except.bind_eq_ok.1 h
    obtain ⟨⟨⟩, hBounds, h⟩ := Except.bind_eq_ok.1 h
    cases h
    refine ⟨⟨hNull, fun _ => ⟨shapes, hShapes, by rw [hSeries]⟩, fun _ =>
      ⟨minimums, hMinimums, ?_⟩⟩,
      by simp [hSeries]⟩
    intro minimum hMem
    have hBounds := Except.raiseIf_eq_ok.1 hBounds
    rw [Bool.or_eq_true, not_or] at hBounds
    have hBound : ¬ (minimum.all (fun n => n < 1) = true) := fun hAll =>
      hBounds.2 (List.any_eq_true.2 ⟨minimum, hMem, hAll⟩)
    cases minimum with
    | none => exact absurd rfl hBound
    | some n =>
        have hn : ¬ n < 1 := fun hLess => hBound (decide_eq_true hLess)
        exact ⟨n, rfl, Int.not_lt.1 hn⟩
  next =>
    split at h
    next hScalar => cases h; exact ⟨⟨hNull, nofun, nofun⟩, by simp [hScalar]⟩
    next => cases h

/-- Whenever a shape is inferred for a field, all valid instances have it if no alternative is
overlooked. If no other keyword stands beside references and unions, all instances have it only
then. -/
theorem shape_inference (modelName fieldName : String) (root : Members) (fuel : ℕ)
    (shape : PortShape) (cardinality : PortCardinality)
    (h : fieldShapeAndCardinality modelName fieldName root fuel = .ok (shape, cardinality)) :
    ∃ schema, fieldSchema root (modelName ++ "." ++ fieldName) fieldName = .ok schema ∧
      (ReadsAll root schema → Covers root shape schema) ∧
      (Plain root schema → (Covers root shape schema ↔ ReadsAll root schema)) := by
  obtain ⟨schema, hSchema, hInferred, hSeries⟩ := inferred_of_fieldShapeAndCardinality h
  have hCovers (hRead : ReadsAll root schema) : Covers root shape schema :=
    ((everyLeaf_readAs_iff hSeries).2 hRead).covers hInferred
  exact ⟨schema, hSchema, hCovers,
    fun hPlain => ⟨fun h => (everyLeaf_readAs_iff hSeries).1 (hPlain.everyLeaf h), hCovers⟩⟩

end

/-- A model with one field, and the definitions that its schema refers to. -/
def modelWith (definitions schema : Members) : Members :=
  [(py "$defs", .obj definitions), (py "properties", .obj [(py "value", .obj schema)]),
    (py "type", .lit "object")]

/-- `{$ref: #/$defs/name}` -/
def refTo (name : String) : Members := [(py "$ref", .str (py "#/$defs/" ++ py name))]

/-- `{type: array, items: {type: item}, minItems: minimum}` -/
def arrayOf (item : String) (minimum : ℤ) : Members :=
  [(py "items", .obj [(py "type", .lit item)]), (py "minItems", .int minimum),
    (py "type", .lit "array")]

/-- `{anyOf: [a, b]}` -/
def anyOfTwo (a b : Members) : Members := [(py "anyOf", .list [.obj a, .obj b])]

/-- Prices are numbers or labels, and labels are strings. -/
def seriesModel : Members :=
  modelWith [(py "prices", .obj (anyOfTwo (arrayOf "number" 2) (refTo "labels"))),
    (py "labels", .obj (arrayOf "string" 1))] (refTo "prices")

/-- The sample array is an ordered series. -/
theorem isOrdered_arrayOf (item : String) (minimum : ℤ) : IsOrdered (arrayOf item minimum) :=
  ⟨List.mem_singleton_self _, rfl⟩

/-- The sample array is read as the code reads it. -/
theorem leafRead_arrayOf (item : String) (minimum : ℤ) : LeafRead (arrayOf item minimum) :=
  ⟨.inl (List.cons_ne_nil _ _), by
    show py "object" ∉ [py "array"]
    decide⟩

/-- An array of scalars has nothing that says more than its type and its items. -/
theorem plain_arrayOf {item : String} {minimum : ℤ} {x : Value}
    (hValid : ∀ n, validAt (definitions seriesModel) (n + 2) (.obj (arrayOf item minimum))
      (.list [x, x]) = true) :
    Plain seriesModel (arrayOf item minimum) :=
  .leaf rfl rfl {
    untyped := fun hNone => absurd hNone (List.cons_ne_nil _ _)
    object := fun hMem => absurd hMem (leafRead_arrayOf item minimum).2
    array := fun _ => ⟨.list, [x, x], 2, fun m hm => by
      obtain ⟨n, rfl⟩ := Nat.exists_eq_add_of_le' hm
      exact hValid n⟩ }

/-- A field that refers to a union of an array and of a reference to another array. -/
theorem shape_inference_series :
    Covers seriesModel .orderedSeries (refTo "prices") ∧
      (Covers seriesModel .orderedSeries (refTo "prices") ↔
        ReadsAll seriesModel (refTo "prices")) := by
  obtain ⟨schema, hSchema, hCovers, hExact⟩ := shape_inference "Output" "value" seriesModel 4 .orderedSeries
    .oneOrMore (by rfl)
  cases (show fieldSchema seriesModel ("Output" ++ "." ++ "value") "value" = .ok (refTo "prices")
    from rfl).symm.trans
    hSchema
  have hPrices : target? seriesModel (refTo "prices")
      = some (anyOfTwo (arrayOf "number" 2) (refTo "labels")) := rfl
  have hUnion : target? seriesModel (anyOfTwo (arrayOf "number" 2) (refTo "labels")) = none ∧
      alternatives? (anyOfTwo (arrayOf "number" 2) (refTo "labels"))
        = some [.obj (arrayOf "number" 2), .obj (refTo "labels")] := ⟨rfl, rfl⟩
  have hLabels : target? seriesModel (refTo "labels") = some (arrayOf "string" 1) := rfl
  have hMappings : ∀ item ∈ [Value.obj (arrayOf "number" 2), .obj (refTo "labels")], ∃ m,
    item = .obj m := by
    simp
  have hReads : ReadsAll seriesModel (refTo "prices") := by
    refine ⟨.ref hPrices (.union hUnion.1 hUnion.2 hMappings (fun m hm => ?_)), fun _ => ?_⟩
    · rcases List.mem_pair.1 hm with rfl | rfl
      · exact .leaf rfl rfl (leafRead_arrayOf "number" 2)
      · exact .ref hLabels (.leaf rfl rfl (leafRead_arrayOf "string" 1))
    · exact ⟨_, .ref hPrices (.union hUnion.1 hUnion.2 List.mem_cons_self (.leaf rfl rfl)),
        isOrdered_arrayOf "number" 2⟩
  have hPlain : Plain seriesModel (refTo "prices") := by
    refine .ref hPrices (onlyOf_iff.2 (by decide))
      (.union hUnion.1 (onlyOf_iff.2 (by decide)) hUnion.2 hMappings (fun m hm => ?_))
    rcases List.mem_pair.1 hm with rfl | rfl
    · exact @plain_arrayOf _ _ (.int 1) (fun _ => rfl)
    · exact .ref hLabels (onlyOf_iff.2 (by decide)) (@plain_arrayOf _ _ (.lit "a") (fun _ => rfl))
  exact ⟨hCovers hReads, hExact hPlain⟩

/-- A model with one field of a type. -/
def oneField (schema : Members) : Members := modelWith [] schema

/-- `anyOf: [{type: object}, {type: string}]` -/
def objectOrString : Members :=
  [(py "anyOf", .seq .list [.obj [(py "type", .str (py "object"))],
    .obj [(py "type", .str (py "string"))]])]

/-- A union of an object and a string passes as a scalar, and admits the object. -/
theorem objectOrString_is_scalar :
    fieldShapeAndCardinality "Output" "value" (oneField objectOrString) 2 = .ok (.scalar, .exactlyOne) ∧
      fieldSchema (oneField objectOrString) "Output.value" "value" = .ok objectOrString ∧
      Valid (definitions (oneField objectOrString)) (.obj objectOrString) (.obj []) ∧
      ¬ Covers (oneField objectOrString) .scalar objectOrString := by
  have hObject : Valid (definitions (oneField objectOrString)) (.obj objectOrString) (.obj []) := by
    apply valid_of_alternative (onlyOf_iff.2 (by decide)) (by rfl) List.mem_cons_self
    exact valid_of_type (onlyOf_iff.2 (by decide)) (by decide) nofun
  exact ⟨by rfl, by rfl, hObject, fun h => not_hasShape_obj (h _ hObject)⟩

end Protocol
