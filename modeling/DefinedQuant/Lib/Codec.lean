import DefinedQuant.Lib.Except
import DefinedQuant.Lib.Json.Write

/-!
# Lawful codecs between JSON values and typed models

A closed pydantic model is a structure together with a validator from JSON values and a dump to
them. `Codec α` packs the two with the laws that make them fit: a dump validates to the model it
came from, and validation does not see the order of members or the kind of a sequence. `Fields` does
the same for part of an object, so that a model is the concatenation of its fields, each with its
name and its own codec. A codec of a model is assembled from the ones of its fields, and its laws
with it.

Fields that hold arbitrary JSON are kept in sorted form: nothing that is done with them, comparing,
hashing or writing sorted, depends on the order in which their members arrived.
-/

namespace Json

/-- The value with its members sorted and its tuples turned into lists. -/
def sorted (v : Value) : Value := normal .compactSorted v

theorem normal_of_sortKeys {style : Style} (h : style.sortKeys = true) (v : Value) :
    normal style v = sorted v := by
  have hArrange : ∀ {α : Type} (m : List (Text × α)),
      arrange style m = arrange .compactSorted m := by
    intro α m
    rw [arrange, arrange, h]
    rfl
  induction v using Value.induct with
  | null => rfl
  | bool b => rfl
  | str s => rfl
  | int n => rfl
  | float x => rfl
  | seq kind xs ih =>
      rw [sorted, normal_seq, normal_seq]
      congr 1
      exact List.map_congr_left (fun x hx => ih x hx)
  | obj m ih =>
      rw [sorted, normal_obj, normal_obj, hArrange]
      congr 1
      refine List.map_congr_left (fun p hp => ?_)
      rw [ih p (mem_arrange.1 hp), sorted]

/-- Lookup does not see the order of members. -/
theorem get?_arrange (style : Style) {m : Members} (hm : (m.map Prod.fst).Nodup) (key : Text) :
    Value.get? key (arrange style m) = Value.get? key m := by
  have hm' := @arrange_keys_nodup _ style _ hm
  cases h : Value.get? key m with
  | some v =>
      rw [Value.get?_eq_some_iff hm']
      exact mem_arrange.2 ((Value.get?_eq_some_iff hm).1 h)
  | none =>
      rw [Value.get?_eq_none_iff] at h ⊢
      rw [List.mem_map] at h ⊢
      rintro ⟨p, hp, hKey⟩
      exact h ⟨p, mem_arrange.1 hp, hKey⟩

theorem get?_map (f : Value → Value) (key : Text) (m : Members) :
    Value.get? key (m.map (fun p => (p.1, f p.2))) = (Value.get? key m).map f := by
  induction m with
  | nil => rfl
  | cons p m ih =>
      rw [List.map_cons, Value.get?_cons, Value.get?_cons, ih]
      split_ifs <;> rfl

theorem get?_append (key : Text) (m n : Members) :
    Value.get? key (m ++ n) = (Value.get? key m).or (Value.get? key n) := by
  induction m with
  | nil => rfl
  | cons p m ih =>
      rw [List.cons_append, Value.get?_cons, Value.get?_cons, ih]
      split_ifs <;> rfl

/-! ## Validators -/

/-- A value together with the fact that it passes a validator. -/
def checked {α : Type} (validate : α → Except ValueError Unit) (a : α) :
    Except ValueError {a // validate a = .ok ()} :=
  match h : validate a with
  | .ok () => .ok ⟨a, h⟩
  | .error e => .error e

theorem checked_eq_ok {α : Type} {validate : α → Except ValueError Unit} {a : α}
    {b : {a // validate a = .ok ()}} : checked validate a = .ok b ↔ b.1 = a := by
  obtain ⟨b, hb⟩ := b
  unfold checked
  split
  · next h => rw [Except.ok.injEq, Subtype.mk.injEq, eq_comm]
  · next e h =>
      constructor
      · intro hEq
        cases hEq
      · intro hEq
        rw [show b = a from hEq, h] at hb
        cases hb

theorem checked_self {α : Type} {validate : α → Except ValueError Unit}
    (a : {a // validate a = .ok ()}) : checked validate a.1 = .ok a := checked_eq_ok.2 rfl

/-! ## Codecs -/

/-- A validator and a dump that fit together. -/
structure Codec (α : Type) where
  decode : Value → Except ValueError α
  encode : α → Value
  decode_encode : ∀ a, decode (encode a) = .ok a
  decode_sorted : ∀ v, v.Distinct → decode (sorted v) = decode v
  distinct_encode : ∀ a, (encode a).Distinct

namespace Codec

variable {α β : Type}

/-- A dump that was written sorted and read back validates to the model it came from. -/
theorem decode_sorted_encode (c : Codec α) (a : α) : c.decode (sorted (c.encode a)) = .ok a := by
  rw [c.decode_sorted _ (c.distinct_encode a), c.decode_encode]

/-- Transport along a surjection with a section. -/
def iso (c : Codec α) (make : α → β) (parts : β → α) (h : ∀ b, make (parts b) = b) :
    Codec β where
  decode v := make <$> c.decode v
  encode b := c.encode (parts b)
  decode_encode b := by rw [c.decode_encode]; exact congrArg Except.ok (h b)
  decode_sorted v hv := by rw [c.decode_sorted v hv]
  distinct_encode b := c.distinct_encode _

/-- Accept only the models that pass a validator. -/
def validated (c : Codec α) (validate : α → Except ValueError Unit) :
    Codec {a // validate a = .ok ()} where
  decode v := do checked validate (← c.decode v)
  encode a := c.encode a.1
  decode_encode a := by
    rw [Except.bind_eq_ok]
    exact ⟨a.1, c.decode_encode a.1, checked_self a⟩
  decode_sorted v hv := by rw [c.decode_sorted v hv]
  distinct_encode a := c.distinct_encode _

/-- Text that satisfies a predicate. -/
def text (p : Text → Bool) (message : String) : Codec {t : Text // p t = true} where
  decode v :=
    match v with
    | .str t => if h : p t = true then .ok ⟨t, h⟩ else .error ⟨message⟩
    | _ => .error ⟨"Input should be a valid string"⟩
  encode t := .str t.1
  decode_encode t := dif_pos t.2
  decode_sorted v _ := by cases v <;> rfl
  distinct_encode _ := trivial

/-- An `int`, not a `bool`, that satisfies a predicate. -/
def integer (p : ℤ → Bool) (message : String) : Codec {n : ℤ // p n = true} where
  decode v :=
    match v with
    | .int n => if h : p n = true then .ok ⟨n, h⟩ else .error ⟨message⟩
    | _ => .error ⟨"Input should be a valid integer"⟩
  encode n := .int n.1
  decode_encode n := dif_pos n.2
  decode_sorted v _ := by cases v <;> rfl
  distinct_encode _ := trivial

/-- The one integer that is accepted. -/
def literalInt (expected : ℤ) (message : String) : Codec Unit where
  decode v :=
    match v with
    | .int n => if n = expected then .ok () else .error ⟨message⟩
    | _ => .error ⟨message⟩
  encode _ := .int expected
  decode_encode _ := if_pos rfl
  decode_sorted v _ := by cases v <;> rfl
  distinct_encode _ := trivial

/-- The one string that is accepted. -/
def literal (expected : String) : Codec Unit where
  decode v :=
    match v with
    | .str t => if t = py expected then .ok () else .error ⟨"Input should be '" ++ expected ++ "'"⟩
    | _ => .error ⟨"Input should be '" ++ expected ++ "'"⟩
  encode _ := .lit expected
  decode_encode _ := if_pos rfl
  decode_sorted v _ := by cases v <;> rfl
  distinct_encode _ := trivial

/-- The boolean `True`, and no number that equals it. -/
def literalTrue (message : String) : Codec Unit where
  decode v :=
    match v with
    | .bool true => .ok ()
    | _ => .error ⟨message⟩
  encode _ := .bool true
  decode_encode _ := rfl
  decode_sorted v _ := by cases v <;> rfl
  distinct_encode _ := trivial

/-- A member of a closed vocabulary. -/
def enum (all : List α) (value : α → String)
    (h : ∀ a, all.find? (fun b => py (value b) = py (value a)) = some a) : Codec α where
  decode v :=
    match v with
    | .str t =>
        match all.find? (fun b => py (value b) = t) with
        | some a => .ok a
        | none => .error ⟨"Input should be a member of the enumeration"⟩
    | _ => .error ⟨"Input should be a member of the enumeration"⟩
  encode a := .lit (value a)
  decode_encode a := by
    show (match all.find? (fun b => py (value b) = py (value a)) with
      | some a => Except.ok a
      | none => _) = _
    rw [h a]
  decode_sorted v _ := by cases v <;> rfl
  distinct_encode _ := trivial

/-- A value or `null`. -/
def nullable (c : Codec α) (h : ∀ a, (c.encode a).isNull = false) : Codec (Option α) where
  decode v := if v.isNull then .ok none else some <$> c.decode v
  encode a :=
    match a with
    | none => .null
    | some a => c.encode a
  decode_encode a := by
    cases a with
    | none => rfl
    | some a =>
        simp only [h a, c.decode_encode]
        rfl
  decode_sorted v hv := by
    have hNull : (sorted v).isNull = v.isNull := by cases v <;> rfl
    rw [hNull, c.decode_sorted v hv]
  distinct_encode a := by
    cases a with
    | none => trivial
    | some a => exact c.distinct_encode a

/-- A list or a tuple of items. -/
def array (c : Codec α) : Codec (List α) where
  decode v :=
    match v with
    | .seq _ xs => xs.mapM c.decode
    | _ => .error ⟨"Input should be a valid tuple"⟩
  encode xs := .list (xs.map c.encode)
  decode_encode xs := by
    rw [Except.mapM_eq_ok, List.forall₂_map_left_iff, List.forall₂_same]
    exact fun a _ => c.decode_encode a
  decode_sorted v hv := by
    cases v with
    | seq kind xs =>
        rw [Value.distinct_seq] at hv
        rw [sorted, normal_seq]
        show (xs.map sorted).mapM c.decode = xs.mapM c.decode
        rw [List.mapM_map]
        exact Except.mapM_congr (fun x hx => c.decode_sorted x (hv x hx))
    | _ => rfl
  distinct_encode xs := by
    rw [Value.distinct_seq]
    intro v hv
    obtain ⟨a, -, rfl⟩ := List.mem_map.1 hv
    exact c.distinct_encode a

/-- One of two kinds of value, tried in order. -/
def union (c : Codec α) (d : Codec β) (h : ∀ b, ∃ e, c.decode (d.encode b) = .error e) :
    Codec (α ⊕ β) where
  decode v :=
    match c.decode v with
    | .ok a => .ok (.inl a)
    | .error _ => .inr <$> d.decode v
  encode x :=
    match x with
    | .inl a => c.encode a
    | .inr b => d.encode b
  decode_encode x := by
    cases x with
    | inl a => simp only [c.decode_encode]
    | inr b =>
        obtain ⟨e, he⟩ := h b
        simp only [he, d.decode_encode]
        rfl
  decode_sorted v hv := by rw [c.decode_sorted v hv, d.decode_sorted v hv]
  distinct_encode x := by
    cases x with
    | inl a => exact c.distinct_encode a
    | inr b => exact d.distinct_encode b

end Codec

/-- A JSON value in sorted form. -/
structure SortedJson where
  value : Value
  distinct : value.Distinct
  sorted_eq : sorted value = value

namespace SortedJson

@[ext] theorem ext {a b : SortedJson} (h : a.value = b.value) : a = b := by
  cases a; cases b; cases h; rfl

/-- The sorted form of a value. -/
def of (v : Value) (hv : v.Distinct) : SortedJson where
  value := sorted v
  distinct := distinct_normal _ v hv
  sorted_eq := normal_normal _ v

/-- Any JSON value, kept in sorted form. The distinctness of its keys is part of every Python dict;
a value without it does not arise. -/
def codec : Codec SortedJson where
  decode v := if h : v.Distinct then .ok (of v h) else .error ⟨"JSON object keys must be unique"⟩
  encode a := a.value
  decode_encode a := by
    rw [dif_pos a.distinct]
    exact congrArg Except.ok (SortedJson.ext a.sorted_eq)
  decode_sorted v hv := by
    have hs : (sorted v).Distinct := distinct_normal _ v hv
    rw [dif_pos hv, dif_pos hs]
    exact congrArg Except.ok (SortedJson.ext (normal_normal _ v))
  distinct_encode a := a.distinct

end SortedJson

/-- A dict in sorted form. -/
structure SortedObject where
  members : Members
  distinct : (Value.obj members).Distinct
  sorted_eq : sorted (.obj members) = .obj members

namespace SortedObject

@[ext] theorem ext {a b : SortedObject} (h : a.members = b.members) : a = b := by
  cases a; cases b; cases h; rfl

/-- The members of a dict in sorted form. -/
def sortMembers (m : Members) : Members :=
  arrange .compactSorted (m.map (fun p => (p.1, sorted p.2)))

theorem sorted_obj (m : Members) : sorted (.obj m) = .obj (sortMembers m) := by
  rw [sorted, normal_obj, sortMembers, arrange_map]
  rfl

/-- The sorted form of a dict. -/
def of (m : Members) (hm : (Value.obj m).Distinct) : SortedObject where
  members := sortMembers m
  distinct := by
    rw [← sorted_obj]
    exact distinct_normal _ _ hm
  sorted_eq := by
    rw [← sorted_obj]
    exact normal_normal _ _

/-- Any dict, kept in sorted form. -/
def codec : Codec SortedObject where
  decode v :=
    match v with
    | .obj m =>
        if h : (Value.obj m).Distinct then .ok (of m h)
        else .error ⟨"JSON object keys must be unique"⟩
    | _ => .error ⟨"Input should be a valid dictionary"⟩
  encode a := .obj a.members
  decode_encode a := by
    show (if h : (Value.obj a.members).Distinct then Except.ok (of a.members h) else _) = _
    rw [dif_pos a.distinct]
    refine congrArg Except.ok (SortedObject.ext ?_)
    have hSorted := a.sorted_eq
    rw [sorted_obj, Value.obj.injEq] at hSorted
    exact hSorted
  decode_sorted v hv := by
    cases v with
    | obj m =>
        have hs : (Value.obj (sortMembers m)).Distinct := by
          rw [← sorted_obj]
          exact distinct_normal _ _ hv
        rw [sorted_obj]
        show (if h : (Value.obj (sortMembers m)).Distinct then Except.ok (of _ h) else _)
          = if h : (Value.obj m).Distinct then Except.ok (of m h) else _
        rw [dif_pos hs, dif_pos hv]
        refine congrArg Except.ok (SortedObject.ext ?_)
        have hTwice : sorted (sorted (.obj m)) = sorted (.obj m) := normal_normal _ _
        rw [sorted_obj, sorted_obj, Value.obj.injEq] at hTwice
        exact hTwice
    | _ => rfl
  distinct_encode a := a.distinct

end SortedObject

/-! ## Fields of an object -/

/-- A part of an object: the names it reads and writes, and how. -/
structure Fields (α : Type) where
  names : List Text
  decode : (Text → Option Value) → Except ValueError α
  encode : α → Members
  nodup : names.Nodup
  keys_encode : ∀ a, ((encode a).map Prod.fst).Sublist names
  distinct_encode : ∀ a, ∀ p ∈ encode a, p.2.Distinct
  decode_congr : ∀ f g, (∀ k ∈ names, f k = g k) → decode f = decode g
  decode_encode : ∀ a, decode (fun k => Value.get? k (encode a)) = .ok a
  decode_sorted : ∀ f, (∀ k v, f k = some v → v.Distinct) →
    decode (fun k => (f k).map sorted) = decode f

namespace Fields

variable {α β : Type}

/-- A required field. -/
def required (name : String) (c : Codec α) : Fields α where
  names := [py name]
  decode look :=
    match look (py name) with
    | some v => c.decode v
    | none => .error ⟨"Field required: " ++ name⟩
  encode a := [(py name, c.encode a)]
  nodup := List.nodup_singleton _
  keys_encode _ := List.Sublist.refl _
  distinct_encode a p hp := by
    rw [List.mem_singleton.1 hp]
    exact c.distinct_encode a
  decode_congr f g h := by rw [h (py name) List.mem_cons_self]
  decode_encode a := by
    simp only [Value.get?_cons, if_pos]
    exact c.decode_encode a
  decode_sorted f hf := by
    cases h : f (py name) with
    | none => simp only [h, Option.map_none]
    | some v => simp only [h, Option.map_some, c.decode_sorted v (hf _ v h)]

/-- A field that may be absent; then the default stands for it. A dump always writes it. -/
def defaulted (name : String) (c : Codec α) (default : α) : Fields α where
  names := [py name]
  decode look :=
    match look (py name) with
    | some v => c.decode v
    | none => .ok default
  encode a := [(py name, c.encode a)]
  nodup := List.nodup_singleton _
  keys_encode _ := List.Sublist.refl _
  distinct_encode a p hp := by
    rw [List.mem_singleton.1 hp]
    exact c.distinct_encode a
  decode_congr f g h := by rw [h (py name) List.mem_cons_self]
  decode_encode a := by
    simp only [Value.get?_cons, if_pos]
    exact c.decode_encode a
  decode_sorted f hf := by
    cases h : f (py name) with
    | none => simp only [h, Option.map_none]
    | some v => simp only [h, Option.map_some, c.decode_sorted v (hf _ v h)]

/-- A field that is left out of the dump when there is no value. -/
def optional (name : String) (c : Codec α) : Fields (Option α) where
  names := [py name]
  decode look :=
    match look (py name) with
    | some v => some <$> c.decode v
    | none => .ok none
  encode a :=
    match a with
    | some a => [(py name, c.encode a)]
    | none => []
  nodup := List.nodup_singleton _
  keys_encode a := by
    cases a with
    | none => exact List.nil_sublist _
    | some a => exact List.Sublist.refl _
  distinct_encode a p hp := by
    cases a with
    | none => cases hp
    | some a =>
        rw [List.mem_singleton.1 hp]
        exact c.distinct_encode a
  decode_congr f g h := by rw [h (py name) List.mem_cons_self]
  decode_encode a := by
    cases a with
    | none => rfl
    | some a =>
        simp only [Value.get?_cons, if_pos, c.decode_encode]
        rfl
  decode_sorted f hf := by
    cases h : f (py name) with
    | none => simp only [h, Option.map_none]
    | some v => simp only [h, Option.map_some, c.decode_sorted v (hf _ v h)]

/-- The fields of two parts that have no name in common. -/
def and (f : Fields α) (g : Fields β) (h : ∀ k ∈ f.names, k ∉ g.names) : Fields (α × β) where
  names := f.names ++ g.names
  decode look := do return (← f.decode look, ← g.decode look)
  encode a := f.encode a.1 ++ g.encode a.2
  nodup := List.nodup_append'.2 ⟨f.nodup, g.nodup, fun k hk hk' => h k hk hk'⟩
  keys_encode a := by
    rw [List.map_append]
    exact (f.keys_encode a.1).append (g.keys_encode a.2)
  distinct_encode a p hp := by
    rcases List.mem_append.1 hp with hp | hp
    · exact f.distinct_encode a.1 p hp
    · exact g.distinct_encode a.2 p hp
  decode_congr look look' hLook := by
    rw [f.decode_congr look look' (fun k hk => hLook k (List.mem_append_left _ hk)),
      g.decode_congr look look' (fun k hk => hLook k (List.mem_append_right _ hk))]
  decode_encode a := by
    have hLeft : f.decode (fun k => Value.get? k (f.encode a.1 ++ g.encode a.2)) = .ok a.1 := by
      rw [← f.decode_encode a.1]
      refine f.decode_congr _ _ (fun k hk => ?_)
      have hNone : Value.get? k (g.encode a.2) = none := by
        rw [Value.get?_eq_none_iff]
        intro hMem
        exact h k hk ((g.keys_encode a.2).subset hMem)
      rw [get?_append, hNone, Option.or_none]
    have hRight : g.decode (fun k => Value.get? k (f.encode a.1 ++ g.encode a.2)) = .ok a.2 := by
      rw [← g.decode_encode a.2]
      refine g.decode_congr _ _ (fun k hk => ?_)
      have hNone : Value.get? k (f.encode a.1) = none := by
        rw [Value.get?_eq_none_iff]
        intro hMem
        exact h k ((f.keys_encode a.1).subset hMem) hk
      rw [get?_append, hNone, Option.none_or]
    rw [hLeft, hRight]
    rfl
  decode_sorted look hLook := by rw [f.decode_sorted look hLook, g.decode_sorted look hLook]

/-- Transport along a surjection with a section. -/
def iso (f : Fields α) (make : α → β) (parts : β → α) (h : ∀ b, make (parts b) = b) :
    Fields β where
  names := f.names
  decode look := make <$> f.decode look
  encode b := f.encode (parts b)
  nodup := f.nodup
  keys_encode b := f.keys_encode _
  distinct_encode b := f.distinct_encode _
  decode_congr look look' hLook := by rw [f.decode_congr look look' hLook]
  decode_encode b := by
    rw [f.decode_encode]
    exact congrArg Except.ok (h b)
  decode_sorted look hLook := by rw [f.decode_sorted look hLook]

end Fields

namespace Codec

variable {α : Type}

/-- A closed object: exactly the given fields, `extra="forbid"`. -/
def object (f : Fields α) : Codec α where
  decode v :=
    match v with
    | .obj m =>
        if ∀ p ∈ m, p.1 ∈ f.names then f.decode (fun k => Value.get? k m)
        else .error ⟨"Extra inputs are not permitted"⟩
    | _ => .error ⟨"Input should be a valid dictionary"⟩
  encode a := .obj (f.encode a)
  decode_encode a := by
    have hKnown : ∀ p ∈ f.encode a, p.1 ∈ f.names := fun p hp =>
      (f.keys_encode a).subset (List.mem_map.2 ⟨p, hp, rfl⟩)
    show (if ∀ p ∈ f.encode a, p.1 ∈ f.names then _ else _) = _
    rw [if_pos hKnown]
    exact f.decode_encode a
  -- Sorting the members keeps the names that are known, and sorts the value found at each.
  decode_sorted v hv := by
    cases v with
    | obj m =>
        rw [Value.distinct_obj] at hv
        have hKeys : ((m.map (fun p => (p.1, sorted p.2))).map Prod.fst).Nodup := by
          rw [List.map_map]
          exact hv.1
        have hSorted : sorted (.obj m)
            = .obj (arrange .compactSorted (m.map (fun p => (p.1, sorted p.2)))) := by
          rw [sorted, normal_obj, arrange_map]
          rfl
        have hNamesIff : (∀ p ∈ arrange Style.compactSorted (m.map (fun p => (p.1, sorted p.2))),
            p.1 ∈ f.names) ↔ ∀ p ∈ m, p.1 ∈ f.names := by
          simp only [mem_arrange, List.forall_mem_map]
        have hLook : (fun k => Value.get? k
              (arrange Style.compactSorted (m.map (fun p => (p.1, sorted p.2)))))
            = fun k => (Value.get? k m).map sorted := by
          funext k
          rw [get?_arrange _ hKeys, get?_map]
        rw [hSorted]
        simp only [hNamesIff, hLook]
        rw [f.decode_sorted _ (fun k v h => hv.2 _ (Value.mem_of_get? h))]
    | _ => rfl
  distinct_encode a := by
    rw [Value.distinct_obj]
    exact ⟨f.nodup.sublist (f.keys_encode a), f.distinct_encode a⟩

/-- A closed object refuses what its fields refuse. -/
theorem object_error {f : Fields α} {m : Members} {e : ValueError}
    (h : f.decode (fun k => Value.get? k m) = .error e) :
    ∃ e, (object f).decode (.obj m) = .error e := by
  show ∃ e, (if ∀ p ∈ m, p.1 ∈ f.names then _ else _) = Except.error e
  split_ifs with hNames
  · exact ⟨e, h⟩
  · exact ⟨_, rfl⟩

end Codec

end Json
