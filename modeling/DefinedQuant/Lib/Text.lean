import DefinedQuant.Lib.PrefixCode
import Mathlib.Algebra.Order.Ring.Nat
import Mathlib.Data.List.Lex
import Mathlib.Data.Fin.Basic

/-!
# Text, bytes and UTF-8

A Python `str` is a sequence of code points, lone surrogates included, and `bytes` a sequence of
octets. `utf8` is `str.encode("utf-8")`, which refuses a surrogate, and `utf8Decode` the strict
decoder. The decoder undoes the encoder in front of any input (`decodeChar_utf8Char`), so UTF-8 is a
self-delimiting code and encoding is injective.
-/

/-- A Unicode code point, surrogates included. -/
abbrev CodePoint := Fin 0x110000

/-- A Python `str`. -/
abbrev Text := List CodePoint

/-- An octet. -/
abbrev Byte := Fin 256

/-- A Python `bytes` value. -/
abbrev Bytes := List Byte

instance CodePoint.neZero : NeZero 0x110000 := ⟨by decide⟩

instance Byte.neZero : NeZero 256 := ⟨by decide⟩

instance CodePoint.lawfulBEq : LawfulBEq CodePoint := inferInstance

instance Text.lawfulBEq : LawfulBEq Text := inferInstance

instance Text.lawfulBEqOption : LawfulBEq (Option Text) := inferInstance

/-- The code point of a Lean character. -/
def CodePoint.ofChar (c : Char) : CodePoint :=
  ⟨c.toNat, by
    rcases c.valid with h | h
    · exact h.trans (by decide)
    · exact h.2⟩

/-- A string literal as text. -/
def py (s : String) : Text := s.toList.map CodePoint.ofChar

/-- An octet from its value. -/
def Byte.ofNat (n : ℕ) : Byte := ⟨n % 256, Nat.mod_lt _ (by decide)⟩

@[simp] theorem Byte.val_ofNat (n : ℕ) : (Byte.ofNat n).val = n % 256 := rfl

theorem CodePoint.ofChar_injective : Function.Injective CodePoint.ofChar := by
  intro a b h
  have hNat : a.toNat = b.toNat := congrArg (fun c : CodePoint => c.val) h
  exact Char.toNat_inj.1 hNat

theorem py_injective : Function.Injective py := by
  intro s t h
  exact String.toList_inj.1 (CodePoint.ofChar_injective.list_map h)

@[simp] theorem py_inj (s t : String) : py s = py t ↔ s = t := py_injective.eq_iff

/-! ## Encoding -/

/-- The code points reserved for UTF-16, which no UTF-8 text contains. -/
def CodePoint.IsSurrogate (c : CodePoint) : Prop := 0xD800 ≤ c.val ∧ c.val ≤ 0xDFFF

instance (c : CodePoint) : Decidable c.IsSurrogate := inferInstanceAs (Decidable (_ ∧ _))

/-- A text that has a UTF-8 form. -/
def Text.Encodable (t : Text) : Prop := ∀ c ∈ t, ¬ CodePoint.IsSurrogate c

-- Decided item by item: the general instance for `Fin` would try every code point.
instance (t : Text) : Decidable (Text.Encodable t) :=
  List.decidableBAll (fun c => ¬ CodePoint.IsSurrogate c) t

/-- The octets of one code point: one to four, by its size. -/
def utf8Char (c : CodePoint) : Bytes :=
  if c.val < 0x80 then [Byte.ofNat c.val]
  else if c.val < 0x800 then
    [Byte.ofNat (0xC0 + c.val / 64), Byte.ofNat (0x80 + c.val % 64)]
  else if c.val < 0x10000 then
    [Byte.ofNat (0xE0 + c.val / 4096), Byte.ofNat (0x80 + c.val / 64 % 64),
      Byte.ofNat (0x80 + c.val % 64)]
  else
    [Byte.ofNat (0xF0 + c.val / 262144), Byte.ofNat (0x80 + c.val / 4096 % 64),
      Byte.ofNat (0x80 + c.val / 64 % 64), Byte.ofNat (0x80 + c.val % 64)]

/-- The octets of a text, code point by code point. -/
def utf8Raw (t : Text) : Bytes := t.flatMap utf8Char

/-- `str.encode("utf-8")`: defined exactly on text without surrogates. -/
def utf8 (t : Text) : Option Bytes := if Text.Encodable t then some (utf8Raw t) else none

/-- `len(text.encode("utf-8"))` for encodable text. -/
def utf8Length (t : Text) : ℕ := (utf8Raw t).length

/-! ## Decoding -/

/-- A continuation octet. -/
def IsTail (b : Byte) : Prop := 0x80 ≤ b.val ∧ b.val ≤ 0xBF

instance (b : Byte) : Decidable (IsTail b) := inferInstanceAs (Decidable (_ ∧ _))

/-- Accept a decoded value as a code point: at least `low` (no overlong form), in range, and no
surrogate. -/
def scalar? (low n : ℕ) (rest : Bytes) : Option (CodePoint × Bytes) :=
  if h : n < 0x110000 then
    if low ≤ n ∧ ¬ CodePoint.IsSurrogate ⟨n, h⟩ then some (⟨n, h⟩, rest) else none
  else none

/-- Read one code point off the front, refusing overlong, truncated and surrogate forms. -/
def decodeChar : Bytes → Option (CodePoint × Bytes)
  | [] => none
  | a :: rest =>
      if a.val < 0x80 then scalar? 0 a.val rest
      else if 0xC0 ≤ a.val ∧ a.val < 0xE0 then
        match rest with
        | b :: rest =>
            if IsTail b then scalar? 0x80 ((a.val - 0xC0) * 64 + (b.val - 0x80)) rest
            else none
        | _ => none
      else if 0xE0 ≤ a.val ∧ a.val < 0xF0 then
        match rest with
        | b :: c :: rest => if IsTail b ∧ IsTail c then
              scalar? 0x800 ((a.val - 0xE0) * 4096 + (b.val - 0x80) * 64 + (c.val - 0x80)) rest
            else none
        | _ => none
      else if 0xF0 ≤ a.val ∧ a.val < 0xF8 then
        match rest with
        | b :: c :: d :: rest => if IsTail b ∧ IsTail c ∧ IsTail d then
              scalar? 0x10000 ((a.val - 0xF0) * 262144 + (b.val - 0x80) * 4096 +
                (c.val - 0x80) * 64 + (d.val - 0x80)) rest
            else none
        | _ => none
      else none

/-- Decode code points until the input is used up; every one takes at least one octet. -/
def utf8DecodeFuel : ℕ → Bytes → Option Text
  | _, [] => some []
  | 0, _ => none
  | fuel + 1, bs => do
      let (c, rest) ← decodeChar bs
      let t ← utf8DecodeFuel fuel rest
      return c :: t

/-- `bytes.decode("utf-8", errors="strict")`. -/
def utf8Decode (bs : Bytes) : Option Text := utf8DecodeFuel bs.length bs

/-! ## Round trip -/

theorem scalar?_val {c : CodePoint} (hc : ¬ c.IsSurrogate) {low : ℕ} (hLow : low ≤ c.val)
    (rest : Bytes) : scalar? low c.val rest = some (c, rest) := by
  unfold scalar?
  rw [dif_pos c.isLt, if_pos ⟨hLow, hc⟩]

theorem utf8Char_ne_nil (c : CodePoint) : utf8Char c ≠ [] := by
  unfold utf8Char
  split_ifs <;> simp

/-- The decoder reads back an encoded code point, whatever follows. -/
theorem decodeChar_utf8Char {c : CodePoint} (hc : ¬ c.IsSurrogate) (rest : Bytes) :
    decodeChar (utf8Char c ++ rest) = some (c, rest) := by
  have hLt := c.isLt
  unfold utf8Char
  -- One case for each length of the encoding; the lead byte tells the length, and the tails give
  -- the bits back.
  split_ifs with h1 h2 h3
  · have hVal : c.val % 256 = c.val := by omega
    simp only [List.cons_append, List.nil_append, decodeChar, Byte.val_ofNat, hVal, if_pos h1]
    exact scalar?_val hc (Nat.zero_le _) rest
  · have hA : (0xC0 + c.val / 64) % 256 = 0xC0 + c.val / 64 := by omega
    have hB : (0x80 + c.val % 64) % 256 = 0x80 + c.val % 64 := by omega
    have hTail : IsTail (Byte.ofNat (0x80 + c.val % 64)) := by
      unfold IsTail; rw [Byte.val_ofNat]; omega
    simp only [List.cons_append, List.nil_append, decodeChar, Byte.val_ofNat, hA, hB]
    rw [if_neg (by omega), if_pos (by omega), if_pos hTail]
    have hVal : (0xC0 + c.val / 64 - 0xC0) * 64 + (0x80 + c.val % 64 - 0x80) = c.val := by omega
    rw [hVal]
    exact scalar?_val hc (by omega) rest
  · have hA : (0xE0 + c.val / 4096) % 256 = 0xE0 + c.val / 4096 := by omega
    have hB : (0x80 + c.val / 64 % 64) % 256 = 0x80 + c.val / 64 % 64 := by omega
    have hC : (0x80 + c.val % 64) % 256 = 0x80 + c.val % 64 := by omega
    have hTails : IsTail (Byte.ofNat (0x80 + c.val / 64 % 64)) ∧
        IsTail (Byte.ofNat (0x80 + c.val % 64)) := by
      unfold IsTail; rw [Byte.val_ofNat, Byte.val_ofNat]; omega
    simp only [List.cons_append, List.nil_append, decodeChar, Byte.val_ofNat, hA, hB, hC]
    rw [if_neg (by omega), if_neg (by omega), if_pos (by omega), if_pos hTails]
    have hVal : (0xE0 + c.val / 4096 - 0xE0) * 4096 + (0x80 + c.val / 64 % 64 - 0x80) * 64 +
        (0x80 + c.val % 64 - 0x80) = c.val := by omega
    rw [hVal]
    exact scalar?_val hc (by omega) rest
  · have hA : (0xF0 + c.val / 262144) % 256 = 0xF0 + c.val / 262144 := by omega
    have hB : (0x80 + c.val / 4096 % 64) % 256 = 0x80 + c.val / 4096 % 64 := by omega
    have hC : (0x80 + c.val / 64 % 64) % 256 = 0x80 + c.val / 64 % 64 := by omega
    have hD : (0x80 + c.val % 64) % 256 = 0x80 + c.val % 64 := by omega
    have hTails : IsTail (Byte.ofNat (0x80 + c.val / 4096 % 64)) ∧
        IsTail (Byte.ofNat (0x80 + c.val / 64 % 64)) ∧
        IsTail (Byte.ofNat (0x80 + c.val % 64)) := by
      unfold IsTail; rw [Byte.val_ofNat, Byte.val_ofNat, Byte.val_ofNat]; omega
    simp only [List.cons_append, List.nil_append, decodeChar, Byte.val_ofNat, hA, hB, hC, hD]
    rw [if_neg (by omega), if_neg (by omega), if_neg (by omega), if_pos (by omega), if_pos hTails]
    have hVal : (0xF0 + c.val / 262144 - 0xF0) * 262144 + (0x80 + c.val / 4096 % 64 - 0x80) * 4096 +
        (0x80 + c.val / 64 % 64 - 0x80) * 64 + (0x80 + c.val % 64 - 0x80) = c.val := by omega
    rw [hVal]
    exact scalar?_val hc (by omega) rest

/-- Decoding with enough fuel undoes encoding. -/
theorem utf8DecodeFuel_utf8Raw : ∀ (t : Text) (fuel : ℕ), Text.Encodable t →
    (utf8Raw t).length ≤ fuel → utf8DecodeFuel fuel (utf8Raw t) = some t
  | [], fuel, _, _ => by cases fuel <;> rfl
  | c :: t, fuel, hEnc, hFuel => by
      have hc : ¬ c.IsSurrogate := hEnc c (by simp)
      have ht : Text.Encodable t := fun d hd => hEnc d (List.mem_cons_of_mem _ hd)
      have hSplit : utf8Raw (c :: t) = utf8Char c ++ utf8Raw t := rfl
      have hPos : 0 < (utf8Char c).length := List.length_pos_of_ne_nil (utf8Char_ne_nil c)
      rw [hSplit, List.length_append] at hFuel
      obtain ⟨fuel, rfl⟩ : ∃ k, fuel = k + 1 := ⟨fuel - 1, by omega⟩
      have hIh := utf8DecodeFuel_utf8Raw t fuel ht (by omega)
      obtain ⟨b, bs, hCons⟩ := List.exists_cons_of_ne_nil
        (show utf8Char c ++ utf8Raw t ≠ [] by simp [utf8Char_ne_nil])
      rw [hSplit, hCons, utf8DecodeFuel, ← hCons, decodeChar_utf8Char hc]
      · simp [hIh]
      · simp

/-- Strict decoding undoes encoding. -/
theorem utf8Decode_of_utf8 {t : Text} {bs : Bytes} (h : utf8 t = some bs) :
    utf8Decode bs = some t := by
  unfold utf8 at h
  split_ifs at h with hEnc
  cases h
  exact utf8DecodeFuel_utf8Raw t _ hEnc le_rfl

/-- Encoding is injective on the text it accepts. -/
theorem utf8_inj {t u : Text} {bs : Bytes} (ht : utf8 t = some bs) (hu : utf8 u = some bs) :
    t = u := by
  have hEq := (utf8Decode_of_utf8 ht).symm.trans (utf8Decode_of_utf8 hu)
  exact Option.some.inj hEq

theorem utf8_eq_some_iff {t : Text} {bs : Bytes} :
    utf8 t = some bs ↔ Text.Encodable t ∧ utf8Raw t = bs := by
  unfold utf8
  split_ifs with h <;> simp [h]

/-! ## ASCII -/

/-- Text of code points below 128, for which UTF-8 and ASCII agree. -/
def Text.IsAscii (t : Text) : Prop := ∀ c ∈ t, c.val < 0x80

instance (t : Text) : Decidable (Text.IsAscii t) :=
  List.decidableBAll (fun c : CodePoint => c.val < 0x80) t

theorem Text.IsAscii.encodable {t : Text} (h : Text.IsAscii t) : Text.Encodable t := by
  intro c hc hSur
  have hLt := h c hc
  unfold CodePoint.IsSurrogate at hSur
  omega

/-- A character is no surrogate. -/
theorem encodable_py (s : String) : Text.Encodable (py s) := by
  intro c hc
  obtain ⟨char, -, rfl⟩ := List.mem_map.1 hc
  rintro ⟨hLow, hHigh⟩
  have hVal : (CodePoint.ofChar char).val = char.toNat := rfl
  rcases char.valid with hBelow | hAbove
  · have hNat : char.toNat < 0xD800 := hBelow
    omega
  · have hNat : 0xDFFF < char.toNat := hAbove.1
    omega

/-- ASCII text has one octet for each code point. -/
theorem Text.IsAscii.utf8Raw_eq {t : Text} (h : Text.IsAscii t) :
    utf8Raw t = t.map (fun c => Byte.ofNat c.val) := by
  induction t with
  | nil => rfl
  | cons c t ih =>
      have hc : c.val < 0x80 := h c (by simp)
      have hHead : utf8Char c = [Byte.ofNat c.val] := by unfold utf8Char; rw [if_pos hc]
      have hTail := ih (fun d hd => h d (List.mem_cons_of_mem _ hd))
      calc utf8Raw (c :: t) = utf8Char c ++ utf8Raw t := rfl
        _ = _ := by rw [hHead, hTail]; rfl

/-- A literal is the list of its characters. The kernel decodes the octets of a literal slowly, so a
fact about one is decided over this list. -/
theorem py_ofList (cs : List Char) : py (String.ofList cs) = cs.map CodePoint.ofChar := by
  rw [py, String.toList_ofList]

@[simp] theorem utf8Raw_nil : utf8Raw [] = [] := rfl

@[simp] theorem utf8Raw_append (t u : Text) : utf8Raw (t ++ u) = utf8Raw t ++ utf8Raw u := by
  simp [utf8Raw]

@[simp] theorem Text.encodable_append {t u : Text} :
    Text.Encodable (t ++ u) ↔ Text.Encodable t ∧ Text.Encodable u := by
  simp only [Text.Encodable, List.mem_append]
  constructor
  · intro h
    exact ⟨fun c hc => h c (Or.inl hc), fun c hc => h c (Or.inr hc)⟩
  · rintro ⟨ht, hu⟩ c (hc | hc)
    · exact ht c hc
    · exact hu c hc
