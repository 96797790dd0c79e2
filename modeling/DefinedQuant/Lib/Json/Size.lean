import DefinedQuant.Lib.Json.Write

/-!
# The size of a compact text

`size` counts the octets of the compact sorted text of a value. It is a sum over the parts: the
order of members and the level at which a value stands do not change it, so two documents that share
their parts can be compared without being written.

`Printable` says that a value has such a text and that the text can be encoded. It holds of a list
or a dict exactly when it holds of the parts.
-/

namespace Json

/-- The octets of a concatenation add up. -/
theorem utf8Length_append (t u : Text) : utf8Length (t ++ u) = utf8Length t + utf8Length u := by
  rw [utf8Length, utf8Raw_append, List.length_append]
  rfl

/-- The octets of a text, one code point at a time. -/
theorem utf8Length_cons (c : CodePoint) (t : Text) :
    utf8Length (c :: t) = utf8Length [c] + utf8Length t := utf8Length_append [c] t

/-- On ASCII text octets are characters. -/
theorem utf8Length_of_isAscii {t : Text} (h : Text.IsAscii t) : utf8Length t = t.length := by
  rw [utf8Length, h.utf8Raw_eq, List.length_map]

/-- Parts with a separator of one octet between them. -/
theorem utf8Length_joinSep {sep : CodePoint} (hSep : utf8Length [sep] = 1) (parts : List Text) :
    utf8Length (PrefixCode.joinSep sep parts)
      = (parts.map utf8Length).sum + (parts.length - 1) := by
  induction parts with
  | nil => rfl
  | cons part parts ih =>
      cases parts with
      | nil => simp
      | cons next rest =>
          rw [PrefixCode.joinSep_cons_cons, utf8Length_append, utf8Length_cons, hSep, ih]
          simp only [List.map_cons, List.sum_cons, List.length_cons]
          omega

/-- The octets of the compact sorted text. -/
def size (v : Value) : ℕ := utf8Length (render .compactSorted 0 v)

/-- The octets of a member: its key, the colon and its value. -/
def memberSize (p : Text × Value) : ℕ := utf8Length (writeString p.1) + 1 + size p.2

/-- Brackets and separators of one octet each. -/
theorem utf8Length_bracket (level : ℕ) {opening closing : CodePoint} (parts : List Text)
    (hOpening : utf8Length [opening] = 1) (hClosing : utf8Length [closing] = 1) :
    utf8Length (bracket .compactSorted level opening closing parts)
      = 2 + (parts.map utf8Length).sum + (parts.length - 1) := by
  cases parts with
  | nil =>
      show utf8Length [opening, closing] = 2
      rw [utf8Length_cons, hOpening, hClosing]
  | cons part parts =>
      have hParts : (part :: parts).map (fun p => newline .compactSorted (level + 1) ++ p)
          = part :: parts := List.map_id _
      show utf8Length (opening :: bodyText .compactSorted level closing (part :: parts)) = _
      rw [bodyText, hParts, utf8Length_cons, utf8Length_append,
        @utf8Length_joinSep 0x2C rfl]
      show _ + (_ + utf8Length [closing]) = _
      rw [hOpening, hClosing]
      omega

/-- A member takes its key, a colon and its value. -/
theorem utf8Length_memberText (level : ℕ) (p : Text × Value) :
    utf8Length (memberText .compactSorted level p)
      = utf8Length (writeString p.1) + 1 + utf8Length (render .compactSorted level p.2) := by
  show utf8Length (writeString p.1 ++ [0x3A] ++ render .compactSorted level p.2) = _
  rw [utf8Length_append, utf8Length_append]
  rfl

/-- Without an indent the level at which a value stands is not seen. -/
theorem utf8Length_render (level : ℕ) (v : Value) :
    utf8Length (render .compactSorted level v) = size v := by
  induction v using Value.induct generalizing level with
  | null => rfl
  | bool b => rfl
  | str s => rfl
  | int n => rfl
  | float x => rfl
  | seq kind xs ih =>
      have hParts : (xs.map (render .compactSorted (level + 1))).map utf8Length
          = (xs.map (render .compactSorted (0 + 1))).map utf8Length := by
        rw [List.map_map, List.map_map]
        exact List.map_congr_left (fun x hx => (ih x hx _).trans (ih x hx _).symm)
      rw [size, render_seq, render_seq, utf8Length_bracket _ _ rfl rfl,
        utf8Length_bracket _ _ rfl rfl, hParts, List.length_map, List.length_map]
  | obj m ih =>
      have hParts : ((arrange .compactSorted m).map (memberText .compactSorted (level + 1))).map
            utf8Length
          = ((arrange .compactSorted m).map (memberText .compactSorted (0 + 1))).map utf8Length :=
            by
        rw [List.map_map, List.map_map]
        refine List.map_congr_left (fun p hp => ?_)
        show utf8Length (memberText _ _ p) = utf8Length (memberText _ _ p)
        rw [utf8Length_memberText, utf8Length_memberText, ih p (mem_arrange.1 hp),
          ih p (mem_arrange.1 hp)]
      rw [size, render_obj, render_obj, utf8Length_bracket _ _ rfl rfl,
        utf8Length_bracket _ _ rfl rfl, hParts, List.length_map, List.length_map]

/-- An array takes its elements, its brackets and the commas between. -/
theorem size_seq (kind : SeqKind) (xs : List Value) :
    size (.seq kind xs) = 2 + (xs.map size).sum + (xs.length - 1) := by
  rw [size, render_seq, utf8Length_bracket _ _ rfl rfl, List.map_map, List.length_map]
  congr 3
  exact List.map_congr_left (fun x _ => utf8Length_render _ x)

/-- The order of members does not change the size. -/
theorem size_obj (m : Members) :
    size (.obj m) = 2 + (m.map memberSize).sum + (m.length - 1) := by
  rw [size, render_obj, utf8Length_bracket _ _ rfl rfl, List.map_map, List.length_map,
    length_arrange]
  congr 2
  have hParts : (arrange .compactSorted m).map
      (utf8Length ∘ memberText .compactSorted (0 + 1))
      = (arrange .compactSorted m).map memberSize := by
    refine List.map_congr_left (fun p _ => ?_)
    show utf8Length (memberText _ _ p) = memberSize p
    rw [utf8Length_memberText, utf8Length_render]
    rfl
  rw [hParts]
  exact ((sortBy_perm _ m).map memberSize).sum_eq

/-- The keys and the values of an object, apart. -/
theorem size_obj_le (m : Members) : size (.obj m) ≤
    2 + 2 * m.length + ((m.map Prod.fst).map (fun key => utf8Length (writeString key))).sum +
      ((m.map Prod.snd).map size).sum := by
  have hParts : (m.map memberSize).sum = m.length +
      ((m.map Prod.fst).map (fun key => utf8Length (writeString key))).sum +
        ((m.map Prod.snd).map size).sum := by
    induction m with
    | nil => rfl
    | cons p m ih =>
        simp only [List.map_cons, List.sum_cons, List.length_cons, memberSize, ih]
        omega
  rw [size_obj, hParts]
  omega

/-- Two dicts in one share a pair of braces and gain a comma. -/
theorem size_obj_append {m n : Members} (hm : m ≠ []) (hn : n ≠ []) :
    size (.obj (m ++ n)) + 1 = size (.obj m) + size (.obj n) := by
  have hmPos := List.length_pos_iff.2 hm
  have hnPos := List.length_pos_iff.2 hn
  rw [size_obj, size_obj, size_obj, List.map_append, List.sum_append, List.length_append]
  omega

/-- A string takes its quoted text. -/
theorem size_str (s : Text) : size (.str s) = utf8Length (writeString s) := rfl

/-- Characters that are written as they are, one octet each. -/
def IsPlain (c : CodePoint) : Prop := escape c = [c] ∧ c.val < 0x80

instance (c : CodePoint) : Decidable (IsPlain c) := inferInstanceAs (Decidable (_ ∧ _))

/-- A test for a text of plain characters. -/
theorem isPlain_of_all {s : Text} (h : s.all (fun c => decide (IsPlain c)) = true) :
    ∀ c ∈ s, IsPlain c :=
  fun c hc => of_decide_eq_true (List.all_eq_true.1 h c hc)

/-- Printable ASCII other than the quote and the backslash is plain. -/
theorem isPlain_of_val {c : CodePoint} (hLow : 0x20 ≤ c.val) (hHigh : c.val < 0x80)
    (hQuote : c.val ≠ 0x22) (hBackslash : c.val ≠ 0x5C) : IsPlain c := by
  have hShort : shortEscape c = none := by
    unfold shortEscape
    repeat rw [if_neg (by rintro rfl; revert hLow hQuote hBackslash; decide)]
  refine ⟨?_, hHigh⟩
  unfold escape
  rw [hShort]
  simp only [if_neg (not_lt.2 hLow)]

/-- A plain text takes its length and two quotes. -/
theorem size_str_of_isPlain {s : Text} (h : ∀ c ∈ s, IsPlain c) : size (.str s) = s.length + 2 := by
  have hText : ∀ {s : Text}, (∀ c ∈ s, IsPlain c) → utf8Length (escapeText s) = s.length := by
    intro s
    induction s with
    | nil => exact fun _ => rfl
    | cons c s ih =>
        intro h
        obtain ⟨hc, hs⟩ := List.forall_mem_cons.1 h
        have hOne : utf8Length [c] = 1 :=
          utf8Length_of_isAscii (List.forall_mem_singleton.2 hc.2)
        show utf8Length (escape c ++ escapeText s) = _
        rw [hc.1, utf8Length_append, hOne, ih hs, List.length_cons, Nat.add_comm]
  have hQuote : utf8Length [quote] = 1 := rfl
  rw [size_str, writeString, utf8Length_cons, utf8Length_append, hText h, hQuote]
  omega

/-- A test for a literal of a number of plain characters. -/
def isPlainLiteral (length : ℕ) (cs : List Char) : Bool :=
  cs.length == length && cs.all (fun c => decide (IsPlain (CodePoint.ofChar c)))

/-- The same for a literal, by evaluation of a Boolean test. -/
theorem size_literal {length : ℕ} {cs : List Char} (h : isPlainLiteral length cs = true) :
    size (.lit (String.ofList cs)) = length + 2 := by
  rw [isPlainLiteral, Bool.and_eq_true, beq_iff_eq, List.all_eq_true] at h
  have hPlain : ∀ c ∈ py (String.ofList cs), IsPlain c := by
    rw [py_ofList, List.forall_mem_map]
    exact fun c hc => of_decide_eq_true (h.2 c hc)
  show size (.str (py (String.ofList cs))) = _
  rw [size_str_of_isPlain hPlain, py_ofList, List.length_map, h.1]

/-- A character that is not a control character takes at most twice its octets. -/
theorem utf8Length_escape_le_two {c : CodePoint} (h : 0x20 ≤ c.val) :
    utf8Length (escape c) ≤ 2 * utf8Length [c] := by
  unfold escape
  cases hShort : shortEscape c with
  | some letter =>
      have hChar := List.length_pos_iff.2 (utf8Char_ne_nil c)
      have hAscii : Text.IsAscii [backslash, letter] := by
        intro d hd
        rcases List.mem_pair.1 hd with rfl | rfl
        · decide
        · exact shortEscape_isAscii hShort
      show utf8Length [backslash, letter] ≤ _
      rw [utf8Length_of_isAscii hAscii, utf8Length, utf8Raw, List.flatMap_singleton]
      show 2 ≤ _
      omega
  | none =>
      simp only [if_neg (not_lt.2 h)]
      omega

/-- A text whose characters grow by at most a factor grows by at most that factor. -/
theorem utf8Length_escapeText_le {factor : ℕ} {s : Text}
    (h : ∀ c ∈ s, utf8Length (escape c) ≤ factor * utf8Length [c]) :
    utf8Length (escapeText s) ≤ factor * utf8Length s := by
  induction s with
  | nil => exact Nat.zero_le _
  | cons c s ih =>
      obtain ⟨hc, hs⟩ := List.forall_mem_cons.1 h
      have hRest := ih hs
      have hText : utf8Length (escapeText (c :: s)) = utf8Length (escape c) +
        utf8Length (escapeText s) :=
        utf8Length_append (escape c) (escapeText s)
      rw [hText, utf8Length_cons c s, Nat.mul_add]
      omega

/-- A bound on the escape of each code point bounds the text. -/
theorem size_str_le_mul {factor : ℕ} {s : Text}
    (h : ∀ c ∈ s, utf8Length (escape c) ≤ factor * utf8Length [c]) :
    size (.str s) ≤ factor * utf8Length s + 2 := by
  have hQuote : utf8Length [quote] = 1 := rfl
  have hText := utf8Length_escapeText_le h
  rw [size_str, writeString, utf8Length_cons, utf8Length_append, hQuote]
  omega

/-- A number below 10^16 has at most 16 digits. -/
theorem length_natDigits_le {n : ℕ} (h : n < 10 ^ 16) : (natDigits n).length ≤ 16 := by
  unfold natDigits
  split_ifs
  · exact Nat.le_of_ble_eq_true rfl
  · rw [Decimal.digitList, List.length_reverse]
    exact (Nat.digits_length_le_iff (by decide) _).2 h

/-- The token of an integer is plain ASCII. -/
theorem isAscii_intToken (n : ℤ) : Text.IsAscii (intToken n).text := by
  have hDigits : Text.IsAscii (digitsText (natDigits n.natAbs)) := by
    intro c hc
    obtain ⟨d, -, rfl⟩ := List.mem_map.1 hc
    show 48 + d % 10 < 0x80
    omega
  have hSign : Text.IsAscii (if (intToken n).negative then [0x2D] else []) := by
    split_ifs <;> decide
  show Text.IsAscii (_ ++ digitsText (natDigits n.natAbs) ++ [] ++ [])
  rw [List.append_nil, List.append_nil]
  exact List.forall_mem_append.2 ⟨hSign, hDigits⟩

/-- An integer of at most sixteen digits. -/
theorem size_int_le {n : ℤ} (h : n.natAbs < 10 ^ 16) : size (.int n) ≤ 17 := by
  have hSign : (if (intToken n).negative then [(0x2D : CodePoint)] else []).length ≤ 1 := by
    split_ifs
    · exact Nat.le_refl 1
    · exact Nat.zero_le 1
  have hDigits := length_natDigits_le h
  show utf8Length (intToken n).text ≤ 17
  rw [utf8Length_of_isAscii (isAscii_intToken n)]
  show (_ ++ digitsText (natDigits n.natAbs) ++ [] ++ []).length ≤ 17
  rw [List.append_nil, List.append_nil, List.length_append, digitsText, List.length_map]
  omega

/-! ## Values that can be written -/

/-- The empty text encodes. -/
theorem Text.encodable_nil : Text.Encodable [] := fun _ h => absurd h List.not_mem_nil

/-- A text encodes when none of its code points is a surrogate. -/
theorem Text.encodable_cons {c : CodePoint} {t : Text} :
    Text.Encodable (c :: t) ↔ ¬ c.IsSurrogate ∧ Text.Encodable t := List.forall_mem_cons

/-- Joined parts encode exactly when each part does. -/
theorem encodable_joinSep {sep : CodePoint} (hSep : ¬ sep.IsSurrogate) (parts : List Text) :
    Text.Encodable (PrefixCode.joinSep sep parts) ↔ ∀ part ∈ parts, Text.Encodable part := by
  induction parts with
  | nil => simp [Text.encodable_nil]
  | cons part parts ih =>
      cases parts with
      | nil => simp
      | cons next rest =>
          rw [PrefixCode.joinSep_cons_cons, Text.encodable_append, Text.encodable_cons, ih,
            List.forall_mem_cons (l := next :: rest)]
          exact ⟨fun h => ⟨h.1, h.2.2⟩, fun h => ⟨h.1, hSep, h.2⟩⟩

/-- So do bracketed parts. -/
theorem encodable_bracket (level : ℕ) {opening closing : CodePoint} (parts : List Text)
    (hOpening : ¬ opening.IsSurrogate) (hClosing : ¬ closing.IsSurrogate) :
    Text.Encodable (bracket .compactSorted level opening closing parts)
      ↔ ∀ part ∈ parts, Text.Encodable part := by
  have hStop : Text.Encodable [closing] := Text.encodable_cons.2 ⟨hClosing, Text.encodable_nil⟩
  cases parts with
  | nil =>
      show Text.Encodable (opening :: [closing]) ↔ _
      rw [Text.encodable_cons]
      simp [hOpening, hStop]
  | cons part parts =>
      have hParts : (part :: parts).map (fun p => newline .compactSorted (level + 1) ++ p)
          = part :: parts := List.map_id _
      show Text.Encodable (opening :: bodyText .compactSorted level closing (part :: parts)) ↔ _
      rw [bodyText, hParts, Text.encodable_cons, Text.encodable_append,
        @encodable_joinSep 0x2C (by decide)]
      exact ⟨fun h => h.2.1, fun h => ⟨hOpening, h, hStop⟩⟩

/-- A member encodes when its key and its value do. -/
theorem encodable_memberText (level : ℕ) (p : Text × Value) :
    Text.Encodable (memberText .compactSorted level p)
      ↔ Text.Encodable (writeString p.1) ∧ Text.Encodable (render .compactSorted level p.2) := by
  have hColon : Text.Encodable [0x3A] := Text.IsAscii.encodable (by decide)
  show Text.Encodable (writeString p.1 ++ [0x3A] ++ render .compactSorted level p.2) ↔ _
  rw [Text.encodable_append, Text.encodable_append]
  exact ⟨fun h => ⟨h.1.1, h.2⟩, fun h => ⟨⟨h.1, hColon⟩, h.2⟩⟩

/-- In the compact style the level does not matter for encoding. -/
theorem encodable_render (level : ℕ) (v : Value) :
    Text.Encodable (render .compactSorted level v) ↔
      Text.Encodable (render .compactSorted 0 v) := by
  induction v using Value.induct generalizing level with
  | null => rfl
  | bool b => rfl
  | str s => rfl
  | int n => rfl
  | float x => rfl
  | seq kind xs ih =>
      rw [render_seq, render_seq, encodable_bracket _ _ (by decide) (by decide),
        encodable_bracket _ _ (by decide) (by decide), List.forall_mem_map, List.forall_mem_map]
      exact forall₂_congr (fun x hx => (ih x hx _).trans (ih x hx _).symm)
  | obj m ih =>
      rw [render_obj, render_obj, encodable_bracket _ _ (by decide) (by decide),
        encodable_bracket _ _ (by decide) (by decide), List.forall_mem_map, List.forall_mem_map]
      refine forall₂_congr (fun p hp => ?_)
      rw [encodable_memberText, encodable_memberText, ih p (mem_arrange.1 hp),
        ih p (mem_arrange.1 hp) (0 + 1)]

/-- The value has a compact text, and the text can be encoded. -/
def Printable (v : Value) : Prop :=
  check v = .ok () ∧ Text.Encodable (render .compactSorted 0 v)

/-- Null is printable. -/
theorem printable_null : Printable .null := ⟨rfl, Text.IsAscii.encodable (by decide)⟩

/-- A boolean is printable. -/
theorem printable_bool (b : Bool) : Printable (.bool b) := by
  cases b <;> exact ⟨rfl, Text.IsAscii.encodable (by decide)⟩

/-- A text that encodes is printable. -/
theorem printable_str {s : Text} (h : Text.Encodable s) : Printable (.str s) :=
  ⟨rfl, writeString_encodable h⟩

/-- A small integer is printable. -/
theorem printable_int {n : ℤ} (h : n.natAbs < 10 ^ 16) : Printable (.int n) := by
  have hDigits := length_natDigits_le h
  refine ⟨if_neg ?_, (isAscii_intToken n).encodable⟩
  rw [maxStrDigits]
  omega

/-- An array is printable when its elements are. -/
theorem printable_seq {kind : SeqKind} {xs : List Value} :
    Printable (.seq kind xs) ↔ ∀ x ∈ xs, Printable x := by
  rw [Printable, check, checkItems_eq_ok, render_seq, encodable_bracket _ _ (by decide) (by decide),
    List.forall_mem_map, ← forall₂_and]
  exact forall₂_congr (fun x _ => and_congr_right (fun _ => encodable_render _ x))

/-- An object is printable when its keys encode and its values are printable. -/
theorem printable_obj {m : Members} :
    Printable (.obj m) ↔ ∀ p ∈ m, Text.Encodable (writeString p.1) ∧ Printable p.2 := by
  rw [Printable, check, checkMembers_eq_ok, render_obj,
    encodable_bracket _ _ (by decide) (by decide), List.forall_mem_map]
  constructor
  · rintro ⟨hCheck, hText⟩ p hp
    have hMember := (encodable_memberText _ p).1 (hText p (mem_arrange.2 hp))
    exact ⟨hMember.1, hCheck p hp, (encodable_render _ p.2).1 hMember.2⟩
  · intro h
    refine ⟨fun p hp => (h p hp).2.1, fun p hp => ?_⟩
    obtain ⟨hKey, -, hValue⟩ := h p (mem_arrange.1 hp)
    exact (encodable_memberText _ p).2 ⟨hKey, (encodable_render _ p.2).2 hValue⟩

/-- One member among others. -/
theorem printable_obj_insert {m n : Members} {key : Text} {v : Value} :
    Printable (.obj (m ++ (key, v) :: n))
      ↔ (Text.Encodable (writeString key) ∧ Printable v) ∧ Printable (.obj (m ++ n)) := by
  rw [printable_obj, printable_obj, List.forall_mem_append, List.forall_mem_append,
    List.forall_mem_cons]
  exact and_left_comm

/-- `json.dumps` writes what passes the check, and writes its rendering. -/
theorem dumps_eq_ok {style : Style} {v : Value} {text : Text} :
    dumps style v = .ok text ↔ check v = .ok () ∧ render style 0 v = text := by
  unfold dumps
  rw [Except.bind_eq_ok]
  constructor
  · rintro ⟨_, hCheck, hText⟩
    exact ⟨hCheck, Except.pure_eq_ok.1 hText⟩
  · rintro ⟨hCheck, hText⟩
    exact ⟨(), hCheck, Except.pure_eq_ok.2 hText⟩

/-- Null takes four octets. -/
@[simp] theorem size_null : size .null = 4 := rfl

-- Sizes are compared by their parts; unfolding one would write the text.
attribute [irreducible] size

end Json
