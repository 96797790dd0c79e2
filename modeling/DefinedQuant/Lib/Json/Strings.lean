import DefinedQuant.Lib.Json.Value

/-!
# JSON strings

Writing with `ensure_ascii=False`: the quote, the backslash and the control characters are escaped,
everything else stands for itself. Reading follows Python's strict scanner: a control character is
refused, `\u` escapes may use either case, and two of them that form a surrogate pair give one code
point. The scanner reads back what the writer wrote.
-/

namespace Json

/-- `"` -/
abbrev quote : CodePoint := 0x22

/-- `\` -/
abbrev backslash : CodePoint := 0x5C

/-! ## Writing -/

/-- The letter of a two-character escape. -/
def shortEscape (c : CodePoint) : Option CodePoint :=
  if c = 0x08 then some 0x62
  else if c = 0x09 then some 0x74
  else if c = 0x0A then some 0x6E
  else if c = 0x0C then some 0x66
  else if c = 0x0D then some 0x72
  else if c = quote then some quote
  else if c = backslash then some backslash
  else none

theorem shortEscape_quote : shortEscape quote = some quote := rfl

theorem shortEscape_backslash : shortEscape backslash = some backslash := rfl

/-- One character of a JSON string. -/
def escape (c : CodePoint) : Text :=
  match shortEscape c with
  | some letter => [backslash, letter]
  | none =>
      if c.val < 0x20 then [backslash, 0x75, 0x30, 0x30] ++ hexByte (Byte.ofNat c.val) else [c]

/-- The characters of a JSON string, without the quotes. -/
def escapeText (s : Text) : Text := s.flatMap escape

/-- A JSON string. -/
def writeString (s : Text) : Text := quote :: (escapeText s ++ [quote])

/-! ## Reading -/

/-- The character a two-character escape stands for. -/
def unescape (letter : CodePoint) : Option CodePoint :=
  if letter = quote then some quote
  else if letter = backslash then some backslash
  else if letter = 0x2F then some 0x2F
  else if letter = 0x62 then some 0x08
  else if letter = 0x66 then some 0x0C
  else if letter = 0x6E then some 0x0A
  else if letter = 0x72 then some 0x0D
  else if letter = 0x74 then some 0x09
  else none

/-- The value of a hexadecimal digit of either case. -/
def hexValue (c : CodePoint) : Option (Fin 16) :=
  if h : 48 ≤ c.val ∧ c.val ≤ 57 then some ⟨c.val - 48, by omega⟩
  else if h : 97 ≤ c.val ∧ c.val ≤ 102 then some ⟨c.val - 87, by omega⟩
  else if h : 65 ≤ c.val ∧ c.val ≤ 70 then some ⟨c.val - 55, by omega⟩
  else none

/-- The four hexadecimal digits after `\u`. -/
def scanHex4 : Text → Option (Fin 0x10000 × Text)
  | a :: b :: c :: d :: rest => do
      let a ← hexValue a
      let b ← hexValue b
      let c ← hexValue c
      let d ← hexValue d
      return (⟨a.val * 4096 + b.val * 256 + c.val * 16 + d.val, by omega⟩, rest)
  | _ => none

/-- The code point of a `\u` escape, or of two that form a surrogate pair. -/
def scanUnicode (t : Text) : Option (CodePoint × Text) := do
  let (high, rest) ← scanHex4 t
  let alone : CodePoint := ⟨high.val, by omega⟩
  if 0xD800 ≤ high.val ∧ high.val ≤ 0xDBFF then
    match rest with
    | 0x5C :: 0x75 :: rest' =>
        let (low, rest'') ← scanHex4 rest'
        if h : 0xDC00 ≤ low.val ∧ low.val ≤ 0xDFFF then
          return (⟨0x10000 + ((high.val - 0xD800) % 0x400) * 0x400 + (low.val - 0xDC00), by omega⟩,
            rest'')
        else return (alone, rest)
    | _ => return (alone, rest)
  else return (alone, rest)

/-- One character of a JSON string. -/
def scanChar : Text → Option (CodePoint × Text)
  | [] => none
  | c :: rest =>
      if c.val < 0x20 then none
      else if c = backslash then
        match rest with
        | [] => none
        | letter :: rest =>
            if letter = 0x75 then scanUnicode rest
            else (unescape letter).map (fun d => (d, rest))
      else some (c, rest)

/-- The characters of a JSON string up to its closing quote. -/
def scanString : ℕ → Text → Option (Text × Text)
  | 0, _ => none
  | _, [] => none
  | fuel + 1, c :: rest =>
      if c = quote then some ([], rest)
      else do
        let (d, rest) ← scanChar (c :: rest)
        let (s, rest) ← scanString fuel rest
        return (d :: s, rest)

/-! ## The scanner reads what the writer wrote -/

theorem hexValue_hexDigit : ∀ n : Fin 16, hexValue (hexDigit n) = some n := by
  decide

theorem scanHex4_hexByte (b : Byte) (rest : Text) :
    scanHex4 ([0x30, 0x30] ++ hexByte b ++ rest) = some (⟨b.val, by omega⟩, rest) := by
  have hZero : hexValue 0x30 = some 0 := rfl
  simp only [hexByte, List.cons_append, List.nil_append, scanHex4, hZero, hexValue_hexDigit,
    Option.bind_eq_bind, Option.bind_some, Option.pure_def, Option.some.injEq, Prod.mk.injEq,
    and_true, Fin.mk.injEq, Fin.val_zero]
  omega

theorem scanUnicode_control {c : CodePoint} (h : c.val < 0x20) (rest : Text) :
    scanUnicode ([0x30, 0x30] ++ hexByte (Byte.ofNat c.val) ++ rest) = some (c, rest) := by
  have hVal : c.val % 256 = c.val := by omega
  unfold scanUnicode
  rw [scanHex4_hexByte]
  simp only [Byte.val_ofNat, hVal, Option.bind_eq_bind, Option.bind_some]
  rw [if_neg (by omega)]
  rfl

/-- The scanner reads one written character back, whatever follows. -/
theorem scanChar_escape (c : CodePoint) (rest : Text) :
    scanChar (escape c ++ rest) = some (c, rest) := by
  unfold escape
  cases hShort : shortEscape c with
  | some letter =>
      unfold shortEscape at hShort
      split_ifs at hShort with h1 h2 h3 h4 h5 h6 h7 <;> cases hShort <;> subst c <;> rfl
  | none =>
      by_cases hControl : c.val < 0x20
      · simp only [if_pos hControl]
        exact scanUnicode_control hControl rest
      · have hSlash : c ≠ backslash := by
          rintro rfl
          rw [shortEscape_backslash] at hShort
          cases hShort
        simp only [if_neg hControl, List.cons_append, List.nil_append, scanChar, if_neg hSlash]

/-- A written character does not begin with the closing quote. -/
theorem escape_head (c : CodePoint) : ∃ d rest, escape c = d :: rest ∧ d ≠ quote := by
  unfold escape
  cases hShort : shortEscape c with
  | some letter => exact ⟨backslash, [letter], rfl, by decide⟩
  | none =>
      by_cases hControl : c.val < 0x20
      · simp only [if_pos hControl]
        exact ⟨backslash, _, rfl, by decide⟩
      · simp only [if_neg hControl]
        refine ⟨c, [], rfl, ?_⟩
        rintro rfl
        rw [shortEscape_quote] at hShort
        cases hShort

/-- The code of escaped characters is self-delimiting. -/
theorem escape_selfDelimiting : PrefixCode.SelfDelimiting escape :=
  PrefixCode.selfDelimiting_of_reader scanChar scanChar_escape

theorem escape_not_quote (c : CodePoint) (r s : Text) : escape c ++ r ≠ quote :: s := by
  obtain ⟨d, rest, h, hd⟩ := escape_head c
  rw [h]
  intro hEq
  exact hd (List.head_eq_of_cons_eq hEq)

/-- JSON strings are self-delimiting. -/
theorem writeString_selfDelimiting : PrefixCode.SelfDelimiting writeString := by
  intro s t q r hEq
  have hBody : s.flatMap escape ++ quote :: q = t.flatMap escape ++ quote :: r := by
    have hTail := List.tail_eq_of_cons_eq hEq
    simpa [escapeText] using hTail
  exact PrefixCode.flatMap_stop_inj escape_selfDelimiting escape_not_quote s t q r hBody

/-- With enough fuel the scanner reads a written string back. -/
theorem scanString_escapeText : ∀ (s : Text) (fuel : ℕ) (rest : Text),
    (escapeText s).length < fuel →
    scanString fuel (escapeText s ++ quote :: rest) = some (s, rest)
  | [], fuel, rest, hFuel => by
      obtain ⟨fuel, rfl⟩ : ∃ k, fuel = k + 1 := ⟨fuel - 1, by omega⟩
      simp [escapeText, scanString]
  | c :: s, fuel, rest, hFuel => by
      obtain ⟨d, tail, hHead, hd⟩ := escape_head c
      have hSplit : escapeText (c :: s) = escape c ++ escapeText s := rfl
      have hLen : (escape c).length = tail.length + 1 := by rw [hHead, List.length_cons]
      rw [hSplit, List.length_append] at hFuel
      obtain ⟨fuel, rfl⟩ : ∃ k, fuel = k + 1 := ⟨fuel - 1, by omega⟩
      have hIh := scanString_escapeText s fuel rest (by omega)
      have hChar := scanChar_escape c (escapeText s ++ quote :: rest)
      rw [hSplit, List.append_assoc]
      rw [hHead, List.cons_append] at hChar ⊢
      rw [scanString, if_neg hd, hChar]
      simp [hIh]

/-! ## UTF-8 form -/

/-- The letters of the two-character escapes are ASCII. -/
theorem shortEscape_isAscii {c letter : CodePoint} (h : shortEscape c = some letter) :
    letter.val < 0x80 := by
  unfold shortEscape at h
  split_ifs at h <;> cases h <;> decide

/-- Escaping keeps text encodable. -/
theorem escape_encodable {c : CodePoint} (h : ¬ c.IsSurrogate) : Text.Encodable (escape c) := by
  unfold escape
  cases hShort : shortEscape c with
  | some letter =>
      refine Text.IsAscii.encodable ?_
      intro d hd
      rcases List.mem_cons.1 hd with rfl | hd
      · decide
      · rw [List.mem_singleton.1 hd]
        exact shortEscape_isAscii hShort
  | none =>
      by_cases hControl : c.val < 0x20
      · have hHex : Bytes.hex [Byte.ofNat c.val] = hexByte (Byte.ofNat c.val) := rfl
        simp only [if_pos hControl, Text.encodable_append]
        rw [← hHex]
        exact ⟨Text.IsAscii.encodable (by decide), (Bytes.isAscii_hex _).encodable⟩
      · simp only [if_neg hControl]
        intro d hd
        rw [List.mem_singleton] at hd
        exact hd ▸ h

theorem escapeText_encodable {s : Text} (h : Text.Encodable s) : Text.Encodable (escapeText s) := by
  intro c hc
  obtain ⟨d, hd, hcd⟩ := List.mem_flatMap.1 hc
  exact escape_encodable (h d hd) c hcd

theorem writeString_encodable {s : Text} (h : Text.Encodable s) :
    Text.Encodable (writeString s) := by
  have hQuote : Text.Encodable [quote] := Text.IsAscii.encodable (by decide)
  have hBody : Text.Encodable ([quote] ++ (escapeText s ++ [quote])) :=
    Text.encodable_append.2
      ⟨hQuote, Text.encodable_append.2 ⟨escapeText_encodable h, hQuote⟩⟩
  exact hBody

end Json
