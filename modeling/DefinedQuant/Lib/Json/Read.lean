import DefinedQuant.Lib.Json.Write

/-!
# Reading JSON

`loads` is `json.loads` with hooks that refuse duplicate keys and the constants `NaN`, `Infinity`
and `-Infinity`. An opening symbol takes two calls of the reader, so twice the length of the text
bounds the depth of the recursion, and the fuel it is given is never the reason for a refusal.

`loads_dumps` is the round trip: a written value reads back as its normal form.
-/

namespace Json

/-- `JSONDecodeError` -/
def malformed : ValueError := ⟨"JSON document is malformed"⟩

/-- The white space of JSON. -/
def isSpace (c : CodePoint) : Bool := c == 0x20 || c == 0x09 || c == 0x0A || c == 0x0D

/-- The text after its leading white space. -/
def skipSpace (t : Text) : Text := t.dropWhile isSpace

/-- The text after a given beginning. -/
def strip : Text → Text → Option Text
  | [], t => some t
  | _ :: _, [] => none
  | a :: p, b :: t => if a = b then strip p t else none

/-- The refusal of a constant that JSON does not have. -/
def nonFinite (token : String) : ValueError :=
  ⟨"non-finite JSON number '" ++ token ++ "' is not permitted"⟩

/-- A literal or a number at the front of the text. -/
def parseScalar (t : Text) : Except ValueError (Value × Text) :=
  match strip (py "null") t, strip (py "true") t, strip (py "false") t with
  | some rest, _, _ => .ok (.null, rest)
  | _, some rest, _ => .ok (.bool true, rest)
  | _, _, some rest => .ok (.bool false, rest)
  | _, _, _ =>
      match scanNumber t with
      | some (token, rest) => do return (← token.value, rest)
      | none =>
          if (strip (py "NaN") t).isSome then .error (nonFinite "NaN")
          else if (strip (py "Infinity") t).isSome then .error (nonFinite "Infinity")
          else if (strip (py "-Infinity") t).isSome then .error (nonFinite "-Infinity")
          else .error malformed

/-- `object_pairs_hook` -/
def uniqueKeys (m : Members) : Except ValueError Value :=
  if (m.map Prod.fst).Nodup then .ok (.obj m) else .error ⟨"JSON object keys must be unique"⟩

mutual

/-- The value at the front of the text. -/
def parseValue : ℕ → Text → Except ValueError (Value × Text)
  | 0, _ => .error malformed
  | _ + 1, [] => .error malformed
  | fuel + 1, c :: rest =>
      if c = quote then
        match scanString (rest.length + 1) rest with
        | some (s, rest) => .ok (.str s, rest)
        | none => .error malformed
      else if c = 0x5B then
        match strip [0x5D] (skipSpace rest) with
        | some rest => .ok (.list [], rest)
        | none => do
            let (xs, rest) ← parseItems fuel (skipSpace rest)
            return (.list xs, rest)
      else if c = 0x7B then
        match strip [0x7D] (skipSpace rest) with
        | some rest => .ok (.obj [], rest)
        | none => do
            let (m, rest) ← parseMembers fuel (skipSpace rest)
            return (← uniqueKeys m, rest)
      else parseScalar (c :: rest)

/-- The items of an array up to its closing bracket. -/
def parseItems : ℕ → Text → Except ValueError (List Value × Text)
  | 0, _ => .error malformed
  | fuel + 1, t => do
      let (x, rest) ← parseValue fuel t
      match skipSpace rest with
      | 0x2C :: rest => do
          let (xs, rest) ← parseItems fuel (skipSpace rest)
          return (x :: xs, rest)
      | 0x5D :: rest => return ([x], rest)
      | _ => .error malformed

/-- The members of an object up to its closing brace. -/
def parseMembers : ℕ → Text → Except ValueError (Members × Text)
  | 0, _ => .error malformed
  | _ + 1, [] => .error malformed
  | fuel + 1, c :: rest =>
      if c = quote then
        match scanString (rest.length + 1) rest with
        | none => .error malformed
        | some (key, rest) =>
            match skipSpace rest with
            | 0x3A :: rest => do
                let (x, rest) ← parseValue fuel (skipSpace rest)
                match skipSpace rest with
                | 0x2C :: rest => do
                    let (m, rest) ← parseMembers fuel (skipSpace rest)
                    return ((key, x) :: m, rest)
                | 0x7D :: rest => return ([(key, x)], rest)
                | _ => .error malformed
            | _ => .error malformed
      else .error malformed

end

/-- `json.loads(text, object_pairs_hook=..., parse_constant=...)` -/
def loads (t : Text) : Except ValueError Value := do
  let (v, rest) ← parseValue (2 * t.length + 1) (skipSpace t)
  if skipSpace rest = [] then return v else throw malformed

/-! ## Text around a value -/

/-- A prefix that was put in front comes off again. -/
theorem strip_append (p t : Text) : strip p (p ++ t) = some t := by
  induction p with
  | nil => rfl
  | cons a p ih => rw [List.cons_append, strip, if_pos rfl, ih]

/-- A text with another first symbol has no such prefix. -/
theorem strip_cons_ne {a b : CodePoint} (h : a ≠ b) (p t : Text) :
    strip (a :: p) (b :: t) = none := by
  rw [strip, if_neg h]

/-- White space ends at the first symbol that is none. -/
theorem skipSpace_cons {c : CodePoint} (h : isSpace c = false) (t : Text) :
    skipSpace (c :: t) = c :: t := by
  rw [skipSpace, List.dropWhile_cons, h]
  rfl

/-- A line break with its indentation is white space. -/
theorem isSpace_of_mem_newline {style : Style} {level : ℕ} {c : CodePoint}
    (h : c ∈ newline style level) : isSpace c = true := by
  unfold newline at h
  cases hIndent : style.indent with
  | none => simp [hIndent] at h
  | some width =>
      simp only [hIndent, List.mem_cons] at h
      rcases h with rfl | h
      · rfl
      · rw [List.eq_of_mem_replicate h]
        rfl

/-- The line break before an item is skipped. -/
theorem skipSpace_newline (style : Style) (level : ℕ) (t : Text) :
    skipSpace (newline style level ++ t) = skipSpace t := by
  unfold skipSpace
  exact List.dropWhile_append_of_pos (fun c hc => isSpace_of_mem_newline hc)

/-- A symbol that can follow a value: it continues no number. -/
theorem endsNumber_newline (style : Style) (level : ℕ) {c : CodePoint} (hc : EndsNumber [c])
    (t : Text) : EndsNumber (newline style level ++ c :: t) := by
  intro d tail h
  unfold newline at h
  cases hIndent : style.indent with
  | none =>
      simp only [hIndent, List.nil_append] at h
      obtain rfl := List.head_eq_of_cons_eq h
      exact hc _ [] rfl
  | some width =>
      simp only [hIndent] at h
      obtain rfl := List.head_eq_of_cons_eq h
      exact ⟨rfl, by decide, by decide, by decide⟩

/-- Whether a number ends here depends on the next symbol only. -/
theorem endsNumber_symbol {c : CodePoint} (hc : EndsNumber [c]) (t : Text) :
    EndsNumber (c :: t) := by
  intro d tail h
  obtain rfl := List.head_eq_of_cons_eq h
  exact hc _ [] rfl

/-- A number ends at the end of the text. -/
theorem endsNumber_nil : EndsNumber [] := fun _ _ h => nomatch h

/-- A number ends before every symbol that could not continue it. -/
private theorem endsNumber_single {c : CodePoint}
    (h : digit? c = none ∧ c ≠ 0x2E ∧ c ≠ 0x65 ∧ c ≠ 0x45) : EndsNumber [c] := by
  intro d tail hEq
  obtain rfl := List.head_eq_of_cons_eq hEq
  exact h

/-- A number ends before a comma. -/
theorem endsNumber_comma : EndsNumber [0x2C] := endsNumber_single (by decide)

/-- A number ends before a closing bracket. -/
theorem endsNumber_bracket : EndsNumber [0x5D] := endsNumber_single (by decide)

/-- A number ends before a closing brace. -/
theorem endsNumber_brace : EndsNumber [0x7D] := endsNumber_single (by decide)

/-- A number ends before a line break. -/
theorem endsNumber_lineFeed : EndsNumber [0x0A] := endsNumber_single (by decide)

/-! ## Numbers and literals -/

/-- The first symbol of a number literal. -/
def StartsNumber (c : CodePoint) : Prop := c = 0x2D ∨ ∃ d, c = digitChar d

/-- A number opens with the minus sign or a digit. -/
theorem StartsNumber.range {c : CodePoint} (h : StartsNumber c) : 45 ≤ c.val ∧ c.val ≤ 57 := by
  rcases h with rfl | ⟨d, rfl⟩
  · decide
  · have hVal : (digitChar d).val = 48 + d % 10 := rfl
    omega

/-- The text of a number token is not empty, and its first symbol opens a number. -/
theorem NumberToken.text_head {t : NumberToken} (ht : t.WellFormed) :
    ∃ c rest, t.text = c :: rest ∧ StartsNumber c := by
  obtain ⟨d, ds, hInteger⟩ := List.exists_cons_of_ne_nil ht.integer.1
  unfold NumberToken.text
  rw [hInteger]
  cases t.negative with
  | true => exact ⟨0x2D, _, rfl, Or.inl rfl⟩
  | false => exact ⟨digitChar d, _, rfl, Or.inr ⟨d, rfl⟩⟩

/-- A written number is read as a number. -/
theorem parseScalar_token {t : NumberToken} (ht : t.WellFormed) {v : Value}
    (hv : t.value = .ok v) {rest : Text} (hRest : EndsNumber rest) :
    parseScalar (t.text ++ rest) = .ok (v, rest) := by
  obtain ⟨c, tail, hText, hStart⟩ := t.text_head ht
  have hRange := hStart.range
  have hNone : ∀ {a : CodePoint} (p : Text), 57 < a.val → strip (a :: p) (t.text ++ rest) =
    none := by
    intro a p ha
    rw [hText, List.cons_append]
    refine strip_cons_ne ?_ _ _
    rintro rfl
    omega
  have hNull : strip (py "null") (t.text ++ rest) = none := hNone _ (by decide)
  have hTrue : strip (py "true") (t.text ++ rest) = none := hNone _ (by decide)
  have hFalse : strip (py "false") (t.text ++ rest) = none := hNone _ (by decide)
  unfold parseScalar
  rw [hNull, hTrue, hFalse, scanNumber_text ht hRest]
  simp only [hv]
  rfl

/-- `null` is read as null. -/
theorem parseScalar_null (rest : Text) : parseScalar (py "null" ++ rest) = .ok (.null, rest) := by
  unfold parseScalar
  rw [strip_append]

/-- `true` and `false` are read as booleans. -/
theorem parseScalar_bool (b : Bool) (rest : Text) :
    parseScalar ((if b then py "true" else py "false") ++ rest) = .ok (.bool b, rest) := by
  cases b <;> rfl

/-- A value whose text starts with a symbol that opens no string, array or object is a scalar. -/
theorem parseValue_scalar {fuel : ℕ} {t : Text} (hFuel : t.length < fuel) {c : CodePoint}
    {tail : Text} (hText : t = c :: tail) (hc : c ≠ quote ∧ c ≠ 0x5B ∧ c ≠ 0x7B) (rest : Text) :
    parseValue fuel (t ++ rest) = parseScalar (t ++ rest) := by
  obtain ⟨fuel, rfl⟩ : ∃ k, fuel = k + 1 := ⟨fuel - 1, by omega⟩
  subst hText
  rw [List.cons_append, parseValue, if_neg hc.1, if_neg hc.2.1, if_neg hc.2.2]

/-! ## Every written value begins with a visible symbol -/

/-- The first symbols of values: neither a closing bracket nor a byte-order mark is one. -/
def StartsValue (c : CodePoint) : Prop :=
  isSpace c = false ∧ c ≠ 0x5D ∧ c ≠ 0x7D ∧ c ≠ 0xFEFF

/-- What opens a number opens a value. -/
theorem StartsNumber.startsValue {c : CodePoint} (h : StartsNumber c) : StartsValue c := by
  have hRange := h.range
  refine ⟨?_, ?_, ?_, ?_⟩
  · have h1 : c ≠ 0x20 := by rintro rfl; simp at hRange
    have h2 : c ≠ 0x09 := by rintro rfl; simp at hRange
    have h3 : c ≠ 0x0A := by rintro rfl; simp at hRange
    have h4 : c ≠ 0x0D := by rintro rfl; simp at hRange
    simp [isSpace, h1, h2, h3, h4]
  · rintro rfl; simp at hRange
  · rintro rfl; simp at hRange
  · rintro rfl; simp at hRange

/-- A bracketed body opens with its opening symbol. -/
theorem bracket_head (style : Style) (level : ℕ) (opening closing : CodePoint)
    (parts : List Text) : ∃ rest, bracket style level opening closing parts = opening :: rest := by
  unfold bracket
  split_ifs
  · exact ⟨_, rfl⟩
  · exact ⟨_, rfl⟩

/-- A rendered value opens with a symbol that opens a value, so it is not empty and no white space. -/
theorem render_head (style : Style) (level : ℕ) {v : Value} (hv : check v = .ok ()) :
    ∃ c rest, render style level v = c :: rest ∧ StartsValue c := by
  cases v with
  | null => exact ⟨_, _, rfl, by unfold StartsValue; decide⟩
  | bool b => cases b <;> exact ⟨_, _, rfl, by unfold StartsValue; decide⟩
  | str s => exact ⟨quote, _, rfl, by unfold StartsValue; decide⟩
  | int n =>
      obtain ⟨c, rest, hText, hStart⟩ := (intToken n).text_head (intToken_wellFormed n)
      exact ⟨c, rest, hText, hStart.startsValue⟩
  | float x =>
      cases x with
      | nan => cases hv
      | inf negative => cases hv
      | finite negative m =>
          obtain ⟨c, rest, hText, hStart⟩ :=
            (floatToken negative m).text_head (floatToken_wellFormed negative m)
          exact ⟨c, rest, hText, hStart.startsValue⟩
  | seq kind xs =>
      obtain ⟨rest, h⟩ := bracket_head style level 0x5B 0x5D (renderItems style (level + 1) xs)
      exact ⟨0x5B, rest, h, by unfold StartsValue; decide⟩
  | obj m =>
      obtain ⟨rest, h⟩ := bracket_head style level 0x7B 0x7D
        ((arrange style (renderMembers style (level + 1) m)).map Prod.snd)
      exact ⟨0x7B, rest, h, by unfold StartsValue; decide⟩

/-! ## The round trip -/

/-- What the reader does with a value's text: it takes the text off and returns the normal form. -/
def Reads (style : Style) (v : Value) : Prop :=
  ∀ level fuel rest, (render style level v).length < fuel → EndsNumber rest →
    parseValue fuel (render style level v ++ rest) = .ok (normal style v, rest)

section Body

variable {style : Style} {level : ℕ} {closing : CodePoint}

/-- The body of one part, taken apart. -/
theorem bodyText_singleton (p rest : Text) :
    bodyText style level closing [p] ++ rest
      = newline style (level + 1) ++ (p ++ (newline style level ++ closing :: rest)) := by
  simp [bodyText]

/-- The body of several parts, taken apart at the first comma. -/
theorem bodyText_cons (p q : Text) (ps : List Text) (rest : Text) :
    bodyText style level closing (p :: q :: ps) ++ rest
      = newline style (level + 1) ++
          (p ++ (0x2C :: (bodyText style level closing (q :: ps) ++ rest))) := by
  simp [bodyText]

/-- The one part of a body is shorter than the body. -/
theorem bodyText_length_singleton (p : Text) :
    p.length < (bodyText style level closing [p]).length := by
  simp [bodyText]
  omega

/-- The first part and the rest of a body are together shorter than the body. -/
theorem bodyText_length_cons (p q : Text) (ps : List Text) :
    p.length + (bodyText style level closing (q :: ps)).length
      < (bodyText style level closing (p :: q :: ps)).length := by
  simp [bodyText]
  omega

/-- The line break before a visible symbol is skipped. -/
theorem skipSpace_newline_cons {c : CodePoint} (hc : isSpace c = false) (t : Text) :
    skipSpace (newline style level ++ c :: t) = c :: t := by
  rw [skipSpace_newline, skipSpace_cons hc]

end Body

/-- A text whose first symbol is visible. -/
theorem skipSpace_of_head {t : Text} {c : CodePoint} {tail : Text} (ht : t = c :: tail)
    (hc : isSpace c = false) (rest : Text) : skipSpace (t ++ rest) = t ++ rest := by
  subst ht
  exact skipSpace_cons hc _

/-- The last item of an array. -/
theorem parseItems_last {fuel : ℕ} {t rest rest' : Text} {x : Value}
    (hx : parseValue fuel t = .ok (x, rest)) (hClose : skipSpace rest = 0x5D :: rest') :
    parseItems (fuel + 1) t = .ok ([x], rest') := by
  rw [parseItems, hx]
  simp only [bind, Except.bind, hClose]
  rfl

/-- An item of an array that a comma follows. -/
theorem parseItems_more {fuel : ℕ} {t rest rest' rest'' : Text} {x : Value} {xs : List Value}
    (hx : parseValue fuel t = .ok (x, rest)) (hComma : skipSpace rest = 0x2C :: rest')
    (hxs : parseItems fuel (skipSpace rest') = .ok (xs, rest'')) :
    parseItems (fuel + 1) t = .ok (x :: xs, rest'') := by
  rw [parseItems, hx]
  simp only [bind, Except.bind, hComma, hxs]
  rfl

/-- The reader takes a nonempty run of items off the text. -/
theorem parseItems_bodyText (style : Style) (level : ℕ) :
    ∀ (xs : List Value), xs ≠ [] → (∀ x ∈ xs, check x = .ok () ∧ Reads style x) →
    ∀ (fuel : ℕ) (rest : Text),
      (bodyText style level 0x5D (xs.map (render style (level + 1)))).length < fuel →
      parseItems fuel
          (skipSpace (bodyText style level 0x5D (xs.map (render style (level + 1))) ++ rest))
        = .ok (xs.map (normal style), rest)
  | [], hNe, _, _, _, _ => absurd rfl hNe
  | [x], _, hxs, fuel, rest, hFuel => by
      obtain ⟨hCheck, hReads⟩ := hxs x List.mem_cons_self
      obtain ⟨c, tail, hHead, hStart⟩ := render_head style (level + 1) hCheck
      have hLen := @bodyText_length_singleton style level 0x5D
        (render style (level + 1) x)
      rw [List.map_cons, List.map_nil] at hFuel ⊢
      obtain ⟨fuel, rfl⟩ : ∃ k, fuel = k + 1 := ⟨fuel - 1, by omega⟩
      rw [bodyText_singleton, skipSpace_newline, skipSpace_of_head hHead hStart.1]
      exact parseItems_last
        (hReads (level + 1) fuel _ (by omega) (endsNumber_newline style level endsNumber_bracket
          rest))
        (skipSpace_newline_cons (by decide) rest)
  | x :: y :: xs, _, hxs, fuel, rest, hFuel => by
      obtain ⟨hCheck, hReads⟩ := hxs x List.mem_cons_self
      obtain ⟨c, tail, hHead, hStart⟩ := render_head style (level + 1) hCheck
      have hLen := @bodyText_length_cons style level 0x5D
        (render style (level + 1) x) (render style (level + 1) y)
        (xs.map (render style (level + 1)))
      have hIh := parseItems_bodyText style level (y :: xs) (List.cons_ne_nil _ _)
        (fun z hz => hxs z (List.mem_cons_of_mem _ hz)) (fuel - 1) rest
      rw [List.map_cons] at hFuel hIh ⊢
      rw [List.map_cons] at hFuel ⊢
      obtain ⟨fuel, rfl⟩ : ∃ k, fuel = k + 1 := ⟨fuel - 1, by omega⟩
      rw [bodyText_cons, skipSpace_newline, skipSpace_of_head hHead hStart.1]
      exact parseItems_more
        (hReads (level + 1) fuel _ (by omega) (endsNumber_symbol endsNumber_comma _))
        (skipSpace_cons (by decide) _) (hIh (by omega))

/-- The white space after a key's separator is skipped. -/
theorem skipSpace_keySeparator (style : Style) {t : Text} {c : CodePoint} {tail : Text}
    (ht : t = c :: tail) (hc : isSpace c = false) (rest : Text) :
    ∃ t', skipSpace (keySeparator style ++ (t ++ rest)) = 0x3A :: t' ∧
      skipSpace t' = t ++ rest := by
  unfold keySeparator
  cases style.indent with
  | none =>
      exact ⟨t ++ rest, skipSpace_cons (by decide) _, skipSpace_of_head ht hc rest⟩
  | some width =>
      refine ⟨0x20 :: (t ++ rest), skipSpace_cons (by decide) _, ?_⟩
      have hSpace : skipSpace (0x20 :: (t ++ rest)) = skipSpace (t ++ rest) := rfl
      rw [hSpace]
      exact skipSpace_of_head ht hc rest

/-- The reader takes a key and its separator off the text. -/
theorem scanString_writeString (key rest : Text) :
    ∃ t, writeString key ++ rest = quote :: t ∧ scanString (t.length + 1) t = some (key, rest) := by
  refine ⟨escapeText key ++ quote :: rest, by simp [writeString], ?_⟩
  exact scanString_escapeText key _ rest (by simp only [List.length_append]; omega)

/-- The last member of an object. -/
theorem parseMembers_last {fuel : ℕ} {t t₁ t₂ t₃ rest rest' key : Text} {x : Value}
    (ht : t = quote :: t₁) (hKey : scanString (t₁.length + 1) t₁ = some (key, t₂))
    (hColon : skipSpace t₂ = 0x3A :: t₃) (hx : parseValue fuel (skipSpace t₃) = .ok (x, rest))
    (hClose : skipSpace rest = 0x7D :: rest') :
    parseMembers (fuel + 1) t = .ok ([(key, x)], rest') := by
  subst ht
  rw [parseMembers, if_pos rfl]
  simp only [hKey, hColon, hx, bind, Except.bind, hClose]
  rfl

/-- A member of an object that a comma follows. -/
theorem parseMembers_more {fuel : ℕ} {t t₁ t₂ t₃ rest rest' rest'' key : Text} {x : Value}
    {m : Members} (ht : t = quote :: t₁) (hKey : scanString (t₁.length + 1) t₁ = some (key, t₂))
    (hColon : skipSpace t₂ = 0x3A :: t₃) (hx : parseValue fuel (skipSpace t₃) = .ok (x, rest))
    (hComma : skipSpace rest = 0x2C :: rest')
    (hm : parseMembers fuel (skipSpace rest') = .ok (m, rest'')) :
    parseMembers (fuel + 1) t = .ok ((key, x) :: m, rest'') := by
  subst ht
  rw [parseMembers, if_pos rfl]
  simp only [hKey, hColon, hx, bind, Except.bind, hComma, hm]
  rfl

/-- The reader takes one member's text apart: its key, the colon and its value. -/
theorem memberText_parts (style : Style) (level : ℕ) (p : Text × Value)
    (hCheck : check p.2 = .ok ()) (rest : Text) :
    ∃ t₁ t₂ t₃, memberText style level p ++ rest = quote :: t₁ ∧
      scanString (t₁.length + 1) t₁ = some (p.1, t₂) ∧ skipSpace t₂ = 0x3A :: t₃ ∧
      skipSpace t₃ = render style level p.2 ++ rest := by
  obtain ⟨c, tail, hHead, hStart⟩ := render_head style level hCheck
  obtain ⟨t₃, hColon, hValue⟩ := skipSpace_keySeparator style hHead hStart.1 rest
  obtain ⟨t₁, ht₁, hKey⟩ :=
    scanString_writeString p.1 (keySeparator style ++ (render style level p.2 ++ rest))
  refine ⟨t₁, _, t₃, ?_, hKey, hColon, hValue⟩
  rw [← ht₁, memberText, List.append_assoc, List.append_assoc]

/-- The value of a member is shorter than the member. -/
theorem memberText_length (style : Style) (level : ℕ) (p : Text × Value) :
    (render style level p.2).length < (memberText style level p).length := by
  simp only [memberText, writeString, List.length_append, List.length_cons, List.length_nil]
  omega

/-- The reader takes a nonempty run of members off the text. -/
theorem parseMembers_bodyText (style : Style) (level : ℕ) :
    ∀ (m : Members), m ≠ [] → (∀ p ∈ m, check p.2 = .ok () ∧ Reads style p.2) →
    ∀ (fuel : ℕ) (rest : Text),
      (bodyText style level 0x7D (m.map (memberText style (level + 1)))).length < fuel →
      parseMembers fuel
          (skipSpace (bodyText style level 0x7D (m.map (memberText style (level + 1))) ++ rest))
        = .ok (m.map (fun p => (p.1, normal style p.2)), rest)
  | [], hNe, _, _, _, _ => absurd rfl hNe
  -- The last member is followed by the closing brace.
  | [p], _, hm, fuel, rest, hFuel => by
      obtain ⟨hCheck, hReads⟩ := hm p List.mem_cons_self
      obtain ⟨t₁, t₂, t₃, ht₁, hKey, hColon, hValue⟩ := memberText_parts style (level + 1) p hCheck
        (newline style level ++ 0x7D :: rest)
      have hLen := @bodyText_length_singleton style level 0x7D
        (memberText style (level + 1) p)
      have hMember := memberText_length style (level + 1) p
      rw [List.map_cons, List.map_nil] at hFuel ⊢
      obtain ⟨fuel, rfl⟩ : ∃ k, fuel = k + 1 := ⟨fuel - 1, by omega⟩
      have hParse := hReads (level + 1) fuel (newline style level ++ 0x7D :: rest) (by omega)
        (endsNumber_newline style level endsNumber_brace rest)
      rw [bodyText_singleton, skipSpace_newline, ht₁, skipSpace_cons (by decide)]
      exact parseMembers_last rfl hKey hColon (hValue ▸ hParse)
        (skipSpace_newline_cons (by decide) rest)
  -- Every other one is followed by a comma.
  | p :: q :: m, _, hm, fuel, rest, hFuel => by
      obtain ⟨hCheck, hReads⟩ := hm p List.mem_cons_self
      obtain ⟨t₁, t₂, t₃, ht₁, hKey, hColon, hValue⟩ := memberText_parts style (level + 1) p hCheck
        (0x2C :: (bodyText style level 0x7D ((q :: m).map (memberText style (level + 1))) ++ rest))
      have hLen := @bodyText_length_cons style level 0x7D
        (memberText style (level + 1) p) (memberText style (level + 1) q)
        (m.map (memberText style (level + 1)))
      have hMember := memberText_length style (level + 1) p
      have hIh := parseMembers_bodyText style level (q :: m) (List.cons_ne_nil _ _)
        (fun z hz => hm z (List.mem_cons_of_mem _ hz)) (fuel - 1) rest
      rw [List.map_cons] at hFuel hIh ht₁ hValue ⊢
      rw [List.map_cons] at hFuel ⊢
      obtain ⟨fuel, rfl⟩ : ∃ k, fuel = k + 1 := ⟨fuel - 1, by omega⟩
      have hParse := hReads (level + 1) fuel _ (by omega) (endsNumber_symbol endsNumber_comma
        (bodyText style level 0x7D (memberText style (level + 1) q ::
          m.map (memberText style (level + 1))) ++ rest))
      rw [bodyText_cons, skipSpace_newline, ht₁, skipSpace_cons (by decide)]
      exact parseMembers_more rfl hKey hColon (hValue ▸ hParse) (skipSpace_cons (by decide) _)
        (hIh (by omega))

/-- The body of a nonempty bracket does not begin with the closing symbol. -/
theorem strip_bodyText (style : Style) (level : ℕ) {closing : CodePoint} {p : Text}
    {ps : List Text} {c : CodePoint} {tail : Text} (hp : p = c :: tail) (hc : isSpace c = false)
    (hClosing : closing ≠ c) (rest : Text) :
    strip [closing] (skipSpace (bodyText style level closing (p :: ps) ++ rest)) = none := by
  cases ps with
  | nil =>
      rw [bodyText_singleton, skipSpace_newline, skipSpace_of_head hp hc, hp]
      exact strip_cons_ne hClosing _ _
  | cons q ps =>
      rw [bodyText_cons, skipSpace_newline, skipSpace_of_head hp hc, hp]
      exact strip_cons_ne hClosing _ _

/-- A rendered array is read back when its elements are. -/
theorem reads_seq (style : Style) (kind : SeqKind) (xs : List Value)
    (hxs : ∀ x ∈ xs, check x = .ok () ∧ Reads style x) : Reads style (.seq kind xs) := by
  intro level fuel rest hFuel _
  rw [render_seq] at hFuel ⊢
  rw [normal_seq]
  cases xs with
  | nil =>
      obtain ⟨fuel, rfl⟩ : ∃ k, fuel = k + 1 := ⟨fuel - 1, by omega⟩
      rfl
  | cons x xs =>
      obtain ⟨c, tail, hHead, hStart⟩ :=
        render_head style (level + 1) (hxs x List.mem_cons_self).1
      have hBracket : bracket style level 0x5B 0x5D ((x :: xs).map (render style (level + 1)))
          = 0x5B :: bodyText style level 0x5D ((x :: xs).map (render style (level + 1))) := rfl
      rw [hBracket, List.length_cons] at hFuel
      rw [hBracket, List.cons_append]
      obtain ⟨fuel, rfl⟩ : ∃ k, fuel = k + 1 := ⟨fuel - 1, by omega⟩
      have hItems := parseItems_bodyText style level (x :: xs) (List.cons_ne_nil _ _) hxs fuel rest
        (by omega)
      have hOpen := @strip_bodyText style level 0x5D _
        (xs.map (render style (level + 1))) _ _ hHead hStart.1 hStart.2.1.symm rest
      rw [parseValue, if_neg (by decide), if_pos rfl, List.map_cons, hOpen]
      rw [List.map_cons] at hItems
      simp only [hItems, bind, Except.bind]
      rfl

/-- A rendered object with distinct keys is read back when the values of its members are. -/
theorem reads_obj (style : Style) (m : Members) (hKeys : (m.map Prod.fst).Nodup)
    (hm : ∀ p ∈ m, check p.2 = .ok () ∧ Reads style p.2) : Reads style (.obj m) := by
  intro level fuel rest hFuel _
  rw [render_obj] at hFuel ⊢
  rw [normal_obj]
  have hArranged : ∀ p ∈ arrange style m, check p.2 = .ok () ∧ Reads style p.2 :=
    fun p hp => hm p (mem_arrange.1 hp)
  have hNodup := @arrange_keys_nodup _ style _ hKeys
  generalize arrange style m = n at hFuel hArranged hNodup ⊢
  cases n with
  | nil =>
      obtain ⟨fuel, rfl⟩ : ∃ k, fuel = k + 1 := ⟨fuel - 1, by omega⟩
      rfl
  | cons p n =>
      have hBracket : bracket style level 0x7B 0x7D ((p :: n).map (memberText style (level + 1)))
          = 0x7B :: bodyText style level 0x7D ((p :: n).map (memberText style (level + 1))) := rfl
      rw [hBracket, List.length_cons] at hFuel
      rw [hBracket, List.cons_append]
      obtain ⟨fuel, rfl⟩ : ∃ k, fuel = k + 1 := ⟨fuel - 1, by omega⟩
      have hMembers := parseMembers_bodyText style level (p :: n) (List.cons_ne_nil _ _) hArranged
        fuel rest (by omega)
      have hHead : memberText style (level + 1) p = quote :: (escapeText p.1 ++ [quote] ++
          keySeparator style ++ render style (level + 1) p.2) := by
        simp [memberText, writeString]
      have hOpen := @strip_bodyText style level 0x7D _
        (n.map (memberText style (level + 1))) _ _ hHead (by decide) (by decide) rest
      have hUnique : ((((p :: n).map (fun p => (p.1, normal style p.2))).map Prod.fst)).Nodup := by
        rw [List.map_map]
        exact hNodup
      rw [parseValue, if_neg (by decide), if_neg (by decide), if_pos rfl, List.map_cons, hOpen]
      rw [List.map_cons] at hMembers
      simp only [hMembers, bind, Except.bind, uniqueKeys, if_pos hUnique]
      rfl

/-- Every value that may be written is read back as its normal form. -/
theorem reads_of_check (style : Style) (v : Value) :
    v.Distinct → check v = .ok () → Reads style v := by
  -- By induction on the value. A scalar is told by its first symbol, and an array or an object by
  -- the bracket that opens it.
  induction v using Value.induct with
  | null =>
      intro _ _ level fuel rest hFuel _
      rw [parseValue_scalar hFuel rfl (by decide) rest]
      exact parseScalar_null rest
  | bool b =>
      intro _ _ level fuel rest hFuel _
      have hText : ∃ c tail, render style level (.bool b) = c :: tail ∧
          (c ≠ quote ∧ c ≠ 0x5B ∧ c ≠ 0x7B) := by
        cases b <;> exact ⟨_, _, rfl, by decide⟩
      obtain ⟨c, tail, hHead, hc⟩ := hText
      rw [parseValue_scalar hFuel hHead hc rest]
      exact parseScalar_bool b rest
  | str s =>
      intro _ _ level fuel rest hFuel _
      obtain ⟨t, ht, hScan⟩ := scanString_writeString s rest
      obtain ⟨fuel, rfl⟩ : ∃ k, fuel = k + 1 := ⟨fuel - 1, by omega⟩
      show parseValue (fuel + 1) (writeString s ++ rest) = .ok (.str s, rest)
      rw [ht, parseValue, if_pos rfl, hScan]
  -- An integer has passed the check on its digits, which the reader makes again.
  | int n =>
      intro _ hCheck level fuel rest hFuel hRest
      obtain ⟨c, tail, hHead, hStart⟩ := (intToken n).text_head (intToken_wellFormed n)
      have hRange := hStart.range
      have hLimit : (natDigits n.natAbs).length ≤ maxStrDigits := by
        rw [check] at hCheck
        split_ifs at hCheck with h
        exact Nat.not_lt.1 h
      rw [parseValue_scalar hFuel hHead
        ⟨by rintro rfl; simp [quote] at hRange, by rintro rfl; simp at hRange,
          by rintro rfl; simp at hRange⟩ rest]
      exact parseScalar_token (intToken_wellFormed n) (intToken_value hLimit) hRest
  | float x =>
      intro _ hCheck level fuel rest hFuel hRest
      cases x with
      | nan => cases hCheck
      | inf negative => cases hCheck
      | finite negative m =>
          obtain ⟨c, tail, hHead, hStart⟩ :=
            (floatToken negative m).text_head (floatToken_wellFormed negative m)
          have hRange := hStart.range
          rw [parseValue_scalar hFuel hHead
            ⟨by rintro rfl; simp [quote] at hRange, by rintro rfl; simp at hRange,
              by rintro rfl; simp at hRange⟩ rest]
          exact parseScalar_token (floatToken_wellFormed negative m) (floatToken_value negative m)
            hRest
  | seq kind xs ih =>
      intro hDistinct hCheck
      rw [Value.distinct_seq] at hDistinct
      rw [check, checkItems_eq_ok] at hCheck
      exact reads_seq style kind xs
        (fun x hx => ⟨hCheck x hx, ih x hx (hDistinct x hx) (hCheck x hx)⟩)
  | obj m ih =>
      intro hDistinct hCheck
      rw [Value.distinct_obj] at hDistinct
      rw [check, checkMembers_eq_ok] at hCheck
      exact reads_obj style m hDistinct.1
        (fun p hp => ⟨hCheck p hp, ih p hp (hDistinct.2 p hp) (hCheck p hp)⟩)

/-- A written value reads back as its normal form, also with a line feed at the end. -/
theorem loads_render {style : Style} {v : Value} (hv : v.Distinct) (hCheck : check v = .ok ())
    {ending : Text} (hEnding : EndsNumber ending) (hSpace : skipSpace ending = []) :
    loads (render style 0 v ++ ending) = .ok (normal style v) := by
  obtain ⟨c, tail, hHead, hStart⟩ := render_head style 0 hCheck
  have hRead := reads_of_check style v hv hCheck 0 (2 * (render style 0 v ++ ending).length + 1)
    ending
    (by rw [List.length_append]; omega) hEnding
  rw [loads, skipSpace_of_head hHead hStart.1, hRead]
  simp only [bind, Except.bind, hSpace]
  rfl

/-- `json.loads` undoes `json.dumps`, up to the order of members and the kind of sequences. -/
theorem loads_dumps {style : Style} {v : Value} {t : Text} (hv : v.Distinct)
    (h : dumps style v = .ok t) : loads t = .ok (normal style v) := by
  simp only [dumps, Except.bind_eq_ok, Except.pure_eq_ok] at h
  obtain ⟨_, hCheck, rfl⟩ := h
  simpa using @loads_render style _ hv hCheck _ endsNumber_nil rfl

end Json
