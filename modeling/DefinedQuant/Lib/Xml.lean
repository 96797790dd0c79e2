import DefinedQuant.Lib.Json.Read

/-!
# Reading XML

A reader of XML 1.0 documents without comments, processing instructions, CDATA sections and document
types. What it takes is well formed: every character is one that XML allows, tags nest, a tag has no
attribute twice, and text holds no markup but references. Line ends are read as XML prescribes.
`escape` is `html.escape`, and the reader gives an escaped text back up to its line ends.
-/

namespace Xml

open Json (strip strip_append isSpace skipSpace)

/-! ## Characters and names -/

/-- The characters of XML 1.0. -/
def isChar (c : CodePoint) : Bool :=
  [0x9, 0xA, 0xD].contains c.val || (0x20 ≤ c.val && c.val ≤ 0xD7FF) || (0xE000 ≤ c.val && c.val ≤
    0xFFFD) ||
    0x10000 ≤ c.val

/-- `NameStartChar`, as ranges -/
def nameStartRanges : List (ℕ × ℕ) :=
  [(0x3A, 0x3A), (0x41, 0x5A), (0x5F, 0x5F), (0x61, 0x7A), (0xC0, 0xD6), (0xD8, 0xF6),
    (0xF8, 0x2FF), (0x370, 0x37D), (0x37F, 0x1FFF), (0x200C, 0x200D), (0x2070, 0x218F),
    (0x2C00, 0x2FEF), (0x3001, 0xD7FF), (0xF900, 0xFDCF), (0xFDF0, 0xFFFD), (0x10000, 0xEFFFF)]

/-- What `NameChar` adds. -/
def nameRanges : List (ℕ × ℕ) :=
  [(0x2D, 0x2E), (0x30, 0x39), (0xB7, 0xB7), (0x300, 0x36F), (0x203F, 0x2040)]

def isNameStart (c : CodePoint) : Bool := nameStartRanges.any (fun r => r.1 ≤ c.val && c.val ≤ r.2)

def isNameChar (c : CodePoint) : Bool :=
  isNameStart c || nameRanges.any (fun r => r.1 ≤ c.val && c.val ≤ r.2)

def lessThan : CodePoint := 0x3C
def greaterThan : CodePoint := 0x3E
def ampersand : CodePoint := 0x26
def quote : CodePoint := 0x22
def apostrophe : CodePoint := 0x27
def solidus : CodePoint := 0x2F
def equals : CodePoint := 0x3D
def carriageReturn : CodePoint := 0xD
def lineFeed : CodePoint := 0xA

/-- A name. -/
def isName : Text → Bool
  | [] => false
  | c :: t => isNameStart c && t.all isNameChar

/-! ## The reader -/

/-- An element with its attributes, or a run of text. -/
inductive Node where
  | element (name : Text) (attributes : List (Text × Text)) (children : List Node)
  | text (value : Text)

/-- A name at the front. -/
def readName : Text → Option (Text × Text)
  | [] => none
  | c :: t => if isNameStart c then some (c :: t.takeWhile isNameChar, t.dropWhile isNameChar)
    else none

/-- The predefined entities. -/
def entities : List (Text × CodePoint) :=
  [(py "amp;", ampersand), (py "lt;", lessThan), (py "gt;", greaterThan), (py "quot;", quote),
    (py "apos;", apostrophe)]

/-- The value of a hexadecimal digit. -/
def hexDigit? (c : CodePoint) : Option ℕ :=
  if 0x30 ≤ c.val ∧ c.val ≤ 0x39 then some (c.val - 0x30)
  else if 0x41 ≤ c.val ∧ c.val ≤ 0x46 then some (c.val - 0x41 + 10)
  else if 0x61 ≤ c.val ∧ c.val ≤ 0x66 then some (c.val - 0x61 + 10)
  else none

/-- The number of a character reference, in a base, and the semicolon. -/
def readNumber (base : ℕ) (digit? : CodePoint → Option ℕ) (t : Text) : Option (CodePoint × Text) :=
  let digits := (t.takeWhile (fun c => (digit? c).isSome)).filterMap digit?
  let number := digits.foldl (fun n d => base * n + d) 0
  match t.dropWhile (fun c => (digit? c).isSome) with
  | 0x3B :: rest =>
      if h : number < 0x110000 then
        if digits ≠ [] ∧ isChar ⟨number, h⟩ = true then some (⟨number, h⟩, rest) else none
      else none
  | _ => none

/-- A reference, whose ampersand is taken off. -/
def readReference (t : Text) : Option (CodePoint × Text) :=
  match entities.findSome? (fun entity =>
      (strip entity.1 t).map (fun rest => (entity.2, rest))) with
  | some read => some read
  | none =>
      match strip (py "#x") t with
      | some t => readNumber 16 hexDigit? t
      | none => (strip (py "#") t).bind (readNumber 10 Json.digit?)

/-- Text up to the next tag. `after` says whether a carriage return stands before. -/
def readText : ℕ → Bool → Text → Option (Text × Text)
  | 0, _, _ => none
  | _ + 1, _, [] => some ([], [])
  | fuel + 1, after, c :: t =>
      if c = lessThan then some ([], c :: t)
      else if c = ampersand then do
        let (d, t) ← readReference t
        let (value, t) ← readText fuel false t
        return (d :: value, t)
      else if c = carriageReturn then do
        let (value, t) ← readText fuel true t
        return (lineFeed :: value, t)
      else if after = true ∧ c = lineFeed then readText fuel false t
      else if isChar c = true ∧ (py "]]>").isPrefixOf (c :: t) = false then do
        let (value, t) ← readText fuel false t
        return (c :: value, t)
      else none

/-- The value of an attribute, whose opening quote is taken off. A carriage return in it is not
read. -/
def readValue (closing : CodePoint) : ℕ → Text → Option (Text × Text)
  | 0, _ => none
  | _ + 1, [] => none
  | fuel + 1, c :: t =>
      if c = closing then some ([], t)
      else if c = lessThan ∨ c = carriageReturn then none
      else if c = ampersand then do
        let (d, t) ← readReference t
        let (value, t) ← readValue closing fuel t
        return (d :: value, t)
      else if isChar c then do
        let (value, t) ← readValue closing fuel t
        return ((if isSpace c then 0x20 else c) :: value, t)
      else none

/-- An attribute. -/
def readAttribute (t : Text) : Option ((Text × Text) × Text) := do
  let (name, t) ← readName t
  let t ← strip [equals] (skipSpace t)
  match skipSpace t with
  | [] => none
  | closing :: t =>
      if closing = quote ∨ closing = apostrophe then do
        let (value, t) ← readValue closing (t.length + 1) t
        return ((name, value), t)
      else none

/-- Attributes, each behind white space. -/
def readAttributes : ℕ → Text → Option (List (Text × Text) × Text)
  | 0, _ => none
  | fuel + 1, t =>
      if (t.head?.any isSpace && (skipSpace t).head?.any isNameStart) = true then do
        let (first, t) ← readAttribute (skipSpace t)
        let (attributes, t) ← readAttributes fuel t
        return (first :: attributes, t)
      else some ([], skipSpace t)

/-- A tag behind its `<`: the name, the attributes, and whether it closes itself. -/
def readTag (t : Text) : Option ((Text × List (Text × Text)) × Bool × Text) := do
  let (name, t) ← readName t
  let (attributes, t) ← readAttributes (t.length + 1) t
  if (attributes.map Prod.fst).Nodup then
    match strip [solidus, greaterThan] t with
    | some t => return ((name, attributes), true, t)
    | none => (strip [greaterThan] t).map (fun t => ((name, attributes), false, t))
  else none

/-- The end tag of an element. -/
def readEnd (name : Text) (t : Text) : Option Text := do
  let t ← strip ([lessThan, solidus] ++ name) t
  strip [greaterThan] (skipSpace t)

/-- An element behind its `<`, with a reader of what stands in it. -/
def readElement (content : Text → Option (List Node × Text)) (t : Text) : Option (Node × Text) := do
  let ((name, attributes), closed, t) ← readTag t
  if closed then return (.element name attributes [], t)
  else do
    let (children, t) ← content t
    let t ← readEnd name t
    return (.element name attributes children, t)

/-- Elements and text up to an end tag. -/
def readNodes : ℕ → Text → Option (List Node × Text)
  | 0, _ => none
  | _ + 1, [] => some ([], [])
  | fuel + 1, c :: t =>
      if c = lessThan then
        if t.head? = some solidus then some ([], c :: t)
        else do
          let (node, t) ← readElement (readNodes fuel) t
          let (nodes, t) ← readNodes fuel t
          return (node :: nodes, t)
      else do
        let (value, t) ← readText (t.length + 2) false (c :: t)
        let (nodes, t) ← readNodes fuel t
        return (.text value :: nodes, t)

/-- The declaration at the front, which may be missing. -/
def readDeclaration (t : Text) : Option Text :=
  match strip (py "<?xml") t with
  | none => some t
  | some t => do
      let (attributes, t) ← readAttributes (t.length + 1) t
      if attributes ∈ [[(py "version", py "1.0")], [(py "version", py "1.0"),
        (py "encoding", py "UTF-8")]] then
        strip (py "?>") t
      else none

/-- The element of a document. -/
def readDocument (t : Text) : Option Node := do
  let t ← readDeclaration t
  match skipSpace t with
  | [] => none
  | c :: t =>
      if c = lessThan then do
        let (node, t) ← readElement (readNodes (t.length + 1)) t
        if skipSpace t = [] then return node else none
      else none

/-! ## What a document consists of -/

mutual

/-- The elements of a node and their attributes, without any text. -/
def Node.markup : Node → List Node
  | .element name attributes children => [.element name attributes (markupOf children)]
  | .text _ => []

def markupOf : List Node → List Node
  | [] => []
  | node :: nodes => node.markup ++ markupOf nodes

end

/-- What stands in the child elements of a name. -/
def Node.contents (name : Text) : Node → List (List Node)
  | .element _ _ children =>
      children.filterMap (fun
        | .element child _ nodes => if child = name then some nodes else none
        | .text _ => none)
  | .text _ => []

/-- A text as it is read: a carriage return, and the line feed behind it, are one line feed. -/
def lineEnds : Bool → Text → Text
  | _, [] => []
  | after, c :: t =>
      if c = carriageReturn then lineFeed :: lineEnds true t
      else if after = true ∧ c = lineFeed then lineEnds false t
      else c :: lineEnds false t

/-! ## Writing -/

/-- `html.escape` of one character -/
def escapeChar (c : CodePoint) : Text :=
  if c = ampersand then py "&amp;"
  else if c = lessThan then py "&lt;"
  else if c = greaterThan then py "&gt;"
  else if c = quote then py "&quot;"
  else if c = apostrophe then py "&#x27;"
  else [c]

/-- `html.escape(text)` -/
def escape (t : Text) : Text := t.flatMap escapeChar

/-- An attribute behind a space. -/
def attributeText (item : Text × Text) : Text :=
  0x20 :: (item.1 ++ [equals, quote] ++ item.2 ++ [quote])

/-- A tag without its end. -/
def tagText (name : Text) (attributes : List (Text × Text)) : Text :=
  lessThan :: (name ++ attributes.flatMap attributeText)

/-! ## Reading text back -/

/-- The reference of an apostrophe is read as one. -/
theorem readReference_hex (t : Text) : readReference (py "#x27;" ++ t) = some (apostrophe, t) := rfl

/-- Text that closes no CDATA section: no `>` stands before the next tag. -/
theorem isPrefixOf_append_lessThan {t : Text} (h : greaterThan ∉ t) (rest : Text) :
    (py "]]>").isPrefixOf (t ++ lessThan :: rest) = false := by
  rcases t with - | ⟨a, - | ⟨b, - | ⟨c, t⟩⟩⟩
  · rfl
  · simp [py, List.isPrefixOf, CodePoint.ofChar, lessThan]
  · simp [py, List.isPrefixOf, CodePoint.ofChar, lessThan]
  · have hc : (CodePoint.ofChar '>' == c) = false := by
      rw [beq_eq_false_iff_ne]
      rintro rfl
      exact h (by simp [greaterThan, CodePoint.ofChar])
    simp [py, List.isPrefixOf, hc]

/-- An escaped text closes no tag. -/
theorem greaterThan_not_mem_escape (t : Text) : greaterThan ∉ escape t := by
  intro h
  obtain ⟨c, -, hMem⟩ := List.mem_flatMap.1 h
  unfold escapeChar at hMem
  split_ifs at hMem with hAmp hLess hGreater hQuote hApos
  · exact absurd hMem (by decide)
  · exact absurd hMem (by decide)
  · exact absurd hMem (by decide)
  · exact absurd hMem (by decide)
  · exact absurd hMem (by decide)
  · exact hGreater (List.mem_singleton.1 hMem).symm

/-- An ordinary character is read as it is written. -/
theorem readText_cons {fuel : ℕ} {after : Bool} {c : CodePoint} {t : Text} (hLess : c ≠ lessThan)
    (hAmp : c ≠ ampersand) (hReturn : c ≠ carriageReturn) (hFeed : ¬ (after = true ∧ c = lineFeed))
    (hChar : isChar c = true) (hClose : (py "]]>").isPrefixOf (c :: t) = false) :
    readText (fuel + 1) after (c :: t) = (readText fuel false t).map
      (fun read => (c :: read.1, read.2)) := by
  rw [readText, if_neg hLess, if_neg hAmp, if_neg hReturn, if_neg hFeed, if_pos ⟨hChar, hClose⟩]
  cases readText fuel false t <;> rfl

/-- A reference is read as the character that it stands for. -/
theorem readText_reference {fuel : ℕ} {after : Bool} {d : CodePoint} {t rest : Text}
    (h : readReference t = some (d, rest)) :
    readText (fuel + 1) after (ampersand :: t) =
      (readText fuel false rest).map (fun read => (d :: read.1, read.2)) := by
  rw [readText, if_neg (by decide), if_pos rfl, h]
  cases hRest : readText fuel false rest <;> simp [hRest]

/-- An escaped text in front of a tag is read as the text, its line ends apart. -/
theorem readText_escape {t : Text} (hChars : ∀ c ∈ t, isChar c = true) (rest : Text) :
    ∀ fuel after, t.length < fuel →
      readText fuel after (escape t ++ lessThan :: rest) = some (lineEnds after t,
        lessThan :: rest) := by
  induction t with
  | nil =>
      intro fuel after hFuel
      obtain ⟨fuel, rfl⟩ := Nat.exists_eq_add_one_of_ne_zero hFuel.ne'
      rfl
  | cons c t ih =>
      intro fuel after hFuel
      rw [List.length_cons] at hFuel
      obtain ⟨fuel, rfl⟩ : ∃ n, fuel = n + 1 := ⟨fuel - 1, by omega⟩
      have hRest : ∀ after, readText fuel after (escape t ++ lessThan :: rest) =
          some (lineEnds after t, lessThan :: rest) :=
        fun after => ih (fun d hd => hChars d (List.mem_cons_of_mem c hd)) fuel after (by omega)
      have hText : escape (c :: t) ++ lessThan :: rest = escapeChar c ++
        (escape t ++ lessThan :: rest) := by
        rw [escape, List.flatMap_cons, List.append_assoc]
        rfl
      rw [hText]
      -- the five characters that are written as references
      have hReference : ∀ name : Text, escapeChar c = ampersand :: name →
          readReference (name ++ (escape t ++ lessThan :: rest)) =
            some (c, escape t ++ lessThan :: rest) →
          c ≠ carriageReturn → c ≠ lineFeed →
          readText (fuel + 1) after (escapeChar c ++ (escape t ++ lessThan :: rest)) =
            some (lineEnds after (c :: t), lessThan :: rest) := by
        intro name hName hRead hReturn hFeed
        rw [hName, List.cons_append, readText_reference hRead, hRest, lineEnds, if_neg hReturn,
          if_neg (fun h => hFeed h.2)]
        rfl
      by_cases hAmp : c = ampersand
      · subst hAmp
        exact hReference (py "amp;") rfl rfl (by decide) (by decide)
      by_cases hLess : c = lessThan
      · subst hLess
        exact hReference (py "lt;") rfl rfl (by decide) (by decide)
      by_cases hGreater : c = greaterThan
      · subst hGreater
        exact hReference (py "gt;") rfl rfl (by decide) (by decide)
      by_cases hQuote : c = quote
      · subst hQuote
        exact hReference (py "quot;") rfl rfl (by decide) (by decide)
      by_cases hApos : c = apostrophe
      · subst hApos
        exact hReference (py "#x27;") rfl (readReference_hex _) (by decide) (by decide)
      have hSelf : escapeChar c = [c] := by
        rw [escapeChar, if_neg hAmp, if_neg hLess, if_neg hGreater, if_neg hQuote, if_neg hApos]
      rw [hSelf, List.singleton_append]
      by_cases hReturn : c = carriageReturn
      · rw [readText, if_neg hLess, if_neg hAmp, if_pos hReturn, hRest, lineEnds, if_pos hReturn]
        rfl
      by_cases hFeed : after = true ∧ c = lineFeed
      · rw [readText, if_neg hLess, if_neg hAmp, if_neg hReturn, if_pos hFeed, hRest, lineEnds,
          if_neg hReturn, if_pos hFeed]
      have hClose : (py "]]>").isPrefixOf (c :: (escape t ++ lessThan :: rest)) = false := by
        have hFree : greaterThan ∉ c :: escape t := by
          rw [List.mem_cons, not_or]
          exact ⟨Ne.symm hGreater, greaterThan_not_mem_escape t⟩
        exact isPrefixOf_append_lessThan hFree rest
      rw [readText_cons hLess hAmp hReturn hFeed (hChars c List.mem_cons_self) hClose, hRest,
        lineEnds, if_neg hReturn, if_neg hFeed]
      rfl

/-! ## Reading tags back -/

/-- Characters that stand in a tag as they are. -/
def isPlain (c : CodePoint) : Bool :=
  0x20 ≤ c.val && c.val ≤ 0x7E && !([lessThan, greaterThan, ampersand, quote,
    apostrophe].contains c)

/-- A plain character may stand in a document. -/
theorem isChar_of_isPlain {c : CodePoint} (h : isPlain c = true) : isChar c = true := by
  simp only [isPlain, Bool.and_eq_true, decide_eq_true_eq] at h
  simp [isChar, h.1.1, h.1.2.trans]

/-- A plain text is its own escaped form. -/
theorem escape_of_isPlain {t : Text} (h : ∀ c ∈ t, isPlain c = true) : escape t = t := by
  induction t with
  | nil => rfl
  | cons c t ih =>
      have hc := h c List.mem_cons_self
      simp only [isPlain, Bool.and_eq_true, Bool.not_eq_true', List.contains_eq_mem, List.mem_cons,
        List.not_mem_nil, or_false, decide_eq_false_iff_not, not_or] at hc
      obtain ⟨-, hLess, hGreater, hAmp, hQuote, hApos⟩ := hc
      rw [escape, List.flatMap_cons, escapeChar, if_neg hAmp, if_neg hLess, if_neg hGreater,
        if_neg hQuote, if_neg hApos, List.singleton_append]
      exact congrArg _ (ih (fun d hd => h d (List.mem_cons_of_mem c hd)))

/-- A plain character is not changed in an attribute. -/
theorem isSpace_of_isPlain {c : CodePoint} (h : isPlain c = true) :
    (if isSpace c then (0x20 : CodePoint) else c) = c := by
  simp only [isPlain, Bool.and_eq_true, decide_eq_true_eq] at h
  split_ifs with hSpace
  · simp only [isSpace, Bool.or_eq_true, beq_iff_eq] at hSpace
    rcases hSpace with ((rfl | rfl) | rfl) | rfl
    · rfl
    all_goals exact absurd h.1.1 (by decide)
  · rfl

/-- A plain attribute value is read back. -/
theorem readValue_plain {value : Text} (h : ∀ c ∈ value, isPlain c = true) (rest : Text) :
    ∀ fuel, value.length < fuel → readValue quote fuel (value ++ quote :: rest) =
      some (value, rest) := by
  induction value with
  | nil =>
      intro fuel hFuel
      obtain ⟨fuel, rfl⟩ := Nat.exists_eq_add_one_of_ne_zero hFuel.ne'
      rfl
  | cons c value ih =>
      intro fuel hFuel
      rw [List.length_cons] at hFuel
      obtain ⟨fuel, rfl⟩ : ∃ n, fuel = n + 1 := ⟨fuel - 1, by omega⟩
      have hc := h c List.mem_cons_self
      have hChar := isChar_of_isPlain hc
      have hSpace := isSpace_of_isPlain hc
      simp only [isPlain, Bool.and_eq_true, Bool.not_eq_true', List.contains_eq_mem, List.mem_cons,
        List.not_mem_nil, or_false, decide_eq_false_iff_not, not_or, decide_eq_true_eq] at hc
      obtain ⟨⟨hLow, hHigh⟩, hLess, -, hAmp, hQuote, -⟩ := hc
      have hReturn : c ≠ carriageReturn := by
        rintro rfl
        exact absurd hLow (by decide)
      rw [List.cons_append, readValue, if_neg hQuote, if_neg (not_or.2 ⟨hLess, hReturn⟩),
        if_neg hAmp, if_pos hChar, ih (fun d hd => h d (List.mem_cons_of_mem c hd)) fuel (by omega)]
      simp [hSpace]

/-- A name in front of a character that belongs to no name. -/
theorem readName_append {name : Text} (h : isName name = true) {d : CodePoint}
    (hd : isNameChar d = false)
    (rest : Text) : readName (name ++ d :: rest) = some (name, d :: rest) := by
  cases name with
  | nil => cases h
  | cons c name =>
      simp only [isName, Bool.and_eq_true, List.all_eq_true] at h
      rw [List.cons_append, readName, if_pos h.1, List.takeWhile_append_of_pos h.2,
        List.dropWhile_append_of_pos h.2, List.takeWhile_cons_of_neg (by rw [hd]; decide),
        List.dropWhile_cons_of_neg (by rw [hd]; decide), List.append_nil]

/-- No name begins with white space. -/
theorem isSpace_of_isNameStart {c : CodePoint} (h : isNameStart c = true) : isSpace c = false := by
  rw [Bool.eq_false_iff]
  intro hSpace
  simp only [isSpace, Bool.or_eq_true, beq_iff_eq] at hSpace
  rcases hSpace with ((rfl | rfl) | rfl) | rfl
  all_goals exact absurd h (by decide)

/-- A tag that is read as it is written. -/
structure IsTag (name : Text) (attributes : List (Text × Text)) : Prop where
  name : isName name = true
  names : ∀ item ∈ attributes, isName item.1 = true
  distinct : (attributes.map Prod.fst).Nodup
  values : ∀ item ∈ attributes, ∀ c ∈ item.2, isPlain c = true

/-- A written attribute is read back. -/
theorem readAttribute_text {item : Text × Text} (hName : isName item.1 = true)
    (hValue : ∀ c ∈ item.2, isPlain c = true) (rest : Text) :
    readAttribute (item.1 ++ [equals, quote] ++ item.2 ++ [quote] ++ rest) = some (item, rest) := by
  have hText : item.1 ++ [equals, quote] ++ item.2 ++ [quote] ++ rest =
      item.1 ++ equals :: (quote :: (item.2 ++ quote :: rest)) := by simp
  have hRead := readValue_plain hValue rest ((item.2 ++ quote :: rest).length + 1) (by
    rw [List.length_append]
    omega)
  rw [hText, readAttribute, readName_append hName (by decide)]
  show ((readValue quote ((item.2 ++ quote :: rest).length + 1) (item.2 ++ quote :: rest)).bind
    fun read => some ((item.1, read.1), read.2)) = some (item, rest)
  rw [hRead]
  rfl

/-- Written attributes are read back in their order. -/
theorem readAttributes_text {attributes : List (Text × Text)}
    (hNames : ∀ item ∈ attributes, isName item.1 = true)
    (hValues : ∀ item ∈ attributes, ∀ c ∈ item.2, isPlain c = true) {d : CodePoint}
    (hd : isSpace d = false) (rest : Text) : ∀ fuel, attributes.length < fuel →
      readAttributes fuel (attributes.flatMap attributeText ++ d :: rest) =
        some (attributes, d :: rest) := by
  -- By induction on the attributes, one unit of fuel for each.
  induction attributes with
  | nil =>
      intro fuel hFuel
      obtain ⟨fuel, rfl⟩ := Nat.exists_eq_add_one_of_ne_zero hFuel.ne'
      rw [List.flatMap_nil, List.nil_append, readAttributes, if_neg (by simp [hd]),
        Json.skipSpace_cons hd]
  | cons item attributes ih =>
      intro fuel hFuel
      rw [List.length_cons] at hFuel
      obtain ⟨fuel, rfl⟩ : ∃ n, fuel = n + 1 := ⟨fuel - 1, by omega⟩
      have hName := hNames item List.mem_cons_self
      have hItem := readAttribute_text hName (hValues item List.mem_cons_self)
        (attributes.flatMap attributeText ++ d :: rest)
      have hRest := ih (fun item h => hNames item (List.mem_cons_of_mem _ h))
        (fun item h => hValues item (List.mem_cons_of_mem _ h)) fuel (by omega)
      have hText : (item :: attributes).flatMap attributeText ++ d :: rest =
          0x20 :: (item.1 ++ [equals, quote] ++ item.2 ++ [quote] ++
            (attributes.flatMap attributeText ++ d :: rest)) := by
        simp [attributeText]
      -- A name is not empty, and its first symbol tells that another attribute follows.
      obtain ⟨c, tail, hTail⟩ : ∃ c tail, item.1 = c :: tail := by
        cases hFirst : item.1 with
        | nil =>
            rw [hFirst] at hName
            cases hName
        | cons c tail => exact ⟨c, tail, rfl⟩
      have hStart : isNameStart c = true := by
        rw [hTail] at hName
        exact (Bool.and_eq_true_iff.1 hName).1
      have hSkip : skipSpace (0x20 :: (item.1 ++ [equals, quote] ++ item.2 ++ [quote] ++
          (attributes.flatMap attributeText ++ d :: rest))) =
          item.1 ++ [equals, quote] ++ item.2 ++ [quote] ++
            (attributes.flatMap attributeText ++ d :: rest) := by
        rw [hTail]
        exact Json.skipSpace_cons (isSpace_of_isNameStart hStart) _
      have hMore : (((0x20 : CodePoint) :: (item.1 ++ [equals, quote] ++ item.2 ++ [quote] ++
          (attributes.flatMap attributeText ++ d :: rest))).head?.any isSpace &&
          (item.1 ++ [equals, quote] ++ item.2 ++ [quote] ++
            (attributes.flatMap attributeText ++ d :: rest)).head?.any isNameStart) = true := by
        rw [hTail]
        simp [hStart, isSpace]
      rw [hText, readAttributes, hSkip, if_pos hMore, hItem]
      show ((readAttributes fuel (attributes.flatMap attributeText ++ d :: rest)).bind
        fun read => some (item :: read.1, read.2)) = some (item :: attributes, d :: rest)
      rw [hRest]
      rfl

/-- The name and the attributes of a tag in front of a character that ends them. -/
theorem readTag_text {name : Text} {attributes : List (Text × Text)} (h : IsTag name attributes)
    {d : CodePoint} (hd : isNameChar d = false) (hSpace : isSpace d = false) (rest : Text) :
    readTag (name ++ attributes.flatMap attributeText ++ d :: rest) =
      match strip [solidus, greaterThan] (d :: rest) with
      | some t => some ((name, attributes), true, t)
      | none => (strip [greaterThan] (d :: rest)).map (fun t => ((name, attributes), false, t)) :=
        by
  have hName : readName (name ++ attributes.flatMap attributeText ++ d :: rest) =
      some (name, attributes.flatMap attributeText ++ d :: rest) := by
    rw [List.append_assoc]
    cases attributes with
    | nil => exact readName_append h.name hd rest
    | cons item attributes => exact readName_append h.name (by decide) _
  have hAttributes := readAttributes_text h.names h.values hSpace rest
    ((attributes.flatMap attributeText ++ d :: rest).length + 1) (by
      have hLong : attributes.length ≤ (attributes.flatMap attributeText).length := by
        rw [List.length_flatMap]
        refine le_trans ?_ (List.length_le_sum_of_one_le _ ?_)
        · rw [List.length_map]
        · intro n hn
          obtain ⟨item, -, rfl⟩ := List.mem_map.1 hn
          exact Nat.succ_pos _
      rw [List.length_append]
      omega)
  rw [readTag, hName]
  show ((readAttributes _ _).bind fun read => _) = _
  rw [hAttributes]
  show (if (attributes.map Prod.fst).Nodup then _ else none) = _
  rw [if_pos h.distinct]
  rfl

/-- An element that closes itself. -/
theorem readElement_empty {name : Text} {attributes : List (Text × Text)}
    (h : IsTag name attributes) (content : Text → Option (List Node × Text)) (rest : Text) :
    readElement content (name ++ attributes.flatMap attributeText ++ ([solidus, greaterThan] ++
      rest)) =
      some (.element name attributes [], rest) := by
  have hTag := readTag_text h (d := solidus) (by decide) (by decide) (greaterThan :: rest)
  rw [readElement, List.cons_append, List.singleton_append, hTag]
  rfl

/-- An element with a start tag and an end tag. -/
theorem readElement_content {name : Text} {attributes : List (Text × Text)}
    (h : IsTag name attributes)
    {content : Text → Option (List Node × Text)} {inner rest : Text} {children : List Node}
    (hContent : content inner = some (children, [lessThan, solidus] ++ name ++ [greaterThan] ++
      rest)) :
    readElement content (name ++ attributes.flatMap attributeText ++ greaterThan :: inner) =
      some (.element name attributes children, rest) := by
  have hTag := readTag_text h (d := greaterThan) (by decide) (by decide) inner
  have hEnd : readEnd name ([lessThan, solidus] ++ name ++ [greaterThan] ++ rest) = some rest := by
    rw [readEnd, List.append_assoc, strip_append]
    rfl
  rw [readElement, hTag]
  show ((content inner).bind fun read => (readEnd name read.2).bind fun t =>
    some (Node.element name attributes read.1, t)) = _
  rw [hContent]
  show ((readEnd name _).bind fun t => some (Node.element name attributes children, t)) = _
  rw [hEnd]
  rfl

/-! ## Reading content back -/

/-- The nodes end at a closing tag. -/
theorem readNodes_end (fuel : ℕ) (rest : Text) :
    readNodes (fuel + 1) (lessThan :: solidus :: rest) = some ([], lessThan :: solidus :: rest) :=
      rfl

/-- An element among the nodes. -/
theorem readNodes_element {fuel : ℕ} {t between rest : Text} {node : Node} {nodes : List Node}
    (hHead : t.head? ≠ some solidus) (hNode : readElement (readNodes fuel) t = some (node, between))
    (hNodes : readNodes fuel between = some (nodes, rest)) :
    readNodes (fuel + 1) (lessThan :: t) = some (node :: nodes, rest) := by
  rw [readNodes, if_pos rfl, if_neg hHead, hNode]
  show ((readNodes fuel between).bind fun read => some (node :: read.1, read.2)) = _
  rw [hNodes]
  rfl

/-- A text among the nodes. -/
theorem readNodes_text {fuel : ℕ} {t between rest value : Text} {nodes : List Node}
    (hHead : t.head? ≠ some lessThan)
    (hSome : t ≠ []) (hValue : readText (t.length + 1) false t = some (value, between))
    (hNodes : readNodes fuel between = some (nodes, rest)) :
    readNodes (fuel + 1) t = some (.text value :: nodes, rest) := by
  cases t with
  | nil => exact absurd rfl hSome
  | cons c t =>
      have hc : c ≠ lessThan := fun h => hHead (congrArg some h)
      rw [readNodes, if_neg hc]
      show ((readText (t.length + 1 + 1) false (c :: t)).bind fun read =>
        (readNodes fuel read.2).bind fun rest => some (Node.text read.1 :: rest.1, rest.2)) = _
      rw [List.length_cons] at hValue
      rw [hValue]
      show ((readNodes fuel between).bind fun read => some (Node.text value :: read.1, read.2)) = _
      rw [hNodes]
      rfl

/-- No character is escaped to nothing. -/
theorem escapeChar_ne_nil (c : CodePoint) : escapeChar c ≠ [] := by
  unfold escapeChar
  split_ifs
  all_goals exact List.cons_ne_nil _ _

/-- An escaped text is one node, or none when it is empty. -/
def textNodes (t : Text) : List Node := if t = [] then [] else [.text (lineEnds false t)]

/-- Only the empty text lets a tag follow at once. -/
theorem head?_escape (t rest : Text) : (escape t ++ rest).head? = some lessThan → t = [] := by
  cases t with
  | nil => exact fun _ => rfl
  | cons c t =>
      intro h
      exfalso
      have hHead : (escape (c :: t) ++ rest).head? = (escapeChar c).head? := by
        rw [escape, List.flatMap_cons, List.append_assoc]
        unfold escapeChar
        split_ifs <;> rfl
      rw [hHead] at h
      unfold escapeChar at h
      split_ifs at h with hAmp hLess hGreater hQuote hApos
      · exact absurd h (by decide)
      · exact absurd h (by decide)
      · exact absurd h (by decide)
      · exact absurd h (by decide)
      · exact absurd h (by decide)
      · exact hLess (Option.some.inj h)

/-- An escaped text inside of an element is read back. -/
theorem readNodes_escape {t : Text} (hChars : ∀ c ∈ t, isChar c = true) (fuel : ℕ) (rest : Text) :
    readNodes (fuel + 2) (escape t ++ lessThan :: solidus :: rest) =
      some (textNodes t, lessThan :: solidus :: rest) := by
  by_cases hNil : t = []
  · subst hNil
    rfl
  · have hLong : t.length ≤ (escape t).length := by
      rw [escape, List.length_flatMap]
      refine le_trans ?_ (List.length_le_sum_of_one_le _ ?_)
      · rw [List.length_map]
      · intro n hn
        obtain ⟨c, -, rfl⟩ := List.mem_map.1 hn
        exact List.length_pos_of_ne_nil (escapeChar_ne_nil c)
    have hRead :=
      readText_escape hChars (solidus :: rest) ((escape t ++ lessThan :: solidus :: rest).length +
        1) false
      (by rw [List.length_append]; omega)
    rw [textNodes, if_neg hNil]
    refine readNodes_text (fun h => hNil (head?_escape t _ h)) ?_ hRead (readNodes_end fuel rest)
    exact List.append_ne_nil_of_right_ne_nil _ (List.cons_ne_nil _ _)

/-- A name in front of anything does not begin an end tag. -/
theorem head?_tag {name : Text} (h : isName name = true) (rest : Text) :
    (name ++ rest).head? ≠ some solidus := by
  cases name with
  | nil => cases h
  | cons c name =>
      intro hHead
      obtain rfl : c = solidus := Option.some.inj hHead
      have hStart : (isNameStart solidus && name.all isNameChar) = true := h
      exact absurd (Bool.and_eq_true_iff.1 hStart).1 (by decide)

/-- A line break between elements is read as a text. -/
theorem readNodes_lineFeed (fuel : ℕ) (t : Text) :
    readNodes (fuel + 1) (lineFeed :: lessThan :: t) =
      (readNodes fuel (lessThan :: t)).map (fun read => (.text [lineFeed] :: read.1, read.2)) := by
  have hChars : ∀ c ∈ [lineFeed], isChar c = true := List.forall_mem_singleton.2 (by decide)
  have hRead := readText_escape hChars t ((lessThan :: t).length + 2) false (by
    simp only [List.length_cons, List.length_nil]
    omega)
  have hFeed : escape [lineFeed] ++ lessThan :: t = lineFeed :: lessThan :: t := rfl
  rw [hFeed] at hRead
  rw [readNodes, if_neg (by decide), hRead]
  show ((readNodes fuel (lessThan :: t)).bind fun read => some (Node.text [lineFeed] :: read.1,
    read.2)) = _
  cases readNodes fuel (lessThan :: t) <;> rfl

/-! ## Markup and contents -/

/-- A text has no markup. -/
theorem markupOf_textNodes (t : Text) : markupOf (textNodes t) = [] := by
  unfold textNodes
  split_ifs
  · exact markupOf.eq_1
  · rw [markupOf, markupOf, Node.markup, List.nil_append]

/-- The contents of the elements of a name, among nodes. -/
def contentsOf (name : Text) (nodes : List Node) : List (List Node) :=
  nodes.filterMap (fun
    | .element child _ children => if child = name then some children else none
    | .text _ => none)

/-- The contents of the elements of a name, one element at a time. -/
theorem contentsOf_element (name child : Text) (attributes : List (Text × Text))
    (children nodes : List Node) :
    contentsOf name (.element child attributes children :: nodes) =
      if child = name then children :: contentsOf name nodes else contentsOf name nodes := by
  unfold contentsOf
  split_ifs with hName
  · exact List.filterMap_cons_some (if_pos hName)
  · exact List.filterMap_cons_none (if_neg hName)

/-! ## Characters that XML does not allow -/

/-- Every character is one that XML allows. -/
def Allowed (t : Text) : Prop := ∀ c ∈ t, isChar c = true

/-- A concatenation of allowed texts is allowed. -/
theorem Allowed.append {t u : Text} (ht : Allowed t) (hu : Allowed u) : Allowed (t ++ u) :=
  List.forall_mem_append.2 ⟨ht, hu⟩

/-- A text with a character that XML does not allow is not read, escaped or not. -/
theorem readText_escape_eq_none {t : Text} (h : ¬ Allowed t) (rest : Text) :
    ∀ fuel after, readText fuel after (escape t ++ lessThan :: rest) = none := by
  induction t with
  | nil => exact absurd nofun h
  | cons c t ih =>
      intro fuel after
      cases fuel with
      | zero => rfl
      | succ fuel =>
          have hText : escape (c :: t) ++ lessThan :: rest = escapeChar c ++
            (escape t ++ lessThan :: rest) := by
            rw [escape, List.flatMap_cons, List.append_assoc]
            rfl
          rw [hText]
          -- a character that XML allows is followed by one that it does not
          have hRest : isChar c = true → ∀ after, readText fuel after (escape t ++ lessThan :: rest)
            = none :=
            fun hc => ih (fun hRest => h (List.forall_mem_cons.2 ⟨hc, hRest⟩)) fuel
          have hReference : ∀ name : Text, escapeChar c = ampersand :: name → isChar c = true →
              readReference (name ++ (escape t ++ lessThan :: rest)) =
                some (c, escape t ++ lessThan :: rest) →
              readText (fuel + 1) after (escapeChar c ++ (escape t ++ lessThan :: rest)) =
                none := by
            intro name hName hc hRead
            rw [hName, List.cons_append, readText_reference hRead, hRest hc, Option.map_none]
          by_cases hAmp : c = ampersand
          · subst hAmp
            exact hReference (py "amp;") rfl (by decide) rfl
          by_cases hLess : c = lessThan
          · subst hLess
            exact hReference (py "lt;") rfl (by decide) rfl
          by_cases hGreater : c = greaterThan
          · subst hGreater
            exact hReference (py "gt;") rfl (by decide) rfl
          by_cases hQuote : c = quote
          · subst hQuote
            exact hReference (py "quot;") rfl (by decide) rfl
          by_cases hApos : c = apostrophe
          · subst hApos
            exact hReference (py "#x27;") rfl (by decide) (readReference_hex _)
          have hSelf : escapeChar c = [c] := by
            rw [escapeChar, if_neg hAmp, if_neg hLess, if_neg hGreater, if_neg hQuote, if_neg hApos]
          rw [hSelf, List.singleton_append, readText, if_neg hLess, if_neg hAmp]
          split_ifs with hReturn hFeed hChar
          · subst hReturn
            rw [hRest (by decide)]
            rfl
          · exact hRest (hFeed.2 ▸ by decide) false
          · rw [hRest hChar.1]
            rfl
          · rfl

/-- An escaped text that is not allowed is not read. -/
theorem readNodes_escape_eq_none {t : Text} (h : ¬ Allowed t) (rest : Text) (fuel : ℕ) :
    readNodes fuel (escape t ++ lessThan :: rest) = none := by
  have hSome : t ≠ [] := by
    rintro rfl
    exact h nofun
  cases fuel with
  | zero => rfl
  | succ fuel =>
      have hHead : (escape t ++ lessThan :: rest).head? ≠ some lessThan :=
        fun hFirst => hSome (head?_escape t _ hFirst)
      have hRead := readText_escape_eq_none h rest
      generalize escape t ++ lessThan :: rest = content at hHead hRead
      cases content with
      | nil => cases hRead 1 false
      | cons c content =>
          rw [readNodes, if_neg (fun hc => hHead (congrArg some hc)), hRead]
          rfl

/-- An element whose content is not read is not read. -/
theorem readElement_eq_none {name : Text} {attributes : List (Text × Text)}
    (h : IsTag name attributes)
    {content : Text → Option (List Node × Text)} {inner : Text} (hContent : content inner = none) :
    readElement content (name ++ attributes.flatMap attributeText ++ greaterThan :: inner) =
      none := by
  have hTag := readTag_text h (by decide : isNameChar greaterThan = false) (by decide) inner
  rw [readElement, hTag]
  show ((content inner).bind fun read => _) = none
  rw [hContent]
  rfl

end Xml
