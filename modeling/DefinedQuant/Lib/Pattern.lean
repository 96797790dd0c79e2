import Mathlib.Data.List.Basic
import Mathlib.Data.Nat.Notation

/-!
# Patterns

Regular expressions with anchors, as a search for them reads a text: a match stands between what
comes before it and what comes after it. What `$` takes for the end of a text differs between
engines, so it is a parameter. A pattern without anchors is described by a set of texts, wherever it
matches.
-/

/-- A regular expression. -/
inductive Pattern (α : Type)
  | one (p : α → Bool)
  | start
  | stop
  | seq (p q : Pattern α)
  | alt (p q : Pattern α)
  | star (p : Pattern α)

namespace Pattern

variable {α : Type}

/-- `p+` -/
def plus (p : Pattern α) : Pattern α := .seq p (.star p)

/-- `q(?:sep p)*` -/
def headed [BEq α] (sep : α) (q p : Pattern α) : Pattern α :=
  .seq q (.star (.seq (.one (· == sep)) p))

/-- `p(?:sep p)*` -/
def separated [BEq α] (sep : α) (p : Pattern α) : Pattern α := headed sep p p

/-- A match of the pattern, between what stands before it and what stands after it. -/
inductive Matches (atEnd : List α → Prop) : Pattern α → List α → List α → List α → Prop
  | one {p c before after} : p c = true → Matches atEnd (.one p) before [c] after
  | start {after} : Matches atEnd .start [] [] after
  | stop {before after} : atEnd after → Matches atEnd .stop before [] after
  | seq {p q before m n after} : Matches atEnd p before m (n ++ after) →
      Matches atEnd q (before ++ m) n after → Matches atEnd (.seq p q) before (m ++ n) after
  | left {p q before m after} : Matches atEnd p before m after →
    Matches atEnd (.alt p q) before m after
  | right {p q before m after} : Matches atEnd q before m after →
    Matches atEnd (.alt p q) before m after
  | none {p before after} : Matches atEnd (.star p) before [] after
  | more {p before m n after} : Matches atEnd p before m (n ++ after) →
      Matches atEnd (.star p) (before ++ m) n after → Matches atEnd (.star p) before (m ++ n) after

/-- The pattern is found in the text. -/
def Finds (atEnd : List α → Prop) (p : Pattern α) (text : List α) : Prop :=
  ∃ before m after, text = before ++ m ++ after ∧ Matches atEnd p before m after

variable {atEnd : List α → Prop} {p q : Pattern α} {before m after : List α}

/-! ## Matches of a pattern -/

/-- A class matches one symbol. -/
theorem matches_one {f : α → Bool} : Matches atEnd (.one f) before m after ↔ ∃ c, m = [c] ∧
    f c = true := by
  constructor
  · intro h
    cases h with
    | one h => exact ⟨_, rfl, h⟩
  · rintro ⟨c, rfl, h⟩
    exact .one h

/-- `^` matches nothing, at the start. -/
theorem matches_start : Matches atEnd .start before m after ↔ before = [] ∧ m = [] := by
  constructor
  · intro h
    cases h
    exact ⟨rfl, rfl⟩
  · rintro ⟨rfl, rfl⟩
    exact .start

/-- `$` matches nothing, at the end. -/
theorem matches_stop : Matches atEnd .stop before m after ↔ m = [] ∧ atEnd after := by
  constructor
  · intro h
    cases h with
    | stop h => exact ⟨rfl, h⟩
  · rintro ⟨rfl, h⟩
    exact .stop h

/-- A sequence matches in two parts. -/
theorem matches_seq : Matches atEnd (.seq p q) before m after ↔
    ∃ m₁ m₂, m = m₁ ++ m₂ ∧ Matches atEnd p before m₁ (m₂ ++ after) ∧
      Matches atEnd q (before ++ m₁) m₂ after := by
  constructor
  · intro h
    cases h with
    | seq h₁ h₂ => exact ⟨_, _, rfl, h₁, h₂⟩
  · rintro ⟨m₁, m₂, rfl, h₁, h₂⟩
    exact .seq h₁ h₂

/-- An alternative matches one of its sides. -/
theorem matches_alt : Matches atEnd (.alt p q) before m after ↔
    Matches atEnd p before m after ∨ Matches atEnd q before m after := by
  constructor
  · intro h
    cases h with
    | left h => exact .inl h
    | right h => exact .inr h
  · rintro (h | h)
    · exact .left h
    · exact .right h

/-! ## Patterns without anchors -/

/-- The pattern matches the texts of a set, wherever they stand. -/
def Describes (p : Pattern α) (texts : List α → Prop) : Prop :=
  ∀ (atEnd : List α → Prop) (before m after : List α), Matches atEnd p before m after ↔ texts m

/-- A class describes the texts of one of its symbols. -/
theorem describes_one (f : α → Bool) : Describes (.one f) (fun m => ∃ c, m = [c] ∧ f c = true) :=
  fun _ _ _ _ => matches_one

variable {P Q : List α → Prop}

/-- The description may be restated. -/
theorem Describes.congr (h : Describes p P) (hSame : ∀ m, P m ↔ Q m) : Describes p Q :=
  fun _ _ _ _ => (h _ _ _ _).trans (hSame _)

/-- A sequence describes concatenations. -/
theorem Describes.seq (hp : Describes p P) (hq : Describes q Q) :
    Describes (.seq p q) (fun m => ∃ m₁ m₂, m = m₁ ++ m₂ ∧ P m₁ ∧ Q m₂) := by
  intro atEnd before m after
  rw [matches_seq]
  exact exists_congr
    (fun m₁ => exists_congr (fun m₂ => and_congr_right (fun _ => and_congr (hp _ _ _ _)
      (hq _ _ _ _))))

/-- An alternative describes either. -/
theorem Describes.alt (hp : Describes p P) (hq : Describes q Q) :
    Describes (.alt p q) (fun m => P m ∨ Q m) :=
  fun _ _ _ _ => matches_alt.trans (or_congr (hp _ _ _ _) (hq _ _ _ _))

/-- A repetition describes the concatenations of pieces. -/
theorem Describes.star (hp : Describes p P) :
    Describes (.star p) (fun m => ∃ pieces : List (List α), m = pieces.flatten ∧ ∀ piece ∈ pieces,
      P piece) := by
  intro atEnd before m after
  constructor
  · intro h
    generalize hStar : Pattern.star p = s at h
    induction h with
    | none => exact ⟨[], rfl, fun _ h => absurd h List.not_mem_nil⟩
    | more hHead _ _ ih =>
        cases hStar
        obtain ⟨pieces, rfl, hPieces⟩ := ih rfl
        exact ⟨_ :: pieces, rfl, List.forall_mem_cons.2 ⟨(hp _ _ _ _).1 hHead, hPieces⟩⟩
    | _ => cases hStar
  · rintro ⟨pieces, rfl, hPieces⟩
    induction pieces generalizing before with
    | nil => exact .none
    | cons piece pieces ih =>
        obtain ⟨hHead, hRest⟩ := List.forall_mem_cons.1 hPieces
        exact .more ((hp _ _ _ _).2 hHead) (ih _ hRest)

/-- One or more characters of a class. -/
theorem describes_plus_one (f : α → Bool) :
    Describes (plus (.one f)) (fun m => m ≠ [] ∧ ∀ c ∈ m, f c = true) := by
  refine ((describes_one f).seq (describes_one f).star).congr (fun m => ?_)
  constructor
  · rintro ⟨_, _, rfl, ⟨c, rfl, hc⟩, pieces, rfl, hPieces⟩
    refine ⟨List.cons_ne_nil _ _, List.forall_mem_cons.2 ⟨hc, fun d hd => ?_⟩⟩
    obtain ⟨piece, hPiece, hMem⟩ := List.mem_flatten.1 hd
    obtain ⟨e, rfl, he⟩ := hPieces piece hPiece
    rw [List.mem_singleton.1 hMem]
    exact he
  · rintro ⟨hNonempty, hAll⟩
    cases m with
    | nil => exact absurd rfl hNonempty
    | cons c rest =>
        refine ⟨[c], rest, rfl, ⟨c, rfl, hAll c List.mem_cons_self⟩, rest.map (fun d => [d]),
          ?_, ?_⟩
        · rw [← List.flatMap_def, List.flatMap_singleton']
        · intro piece hPiece
          obtain ⟨d, hd, rfl⟩ := List.mem_map.1 hPiece
          exact ⟨d, rfl, hAll d (List.mem_cons_of_mem _ hd)⟩

/-- Pieces with a separator, the first apart. -/
theorem intercalate_cons (sep : List α) (piece : List α) (pieces : List (List α)) :
    sep.intercalate (piece :: pieces) = piece ++ (pieces.map (sep ++ ·)).flatten := by
  induction pieces generalizing piece with
  | nil => rw [List.intercalate_singleton, List.map_nil, List.flatten_nil, List.append_nil]
  | cons next pieces ih =>
      rw [List.intercalate_cons_cons, ih, List.map_cons, List.flatten_cons, List.append_assoc,
        List.append_assoc]

/-- Pieces between separators that none of them contains are what splitting gives. -/
theorem Describes.headed [BEq α] [LawfulBEq α] {sep : α} (hq : Describes q Q) (hp : Describes p P)
    (hHead : ∀ m, Q m → sep ∉ m) (hSep : ∀ m, P m → sep ∉ m) :
    Describes (headed sep q p)
      (fun m => ∃ head tail, m.splitOn sep = head :: tail ∧ Q head ∧ ∀ piece ∈ tail, P piece) := by
  refine (hq.seq ((describes_one (· == sep)).seq hp).star).congr (fun m => ?_)
  constructor
  · rintro ⟨head, _, rfl, hFirst, marked, rfl, hMarked⟩
    have hPieces : ∃ pieces : List (List α), marked = pieces.map ([sep] ++ ·) ∧ ∀ piece ∈ pieces,
      P piece := by
      induction marked with
      | nil => exact ⟨[], rfl, fun _ h => absurd h List.not_mem_nil⟩
      | cons first marked ih =>
          obtain ⟨⟨_, piece, rfl, ⟨c, rfl, hc⟩, hPiece⟩, hRest⟩ := List.forall_mem_cons.1 hMarked
          obtain ⟨pieces, rfl, hPieces⟩ := ih hRest
          rw [beq_iff_eq] at hc
          rw [hc]
          exact ⟨piece :: pieces, rfl, List.forall_mem_cons.2 ⟨hPiece, hPieces⟩⟩
    obtain ⟨pieces, rfl, hPieces⟩ := hPieces
    have hClean : ∀ piece ∈ head :: pieces, sep ∉ piece :=
      List.forall_mem_cons.2 ⟨hHead head hFirst, fun piece h => hSep piece (hPieces piece h)⟩
    rw [← intercalate_cons, List.splitOn_intercalate sep hClean (List.cons_ne_nil _ _)]
    exact ⟨head, pieces, rfl, hFirst, hPieces⟩
  · rintro ⟨head, tail, hSplit, hFirst, hTail⟩
    refine ⟨head, (tail.map ([sep] ++ ·)).flatten, ?_, hFirst, tail.map ([sep] ++ ·), rfl, ?_⟩
    · rw [← intercalate_cons, ← hSplit, List.intercalate_splitOn]
    · intro marked hMarked
      obtain ⟨piece, hPiece, rfl⟩ := List.mem_map.1 hMarked
      exact ⟨[sep], piece, rfl, ⟨sep, rfl, beq_self_eq_true sep⟩, hTail piece hPiece⟩

/-- Pieces with a separator between describe the texts whose segments are pieces. -/
theorem Describes.separated [BEq α] [LawfulBEq α] {sep : α} (hp : Describes p P)
    (hSep : ∀ m, P m → sep ∉ m) :
    Describes (separated sep p) (fun m => ∀ piece ∈ m.splitOn sep, P piece) := by
  refine (hp.headed hp hSep hSep).congr (fun m => ?_)
  constructor
  · rintro ⟨head, tail, hSplit, hHead, hTail⟩
    rw [hSplit]
    exact List.forall_mem_cons.2 ⟨hHead, hTail⟩
  · intro hAll
    cases hSplit : m.splitOn sep with
    | nil => exact absurd hSplit (List.splitOn_ne_nil sep m)
    | cons head tail =>
        rw [hSplit] at hAll
        exact ⟨head, tail, rfl, List.forall_mem_cons.1 hAll⟩

/-! ## Searching -/

/-- A class is found when some symbol is in it. -/
theorem finds_one {f : α → Bool} {text : List α} : Finds atEnd (.one f) text ↔ ∃ c ∈ text,
    f c = true := by
  constructor
  · rintro ⟨before, m, after, rfl, h⟩
    obtain ⟨c, rfl, hc⟩ := matches_one.1 h
    exact ⟨c, List.mem_append_left _ (List.mem_append_right _ List.mem_cons_self), hc⟩
  · rintro ⟨c, hMem, hc⟩
    obtain ⟨before, after, rfl⟩ := List.append_of_mem hMem
    exact ⟨before, [c], after, by rw [List.append_assoc, List.singleton_append], .one hc⟩

/-- A pattern between both anchors matches all of the text but what `$` leaves out. -/
theorem finds_anchored (hp : Describes p P) {text : List α} :
    Finds atEnd (.seq .start (.seq p .stop)) text ↔ ∃ m after, text = m ++ after ∧ P m ∧
      atEnd after := by
  constructor
  · rintro ⟨before, m, after, rfl, h⟩
    obtain ⟨_, _, rfl, hStart, hRest⟩ := matches_seq.1 h
    obtain ⟨rfl, rfl⟩ := matches_start.1 hStart
    obtain ⟨body, _, rfl, hBody, hStop⟩ := matches_seq.1 hRest
    obtain ⟨rfl, hEnd⟩ := matches_stop.1 hStop
    exact ⟨body, after, by rw [List.nil_append, List.nil_append, List.append_nil],
      (hp _ _ _ _).1 hBody, hEnd⟩
  · rintro ⟨m, after, rfl, hBody, hEnd⟩
    refine ⟨[], [] ++ (m ++ []), after, by rw [List.nil_append, List.nil_append, List.append_nil],
      ?_⟩
    exact .seq .start (.seq ((hp _ _ _ _).2 hBody) (.stop hEnd))

/-! ## Splitting -/

/-- What stands in a text stands in a piece of it or separates two. -/
theorem mem_splitOn_of_mem [BEq α] [LawfulBEq α] (sep : α) {c : α} {text : List α} (h : c ∈ text) :
    c = sep ∨ ∃ piece ∈ text.splitOn sep, c ∈ piece := by
  have hJoin : ∀ pieces : List (List α), c ∈ [sep].intercalate pieces → c = sep ∨ ∃ piece ∈ pieces,
    c ∈ piece := by
    intro pieces hMem
    cases pieces with
    | nil => cases hMem
    | cons first pieces =>
        rw [intercalate_cons, List.mem_append, List.mem_flatten] at hMem
        rcases hMem with hFirst | ⟨_, hMarked, hMem⟩
        · exact .inr ⟨first, List.mem_cons_self, hFirst⟩
        · obtain ⟨piece, hPiece, rfl⟩ := List.mem_map.1 hMarked
          rcases List.mem_cons.1 hMem with rfl | hMem
          · exact .inl rfl
          · exact .inr ⟨piece, List.mem_cons_of_mem _ hPiece, hMem⟩
  rw [← @List.intercalate_splitOn _ text _ _ sep] at h
  exact hJoin _ h

/-- The pieces of a text are what stands between a separator or the start and a separator or the
end. -/
theorem mem_splitOn_iff [BEq α] [LawfulBEq α] {sep : α} {piece text : List α} :
    piece ∈ text.splitOn sep ↔ sep ∉ piece ∧ ∃ before after, text = before ++ piece ++ after ∧
      (before = [] ∨ ∃ b, before = b ++ [sep]) ∧ (after = [] ∨ ∃ a, after = sep :: a) := by
  constructor
  · intro h
    induction hLength : text.length using Nat.strongRecOn generalizing text with
    | _ n ih =>
        by_cases hSep : sep ∈ text
        · obtain ⟨first, rest, rfl, hFirst⟩ := List.eq_append_cons_of_mem hSep
          rw [List.splitOn_append_cons_self_of_not_mem hFirst] at h
          rcases List.mem_cons.1 h with rfl | hRest
          · exact ⟨hFirst, [], sep :: rest, by rw [List.nil_append], .inl rfl, .inr ⟨rest, rfl⟩⟩
          · rw [List.length_append, List.length_cons] at hLength
            obtain ⟨hPiece, before, after, rfl, hBefore, hAfter⟩ :=
              ih rest.length (by omega) hRest rfl
            refine ⟨hPiece, first ++ sep :: before, after, by simp, .inr ?_, hAfter⟩
            rcases hBefore with rfl | ⟨b, rfl⟩
            · exact ⟨first, rfl⟩
            · exact ⟨first ++ sep :: b, by simp⟩
        · rw [List.splitOn_eq_singleton hSep] at h
          obtain rfl := List.mem_singleton.1 h
          exact ⟨hSep, [], [], by simp, .inl rfl, .inl rfl⟩
  · rintro ⟨hPiece, before, after, rfl, hBefore, hAfter⟩
    have hTail : piece ∈ (piece ++ after).splitOn sep := by
      rcases hAfter with rfl | ⟨a, rfl⟩
      · rw [List.append_nil, List.splitOn_eq_singleton hPiece]
        exact List.mem_cons_self
      · rw [List.splitOn_append_cons_self_of_not_mem hPiece]
        exact List.mem_cons_self
    rcases hBefore with rfl | ⟨b, rfl⟩
    · exact hTail
    · rw [List.append_assoc, List.append_assoc, List.singleton_append,
        List.splitOn_append_cons_self]
      exact List.mem_append_right _ hTail

end Pattern
