import DefinedQuant.Shared.DataRecords.FaithfulDocuments
import DefinedQuant.Shared.Paging

/-!
# Which page is returned

A page is refused when its first item alone is too large, and else grows while it fits. The response
of the whole rest of a list carries no cursor, so it can be smaller than the response of a shorter
page. The filling loop never tries the pages behind the first one that does not fit: the refusal is
tight and the page is the longest one exactly when no longer page fits where a shorter one does not.
-/

namespace RecordViews

open Json Canonical DataRecords HostFailures LocalHost SessionCas Effect

section Limits

variable {α : Type} {w : World} {paging : Paging α} {start limit : ℕ}

/-- The items that a page may show: the rest of the list, up to the limit. -/
def Paging.window (paging : Paging α) (start limit : ℕ) : List α :=
  (paging.values.drop start).take limit

/-- The response of the page that shows a number of items. -/
def Responds (w : World) (paging : Paging α) (start limit n : ℕ) (response : Members) : Prop :=
  ∃ description, (pageOf Cas.host paging start n).run w = .ok description w ∧
    response = paging.build ((paging.window start limit).take n) description

/-- The response of a number of items is within the limit. -/
def Fits (w : World) (paging : Paging α) (start limit n : ℕ) : Prop :=
  ∃ response size, Responds w paging start limit n response ∧
    resultSize response paging.trust = .ok size ∧ size ≤ maxStructuredResponseBytes

/-- The page starts inside the list, and every response that is tried can be written: the reference
is open, so that it has cursors, and the items are JSON within the canonical range. -/
structure Servable (w : World) (paging : Paging α) (start limit : ℕ) : Prop where
  start_le : start ≤ paging.values.length
  responds : ∀ n ≤ (paging.window start limit).length, (n = 0 → paging.window start limit = []) →
    ∃ response size, Responds w paging start limit n response ∧
      resultSize response paging.trust = .ok size

/-- A page is refused only if no page of items fits, and otherwise is the longest one that does. -/
def Tight (w : World) (paging : Paging α) (start limit : ℕ) : Prop :=
  let count := (paging.window start limit).length
  (∃ n response, n ≤ count ∧ (page Cas.host paging start limit).run w = .ok response w ∧
    Responds w paging start limit n response ∧ Fits w paging start limit n ∧
    ∀ m, n < m → m ≤ count → ¬ Fits w paging start limit m) ∨
  ∃ actual, (page Cas.host paging start limit).run w
      = .error (limitFailure .resultLimitExceeded paging.limitName maxStructuredResponseBytes
        actual) w ∧
    ∀ n, 0 < n → n ≤ count → ¬ Fits w paging start limit n

/-- A request has one response. -/
theorem Responds.unique {n : ℕ} {response response' : Members}
    (h : Responds w paging start limit n response)
    (h' : Responds w paging start limit n response') :
    response = response' := by
  obtain ⟨description, hRun, rfl⟩ := h
  obtain ⟨description', hRun', rfl⟩ := h'
  rw [hRun] at hRun'
  cases hRun'
  rfl

/-- The response of a number of items fits when its own size does. -/
theorem fits_iff {n size : ℕ} {response : Members} (h : Responds w paging start limit n response)
    (hSize : resultSize response paging.trust = .ok size) :
    Fits w paging start limit n ↔ size ≤ maxStructuredResponseBytes := by
  constructor
  · rintro ⟨response', size', h', hSize', hLe⟩
    rw [h'.unique h, hSize] at hSize'
    cases hSize'
    exact hLe
  · exact fun hLe => ⟨response, size, h, hSize, hLe⟩

/-- Where the filling loop stops, with a number of items selected that fit. -/
structure Filled (w : World) (paging : Paging α) (start limit n : ℕ) : Prop where
  le : n ≤ (paging.window start limit).length
  progress : paging.window start limit ≠ [] → 0 < n
  fits : ∀ i, 0 < i → i ≤ n → Fits w paging start limit i
  stops : n < (paging.window start limit).length → ¬ Fits w paging start limit (n + 1)

/-- One turn of the loop measures the page with one more item. -/
theorem run_fill_cons {selected candidate rest : List α} {item : α} {description : Members}
    {size : ℕ} (hItem : selected ++ [item] = candidate)
    (hPage : (pageOf Cas.host paging start candidate.length).run w = .ok description w)
    (hSize : resultSize (paging.build candidate description) paging.trust = .ok size) :
    (fill Cas.host paging start selected (item :: rest)).run w
      = (if maxStructuredResponseBytes < size then do
          refuseIf (selected.isEmpty = true)
            (limitFailure .resultLimitExceeded paging.limitName maxStructuredResponseBytes size)
          return selected
        else fill Cas.host paging start candidate rest : Host (List α)).run w := by
  subst hItem
  rw [fill, run_bind_of_ok hPage, raising_host, run_lift_bind_of_ok hSize]

/-- The loop goes on from a number of items that fit, and stops before the first page that does not.
It is refused when that page is the first one. -/
theorem run_fill (h : Servable w paging start limit) :
    ∀ (rest : List α) (k : ℕ), (paging.window start limit).drop k = rest →
      k ≤ (paging.window start limit).length → (∀ i, 0 < i → i ≤ k → Fits w paging start limit i) →
      (∃ n, Filled w paging start limit n ∧
        (fill Cas.host paging start ((paging.window start limit).take k) rest).run w
          = .ok ((paging.window start limit).take n) w) ∨
      (paging.window start limit ≠ [] ∧ ¬ Fits w paging start limit 1 ∧ ∃ actual,
        (fill Cas.host paging start ((paging.window start limit).take k) rest).run w
          = .error (limitFailure .resultLimitExceeded paging.limitName maxStructuredResponseBytes
              actual) w)
  -- By recursion on the items that are left; `k` of the window are on the page already, and every
  -- shorter page fits.
  | [], k, hDrop, hk, hFits => by
      have hLength : (paging.window start limit).length ≤ k := List.drop_eq_nil_iff.1 hDrop
      refine .inl ⟨k, ⟨hk, fun hWindow => ?_, hFits, fun hLess => absurd hLess (not_lt.2 hLength)⟩,
        rfl⟩
      exact lt_of_lt_of_le (List.length_pos_iff.2 hWindow) hLength
  | item :: rest, k, hDrop, hk, hFits => by
      have hLess : k < (paging.window start limit).length := by
        by_contra hNot
        rw [List.drop_eq_nil_of_le (not_lt.1 hNot)] at hDrop
        cases hDrop
      have hItem : (paging.window start limit).take k ++ [item]
          = (paging.window start limit).take (k + 1) := by
        rw [List.take_add, hDrop]
        rfl
      have hLength : ((paging.window start limit).take (k + 1)).length = k + 1 :=
        List.length_take_of_le hLess
      obtain ⟨response, size, hResponds, hSize⟩ :=
        h.responds (k + 1) hLess (fun hZero => by cases hZero)
      have hIff := fits_iff hResponds hSize
      obtain ⟨description, hPage, rfl⟩ := hResponds
      rw [run_fill_cons hItem (hLength.symm ▸ hPage) hSize]
      -- One item more is too much, which is an error on an empty page only; or it fits, and the
      -- loop goes on.
      by_cases hOver : maxStructuredResponseBytes < size
      · rw [if_pos hOver, refuseIf_host]
        have hStops : ¬ Fits w paging start limit (k + 1) :=
          fun hFit => absurd (hIff.1 hFit) (not_le.2 hOver)
        by_cases hEmpty : ((paging.window start limit).take k).isEmpty = true
        · have hZero : k = 0 := by
            rw [List.isEmpty_iff, List.take_eq_nil_iff] at hEmpty
            exact hEmpty.resolve_right (List.length_pos_iff.1 (Nat.zero_lt_of_lt hLess))
          subst hZero
          refine .inr ⟨List.length_pos_iff.1 hLess, hStops, size, ?_⟩
          exact run_raiseIf_bind_of_pos hEmpty
        · refine .inl ⟨k, ⟨hk, fun _ => ?_, hFits, fun _ => hStops⟩, run_raiseIf_bind_of_neg hEmpty⟩
          rcases Nat.eq_zero_or_pos k with rfl | hPos
          · exact absurd rfl hEmpty
          · exact hPos
      · rw [if_neg hOver]
        have hFit : Fits w paging start limit (k + 1) := hIff.2 (not_lt.1 hOver)
        apply run_fill h rest (k + 1) _ hLess
        · intro i hPos hLe
          rcases Nat.lt_or_eq_of_le hLe with hLt | rfl
          · exact hFits i hPos (Nat.lt_succ_iff.1 hLt)
          · exact hFit
        · rw [← List.drop_drop, hDrop]
          rfl

/-- The page is made again with what the loop has selected, and measured again. -/
theorem run_page_of_fill {n : ℕ} (h : Servable w paging start limit)
    (hFilled : Filled w paging start limit n)
    (hRun : (fill Cas.host paging start [] (paging.window start limit)).run w
      = .ok ((paging.window start limit).take n) w) :
    (∃ response, Responds w paging start limit n response ∧ Fits w paging start limit n ∧
      (page Cas.host paging start limit).run w = .ok response w) ∨
    paging.window start limit = [] ∧ ∃ actual, (page Cas.host paging start limit).run w
      = .error (limitFailure .resultLimitExceeded paging.limitName maxStructuredResponseBytes
        actual) w := by
  have hZero : n = 0 → paging.window start limit = [] := by
    rintro rfl
    by_contra hWindow
    exact absurd (hFilled.progress hWindow) (Nat.lt_irrefl 0)
  obtain ⟨response, size, hResponds, hSize⟩ := h.responds n hFilled.le hZero
  have hIff := fits_iff hResponds hSize
  obtain ⟨description, hPage, rfl⟩ := id hResponds
  have hLength : ((paging.window start limit).take n).length = n :=
    List.length_take_of_le hFilled.le
  have hMeasure : (page Cas.host paging start limit).run w
      = (boundedResult (paging.build ((paging.window start limit).take n) description)
        paging.limitName
          paging.trust : Host Members).run w := by
    unfold page
    rw [refuseIf_host, run_raiseIf_bind_of_neg (not_lt.2 h.start_le)]
    change (fill Cas.host paging start [] (paging.window start limit) >>= _).run w = _
    rw [run_bind_of_ok hRun, hLength, run_bind_of_ok hPage]
  by_cases hLe : size ≤ maxStructuredResponseBytes
  · exact .inl ⟨_, hResponds, hIff.2 hLe, hMeasure.trans (run_boundedResult_of_fits hSize hLe)⟩
  · refine .inr ⟨hZero ?_, size, ?_⟩
    · by_contra hPos
      exact hLe (hIff.1 (hFilled.fits n (Nat.pos_of_ne_zero hPos) le_rfl))
    · rw [hMeasure, boundedResult, raising_host, run_lift_bind_of_ok hSize, refuseIf_host]
      exact run_raiseIf_bind_of_pos (not_le.1 hLe)

/-- The response tells how many items it shows. -/
def Tells (w : World) (paging : Paging α) (start limit : ℕ) : Prop :=
  ∀ n m response, n ≤ (paging.window start limit).length → m ≤ (paging.window start limit).length →
    Responds w paging start limit n response → Responds w paging start limit m response → n = m

/-- A page that the loop has filled is the longest one exactly if nothing behind it fits. -/
theorem tight_iff_of_page {n : ℕ} {response : Members} (hTells : Tells w paging start limit)
    (hFilled : Filled w paging start limit n) (hResponds : Responds w paging start limit n response)
    (hFit : Fits w paging start limit n)
    (hPage : (page Cas.host paging start limit).run w = .ok response w) :
    Tight w paging start limit ↔
      ∀ m, n < m → m ≤ (paging.window start limit).length → ¬ Fits w paging start limit m := by
  constructor
  · rintro (⟨shown, response', hLe, hRun, hResponds', -, hLongest⟩ | ⟨actual, hRun, -⟩)
    · rw [hPage] at hRun
      cases hRun
      rw [hTells n shown response hFilled.le hLe hResponds hResponds']
      exact hLongest
    · rw [hPage] at hRun
      cases hRun
  · exact fun hLongest => .inl ⟨n, response, hFilled.le, hPage, hResponds, hFit, hLongest⟩

/-- Nothing behind the page that the loop has filled fits exactly if the pages that fit are the
short ones. -/
theorem Filled.longest_iff {n : ℕ} (h : Filled w paging start limit n) :
    (∀ m, n < m → m ≤ (paging.window start limit).length → ¬ Fits w paging start limit m) ↔
      ∀ i m, 0 < i → i < m → m ≤ (paging.window start limit).length →
        Fits w paging start limit m → Fits w paging start limit i := by
  constructor
  · intro hLongest i m hPos hLess hLe hFits
    by_cases hm : m ≤ n
    · exact h.fits i hPos (hLess.le.trans hm)
    · exact absurd hFits (hLongest m (not_le.1 hm) hLe)
  · intro hShort m hLess hLe hFits
    have hNext : Fits w paging start limit (n + 1) := by
      rcases Nat.lt_or_eq_of_le (Nat.succ_le_of_lt hLess) with hLt | rfl
      · exact hShort (n + 1) m (Nat.succ_pos n) hLt hLe hFits
      · exact hFits
    exact h.stops (lt_of_lt_of_le hLess hLe) hNext

/-- Below a page that fits every page fits. -/
def ShortFit (w : World) (paging : Paging α) (start limit : ℕ) : Prop :=
  ∀ n m, 0 < n → n < m → m ≤ (paging.window start limit).length →
    Fits w paging start limit m → Fits w paging start limit n

/-- A page whose filling fails, fails. -/
theorem run_page_of_fill_error {e : Raised} (h : Servable w paging start limit)
    (hFill : (fill Cas.host paging start [] (paging.window start limit)).run w = .error e w) :
    (page Cas.host paging start limit).run w = .error e w := by
  unfold page
  rw [refuseIf_host, run_raiseIf_bind_of_neg (not_lt.2 h.start_le)]
  change (fill Cas.host paging start [] (paging.window start limit) >>= _).run w = _
  rw [run_bind, hFill]

/-- A page is tight exactly when every shorter page fits. -/
theorem tight_iff_shortFit (h : Servable w paging start limit)
    (hTells : Tells w paging start limit) :
    Tight w paging start limit ↔ ShortFit w paging start limit := by
  rcases run_fill h (paging.window start limit) 0 rfl (Nat.zero_le _) (fun i hPos hLe =>
    absurd hPos (not_lt.2 hLe)) with ⟨n, hFilled, hFill⟩ | ⟨-, hFirst, actual, hFill⟩
  · rcases run_page_of_fill h hFilled hFill with ⟨response, hResponds, hFit, hPage⟩ |
      ⟨hEmpty, actual, hPage⟩
    · exact (tight_iff_of_page hTells hFilled hResponds hFit hPage).trans hFilled.longest_iff
    · -- there is nothing to show, and even the empty page is too large
      have hLength : (paging.window start limit).length = 0 := by rw [hEmpty]; rfl
      refine iff_of_true (.inr ⟨actual, hPage, fun i hPos hLe => ?_⟩) (fun i m hPos hLess hLe => ?_)
      · omega
      · omega
  · have hPage := run_page_of_fill_error h hFill
    constructor
    · rintro (⟨n, response, -, hRun, -⟩ | ⟨actual', -, hNone⟩)
      · rw [hPage] at hRun
        cases hRun
      · intro n m hPos hLess hLe hFits
        exact absurd hFits (hNone m (hPos.trans hLess) hLe)
    · intro hShort
      refine .inr ⟨actual, hPage, fun n hPos hLe hFits => hFirst ?_⟩
      rcases Nat.lt_or_eq_of_le (Nat.succ_le_of_lt hPos) with hLt | rfl
      · exact hShort 1 n Nat.one_pos hLt hLe hFits
      · exact hFits

end Limits

section Views

variable {view : PagedView} {reference : Text} {values : List Value} {paging : Paging Value}
    {w : World}
  {start limit : ℕ}

/-- The items of a response are the ones it was made of. -/
theorem PagingOf.tells (hOf : PagingOf view reference values paging) :
    Tells w paging start limit := by
  rintro n m response hn hm ⟨description, -, rfl⟩ ⟨description', -, hEq⟩
  have hItems := congrArg (fun response => (view.items response).length) hEq
  simp only [hOf.items_build, List.length_take, min_eq_left hn, min_eq_left hm] at hItems
  exact hItems

/-- In every view that is shown in pages, the refusal is tight and the page the longest one exactly
when the pages that fit are the short ones: below a page that fits, every page fits. -/
theorem page_tight_iff (hOf : PagingOf view reference values paging)
    (h : Servable w paging start limit) :
    Tight w paging start limit ↔ ShortFit w paging start limit :=
  tight_iff_shortFit h hOf.tells

end Views

/-! ### A list that fits as a whole only -/

/-- The reference of an operation. -/
def zeroReference : Text := py "dqop:v1:" ++ List.replicate 64 0x30

/-- A session that has just been opened, with one reference. -/
def oneReference : World :=
  { World.opened [] sampleLimits [] with
    session := { (World.opened [] sampleLimits []).session with references := {zeroReference} } }

/-- The `result_field` view of a list, up to its items. -/
def notesBase : Members :=
  [(py "compact", .bool false), (py "operation_ref", .str zeroReference),
    (py "view", .lit "result_field"), (py "field", .lit "notes"),
    (py "result_sha256", .str (List.replicate 64 0x30)),
    (py "field_sha256", .str (List.replicate 64 0x30)), (py "expires", .lit "session_end")]

/-- A text of a number of letters, and an empty one. -/
def notes (letters : ℕ) : List Value := [.str (List.replicate letters 0x78), .str []]

/-- The pages of the two texts. -/
def notesPaging (letters : ℕ) : Paging Value :=
  fieldPaging notesBase zeroReference (py "notes") "array" "items" (notes letters)

/-- The paging of the sample notes lists the two notes. -/
theorem pagingOf_notes (letters : ℕ) :
    PagingOf (.resultField (py "notes")) zeroReference (notes letters) (notesPaging letters) := by
  have hBase : IsPageBase notesBase := by
    unfold IsPageBase
    simp only [List.forall_mem_cons]
    exact ⟨rfl, rfl, rfl, rfl, List.forall_mem_nil _⟩
  exact @pagingOf_field _ hBase zeroReference (py "notes") (.list (notes letters)) _ _ _ rfl

/-- The description of a page at the start of the two texts. -/
def notesPage (returned : ℕ) (next : Value) (complete : Bool) : Members :=
  [(py "start", .int 0), (py "returned", .int returned), (py "next_cursor", next),
    (py "complete", .bool complete)]

/-- The token of the index behind the first text. -/
def notesToken : Option Text :=
  (encodeCursorToken [] zeroReference (py "result_field") (some (py "notes")) 1).toOption

/-- The size of a page of one note without its letters, with the token of the cursor. -/
theorem notesToken_facts : notesToken.map (fun token =>
      (size (.obj (notesPage 1 (.str token) false)),
        (canonicalJsonBytes (.obj (notesPage 1 (.str token) false))).isOk)) = some (344, true) := by
  decide +kernel

/-- The letters of a note are plain. -/
theorem isPlain_letters (letters : ℕ) : ∀ c ∈ List.replicate letters (0x78 : CodePoint),
    IsPlain c := by
  intro c hc
  rw [List.eq_of_mem_replicate hc]
  exact ⟨rfl, by decide⟩

/-- The encoder accepts a note. -/
theorem accepts_letters (letters : ℕ) : Accepts (.str (List.replicate letters 0x78)) :=
  accepts_str.2 (Text.IsAscii.encodable (fun c hc => (isPlain_letters letters c hc).2))

/-- The encoder accepts what all pages share. -/
theorem accepts_notesBase : Accepts (.obj notesBase) := by
  have hZeros : Text.Encodable (List.replicate 64 0x30) := by decide
  have hReference : Text.Encodable zeroReference := Text.encodable_append.2 ⟨encodable_py _, hZeros⟩
  simp only [notesBase, accepts_obj, List.forall_mem_cons, List.not_mem_nil, false_imp_iff,
    implies_true, and_true, encodable_py, accepts_bool, accepts_str, hZeros, hReference]

/-- The encoder accepts a page without its notes. -/
theorem accepts_notesPage {returned : ℕ} (hReturned : returned ≤ 2) {next : Value}
    (hNext : Accepts next)
    (complete : Bool) : Accepts (.obj (notesPage returned next complete)) := by
  have hStart : Accepts (.int 0) := accepts_int.2 (by decide)
  have hReturned' : Accepts (.int returned) := accepts_int.2 (hReturned.trans (by decide))
  simp only [notesPage, accepts_obj, List.forall_mem_cons, List.not_mem_nil, false_imp_iff,
    implies_true, and_true, encodable_py, accepts_bool, hStart, hReturned', hNext]

/-- A page of texts is as large as its texts and its description, and 848 octets. -/
theorem resultSize_notes {letters : ℕ} {items : List Value} {description : Members}
    (hItems : Accepts (.list items)) (hDescription : Accepts (.obj description)) :
    resultSize ((notesPaging letters).build items description) .unmanagedExecution
      = .ok (848 + size (.list items) + size (.obj description)) := by
  have hAccepts : Accepts (.obj ((notesPaging letters).build items description)) := by
    refine accepts_obj_append.2 ⟨accepts_notesBase, accepts_obj.2 ?_⟩
    simp only [List.forall_mem_cons]
    exact ⟨⟨encodable_py _, accepts_lit _⟩, ⟨encodable_py _, hItems⟩,
      ⟨encodable_py _, hDescription⟩, List.forall_mem_nil _⟩
  have hPrintable : Printable (.obj ((notesPaging letters).build items description)) :=
    ⟨check_of_accepts _ hAccepts, encodable_render_of_accepts _ _ 0 hAccepts⟩
  refine resultSize_eq_ok.2 ⟨hAccepts, hPrintable, ?_⟩
  have hEnvelope := envelopeSize_unmanagedExecution
  have hBase : size (.obj notesBase) = 335 := by decide +kernel
  have hTail : size (.obj [(py "value_kind", .lit "array"), (py "items", .list items),
      (py "page", .obj description)]) = 39 + size (.list items) + size (.obj description) := by
    have hKind : memberSize (py "value_kind", .lit "array") = 20 := by decide +kernel
    have hItemsKey : utf8Length (writeString (py "items")) = 7 := rfl
    have hPageKey : utf8Length (writeString (py "page")) = 6 := rfl
    rw [size_obj]
    simp only [List.map_cons, List.map_nil, List.sum_cons, List.sum_nil, List.length_cons,
      List.length_nil, hKind]
    simp only [memberSize, hItemsKey, hPageKey]
    omega
  have hAppend := size_obj_append (m := notesBase)
    (n := [(py "value_kind", .lit "array"), (py "items", .list items),
      (py "page", .obj description)])
    (List.cons_ne_nil _ _) (List.cons_ne_nil _ _)
  show _ = envelopeSize .unmanagedExecution + size (.obj (notesBase ++ _))
  rw [hEnvelope]
  omega

section Notes

variable {letters : ℕ}

/-- A request for two notes asks for both. -/
theorem window_notes : (notesPaging letters).window 0 2 = notes letters := rfl

/-- The page of both texts is complete. -/
theorem responds_two : Responds oneReference (notesPaging letters) 0 2 2
    ((notesPaging letters).build (notes letters) (notesPage 2 .null true)) := by
  refine ⟨notesPage 2 .null true, ?_, rfl⟩
  rfl

/-- The page of the first text has a cursor. -/
theorem responds_one : ∃ token, notesToken = some token ∧
    Responds oneReference (notesPaging letters) 0 2 1
      ((notesPaging letters).build [.str (List.replicate letters 0x78)] (notesPage 1 (.str token)
        false)) := by
  have hSome : notesToken.isSome = true := by
    cases hToken : notesToken with
    | some token => rfl
    | none =>
        have hFacts := notesToken_facts
        rw [hToken] at hFacts
        cases hFacts
  obtain ⟨token, hToken⟩ := Option.isSome_iff_exists.1 hSome
  refine ⟨token, hToken, notesPage 1 (.str token) false, ?_, rfl⟩
  have hEncode : encodeCursorToken [] zeroReference (py "result_field") (some (py "notes")) 1 =
    .ok token := by
    unfold notesToken at hToken
    cases hRun : encodeCursorToken [] zeroReference (py "result_field") (some (py "notes")) 1 with
    | ok t =>
        rw [hRun] at hToken
        exact congrArg Except.ok (Option.some.inj hToken)
    | error e =>
        rw [hRun] at hToken
        cases hToken
  have hCursor : (SessionCas.encodeCursor zeroReference (py "result_field") (some (py "notes"))
    1).run
      oneReference = .ok token oneReference := by
    refine run_encodeCursor_eq_ok.2 ⟨rfl, ⟨rfl, Finset.mem_singleton_self _, Finset.notMem_empty _⟩,
      ?_, hEncode⟩
    exact ⟨_, rfl⟩
  have hMore : 0 + 1 ≠ (notesPaging letters).values.length := by
    show 0 + 1 ≠ (notes letters).length
    exact Nat.succ_ne_self 1 |>.symm
  exact run_pageOf_of_more hMore hCursor

/-- The encoder accepts a list of one note. -/
theorem accepts_oneNote : Accepts (.list [.str (List.replicate letters 0x78)]) :=
  accepts_seq.2 (List.forall_mem_singleton.2 (accepts_letters letters))

/-- The encoder accepts both notes. -/
theorem accepts_notes : Accepts (.list (notes letters)) :=
  accepts_seq.2 (List.forall_mem_cons.2 ⟨accepts_letters letters,
    List.forall_mem_singleton.2 (accepts_str.2 Text.encodable_nil)⟩)

/-- The size of a note. -/
theorem size_letters : size (.str (List.replicate letters 0x78)) = letters + 2 := by
  rw [size_str_of_isPlain (isPlain_letters letters), List.length_replicate]

/-- Both notes fit one page up to 261230 letters. -/
theorem fits_two_iff : Fits oneReference (notesPaging letters) 0 2 2 ↔ letters ≤ 261230 := by
  have hDescription := accepts_notesPage (le_refl 2) accepts_null true
  have hDescriptionSize : size (.obj (notesPage 2 .null true)) = 59 := by decide +kernel
  have hEmptySize : size (.str []) = 2 := by decide +kernel
  rw [fits_iff responds_two (resultSize_notes accepts_notes hDescription), hDescriptionSize,
    size_seq]
  simp only [notes, List.map_cons, List.map_nil, List.sum_cons, List.sum_nil, List.length_cons,
    List.length_nil, size_letters, hEmptySize]
  unfold maxStructuredResponseBytes
  omega

/-- The page of the first text alone is larger by its cursor. -/
theorem fits_one_iff : Fits oneReference (notesPaging letters) 0 2 1 ↔ letters ≤ 260948 := by
  obtain ⟨token, hToken, hResponds⟩ := @responds_one letters
  have hFacts := notesToken_facts
  rw [hToken, Option.map_some, Option.some.injEq, Prod.mk.injEq] at hFacts
  rw [fits_iff hResponds (resultSize_notes accepts_oneNote (accepts_of_isOk hFacts.2)), hFacts.1,
    size_seq]
  simp only [List.map_cons, List.map_nil, List.sum_cons, List.sum_nil, List.length_cons,
    List.length_nil, size_letters]
  unfold maxStructuredResponseBytes
  omega

/-- The request for the notes can be served. -/
theorem servable_notes : Servable oneReference (notesPaging letters) 0 2 := by
  refine ⟨Nat.zero_le _, fun n hLe hZero => ?_⟩
  match n, hLe, hZero with
  | 0, _, hZero => exact absurd (hZero rfl) (List.cons_ne_nil _ _)
  | 1, _, _ =>
      obtain ⟨token, hToken, hResponds⟩ := @responds_one letters
      have hFacts := notesToken_facts
      rw [hToken, Option.map_some, Option.some.injEq, Prod.mk.injEq] at hFacts
      exact ⟨_, _, hResponds, resultSize_notes accepts_oneNote (accepts_of_isOk hFacts.2)⟩
  | 2, _, _ =>
      exact ⟨_, _, responds_two, resultSize_notes accepts_notes (accepts_notesPage (le_refl 2)
        accepts_null true)⟩
  | n + 3, hLe, _ =>
      have hLength : (notes letters).length = 2 := rfl
      rw [window_notes, hLength] at hLe
      omega

end Notes

/-- A text of 261000 letters and an empty one are one page of at most 256 KiB, and yet refused. -/
theorem page_not_tight : Servable oneReference (notesPaging 261000) 0 2 ∧
    ¬ Tight oneReference (notesPaging 261000) 0 2 := by
  refine ⟨servable_notes, fun hTight => ?_⟩
  rw [tight_iff_shortFit servable_notes (pagingOf_notes _).tells] at hTight
  have hTwo : Fits oneReference (notesPaging 261000) 0 2 2 := fits_two_iff.2 (by decide)
  have hOne := hTight 1 2 Nat.one_pos Nat.one_lt_two (Nat.le_refl 2) hTwo
  exact absurd (fits_one_iff.1 hOne) (by decide)

/-- A text of three letters and an empty one are shown in one page. -/
theorem page_tight_iff_short : Tight oneReference (notesPaging 3) 0 2 := by
  refine (page_tight_iff (pagingOf_notes 3) servable_notes).2 ?_
  intro n m hPos hLess hLe _
  have hm : m ≤ 2 := hLe
  obtain rfl : n = 1 := by omega
  exact fits_one_iff.2 (by decide)

end RecordViews
