import DefinedQuant.Shared.CursorRoundTrip
import DefinedQuant.Shared.RecordViews
import DefinedQuant.Shared.SessionFaithful

/-!
# Walking through the pages of a view

A page takes as many items as fit and hands out a cursor for the index behind them. The cursor reads
back as that index, so a walk that follows the cursors shows the whole list, in order and once, and
it cannot go on for longer than there are items.
-/

namespace RecordViews

open Json Canonical DataRecords HostFailures LocalHost SessionCas Effect

variable {w w' : World}

/-- In the session a refusal is a raise. -/
theorem refuseIf_host (p : Prop) [Decidable p] (e : Raised) :
    (refuseIf p e : Host Unit) = raiseIf p e := rfl

/-- In the session an error of the model is raised wrapped. -/
theorem raising_host {α : Type} (wrap : ValueError → Raised) (x : Except ValueError α) :
    (raising wrap x : Host α) = lift wrap x := by
  cases x <;> rfl

/-! ## One page -/

/-- The cursor behind the items of a page, or none if they are the last ones. -/
inductive NextCursor {α : Type} (paging : Paging α) (cursorKey : Bytes) (stop : ℕ) :
    Value → Prop where
  | complete (h : stop = paging.values.length) : NextCursor paging cursorKey stop .null
  | more (token : Text) (h : stop ≠ paging.values.length)
      (hToken : encodeCursorToken cursorKey paging.reference paging.view paging.selector stop
        = .ok token) : NextCursor paging cursorKey stop (.str token)

/-- The description of a page names its start, its length and the cursor behind it. -/
theorem run_pageOf_eq_ok {α : Type} {paging : Paging α} {start returned : ℕ} {members : Members}
    (h : (pageOf Cas.host paging start returned).run w = .ok members w') :
    w' = w ∧ ∃ next, NextCursor paging w.session.cursorKey (start + returned) next ∧
      members = [(py "start", .int start), (py "returned", .int returned),
        (py "next_cursor", next),
        (py "complete", .bool (decide (start + returned = paging.values.length)))] := by
  unfold pageOf at h
  dsimp only at h
  by_cases hComplete : start + returned = paging.values.length
  · rw [if_pos (decide_eq_true hComplete)] at h
    cases h
    exact ⟨rfl, .null, .complete hComplete, rfl⟩
  · rw [if_neg (by rw [decide_eq_false hComplete]; exact Bool.false_ne_true)] at h
    rw [run_bind_eq_ok] at h
    obtain ⟨next, t, hNext, h⟩ := h
    rw [map_eq_pure_bind, run_bind_eq_ok] at hNext
    obtain ⟨token, t', hToken, hNext⟩ := hNext
    obtain ⟨rfl, -, -, hToken⟩ := run_encodeCursor_eq_ok.1 hToken
    cases hNext
    cases h
    exact ⟨rfl, .str token, .more token hComplete hToken, rfl⟩

/-- The description of the last page says that the list is complete. -/
theorem run_pageOf_of_complete {α : Type} {paging : Paging α} {start returned : ℕ}
    (hComplete : start + returned = paging.values.length) :
    (pageOf Cas.host paging start returned).run w
      = .ok [(py "start", .int start), (py "returned", .int returned), (py "next_cursor", .null),
          (py "complete", .bool true)] w := by
  unfold pageOf
  dsimp only
  rw [if_pos (decide_eq_true hComplete), decide_eq_true hComplete]
  rfl

/-- The description of a page that is not the last one carries the cursor behind it. -/
theorem run_pageOf_of_more {α : Type} {paging : Paging α} {start returned : ℕ} {token : Text}
    (hMore : start + returned ≠ paging.values.length)
    (hCursor : (SessionCas.encodeCursor paging.reference paging.view paging.selector
      ((start + returned : ℕ) : ℤ)).run w = .ok token w) :
    (pageOf Cas.host paging start returned).run w
      = .ok [(py "start", .int start), (py "returned", .int returned),
        (py "next_cursor", .str token),
          (py "complete", .bool false)] w := by
  unfold pageOf
  dsimp only
  rw [if_neg (by rw [decide_eq_false hMore]; exact Bool.false_ne_true), decide_eq_false hMore,
    map_eq_pure_bind, bind_assoc]
  show (SessionCas.encodeCursor paging.reference paging.view paging.selector
    ((start + returned : ℕ) : ℤ) >>= _).run w = _
  rw [run_bind_of_ok hCursor]
  rfl

/-- The items that the loop selects are a prefix of the rest, and not the empty one if it could help
that. -/
theorem run_fill_eq_ok {α : Type} {paging : Paging α} {start : ℕ} :
    ∀ {rest selected chosen : List α} {w w' : World},
      (fill Cas.host paging start selected rest).run w = .ok chosen w' →
      w' = w ∧ ∃ n, chosen = selected ++ rest.take n ∧ (selected = [] → rest ≠ [] → 0 < n)
  | [], selected, chosen, w, w', h => by
      cases h
      exact ⟨rfl, 0, (List.append_nil _).symm, fun _ hRest => absurd rfl hRest⟩
  | item :: rest, selected, chosen, w, w', h => by
      obtain ⟨description, t, hPage, hRun⟩ := run_bind_eq_ok.1 h
      obtain ⟨rfl, -⟩ := run_pageOf_eq_ok hPage
      rw [raising_host, run_lift_bind_eq_ok] at hRun
      obtain ⟨actual, -, hRun⟩ := hRun
      split at hRun
      · -- the item does not fit: the page ends here, or the first item of all is refused
        rw [refuseIf_host, run_raiseIf_bind_eq_ok] at hRun
        obtain ⟨hSelected, hRun⟩ := hRun
        cases hRun
        refine ⟨rfl, 0, (List.append_nil _).symm, fun hNil => ?_⟩
        rw [hNil] at hSelected
        exact absurd rfl hSelected
      · obtain ⟨rfl, n, hChosen, -⟩ := run_fill_eq_ok hRun
        refine ⟨rfl, n + 1, ?_, fun _ _ => Nat.succ_pos n⟩
        rw [hChosen, List.append_assoc]
        rfl

/-- What a page shows: a part of the list that starts where it should, the cursor behind that part,
in a response within the limit. -/
structure Shows {α : Type} (paging : Paging α) (cursorKey : Bytes) (start limit : ℕ)
    (response : Members) (shown : List α) (next : Value) : Prop where
  start_le : start ≤ paging.values.length
  shown_eq : shown = (paging.values.drop start).take shown.length
  length_le : shown.length ≤ limit
  progress : 0 < limit → start < paging.values.length → 0 < shown.length
  cursor : NextCursor paging cursorKey (start + shown.length) next
  response_eq : ∃ description, Value.get? (py "next_cursor") description = some next ∧
    response = paging.build shown description
  size_le : ∃ size, resultSize response paging.trust = .ok size ∧ size ≤ maxStructuredResponseBytes

/-- A bounded result that is answered fits the limit. -/
theorem run_boundedResult_eq_ok {data response : Members} {limitName : String} {trust : TrustLabel}
    (h : (boundedResult data limitName trust : Host Members).run w = .ok response w') :
    response = data ∧ w' = w ∧
      ∃ size, resultSize data trust = .ok size ∧ size ≤ maxStructuredResponseBytes := by
  unfold boundedResult at h
  rw [raising_host, run_lift_bind_eq_ok] at h
  obtain ⟨size, hSize, h⟩ := h
  rw [refuseIf_host, run_raiseIf_bind_eq_ok] at h
  obtain ⟨hLe, h⟩ := h
  cases h
  exact ⟨rfl, rfl, size, hSize, not_lt.1 hLe⟩

/-- A result that fits is answered. -/
theorem run_boundedResult_of_fits {data : Members} {limitName : String} {trust : TrustLabel}
    {size : ℕ} (hSize : resultSize data trust = .ok size)
    (hLe : size ≤ maxStructuredResponseBytes) :
    (boundedResult data limitName trust : Host Members).run w = .ok data w := by
  unfold boundedResult
  rw [raising_host, run_lift_bind_of_ok hSize, refuseIf_host,
    run_raiseIf_bind_of_neg (not_lt.2 hLe)]
  rfl

/-- A page that is answered shows some of the items and leaves the session alone. -/
theorem run_page_eq_ok {α : Type} {paging : Paging α} {start limit : ℕ} {response : Members}
    (h : (page Cas.host paging start limit).run w = .ok response w') :
    w' = w ∧ ∃ shown next, Shows paging w.session.cursorKey start limit response shown next := by
  unfold page at h
  rw [refuseIf_host, run_raiseIf_bind_eq_ok] at h
  obtain ⟨hStart, h⟩ := h
  -- The loop chooses the items, and then the page is built of them and bounded.
  obtain ⟨chosen, t, hFill, hRun⟩ := run_bind_eq_ok.1 h
  obtain ⟨rfl, n, hChosen, hPositive⟩ := run_fill_eq_ok hFill
  obtain ⟨description, t', hPage, hBounded⟩ := run_bind_eq_ok.1 hRun
  obtain ⟨rfl, next, hNext, hDescription⟩ := run_pageOf_eq_ok hPage
  obtain ⟨hResponse, rfl, size, hSize, hLe⟩ := run_boundedResult_eq_ok hBounded
  rw [List.nil_append] at hChosen
  refine ⟨rfl, chosen, next, not_lt.1 hStart, ?_, ?_, ?_, hNext, ⟨description, ?_, hResponse⟩, size,
    ?_, hLe⟩
  · refine List.prefix_iff_eq_take.1 ?_
    rw [hChosen, List.take_take]
    exact List.take_prefix _ _
  · rw [hChosen]
    simp only [List.length_take]
    omega
  -- A page is not empty while there are items left.
  · intro hLimit hRest
    have hNonempty : (paging.values.drop start).take limit ≠ [] := by
      intro hNil
      have hLength := congrArg List.length hNil
      simp only [List.length_take, List.length_drop, List.length_nil] at hLength
      omega
    have := hPositive rfl hNonempty
    rw [hChosen]
    simp only [List.length_take, List.length_drop]
    omega
  · rw [hDescription]
    rfl
  · rw [hResponse]
    exact hSize

/-! ## What there is to show

What a view lists, said of the stored record and of nothing that the pages are built with.
-/

/-- A row as an object: its cells in the order of the columns, each under the field ID of its
column. -/
structure RowOf (columns : List DatasetPayloadColumn) (row : List SortedJson) (members : Members) :
    Prop where
  length_eq : members.length = columns.length
  cell : ∀ (j : ℕ) (column : DatasetPayloadColumn) (cell : SortedJson), columns[j]? = some column →
    row[j]? = some cell → members[j]? = some (column.fieldId.1, cell.value)

/-- The rows of a dataset, in their order. -/
structure RowsOf (payload : DatasetPayload) (values : List Value) : Prop where
  length_eq : values.length = payload.1.rows.1.length
  row : ∀ (i : ℕ) (row : List SortedJson), payload.1.rows.1[i]? = some row →
    ∃ members, values[i]? = some (.obj members) ∧ RowOf payload.1.columns.1 row members

/-- The members of an object, each once under `key` and `value`, in the order of their keys in
UTF-8. -/
def EntriesOf (object : Members) (values : List Value) : Prop :=
  ∃ entries : Members,
    values = entries.map (fun p => .obj [(py "key", .str p.1), (py "value", p.2)]) ∧
      entries.Perm object ∧ entries.Pairwise (fun p q => utf8Raw p.1 < utf8Raw q.1)

/-- The items of a structured field: those of an array, or the entries of an object. -/
def ItemsOf (value : Value) (values : List Value) : Prop :=
  (∃ kind, value = .seq kind values) ∨ ∃ object, value = .obj object ∧ EntriesOf object values

/-- The texts of a list of a result, which may be missing. -/
def TextsAt (key : Text) (members : Members) (texts : List Text) : Prop :=
  (Value.get? key members = none ∧ texts = []) ∨
    ∃ kind, Value.get? key members = some (.seq kind (texts.map .str))

/-- The messages of one kind: the texts in their order, each with the kind and its position. -/
structure MessagesOf (kind : String) (texts : List Text) (values : List Value) : Prop where
  length_eq : values.length = texts.length
  message : ∀ (i : ℕ) (text : Text), texts[i]? = some text → values[i]? = some (.obj
    [(py "kind", .lit kind), (py "index", .int i), (py "text", .str text)])

/-- The members of the result of an operation, as the file that the manifest names holds them. -/
def ResultOf (stored : StoredOperation) (members : Members) : Prop :=
  ∃ content, stored.members.lookup stored.manifest.1.result.path.1 = some content ∧
    strictJsonLoads content none = .ok (.obj members)

/-- A row is what the preview makes of it. -/
theorem RowOf.eq {columns : List DatasetPayloadColumn} {row : List SortedJson} {members : Members}
    (h : RowOf columns row members) (hWidth : row.length = columns.length) :
    members = (columns.map (fun c => c.fieldId.1)).zip (row.map (fun cell => cell.value)) := by
  refine List.ext_getElem ?_ (fun j hj _ => ?_)
  · rw [h.length_eq, List.length_zip, List.length_map, List.length_map, hWidth, min_self]
  · have hColumn : j < columns.length := h.length_eq ▸ hj
    have hCell := h.cell j _ _ (List.getElem?_eq_getElem hColumn)
      (List.getElem?_eq_getElem (hWidth.symm ▸ hColumn))
    rw [List.getElem?_eq_getElem hj] at hCell
    rw [List.getElem_zip, List.getElem_map, List.getElem_map]
    exact Option.some.inj hCell

/-- The list of the preview is the rows of the dataset. -/
theorem RowsOf.eq {payload : DatasetPayload} {values : List Value} (h : RowsOf payload values) :
    values = previewRows payload := by
  obtain ⟨-, hWidth, -⟩ := DatasetPayloadFields.validateTable_eq_ok.1 payload.2
  refine List.ext_getElem ?_ (fun i hi _ => ?_)
  · rw [h.length_eq, previewRows, List.length_map]
  · have hRow : i < payload.1.rows.1.length := h.length_eq ▸ hi
    obtain ⟨members, hMembers, hOf⟩ := h.row i _ (List.getElem?_eq_getElem hRow)
    rw [List.getElem?_eq_getElem hi] at hMembers
    rw [Option.some.inj hMembers, hOf.eq (hWidth _ (List.getElem_mem hRow)).1]
    simp only [previewRows, List.getElem_map]

/-- What the preview lists is the rows of the dataset, whatever the dataset. -/
theorem rowsOf_previewRows (payload : DatasetPayload) : RowsOf payload (previewRows payload) := by
  obtain ⟨-, hWidth, -⟩ := DatasetPayloadFields.validateTable_eq_ok.1 payload.2
  refine ⟨List.length_map _, fun i row hRow => ⟨(payload.1.columns.1.map (fun c => c.fieldId.1)).zip
    (row.map (fun cell => cell.value)), ?_, ?_, fun j column cell hColumn hCell => ?_⟩⟩
  · rw [previewRows, List.getElem?_map, hRow]
    rfl
  · rw [List.length_zip, List.length_map, List.length_map,
      (hWidth row (List.mem_of_getElem? hRow)).1, min_self]
  · rw [List.getElem?_zip_eq_some, List.getElem?_map, List.getElem?_map, hColumn, hCell]
    exact ⟨rfl, rfl⟩

/-- Only one order of the members is sorted, so the entries are those that the field view makes. -/
theorem EntriesOf.eq {object : Members} {values : List Value} (h : EntriesOf object values) :
    values = (sortBy (fun p => utf8Raw p.1) object).map (fun p =>
      .obj [(py "key", .str p.1), (py "value", p.2)]) := by
  obtain ⟨entries, rfl, hPerm, hSorted⟩ := h
  have hNodup : (entries.map (fun p => utf8Raw p.1)).Nodup :=
    List.pairwise_map.2 (hSorted.imp (fun hLess => ne_of_lt hLess))
  rw [← sortBy_eq_of_perm hPerm (fun a ha b hb hEq => List.inj_on_of_nodup_map hNodup ha hb hEq),
    sortBy_eq_self (hSorted.imp (fun hLess => le_of_lt hLess))]

/-- The listed items of a field are those the code reads off its value. -/
theorem ItemsOf.eq {value : Value} {values : List Value} (h : ItemsOf value values) :
    ∃ valueKind itemsKey, fieldItems value = some (valueKind, itemsKey, values) := by
  rcases h with ⟨kind, rfl⟩ | ⟨object, rfl, hEntries⟩
  · exact ⟨_, _, rfl⟩
  · rw [hEntries.eq]
    exact ⟨_, _, rfl⟩

/-- The listed texts are those the code reads off the record. -/
theorem TextsAt.eq {key : Text} {members : Members} {texts : List Text}
    (h : TextsAt key members texts) :
    textItems members key = some (texts.map .str) := by
  unfold textItems
  rcases h with ⟨hNone, rfl⟩ | ⟨kind, hSome⟩
  · rw [hNone]
    rfl
  · rw [hSome]
    dsimp only [Option.getD_some]
    rw [if_pos]
    rw [List.all_eq_true]
    intro x hx
    obtain ⟨text, -, rfl⟩ := List.mem_map.1 hx
    rfl

/-- The listed messages are those the code builds of the texts. -/
theorem MessagesOf.eq {kind : String} {texts : List Text} {values : List Value}
    (h : MessagesOf kind texts values) : values = messageItems kind (texts.map .str) := by
  refine List.ext_getElem ?_ (fun i hi _ => ?_)
  · rw [h.length_eq, messageItems, List.length_mapIdx, List.length_map]
  · have hText : i < texts.length := h.length_eq ▸ hi
    have hMessage := h.message i _ (List.getElem?_eq_getElem hText)
    rw [List.getElem?_eq_getElem hi] at hMessage
    rw [Option.some.inj hMessage]
    simp only [messageItems, List.getElem_mapIdx, List.getElem_map]

/-- The result of the record is the one the code takes. -/
theorem ResultOf.eq {stored : StoredOperation} {members : Members} (h : ResultOf stored members) :
    (result stored : Host Members) = pure members := by
  obtain ⟨content, hContent, hLoads⟩ := h
  unfold result
  rw [hContent]
  dsimp only
  rw [hLoads]

/-! ## The views that are shown in pages -/

/-- The lists that are shown in pages. -/
inductive PagedView where
  | preview
  | resultField (field : Text)
  | messages

namespace PagedView

/-- The request for a page. -/
def request (reference : Text) (cursor : Option Text) (limit : Option ℤ) : PagedView → Host Members
  | .preview => describeDataset Cas.host reference (py "preview") cursor
      (limit.getD defaultPreviewLimit)
  | .resultField field => getOperation Cas.host reference (py "result_field")
      ⟨some field, none, cursor, limit⟩
  | .messages => getOperation Cas.host reference (py "messages") ⟨none, none, cursor, limit⟩

/-- The number of items that a request asks for. -/
def requested (limit : Option ℤ) : PagedView → ℤ
  | .preview => limit.getD defaultPreviewLimit
  | .resultField _ => limit.getD defaultResultLimit
  | .messages => limit.getD defaultMessageLimit

/-- The label that the responses are measured with. -/
def trust : PagedView → TrustLabel
  | .preview => .unverifiedCallerData
  | _ => .unmanagedExecution

/-- The view that the cursors name. -/
def name : PagedView → Text
  | .preview => py "preview"
  | .resultField _ => py "result_field"
  | .messages => py "messages"

/-- The selector that the cursors are bound to. -/
def selector : PagedView → Option Text
  | .resultField field => some field
  | _ => none

/-- The list that a view of a record shows, as the record is loaded in this world: the rows of a
dataset, the items of a structured field of the result of an operation, or the messages of an
operation, the warnings before the disclosures. -/
def Lists (reference : Text) (w : World) (values : List Value) : PagedView → Prop
  | .preview => ∃ stored t, (SessionCas.loadDataset reference).run w = .ok stored t ∧
      RowsOf stored.payload values
  | .resultField field => ∃ stored members t value,
      (SessionCas.loadOperation reference).run w = .ok stored t ∧ ResultOf stored members ∧
      Value.get? field members = some value ∧ ItemsOf value values
  | .messages => ∃ stored members t warnings disclosures first second,
      (SessionCas.loadOperation reference).run w = .ok stored t ∧ ResultOf stored members ∧
      TextsAt (py "warnings") members warnings ∧ TextsAt (py "disclosures") members disclosures ∧
      MessagesOf "warning" warnings first ∧ MessagesOf "disclosure" disclosures second ∧
      values = first ++ second

/-- A list in a response. -/
def listAt (key : Text) (members : Members) : Option (List Value) :=
  match Value.get? key members with
  | some (.seq _ xs) => some xs
  | _ => none

/-- An object in a response. -/
def objectAt (key : Text) (members : Members) : Members :=
  match Value.get? key members with
  | some (.obj object) => object
  | _ => []

/-- The items that a response carries. -/
def items (response : Members) : PagedView → List Value
  | .preview => (listAt (py "rows") (objectAt (py "preview") response)).getD []
  | .resultField _ => ((listAt (py "items") response).or (listAt (py "entries") response)).getD []
  | .messages => (listAt (py "messages") response).getD []

/-- The cursor that a response carries: the next one, or null. -/
def nextCursor (response : Members) : PagedView → Option Value
  | .preview => Value.get? (py "next_cursor") (objectAt (py "preview") response)
  | _ => Value.get? (py "next_cursor") (objectAt (py "page") response)

end PagedView

/-- The pages of a view, and how to read their responses. -/
structure PagingOf (view : PagedView) (reference : Text) (values : List Value)
    (paging : Paging Value) : Prop where
  values_eq : paging.values = values
  reference_eq : paging.reference = reference
  view_eq : paging.view = view.name
  selector_eq : paging.selector = view.selector
  trust_eq : paging.trust = view.trust
  items_build : ∀ shown description, view.items (paging.build shown description) = shown
  nextCursor_build : ∀ shown description,
    view.nextCursor (paging.build shown description) = Value.get? (py "next_cursor") description

/-- A key that the front lacks is looked up in the rest. -/
theorem get?_append_of_none {key : Text} {m n : Members} (h : Value.get? key m = none) :
    Value.get? key (m ++ n) = Value.get? key n := by
  induction m with
  | nil => rfl
  | cons p m ih =>
      obtain ⟨k, v⟩ := p
      rw [Value.get?_cons] at h
      rw [List.cons_append, Value.get?_cons]
      split at h
      · cases h
      · next hKey => rw [if_neg hKey, ih h]

/-- The paging of a preview lists the rows of the payload. -/
theorem pagingOf_preview (stored : StoredDataset) (reference : Text) :
    PagingOf .preview reference (previewRows stored.payload) (previewPaging stored reference) := by
  have hPreview : ∀ rows : Members, Value.get? (py "preview")
      (datasetMetadata stored false ++ [(py "preview", Value.obj rows)]) = some (.obj rows) :=
    fun rows => get?_append_of_none rfl
  refine ⟨rfl, rfl, rfl, rfl, rfl, fun shown description => ?_, fun shown description => ?_⟩
  · simp only [PagedView.items, PagedView.objectAt, previewPaging, hPreview]
    rfl
  · simp only [PagedView.nextCursor, PagedView.objectAt, previewPaging, hPreview]
    rfl

/-- The members of a page of an operation before its items. -/
def IsPageBase (base : Members) : Prop :=
  ∀ key ∈ [py "items", py "entries", py "messages", py "page"], Value.get? key base = none

/-- The paging of a field lists the items of its value. -/
theorem pagingOf_field {base : Members} (hBase : IsPageBase base) (reference field : Text)
    {value : Value} {valueKind itemsKey : String} {items : List Value}
    (h : fieldItems value = some (valueKind, itemsKey, items)) :
    PagingOf (.resultField field) reference items
      (fieldPaging base reference field valueKind itemsKey items) := by
  have hKey : itemsKey = "items" ∨ itemsKey = "entries" := by
    cases value with
    | seq kind xs =>
        cases h
        exact .inl rfl
    | obj members =>
        cases h
        exact .inr rfl
    | _ => cases h
  have hItems : Value.get? (py "items") base = none := hBase _ (by decide)
  have hEntries : Value.get? (py "entries") base = none := hBase _ (by decide)
  have hPage : Value.get? (py "page") base = none := hBase _ (by decide)
  refine ⟨rfl, rfl, rfl, rfl, rfl, fun shown description => ?_, fun shown description => ?_⟩
  · show ((PagedView.listAt (py "items") (base ++ _)).or
      (PagedView.listAt (py "entries") (base ++ _))).getD [] = shown
    unfold PagedView.listAt
    rw [get?_append_of_none hItems, get?_append_of_none hEntries]
    rcases hKey with rfl | rfl <;> rfl
  · show Value.get? (py "next_cursor") (PagedView.objectAt (py "page") (base ++ _)) = _
    unfold PagedView.objectAt
    rw [get?_append_of_none hPage]
    rcases hKey with rfl | rfl <;> rfl

/-- The paging of the messages lists the messages. -/
theorem pagingOf_messages {base : Members} (hBase : IsPageBase base) (reference : Text)
    (items : List Value) :
    PagingOf .messages reference items (messagePaging base reference items) := by
  have hMessages : Value.get? (py "messages") base = none := hBase _ (by decide)
  have hPage : Value.get? (py "page") base = none := hBase _ (by decide)
  refine ⟨rfl, rfl, rfl, rfl, rfl, fun shown description => ?_, fun shown description => ?_⟩
  · show (PagedView.listAt (py "messages") (base ++ _)).getD [] = shown
    unfold PagedView.listAt
    rw [get?_append_of_none hMessages]
    rfl
  · show Value.get? (py "next_cursor") (PagedView.objectAt (py "page") (base ++ _)) = _
    unfold PagedView.objectAt
    rw [get?_append_of_none hPage]
    rfl

/-- The index at which a page starts: the first one, or the one that a cursor carries. -/
def StartsAt (cursorKey : Bytes) (reference name : Text) (selector cursor : Option Text)
    (start : ℕ) : Prop :=
  match cursor with
  | none => start = 0
  | some token => ∃ index : ℤ, start = index.toNat ∧
      decodeCursorToken cursorKey token reference name selector = .ok index

/-- A request starts where its cursor says, and at the first item without one. -/
theorem run_startOf_eq_ok {cursor selector : Option Text} {reference name : Text} {start : ℕ}
    (h : (startOf Cas.host cursor reference name selector).run w = .ok start w') :
    w' = w ∧ StartsAt w.session.cursorKey reference name selector cursor start := by
  unfold startOf at h
  split at h
  · cases h
    exact ⟨rfl, rfl⟩
  · obtain ⟨index, t, hIndex, hRun⟩ := run_bind_eq_ok.1 h
    obtain ⟨rfl, -, -, hToken⟩ := run_decodeCursor_eq_ok.1 hIndex
    cases hRun
    exact ⟨rfl, index, rfl, hToken⟩

/-- A limit that passes is positive and taken as it is. -/
theorem run_validateLimit_eq_ok {value maximum : ℤ} {limit : ℕ}
    (h : (validateLimit value maximum : Host ℕ).run w = .ok limit w') :
    w' = w ∧ 1 ≤ value ∧ limit = value.toNat := by
  unfold validateLimit at h
  rw [refuseIf_host, run_raiseIf_bind_eq_ok] at h
  obtain ⟨hBounds, h⟩ := h
  cases h
  exact ⟨rfl, (not_not.1 hBounds).1, rfl⟩

/-- The last part of every request for a page. -/
def turn (cursor : Option Text) (limit maximum : ℤ) (paging : Paging Value) : Host Members := do
  let pageLimit ← validateLimit limit maximum
  let start ← startOf Cas.host cursor paging.reference paging.view paging.selector
  page Cas.host paging start pageLimit

/-- What a page of a view shows of the list. -/
structure Turn (view : PagedView) (reference : Text) (values : List Value) (cursorKey : Bytes)
    (cursor : Option Text) (limit : Option ℤ) (response : Members) : Prop where
  encodable : Text.Encodable reference
  requested : 1 ≤ view.requested limit
  shows : ∃ paging start next, PagingOf view reference values paging ∧
    StartsAt cursorKey reference view.name view.selector cursor start ∧
    Shows paging cursorKey start (view.requested limit).toNat response (view.items response) next ∧
    view.nextCursor response = some next

/-- A request that is answered takes a turn of the walk over the listed items. -/
theorem turn_of_run {view : PagedView} {reference : Text} {values : List Value}
    {cursor : Option Text}
    {limit : Option ℤ} {maximum : ℤ} {paging : Paging Value} {response : Members}
    (hEncodable : Text.Encodable reference) (hPaging : PagingOf view reference values paging)
    (h : (turn cursor (view.requested limit) maximum paging).run w = .ok response w') :
    Turn view reference values w.session.cursorKey cursor limit response := by
  obtain ⟨pageLimit, t, hLimit, hRun⟩ := run_bind_eq_ok.1 h
  obtain ⟨rfl, hRequested, rfl⟩ := run_validateLimit_eq_ok hLimit
  obtain ⟨start, t', hStart, hPage⟩ := run_bind_eq_ok.1 hRun
  obtain ⟨rfl, hStart⟩ := run_startOf_eq_ok hStart
  obtain ⟨-, shown, next, hShows⟩ := run_page_eq_ok hPage
  obtain ⟨description, hNext, hResponse⟩ := hShows.response_eq
  rw [hPaging.reference_eq, hPaging.view_eq, hPaging.selector_eq] at hStart
  refine ⟨hEncodable, hRequested, paging, start, next, hPaging, hStart, ?_, ?_⟩
  · rw [hResponse, hPaging.items_build, ← hResponse]
    exact hShows
  · rw [hResponse, hPaging.nextCursor_build]
    exact hNext

/-- A reference under which a dataset was loaded encodes. -/
theorem encodable_of_loadDataset {reference : Text} {stored : StoredDataset}
    (h : (SessionCas.loadDataset reference).run w = .ok stored w') : Text.Encodable reference := by
  obtain ⟨destination, hResolve, -⟩ := run_loadDataset_eq_ok.1 h
  obtain ⟨-, hDestination, -⟩ := run_resolve_eq_ok.1 hResolve
  exact encodable_of_destinationOf hDestination

/-- So does a reference under which an operation was loaded. -/
theorem encodable_of_loadOperation {reference : Text} {stored : StoredOperation}
    (h : (SessionCas.loadOperation reference).run w = .ok stored w') :
    Text.Encodable reference := by
  obtain ⟨destination, hResolve, -⟩ := run_loadOperation_eq_ok.1 h
  obtain ⟨-, hDestination, -⟩ := run_resolve_eq_ok.1 hResolve
  exact encodable_of_destinationOf hDestination

/-- Loading an operation is a read. -/
theorem reads_of_loadOperation {reference : Text} {stored : StoredOperation}
    (h : (SessionCas.loadOperation reference).run w = .ok stored w') : Reads w w' := by
  obtain ⟨destination, -, hLoad⟩ := run_loadOperation_eq_ok.1 h
  exact reads_of_loadOperationDirectory hLoad

/-- A preview that is answered takes a turn over the rows. -/
theorem turn_of_preview {reference : Text} {values : List Value} {cursor : Option Text}
    {limit : Option ℤ} {response : Members} (hLists : PagedView.preview.Lists reference w values)
    (h : (PagedView.preview.request reference cursor limit).run w = .ok response w') :
    Turn .preview reference values w.session.cursorKey cursor limit response := by
  obtain ⟨stored, t, hLoad, hRows⟩ := hLists
  obtain rfl := hRows.eq
  have hSession : t.session = w.session := (reads_of_loadDataset hLoad).session
  change (Cas.host.loadDataset reference).run w = _ at hLoad
  change (describeDataset Cas.host reference (py "preview") cursor _).run w = _ at h
  unfold describeDataset at h
  rw [run_bind_of_ok hLoad, if_neg (by decide), refuseIf_host,
    run_raiseIf_bind_of_neg (not_not.2 rfl)] at h
  rw [← hSession]
  exact turn_of_run (encodable_of_loadDataset hLoad) (pagingOf_preview stored reference) h

/-- So does a page of a field over its items. -/
theorem turn_of_field {reference field : Text} {values : List Value} {cursor : Option Text}
    {limit : Option ℤ} {response : Members}
    (hLists : (PagedView.resultField field).Lists reference w values)
    (h : ((PagedView.resultField field).request reference cursor limit).run w = .ok response w') :
    Turn (.resultField field) reference values w.session.cursorKey cursor limit response := by
  obtain ⟨stored, members, t, value, hLoad, hResult, hValue, hItems⟩ := hLists
  obtain ⟨valueKind, itemsKey, hItems⟩ := hItems.eq
  have hSession : t.session = w.session := (reads_of_loadOperation hLoad).session
  change (Cas.host.loadOperation reference).run w = _ at hLoad
  change (getOperation Cas.host reference (py "result_field") _).run w = _ at h
  unfold getOperation at h
  rw [run_bind_of_ok hLoad, if_neg (by decide), if_neg (by decide), hResult.eq, pure_bind,
    if_pos rfl] at h
  unfold resultFieldView at h
  dsimp only at h
  rw [hValue] at h
  dsimp only at h
  rw [refuseIf_host, run_raiseIf_bind_of_neg (by decide), raising_host,
    run_lift_bind_eq_ok] at h
  obtain ⟨fieldSha256, -, h⟩ := h
  rw [hItems] at h
  rw [← hSession]
  refine turn_of_run (encodable_of_loadOperation hLoad) (pagingOf_field ?_ reference field hItems) h
  intro key hKey
  simp only [List.mem_cons, List.not_mem_nil, or_false] at hKey
  rcases hKey with rfl | rfl | rfl | rfl <;> rfl

/-- So does a page of the messages over the messages. -/
theorem turn_of_messages {reference : Text} {values : List Value} {cursor : Option Text}
    {limit : Option ℤ} {response : Members} (hLists : PagedView.messages.Lists reference w values)
    (h : (PagedView.messages.request reference cursor limit).run w = .ok response w') :
    Turn .messages reference values w.session.cursorKey cursor limit response := by
  obtain ⟨stored, members, t, warnings, disclosures, first, second, hLoad, hResult, hWarnings,
    hDisclosures, hFirst, hSecond, rfl⟩ := hLists
  have hSession : t.session = w.session := (reads_of_loadOperation hLoad).session
  change (Cas.host.loadOperation reference).run w = _ at hLoad
  change (getOperation Cas.host reference (py "messages") _).run w = _ at h
  unfold getOperation at h
  rw [run_bind_of_ok hLoad, if_neg (by decide), if_neg (by decide), hResult.eq, pure_bind,
    if_neg (by decide), if_pos rfl] at h
  unfold messagesView at h
  have hUnselected : ¬ ((none : Option Text).isSome = true ∨ (none : Option Text).isSome = true) :=
    by
    decide
  rw [refuseIf_host, run_raiseIf_bind_of_neg hUnselected] at h
  obtain ⟨⟨items, messagesDigest⟩, t', hMessages, h⟩ := run_bind_eq_ok.1 h
  -- the messages are computed from the two lists of texts, and their digest is
  unfold RecordViews.messages at hMessages
  rw [hWarnings.eq, hDisclosures.eq] at hMessages
  dsimp only at hMessages
  rw [raising_host, run_lift_bind_eq_ok] at hMessages
  obtain ⟨digest, -, hMessages⟩ := hMessages
  cases hMessages
  rw [← hFirst.eq, ← hSecond.eq] at h
  rw [← hSession]
  refine turn_of_run (encodable_of_loadOperation hLoad) (pagingOf_messages ?_ reference _) h
  intro key hKey
  simp only [List.mem_cons, List.not_mem_nil, or_false] at hKey
  rcases hKey with rfl | rfl | rfl | rfl <;> rfl

/-- A request for a page of a list that returns is a turn of that list. -/
theorem turn_of_request {view : PagedView} {reference : Text} {values : List Value}
    {cursor : Option Text} {limit : Option ℤ} {response : Members}
    (hLists : view.Lists reference w values)
    (h : (view.request reference cursor limit).run w = .ok response w') :
    Turn view reference values w.session.cursorKey cursor limit response := by
  cases view with
  | preview => exact turn_of_preview hLists h
  | resultField field => exact turn_of_field hLists h
  | messages => exact turn_of_messages hLists h

/-! ## Walks -/

/-- A page of a walk: the limit that was asked for, and the response. -/
structure Page where
  limit : Option ℤ
  response : Members

/-- A request for a page that returns, in a session with this key and while the view shows this
list. Between the requests of a walk the session may do anything else. -/
def Page.Answers (view : PagedView) (reference : Text) (values : List Value) (cursorKey : Bytes)
    (cursor : Option Text) (page : Page) : Prop :=
  ∃ w w', w.session.cursorKey = cursorKey ∧ view.Lists reference w values ∧
    (view.request reference cursor page.limit).run w = .ok page.response w'

/-- The pages of a walk so far, and the cursor to go on with. The first page is asked for with no
cursor, every next one with the cursor that the page before it has returned. -/
inductive Walk (view : PagedView) (reference : Text) (values : List Value) (cursorKey : Bytes) :
    List Page → Option Value → Prop where
  | first {page : Page} (h : page.Answers view reference values cursorKey none) :
      Walk view reference values cursorKey [page] (view.nextCursor page.response)
  | next {pages : List Page} {token : Text} {page : Page}
      (h : Walk view reference values cursorKey pages (some (.str token)))
      (hPage : page.Answers view reference values cursorKey (some token)) :
      Walk view reference values cursorKey (pages ++ [page]) (view.nextCursor page.response)

/-- What every page of a walk keeps to. -/
structure Page.Bounded (view : PagedView) (page : Page) : Prop where
  at_most : ((view.items page.response).length : ℤ) ≤ view.requested page.limit
  nonempty : view.nextCursor page.response ≠ some .null → view.items page.response ≠ []
  size_le : ∃ size, resultSize page.response view.trust = .ok size ∧
    size ≤ maxStructuredResponseBytes

/-- The cursor of a walk that has shown the list up to an index. -/
def CursorAt (view : PagedView) (reference : Text) (values : List Value) (cursorKey : Bytes)
    (stop : ℕ) (next : Option Value) : Prop :=
  (stop = values.length ∧ next = some .null) ∨
    (stop < values.length ∧ ∃ token, next = some (.str token) ∧
      encodeCursorToken cursorKey reference view.name view.selector stop = .ok token)

section Walks

variable {view : PagedView} {reference : Text} {values : List Value} {cursorKey : Bytes}

/-- One page shows the items from where its cursor points to where its next cursor points. -/
theorem Page.Answers.spec {page : Page} {cursor : Option Text}
    (h : page.Answers view reference values cursorKey cursor) :
    Text.Encodable reference ∧ page.Bounded view ∧ ∃ start stop,
      StartsAt cursorKey reference view.name view.selector cursor start ∧
      values.take stop = values.take start ++ view.items page.response ∧
      CursorAt view reference values cursorKey stop (view.nextCursor page.response) ∧
      stop ≤ values.length ∧ start ≤ stop ∧ (start < values.length → start < stop) := by
  obtain ⟨w, w', rfl, hLists, hRun⟩ := h
  obtain ⟨hEncodable, hRequested, paging, start, next, hPaging, hStart, hShows, hNext⟩ :=
    turn_of_request hLists hRun
  -- What the turn says about the page, read for the listed values.
  have hValues := hPaging.values_eq
  have hStartLe := hShows.start_le
  have hLimit := hShows.length_le
  have hProgress := hShows.progress
  have hShown := hShows.shown_eq
  have hCursor := hShows.cursor
  obtain ⟨size, hSize, hLe⟩ := hShows.size_le
  rw [hPaging.trust_eq] at hSize
  rw [hValues] at hStartLe hProgress hShown
  have hStop : start + (view.items page.response).length ≤ values.length := by
    have hLength := congrArg List.length hShown
    rw [List.length_take, List.length_drop] at hLength
    omega
  refine ⟨hEncodable, ⟨by omega, fun hMore hNil => ?_, size, hSize, hLe⟩, start,
    start + (view.items page.response).length, hStart, ?_, ?_, hStop, Nat.le_add_right _ _, ?_⟩
  · -- only the last page can be empty
    rw [hNil] at hCursor
    rw [hNext] at hMore
    cases hCursor with
    | complete _ => exact hMore rfl
    | more token hNe _ =>
        rw [hValues] at hNe
        have := hProgress (by omega) (lt_of_le_of_ne hStartLe hNe)
        rw [hNil] at this
        exact absurd this (lt_irrefl 0)
  · rw [List.take_add, ← hShown]
  · rw [hNext]
    cases hCursor with
    | complete hEq =>
        rw [hValues] at hEq
        exact .inl ⟨hEq, rfl⟩
    | more token hNe hToken =>
        rw [hValues] at hNe
        rw [hPaging.reference_eq, hPaging.view_eq, hPaging.selector_eq] at hToken
        exact .inr ⟨lt_of_le_of_ne hStop hNe, token, rfl, hToken⟩
  · intro hLess
    have := hProgress (by omega) hLess
    omega

/-- Where a walk stands: it has shown the list up to the index of its cursor, in at most as many
pages as it has shown items, and the first one. -/
theorem Walk.progress {pages : List Page} {next : Option Value}
    (h : Walk view reference values cursorKey pages next) :
    ∃ stop, stop ≤ values.length ∧ pages.length ≤ stop + 1 ∧
      (pages.map (fun page => view.items page.response)).flatten = values.take stop ∧
      CursorAt view reference values cursorKey stop next ∧ ∀ page ∈ pages, page.Bounded view := by
  induction h with
  | @first page hPage =>
      obtain ⟨-, hBounded, start, stop, hStart, hTake, hCursor, hStop, -, -⟩ := hPage.spec
      subst hStart
      refine ⟨stop, hStop, Nat.le_add_left 1 stop, ?_, hCursor, ?_⟩
      · rw [hTake]
        exact List.append_nil _
      · intro other hMem
        rw [List.mem_singleton.1 hMem]
        exact hBounded
  | @next pages token page _ hPage ih =>
      obtain ⟨index, hIndex, hPages, hShown, hAt, hAll⟩ := ih
      obtain ⟨hEncodable, hBounded, start, stop, hStart, hTake, hCursor, hStop, -, hProgress⟩ :=
        hPage.spec
      -- the cursor is the token of the index that the walk has come to
      rcases hAt with ⟨-, hNull⟩ | ⟨hLess, token', hToken, hEncode⟩
      · cases hNull
      · cases hToken
        obtain ⟨decoded, rfl, hDecode⟩ := hStart
        rw [decodeCursorToken_encodeCursorToken hEncodable hEncode] at hDecode
        cases hDecode
        rw [Int.toNat_natCast] at hTake hProgress
        have := hProgress hLess
        refine ⟨stop, hStop, ?_, ?_, hCursor, ?_⟩
        · rw [List.length_append, List.length_singleton]
          omega
        · rw [List.map_append, List.flatten_append, hShown, hTake]
          exact congrArg _ (List.append_nil _)
        · intro other hMem
          rcases List.mem_append.1 hMem with hMem | hMem
          · exact hAll other hMem
          · rw [List.mem_singleton.1 hMem]
            exact hBounded

/-- Paging loses and duplicates nothing. A walk has at most one page more than there are items, goes
on with a cursor or is complete, and when it is complete its pages are the whole list. Every page
stays within its limits, and every page but the last one shows an item. -/
theorem paging_complete {pages : List Page} {next : Option Value}
    (h : Walk view reference values cursorKey pages next) :
    pages.length ≤ values.length + 1 ∧
      (next = some .null ∨ ∃ token, next = some (.str token)) ∧
      (next = some .null →
        (pages.map (fun page => view.items page.response)).flatten = values) ∧
      ∀ page ∈ pages,
        ((view.items page.response).length : ℤ) ≤ view.requested page.limit ∧
          (view.nextCursor page.response ≠ some .null → 1 ≤ (view.items page.response).length) ∧
          ∃ size, resultSize page.response view.trust = .ok size ∧
            size ≤ maxStructuredResponseBytes := by
  obtain ⟨stop, hStop, hPages, hShown, hAt, hAll⟩ := h.progress
  refine ⟨by omega, ?_, fun hNull => ?_, fun page hMem => ?_⟩
  · rcases hAt with ⟨-, hNull⟩ | ⟨-, token, hToken, -⟩
    · exact .inl hNull
    · exact .inr ⟨token, hToken⟩
  · rcases hAt with ⟨hEq, -⟩ | ⟨-, token, hToken, -⟩
    · rw [hShown, hEq, List.take_length]
    · rw [hToken] at hNull
      cases hNull
  · obtain ⟨hAtMost, hNonempty, hSize⟩ := hAll page hMem
    exact ⟨hAtMost, fun hMore => List.length_pos_iff.2 (hNonempty hMore), hSize⟩

end Walks

/-! ## A walk of two pages -/

/-- A page of one item, if the item fits. -/
theorem run_page_of_one {paging : Paging Value} {start size : ℕ} {item : Value}
    {description : Members} (hItem : (paging.values.drop start).take 1 = [item])
    (hPage : (pageOf Cas.host paging start 1).run w = .ok description w)
    (hSize : resultSize (paging.build [item] description) paging.trust = .ok size)
    (hLe : size ≤ maxStructuredResponseBytes) :
    (page Cas.host paging start 1).run w = .ok (paging.build [item] description) w := by
  have hStart : ¬ paging.values.length < start := by
    intro hOver
    rw [List.drop_eq_nil_of_le hOver.le] at hItem
    cases hItem
  have hFill : (fill Cas.host paging start [] [item]).run w = .ok [item] w := by
    unfold fill
    show (pageOf Cas.host paging start 1 >>= _).run w = _
    rw [run_bind_of_ok hPage, raising_host]
    show (lift Raised.value (resultSize (paging.build [item] description) paging.trust) >>=
      _).run w = _
    rw [run_lift_bind_of_ok hSize, if_neg (not_lt.2 hLe)]
    rfl
  unfold page
  rw [refuseIf_host, run_raiseIf_bind_of_neg hStart, hItem, run_bind_of_ok hFill]
  show (pageOf Cas.host paging start 1 >>= _).run w = _
  rw [run_bind_of_ok hPage]
  exact run_boundedResult_of_fits hSize hLe

/-- A preview that is asked for one row shows it, if it fits. -/
theorem run_preview_of_one {reference : Text} {stored : StoredDataset} {cursor : Option Text}
    {start size : ℕ} {row : Value} {description : Members} {t : World}
    (hLoad : (SessionCas.loadDataset reference).run w = .ok stored t)
    (hStart : (startOf Cas.host cursor reference (py "preview") none).run t = .ok start t)
    (hRow : ((previewRows stored.payload).drop start).take 1 = [row])
    (hPage : (pageOf Cas.host (previewPaging stored reference) start 1).run t = .ok description t)
    (hSize : resultSize ((previewPaging stored reference).build [row] description)
      .unverifiedCallerData = .ok size) (hLe : size ≤ maxStructuredResponseBytes) :
    (PagedView.preview.request reference cursor (some 1)).run w
      = .ok ((previewPaging stored reference).build [row] description) t := by
  change (Cas.host.loadDataset reference).run w = _ at hLoad
  show (describeDataset Cas.host reference (py "preview") cursor 1).run w = _
  unfold describeDataset
  rw [run_bind_of_ok hLoad, if_neg (by decide), refuseIf_host,
    run_raiseIf_bind_of_neg (not_not.2 rfl)]
  have hLimit : (validateLimit 1 maxPreviewLimit : Host ℕ).run t = .ok 1 t := rfl
  rw [run_bind_of_ok hLimit, run_bind_of_ok hStart]
  exact run_page_of_one hRow hPage hSize hLe

def integerPayload : DatasetPayload :=
  cellPayload (.of integerCell trivial) rfl (accepts_of_canonicalHash digest_samplePayload.1)

/-- The sample as it is stored. -/
def sampleDataset : StoredDataset := ⟨sampleReference, cellRecord, integerPayload⟩

/-- The row of one number. -/
def numberRow (n : ℤ) : Value := .obj [(py "x", .int n)]

/-- The description of the page that shows one row of the sample. -/
def rowPage (start : ℕ) (next : Value) (complete : Bool) : Members :=
  [(py "start", .int start), (py "returned", .int (1 : ℕ)), (py "next_cursor", next),
    (py "complete", .bool complete)]

/-- The sizes of the two pages; the cursor between them is a token of the empty key. -/
theorem sizes_rowPages :
    (encodeCursorToken [] sampleReference (py "preview") none 1).toOption.bind (fun token =>
      (resultSize ((previewPaging sampleDataset sampleReference).build [numberRow 1]
        (rowPage 0 (.str token) false)) .unverifiedCallerData).toOption) = some 1149 ∧
    (resultSize ((previewPaging sampleDataset sampleReference).build [numberRow 2]
      (rowPage 1 .null true)) .unverifiedCallerData).toOption = some 954 := by
  decide +kernel

/-- The cursor behind the first row of the sample, and the sizes of the two pages. -/
theorem exists_rowToken : ∃ token,
    encodeCursorToken [] sampleReference (py "preview") none 1 = .ok token ∧
      resultSize ((previewPaging sampleDataset sampleReference).build [numberRow 1]
        (rowPage 0 (.str token) false)) .unverifiedCallerData = .ok 1149 ∧
      resultSize ((previewPaging sampleDataset sampleReference).build [numberRow 2]
        (rowPage 1 .null true)) .unverifiedCallerData = .ok 954 := by
  obtain ⟨hFirst, hSecond⟩ := sizes_rowPages
  obtain ⟨token, hToken, hSize⟩ := Option.bind_eq_some_iff.1 hFirst
  exact ⟨token, Except.eq_ok_of_toOption hToken, Except.eq_ok_of_toOption hSize,
    Except.eq_ok_of_toOption hSecond⟩

/-- A session into which the sample has been published loads it, now and after any further call that
leaves its reference alone. -/
theorem loads_sample : ∃ w, w.session.cursorKey = [] ∧ w.Calm ∧
    sampleReference ∈ w.session.references ∧ sampleReference ∉ w.session.corruptReferences ∧
    w.session.closed = false ∧ ∃ t u,
      (SessionCas.loadDataset sampleReference).run w = .ok sampleDataset t ∧
        (SessionCas.loadDataset sampleReference).run t = .ok sampleDataset u := by
  obtain ⟨w, hRun, hHolds⟩ := run_publishDataset_sample (freshSession_opened [])
  obtain ⟨payload, record, _, _, loc, stored, hPayload, hRecord, hPublished⟩ :=
    published_of_run (calm_opened [] sampleLimits []).quiet hRun
  rw [decode_sampleRecord] at hRecord
  cases hRecord
  rw [show DatasetPayload.codec.decode (samplePayload integerCell) = .ok integerPayload from
    @decode_samplePayload (.of integerCell trivial) rfl
      (accepts_of_canonicalHash digest_samplePayload.1)] at hPayload
  cases hPayload
  obtain ⟨t, hLoad⟩ := hPublished.now.2 hHolds.calm
  obtain rfl := hPublished.stored_eq rfl hHolds.calm.quiet hLoad
  have hReads := reads_of_loadDataset hLoad
  -- loading is a step, after which the dataset loads again
  have hStep := Step.call (.loadDataset sampleReference) w
  have hCall : (Call.loadDataset sampleReference).run.run w = .ok () t :=
    run_bind_eq_ok.2 ⟨_, _, hLoad, rfl⟩
  rw [hCall, final_ok] at hStep
  have hUnmarked : sampleReference ∉ t.session.corruptReferences := by
    rw [hReads.session]
    exact hPublished.unmarked
  obtain ⟨u, hAgain⟩ := (hPublished.later t (Relation.ReflTransGen.single hStep) hUnmarked).2
    (hHolds.calm.congr hReads.oracle)
  refine ⟨w, ?_, hHolds.calm, ?_, hPublished.unmarked, ?_, t, u, hLoad, hAgain⟩
  · rw [hHolds.session]
    rfl
  · rw [hHolds.session]
    exact Finset.mem_insert_self _ _
  · rw [hHolds.session]
    rfl

/-- The preview of the sample dataset, walked through with one row a page: the first page returns a
cursor, with which the second one is asked for, and which ends the walk. -/
theorem paging_complete_sample : ∃ first second : Page, ∃ token,
    Walk .preview sampleReference [numberRow 1, numberRow 2] [] [first, second] (some .null) ∧
      first.limit = some 1 ∧ second.limit = some 1 ∧
      PagedView.preview.nextCursor first.response = some (.str token) ∧
      PagedView.preview.items first.response = [numberRow 1] ∧
      PagedView.preview.items second.response = [numberRow 2] ∧
      ([first, second].map (fun page => PagedView.preview.items page.response)).flatten
        = [numberRow 1, numberRow 2] := by
  obtain ⟨token, hToken, hFirstSize, hSecondSize⟩ := exists_rowToken
  obtain ⟨w, hKey, -, hMem, hCorrupt, hOpen, t, u, hLoad, hAgain⟩ := loads_sample
  have hFirstReads := reads_of_loadDataset hLoad
  have hSecondReads := reads_of_loadDataset hAgain
  have hLive : Live t sampleReference := by
    refine ⟨?_, ?_, ?_⟩ <;> rw [hFirstReads.session] <;> assumption
  have hLive' : Live u sampleReference := by
    refine ⟨?_, ?_, ?_⟩ <;> rw [hSecondReads.session]
    exacts [hLive.isOpen, hLive.registered, hLive.intact]
  have hKeyT : t.session.cursorKey = [] := by rw [hFirstReads.session, hKey]
  have hKeyU : u.session.cursorKey = [] := by rw [hSecondReads.session, hKeyT]
  have hParts := referenceParts_of_destinationOf destinationOf_sampleReference
  have hPaging := pagingOf_preview sampleDataset sampleReference
  have hRows : ∀ {v v' : World}, (SessionCas.loadDataset sampleReference).run v =
    .ok sampleDataset v' →
      PagedView.preview.Lists sampleReference v [numberRow 1, numberRow 2] :=
    fun hRun => ⟨sampleDataset, _, hRun, rowsOf_previewRows integerPayload⟩
  -- the first page
  have hEncode : (SessionCas.encodeCursor sampleReference (py "preview") none 1).run t =
    .ok token t :=
    run_encodeCursor_eq_ok.2 ⟨rfl, hLive, hParts, by rw [hKeyT]; exact hToken⟩
  have hFirstPage : (pageOf Cas.host (previewPaging sampleDataset sampleReference) 0 1).run t
      = .ok (rowPage 0 (.str token) false) t :=
    run_pageOf_of_more (by show 0 + 1 ≠ (previewRows integerPayload).length; decide) hEncode
  have hNone : (startOf Cas.host none sampleReference (py "preview") none).run t = .ok 0 t := rfl
  have hFirstRow : ((previewRows sampleDataset.payload).drop 0).take 1 = [numberRow 1] := rfl
  have hFirst := run_preview_of_one hLoad hNone hFirstRow hFirstPage hFirstSize (by decide)
  -- the second page, with the cursor of the first
  have hDecode : (SessionCas.decodeCursor token sampleReference (py "preview") none).run u =
    .ok 1 u := by
    refine run_decodeCursor_eq_ok.2 ⟨rfl, hLive', hParts, ?_⟩
    rw [hKeyU]
    exact decodeCursorToken_encodeCursorToken
      (encodable_of_destinationOf destinationOf_sampleReference)
      hToken
  have hStart : (startOf Cas.host (some token) sampleReference (py "preview") none).run u =
    .ok 1 u :=
    run_bind_eq_ok.2 ⟨1, u, hDecode, rfl⟩
  have hSecondPage : (pageOf Cas.host (previewPaging sampleDataset sampleReference) 1 1).run u
      = .ok (rowPage 1 .null true) u := run_pageOf_of_complete rfl
  have hSecondRow : ((previewRows sampleDataset.payload).drop 1).take 1 = [numberRow 2] := rfl
  have hSecond := run_preview_of_one hAgain hStart hSecondRow hSecondPage hSecondSize (by decide)
  have hNext := hPaging.nextCursor_build [numberRow 1] (rowPage 0 (.str token) false)
  have hLast := hPaging.nextCursor_build [numberRow 2] (rowPage 1 .null true)
  have hBegin := @Walk.first _ _ _ _ ⟨some 1, _⟩ ⟨w, t, hKey, hRows hLoad, hFirst⟩
  rw [hNext] at hBegin
  have hWalk := @Walk.next _ _ _ _ _ _ ⟨some 1, _⟩ hBegin ⟨t, u, hKeyT, hRows hAgain, hSecond⟩
  rw [hLast] at hWalk
  exact ⟨_, _, token, hWalk, rfl, rfl, hNext, hPaging.items_build _ _, hPaging.items_build _ _,
    (paging_complete hWalk).2.2.1 rfl⟩

end RecordViews
