import DefinedQuant.Shared.DataRecords.Validity
import DefinedQuant.Shared.OperationRecords

/-!
# Mapping columns to fields

`resolve_dataset_fields` goes through the mappings with the sources and targets seen so far, which
at the start are the keys of the literals, and refuses the whole list when it refused one of them.
`foldl_step_valid_iff` says which lists pass the loop from any state, and `resolves_exactly` what
the fields are then: the literals, and behind them one whole column for each mapping.
-/

namespace OperationRecords

open Json Canonical Protocol DataRecords

variable {payload : DatasetPayload}

/-! ## The loop -/

/-- The input field that a mapping fills, with the column it takes. -/
def Maps (payload : DatasetPayload) (mapping : FieldMapping) (member : Text × Value) : Prop :=
  ∃ index, payload.1.columns.1.findIdx? (fun column => column.fieldId.1 = mapping.sourceField.1)
      = some index ∧ member = (mapping.inputField.1, .list (payload.column index))

/-- The columns of the payload have the field. -/
def HasColumn (payload : DatasetPayload) (field : Text) : Prop :=
  ∃ column ∈ payload.1.columns.1, column.fieldId.1 = field

/-- What a loop that has seen some sources and targets lets pass. -/
structure Passes (payload : DatasetPayload) (seenSource seenTarget : List Text)
    (mappings : List FieldMapping) :
    Prop where
  columns : ∀ mapping ∈ mappings, HasColumn payload mapping.sourceField.1
  sources : (mappings.map (fun mapping => mapping.sourceField.1)).Nodup
  targets : (mappings.map (fun mapping => mapping.inputField.1)).Nodup
  freshSources : ∀ mapping ∈ mappings, mapping.sourceField.1 ∉ seenSource
  freshTargets : ∀ mapping ∈ mappings, mapping.inputField.1 ∉ seenTarget

theorem Passes.cons_iff {seenSource seenTarget : List Text} {mapping : FieldMapping}
    {mappings : List FieldMapping} :
    Passes payload seenSource seenTarget (mapping :: mappings) ↔
      (HasColumn payload mapping.sourceField.1 ∧ mapping.sourceField.1 ∉ seenSource ∧
        mapping.inputField.1 ∉ seenTarget) ∧
      Passes payload (mapping.sourceField.1 :: seenSource) (mapping.inputField.1 :: seenTarget)
        mappings := by
  constructor
  · rintro ⟨hColumns, hSources, hTargets, hFreshSources, hFreshTargets⟩
    rw [List.map_cons, List.nodup_cons, List.mem_map] at hSources hTargets
    rw [List.forall_mem_cons] at hColumns hFreshSources hFreshTargets
    refine ⟨⟨hColumns.1, hFreshSources.1, hFreshTargets.1⟩, hColumns.2, hSources.2, hTargets.2,
      ?_, ?_⟩
    · intro other hOther
      rw [List.mem_cons, not_or]
      exact ⟨fun h => hSources.1 ⟨other, hOther, h⟩, hFreshSources.2 other hOther⟩
    · intro other hOther
      rw [List.mem_cons, not_or]
      exact ⟨fun h => hTargets.1 ⟨other, hOther, h⟩, hFreshTargets.2 other hOther⟩
  · rintro ⟨⟨hColumn, hSource, hTarget⟩, hColumns, hSources, hTargets, hFreshSources, hFreshTargets⟩
    refine ⟨List.forall_mem_cons.2 ⟨hColumn, hColumns⟩, ?_, ?_,
      List.forall_mem_cons.2 ⟨hSource, ?_⟩, List.forall_mem_cons.2 ⟨hTarget, ?_⟩⟩
    · rw [List.map_cons, List.nodup_cons, List.mem_map]
      refine ⟨?_, hSources⟩
      rintro ⟨other, hOther, hSame⟩
      exact hFreshSources other hOther (hSame ▸ List.mem_cons_self)
    · rw [List.map_cons, List.nodup_cons, List.mem_map]
      refine ⟨?_, hTargets⟩
      rintro ⟨other, hOther, hSame⟩
      exact hFreshTargets other hOther (hSame ▸ List.mem_cons_self)
    · exact fun other hOther hSeen => hFreshSources other hOther (List.mem_cons_of_mem _ hSeen)
    · exact fun other hOther hSeen => hFreshTargets other hOther (List.mem_cons_of_mem _ hSeen)

theorem hasColumn_iff {field : Text} :
    HasColumn payload field ↔
      ∃ index, payload.1.columns.1.findIdx? (fun column => column.fieldId.1 = field) =
        some index := by
  rw [← Option.isSome_iff_exists, List.findIdx?_isSome, List.any_eq_true]
  simp only [HasColumn, decide_eq_true_eq]

/-- A mapping that the loop takes adds its column behind the others. -/
theorem step_of_taken {state : Resolution} {mapping : FieldMapping}
    (hColumn : HasColumn payload mapping.sourceField.1)
    (hSource : mapping.sourceField.1 ∉ state.seenSource)
    (hTarget : mapping.inputField.1 ∉ state.seenTarget) :
    ∃ member, Maps payload mapping member ∧ state.step payload mapping =
      { seenSource := mapping.sourceField.1 :: state.seenSource
        seenTarget := mapping.inputField.1 :: state.seenTarget
        output := state.output ++ [member]
        valid := state.valid } := by
  obtain ⟨index, hIndex⟩ := hasColumn_iff.1 hColumn
  refine ⟨_, ⟨index, hIndex, rfl⟩, ?_⟩
  unfold Resolution.step
  simp only [hIndex]
  rw [if_neg (not_or.2 ⟨hSource, hTarget⟩)]

/-- A mapping that the loop refuses leaves its mark. -/
theorem step_of_refused {state : Resolution} {mapping : FieldMapping}
    (h : ¬ (HasColumn payload mapping.sourceField.1 ∧ mapping.sourceField.1 ∉ state.seenSource ∧
      mapping.inputField.1 ∉ state.seenTarget)) : (state.step payload mapping).valid = false := by
  unfold Resolution.step
  cases hIndex :
    payload.1.columns.1.findIdx? (fun column => column.fieldId.1 = mapping.sourceField.1) with
  | none => simp only [hIndex]
  | some index =>
      have hSeen : mapping.sourceField.1 ∈ state.seenSource ∨
        mapping.inputField.1 ∈ state.seenTarget := by
        by_contra hFresh
        exact h ⟨hasColumn_iff.2 ⟨index, hIndex⟩, not_or.1 hFresh⟩
      simp only [hIndex]
      rw [if_pos hSeen]

/-- The mark stays. -/
theorem foldl_step_of_invalid {mappings : List FieldMapping} {state : Resolution}
    (h : state.valid = false) :
    (mappings.foldl (Resolution.step payload) state).valid = false := by
  induction mappings generalizing state with
  | nil => exact h
  | cons mapping mappings ih =>
      apply ih
      by_cases hTaken : HasColumn payload mapping.sourceField.1 ∧
        mapping.sourceField.1 ∉ state.seenSource ∧
          mapping.inputField.1 ∉ state.seenTarget
      · obtain ⟨member, -, hStep⟩ := step_of_taken hTaken.1 hTaken.2.1 hTaken.2.2
        rw [hStep]
        exact h
      · exact step_of_refused hTaken

/-- The loop refuses nothing exactly where it lets all mappings pass. -/
theorem foldl_step_valid_iff {mappings : List FieldMapping} {state : Resolution} :
    (mappings.foldl (Resolution.step payload) state).valid = true ↔
      state.valid = true ∧ Passes payload state.seenSource state.seenTarget mappings := by
  induction mappings generalizing state with
  | nil =>
      exact ⟨fun h => ⟨h, ⟨nofun, List.nodup_nil, List.nodup_nil, nofun, nofun⟩⟩, fun h => h.1⟩
  | cons mapping mappings ih =>
      rw [List.foldl_cons, Passes.cons_iff]
      by_cases hTaken : HasColumn payload mapping.sourceField.1 ∧
        mapping.sourceField.1 ∉ state.seenSource ∧
          mapping.inputField.1 ∉ state.seenTarget
      · obtain ⟨member, -, hStep⟩ := step_of_taken hTaken.1 hTaken.2.1 hTaken.2.2
        rw [ih, hStep]
        exact ⟨fun h => ⟨h.1, hTaken, h.2⟩, fun h => ⟨h.1, h.2.2⟩⟩
      · rw [foldl_step_of_invalid (step_of_refused hTaken)]
        exact ⟨nofun, fun h => absurd h.2.1 hTaken⟩

/-- What the loop adds to the output. -/
theorem foldl_step_output {mappings : List FieldMapping} {state : Resolution}
    (h : Passes payload state.seenSource state.seenTarget mappings) : ∃ columns,
      List.Forall₂ (Maps payload) mappings columns ∧
        (mappings.foldl (Resolution.step payload) state).output = state.output ++ columns := by
  induction mappings generalizing state with
  | nil => exact ⟨[], .nil, (List.append_nil _).symm⟩
  | cons mapping mappings ih =>
      obtain ⟨⟨hColumn, hSource, hTarget⟩, hRest⟩ := Passes.cons_iff.1 h
      obtain ⟨member, hMember, hStep⟩ := step_of_taken hColumn hSource hTarget
      have hNext : Passes payload (state.step payload mapping).seenSource
        (state.step payload mapping).seenTarget
          mappings := by
        rw [hStep]
        exact hRest
      obtain ⟨columns, hColumns, hOutput⟩ := ih hNext
      refine ⟨member :: columns, .cons hMember hColumns, ?_⟩
      rw [List.foldl_cons, hOutput, hStep, List.append_assoc, List.singleton_append]

/-- What the fields resolve to: the literals, and behind them the columns that the mappings name. -/
theorem resolveDatasetFields_eq_ok {mappings : List FieldMapping} {literals output : Members}
    (h : resolveDatasetFields payload mappings literals = .ok output) :
    ∃ columns, List.Forall₂ (Maps payload) mappings columns ∧ output = literals ++ columns := by
  unfold resolveDatasetFields at h
  simp only at h
  split_ifs at h with hValid
  cases h
  exact foldl_step_output (foldl_step_valid_iff.1 hValid).2

theorem exists_resolveDatasetFields_iff {mappings : List FieldMapping} {literals : Members} :
    (∃ output, resolveDatasetFields payload mappings literals = .ok output) ↔
      Passes payload [] (literals.map Prod.fst) mappings := by
  unfold resolveDatasetFields
  simp only
  constructor
  · rintro ⟨output, h⟩
    split_ifs at h with hValid
    exact (foldl_step_valid_iff.1 hValid).2
  · intro h
    exact ⟨_, if_pos (foldl_step_valid_iff.2 ⟨rfl, h⟩)⟩

/-! ## Columns -/

/-- Every row has a cell in the column. -/
theorem exists_cell {index : ℕ} (hIndex : index < payload.1.columns.1.length)
    {row : List SortedJson} (hRow : row ∈ payload.1.rows.1) : ∃ cell, row[index]? = some cell := by
  obtain ⟨-, hRows, -⟩ := DatasetPayloadFields.validateTable_eq_ok.1 payload.2
  have hLess : index < row.length := by
    rw [(hRows row hRow).1]
    exact hIndex
  exact ⟨row[index], List.getElem?_eq_getElem hLess⟩

/-- A member that holds the column of a mapping whole: one cell for each row, in the order of the
rows. -/
def BindsColumn (payload : DatasetPayload) (mapping : FieldMapping) (member : Text × Value) :
    Prop :=
  member.1 = mapping.inputField.1 ∧ ∃ (index : ℕ) (column : DatasetPayloadColumn)
    (cells : List Value),
    payload.1.columns.1[index]? = some column ∧ column.fieldId.1 = mapping.sourceField.1 ∧
    member.2 = .list cells ∧
    List.Forall₂ (fun row cell => ∃ c : SortedJson, row[index]? = some c ∧ cell = c.value)
      payload.1.rows.1 cells

/-- The cells of a column. -/
theorem forall₂_column {index : ℕ} (hIndex : index < payload.1.columns.1.length) :
    List.Forall₂ (fun row cell => ∃ c : SortedJson, row[index]? = some c ∧ cell = c.value)
      payload.1.rows.1
      (payload.column index) := by
  have hAll : ∀ row ∈ payload.1.rows.1, ∃ cell, row[index]? = some cell :=
    fun row => exists_cell hIndex
  unfold DatasetPayload.column
  generalize payload.1.rows.1 = rows at hAll ⊢
  induction rows with
  | nil => exact .nil
  | cons row rows ih =>
      obtain ⟨cell, hCell⟩ := hAll row List.mem_cons_self
      simp only [List.filterMap_cons, hCell, Option.map_some]
      exact .cons ⟨cell, hCell, rfl⟩ (ih (fun row hRow => hAll row (List.mem_cons_of_mem _ hRow)))

theorem Maps.bindsColumn {mapping : FieldMapping} {member : Text × Value}
    (h : Maps payload mapping member) :
    BindsColumn payload mapping member := by
  obtain ⟨index, hIndex, rfl⟩ := h
  obtain ⟨hLess, hField, -⟩ := List.findIdx?_eq_some_iff_getElem.1 hIndex
  exact ⟨rfl, index, payload.1.columns.1[index], payload.column index,
    List.getElem?_eq_getElem hLess, of_decide_eq_true hField, rfl, forall₂_column hLess⟩

/-! ## Mappings that resolve -/

/-- Every source is a column, no source and no target is mapped twice, and no target is a literal. -/
structure Resolvable (payload : DatasetPayload) (mappings : List FieldMapping)
    (literals : Members) : Prop where
  columns : ∀ mapping ∈ mappings, HasColumn payload mapping.sourceField.1
  sources : (mappings.map (fun mapping => mapping.sourceField.1)).Nodup
  targets : (mappings.map (fun mapping => mapping.inputField.1)).Nodup
  free : ∀ mapping ∈ mappings, mapping.inputField.1 ∉ literals.map Prod.fst

theorem passes_iff_resolvable {mappings : List FieldMapping} {literals : Members} :
    Passes payload [] (literals.map Prod.fst) mappings ↔ Resolvable payload mappings literals :=
  ⟨fun h => ⟨h.columns, h.sources, h.targets, h.freshTargets⟩,
    fun h => ⟨h.columns, h.sources, h.targets, fun _ _ => List.not_mem_nil, h.free⟩⟩

/-- A binding that its model accepts resolves as soon as the payload has the columns. -/
theorem resolvable_of_binding {binding : OperationBinding} {source : BindingSource}
    (hSource : binding.1.source = some source)
    (hColumns : ∀ mapping ∈ source.1.mappings.1, HasColumn payload mapping.sourceField.1) :
    Resolvable payload source.1.mappings.1 binding.1.literals.members := by
  have hMappings : validateMappings source.1.mappings.1 = .ok () := by
    have h := source.2
    unfold BindingSourceFields.validateSource at h
    obtain ⟨parsed, -, h⟩ := Except.bind_eq_ok.1 h
    exact (Except.throwIf_eq_ok.1 h).2
  have hDistinct : (source.1.mappings.1.map (fun mapping => mapping.sourceField)).Nodup ∧
      (source.1.mappings.1.map (fun mapping => mapping.inputField)).Nodup := by
    by_contra hNot
    rw [validateMappings, if_neg hNot] at hMappings
    cases hMappings
  have hFree : ∀ mapping ∈ source.1.mappings.1,
    mapping.inputField.1 ∉ binding.1.literals.members.map Prod.fst := by
    have h := binding.2
    unfold OperationBindingFields.validateBinding at h
    obtain ⟨-, h⟩ := Except.throwIf_eq_ok.1 h
    obtain ⟨_, -, h⟩ := Except.bind_eq_ok.1 h
    obtain ⟨_, -, h⟩ := Except.bind_eq_ok.1 h
    obtain ⟨-, h⟩ := Except.throwIf_eq_ok.1 h
    have hNone := (Except.throwIf_eq_ok.1 h).1
    rw [hSource] at hNone
    intro mapping hMapping hLiteral
    exact hNone (List.any_eq_true.2 ⟨mapping, hMapping, decide_eq_true hLiteral⟩)
  have hSources := hDistinct.1.map Subtype.val_injective
  have hTargets := hDistinct.2.map Subtype.val_injective
  rw [List.map_map] at hSources hTargets
  exact ⟨hColumns, hSources, hTargets, hFree⟩

/-- The keys of the fields are distinct where those of the literals are: no literal is overridden. -/
theorem nodup_keys {mappings : List FieldMapping} {literals columns : Members}
    (h : Resolvable payload mappings literals)
    (hColumns : List.Forall₂ (Maps payload) mappings columns)
    (hLiterals : (literals.map Prod.fst).Nodup) : ((literals ++ columns).map Prod.fst).Nodup := by
  have hKeys : columns.map Prod.fst = mappings.map (fun mapping => mapping.inputField.1) := by
    clear h
    induction hColumns with
    | nil => rfl
    | cons hMember _ ih =>
        obtain ⟨index, -, rfl⟩ := hMember
        rw [List.map_cons, List.map_cons, ih]
  rw [List.map_append, hKeys]
  refine List.nodup_append.2 ⟨hLiterals, h.targets, ?_⟩
  rintro key hLiteral _ hTarget rfl
  obtain ⟨mapping, hMapping, rfl⟩ := List.mem_map.1 hTarget
  exact h.free mapping hMapping hLiteral

/-- The mappings resolve exactly where they are resolvable, and then to the literals and one whole
column for each mapping, under the name of its target, and to nothing else. -/
theorem resolves_exactly (payload : DatasetPayload) (mappings : List FieldMapping)
    (literals : Members) :
    ((∃ output, resolveDatasetFields payload mappings literals = .ok output) ↔
      Resolvable payload mappings literals) ∧
    ∀ output, resolveDatasetFields payload mappings literals = .ok output →
      (∃ columns, output = literals ++ columns ∧ List.Forall₂ (BindsColumn payload) mappings
        columns) ∧
      ((literals.map Prod.fst).Nodup → (output.map Prod.fst).Nodup) := by
  have hIff : (∃ output, resolveDatasetFields payload mappings literals = .ok output) ↔
      Resolvable payload mappings literals :=
        exists_resolveDatasetFields_iff.trans passes_iff_resolvable
  refine ⟨hIff, fun output hOutput => ?_⟩
  have hResolvable := hIff.1 ⟨output, hOutput⟩
  obtain ⟨columns, hColumns, rfl⟩ := resolveDatasetFields_eq_ok hOutput
  exact ⟨⟨columns, rfl, hColumns.imp (fun _ _ h => h.bindsColumn)⟩, nodup_keys hResolvable hColumns⟩

end OperationRecords
