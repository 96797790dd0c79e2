import DefinedQuant.Shared.Discovery

/-!
# Indexed search is naive search

A component that the postings prune has no positive field with a form of a query term, so the
ranking drops it too. The components that a search ranks are therefore the ones that a naive search
keeps, in another order, and the results depend on no order: the hits are sorted by a key that tells
components apart, and the counts are sorted by their values.
-/

namespace Discovery

open Components

/-! ## Naive search -/

/-- A component has for every facet that is asked for one of the values. -/
def Passes (filters : DiscoveryFilters) (indexed : IndexedComponent) : Prop :=
  ∀ name ∈ facetNames, filters.values name = [] ∨
    ∃ value ∈ filters.values name, value ∈ indexed.facets name

instance (filters : DiscoveryFilters) : DecidablePred (Passes filters) :=
  fun _ => inferInstanceAs (Decidable (∀ name ∈ facetNames, _))

/-- The contracts of a list of records, each compiled from its snapshot. -/
def compileAll (U : Unicode) (records : List ComponentRecord) :
    Except Raised (List IndexedComponent) :=
  records.mapM (fun record => do compileRecord U (← snapshotRecord record))

/-- Search by looking at every component: those that pass the filters are ranked, those that do not
match are dropped, and the rest are sorted by descending score and then by their IDs. -/
def naiveSearch (U : Unicode) (components : List IndexedComponent) (query : Text)
    (filters : DiscoveryFilters) (limit : ℤ) : SearchResults :=
  let terms := tokenize U query
  let matching := rankAll U (normalisedPhrase U query) terms (components.filter (Passes filters))
  { query, terms, filters
    totalMatches := matching.length
    hits := (sortBy SearchHit.key (matching.map Prod.fst)).take limit.toNat
    facets := catalogFacetsFromIndexed (matching.map Prod.snd) }

/-! ## The order of the components -/

theorem rankRecord_record {U : Unicode} {indexed : IndexedComponent} {queryPhrase : Text}
    {terms : List Text} {hit : SearchHit} (h : rankRecord U indexed queryPhrase terms = some hit) :
    hit.record = indexed.record := by
  simp only [rankRecord] at h
  split at h
  · cases h
  · cases h
    rfl

theorem mem_rankAll {U : Unicode} {queryPhrase : Text} {terms : List Text}
    {components : List IndexedComponent} {p : SearchHit × IndexedComponent} :
    p ∈ rankAll U queryPhrase terms components ↔
      p.2 ∈ components ∧ rankRecord U p.2 queryPhrase terms = some p.1 := by
  unfold rankAll
  rw [List.mem_filterMap]
  constructor
  · rintro ⟨indexed, hMem, hRank⟩
    obtain ⟨hit, hHit, rfl⟩ := Option.map_eq_some_iff.1 hRank
    exact ⟨hMem, hHit⟩
  · rintro ⟨hMem, hRank⟩
    exact ⟨p.2, hMem, Option.map_eq_some_iff.2 ⟨p.1, hRank, rfl⟩⟩

/-- The counts do not depend on the order of the components. -/
theorem catalogFacetsFromIndexed_perm {xs ys : List IndexedComponent} (h : xs.Perm ys) :
    catalogFacetsFromIndexed xs = catalogFacetsFromIndexed ys := by
  funext name
  have hCounted := List.Perm.flatMap_right (fun indexed => IndexedComponent.facets indexed name) h
  have hSorted := @sortBy_eq_of_perm _ _ _ id _ _ hCounted.dedup (fun a _ b _ hab => hab)
  unfold catalogFacetsFromIndexed sortedSet
  simp only [hSorted, hCounted.count_eq]

/-- A page does not depend on the order in which distinct components were ranked. -/
theorem resultsOf_perm {U : Unicode} {queryPhrase query : Text} {terms : List Text}
    {filters : DiscoveryFilters} {limit : ℤ} {xs ys : List IndexedComponent} (h : xs.Perm ys)
    (hDistinct : (xs.map IndexedComponent.componentId).Nodup) :
    resultsOf query terms filters limit (rankAll U queryPhrase terms xs) =
      resultsOf query terms filters limit (rankAll U queryPhrase terms ys) := by
  have hRanked : (rankAll U queryPhrase terms xs).Perm (rankAll U queryPhrase terms ys) :=
    h.filterMap _
  have hHits : sortBy SearchHit.key ((rankAll U queryPhrase terms xs).map Prod.fst) =
      sortBy SearchHit.key ((rankAll U queryPhrase terms ys).map Prod.fst) := by
    apply sortBy_eq_of_perm (hRanked.map _)
    intro a ha b hb hKey
    obtain ⟨p, hp, rfl⟩ := List.mem_map.1 ha
    obtain ⟨q, hq, rfl⟩ := List.mem_map.1 hb
    obtain ⟨hpMem, hpRank⟩ := mem_rankAll.1 hp
    obtain ⟨hqMem, hqRank⟩ := mem_rankAll.1 hq
    -- the key holds the component ID, and one component has one hit
    have hId : p.2.componentId = q.2.componentId := by
      have hIds : p.1.record.componentId = q.1.record.componentId :=
        congrArg (fun k => (ofLex k).2) hKey
      rwa [rankRecord_record hpRank, rankRecord_record hqRank] at hIds
    have hSame := List.inj_on_of_nodup_map hDistinct hpMem hqMem hId
    rw [hSame, hqRank] at hpRank
    exact (Option.some.inj hpRank).symm
  unfold resultsOf
  rw [hHits, hRanked.length_eq, catalogFacetsFromIndexed_perm (hRanked.map Prod.snd)]

/-! ## Pruning -/

/-- A component has a positive field with a form of a query term. -/
def Touches (U : Unicode) (terms : List Text) (indexed : IndexedComponent) : Prop :=
  ∃ form ∈ terms.flatMap termForms, ∃ field ∈ indexed.positiveFields,
    form ∈ valueTerms U field.values

instance (U : Unicode) (terms : List Text) : DecidablePred (Touches U terms) :=
  fun _ => inferInstanceAs (Decidable (∃ form ∈ terms.flatMap termForms, _))

theorem matchingTerms_eq_nil {terms indexed : List Text}
    (h : ∀ form ∈ terms.flatMap termForms, form ∉ indexed) : matchingTerms terms indexed = [] := by
  unfold matchingTerms
  rw [List.filter_eq_nil_iff]
  intro term hTerm
  simp only [List.any_eq_true, decide_eq_true_eq, not_exists, not_and]
  exact fun form hForm => h form (List.mem_flatMap.2 ⟨term, hTerm, hForm⟩)

/-- What the postings of the terms prune, the ranking drops. -/
theorem rankRecord_eq_none {U : Unicode} {indexed : IndexedComponent} {queryPhrase : Text}
    {terms : List Text} (hTerms : terms ≠ []) (h : ¬ Touches U terms indexed) :
    rankRecord U indexed queryPhrase terms = none := by
  have hNone : ∀ field ∈ indexed.positiveFields, fieldMatch U .positive terms field = none := by
    intro field hField
    have hEmpty : matchingTerms terms (valueTerms U field.values) = [] :=
      matchingTerms_eq_nil (fun form hForm hValue => h ⟨form, hForm, field, hField, hValue⟩)
    simp [fieldMatch, hTerms, hEmpty]
  have hFound : indexed.positiveFields.filterMap (fun field =>
      (fieldMatch U .positive terms field).map (fun m => (field, m))) = [] := by
    rw [List.filterMap_eq_nil_iff]
    intro field hField
    rw [hNone field hField]
    rfl
  simp [rankRecord, hFound, hTerms]

/-- The postings of an index over compiled records. -/
theorem mem_positivePostings {U : Unicode} {records : List ComponentRecord}
    {compiled : List IndexedComponent} {form componentId : Text} :
    componentId ∈ (ContractIndex.ofCompiled U records compiled).positivePostings form ↔
      ∃ indexed ∈ compiled, indexed.componentId = componentId ∧
        ∃ field ∈ indexed.positiveFields, form ∈ valueTerms U field.values := by
  show componentId ∈ Postings.ofEntries _ form ↔ _
  rw [Postings.mem_ofEntries, List.mem_flatMap]
  simp only [IndexedComponent.positiveEntries, List.mem_flatMap, List.mem_map, Prod.mk.injEq]
  constructor
  · rintro ⟨indexed, hMem, field, hField, term, hTerm, rfl, rfl⟩
    exact ⟨indexed, hMem, rfl, field, hField, hTerm⟩
  · rintro ⟨indexed, hMem, rfl, field, hField, hTerm⟩
    exact ⟨indexed, hMem, field, hField, form, hTerm, rfl, rfl⟩

theorem mem_facetPostings {U : Unicode} {records : List ComponentRecord}
    {compiled : List IndexedComponent} {name : FacetName} {value componentId : Text} :
    componentId ∈ (ContractIndex.ofCompiled U records compiled).facetPostings name value ↔
      ∃ indexed ∈ compiled, indexed.componentId = componentId ∧ value ∈ indexed.facets name := by
  show componentId ∈ Postings.ofEntries _ value ↔ _
  rw [Postings.mem_ofEntries, List.mem_flatMap]
  simp only [IndexedComponent.facetEntries, List.mem_map, Prod.mk.injEq]
  constructor
  · rintro ⟨indexed, hMem, value, hValue, rfl, rfl⟩
    exact ⟨indexed, hMem, rfl, hValue⟩
  · rintro ⟨indexed, hMem, rfl, hValue⟩
    exact ⟨indexed, hMem, value, hValue, rfl, rfl⟩

/-- An index over records that were compiled one by one, no two of one ID. -/
structure Compiles (U : Unicode) (records : List ComponentRecord)
    (compiled : List IndexedComponent) :
    Prop where
  identities : compiled.map IndexedComponent.componentId = records.map ComponentRecord.componentId
  distinct : (compiled.map IndexedComponent.componentId).Nodup

/-- A component is a candidate exactly when it passes the filters and, if there are terms, touches
one of them. -/
theorem Compiles.mem_candidateIds {U : Unicode} {records : List ComponentRecord}
    {compiled : List IndexedComponent} (h : Compiles U records compiled)
    {filters : DiscoveryFilters}
    {terms : List Text} {indexed : IndexedComponent} (hMem : indexed ∈ compiled) :
    indexed.componentId ∈ (ContractIndex.ofCompiled U records compiled).candidateIds filters terms ↔
      Passes filters indexed ∧ (terms ≠ [] → Touches U terms indexed) := by
  -- The postings hold component ids, and an id stands for one component only.
  have hSelf : ∀ other ∈ compiled, other.componentId = indexed.componentId → other = indexed :=
    fun other hOther hId => List.inj_on_of_nodup_map h.distinct hOther hMem hId
  have hAll : indexed.componentId ∈ (ContractIndex.ofCompiled U records compiled).allComponentIds :=
    by
    show _ ∈ List.toFinset _
    rw [List.mem_toFinset, ← h.identities]
    exact List.mem_map_of_mem hMem
  have hFacet : ∀ name, indexed.componentId ∈
      ((ContractIndex.ofCompiled U records compiled).facetPostings name).any (filters.values name) ↔
        ∃ value ∈ filters.values name, value ∈ indexed.facets name := by
    intro name
    rw [Postings.mem_any]
    refine exists_congr fun value => and_congr_right fun _ => ?_
    rw [mem_facetPostings]
    constructor
    · rintro ⟨other, hOther, hId, hValue⟩
      rwa [hSelf other hOther hId] at hValue
    · exact fun hValue => ⟨indexed, hMem, rfl, hValue⟩
  have hTerm : indexed.componentId ∈
      (ContractIndex.ofCompiled U records compiled).positivePostings.any (terms.flatMap termForms) ↔
        Touches U terms indexed := by
    rw [Postings.mem_any]
    refine exists_congr fun form => and_congr_right fun _ => ?_
    rw [mem_positivePostings]
    constructor
    · rintro ⟨other, hOther, hId, hField⟩
      rwa [hSelf other hOther hId] at hField
    · exact fun hField => ⟨indexed, hMem, rfl, hField⟩
  -- The loop over the facets narrows the ids by each filter that is set.
  have hPasses : indexed.componentId ∈ facetNames.foldl (fun candidates name =>
      if filters.values name ≠ [] then candidates ∩
        ((ContractIndex.ofCompiled U records compiled).facetPostings name).any (filters.values name)
      else candidates) (ContractIndex.ofCompiled U records compiled).allComponentIds ↔
        Passes filters indexed := by
    rw [Postings.mem_foldl_narrow]
    refine (and_iff_right hAll).trans (forall_congr' fun name => forall_congr' fun _ => ?_)
    rw [hFacet, or_iff_not_imp_left]
  unfold ContractIndex.candidateIds
  -- Without terms the positive postings are not asked.
  by_cases hTerms : terms = []
  · simp only [hTerms, ne_eq, not_true_eq_false, if_false, false_imp_iff, and_true]
    exact hPasses
  · simp only [hTerms, ne_eq, not_false_eq_true, if_true, true_imp_iff, Finset.mem_inter]
    exact and_congr hPasses hTerm

/-- Looking up the IDs of compiled components gives the components. -/
theorem Compiles.component_eq_ok {U : Unicode} {records : List ComponentRecord}
    {compiled : List IndexedComponent} (h : Compiles U records compiled) {componentId : Text}
    {indexed : IndexedComponent} :
    (ContractIndex.ofCompiled U records compiled).component componentId = .ok indexed ↔
      indexed ∈ compiled ∧ indexed.componentId = componentId := by
  unfold ContractIndex.component
  dsimp only [ContractIndex.ofCompiled]
  constructor
  · intro hOk
    split at hOk
    · next found hFound =>
      cases hOk
      exact ⟨List.mem_of_find?_eq_some hFound, by simpa using List.find?_some hFound⟩
    · cases hOk
  · rintro ⟨hMem, rfl⟩
    split
    · next found hFound =>
      have hId : found.componentId = indexed.componentId := by simpa using List.find?_some hFound
      rw [List.inj_on_of_nodup_map h.distinct (List.mem_of_find?_eq_some hFound) hMem hId]
    · next hNone => simpa using List.find?_eq_none.1 hNone indexed hMem

/-- Every candidate is a compiled component. -/
theorem Compiles.exists_of_mem_candidateIds {U : Unicode} {records : List ComponentRecord}
    {compiled : List IndexedComponent} (h : Compiles U records compiled)
    {filters : DiscoveryFilters} {terms : List Text} {componentId : Text}
    (hCandidate : componentId ∈
      (ContractIndex.ofCompiled U records compiled).candidateIds filters terms) :
    ∃ indexed ∈ compiled, indexed.componentId = componentId := by
  have hAll : componentId ∈ (ContractIndex.ofCompiled U records compiled).allComponentIds := by
    unfold ContractIndex.candidateIds at hCandidate
    split at hCandidate
    · exact (Postings.mem_foldl_narrow.1 (Finset.mem_inter.1 hCandidate).1).1
    · exact (Postings.mem_foldl_narrow.1 hCandidate).1
  have hMem : componentId ∈ records.map ComponentRecord.componentId := List.mem_toFinset.1 hAll
  rw [← h.identities] at hMem
  exact List.mem_map.1 hMem

/-- The components that a search ranks are those that pass the filters and touch a term, in some
order. -/
theorem Compiles.exists_found {U : Unicode} {records : List ComponentRecord}
    {compiled : List IndexedComponent} (h : Compiles U records compiled)
    (filters : DiscoveryFilters) (terms : List Text) :
    ∃ found, ((ContractIndex.ofCompiled U records compiled).candidateIds filters terms).sort.mapM
        (ContractIndex.ofCompiled U records compiled).component = .ok found ∧
      found.Perm (compiled.filter (fun indexed =>
        Passes filters indexed ∧ (terms ≠ [] → Touches U terms indexed))) := by
  obtain ⟨found, hFound⟩ := Except.exists_mapM_eq_ok
    (f := (ContractIndex.ofCompiled U records compiled).component)
    (fun componentId hCandidate => by
      obtain ⟨indexed, hMem, hId⟩ := h.exists_of_mem_candidateIds
        ((Finset.mem_sort (· ≤ ·)).1 hCandidate)
      exact ⟨indexed, h.component_eq_ok.2 ⟨hMem, hId⟩⟩)
  have hEach := Except.mapM_eq_ok.1 hFound
  refine ⟨found, hFound, Postings.perm_filter_of_candidates h.distinct ?_ ?_
    (fun indexed hMem => h.mem_candidateIds hMem)⟩
  · intro indexed hMem
    obtain ⟨componentId, -, hOk⟩ := hEach.flip.exists_right hMem
    exact (h.component_eq_ok.1 hOk).1
  · have hIds := hEach.imp (fun componentId indexed hOk => (h.component_eq_ok.1 hOk).2)
    exact List.forall₂_eq_eq_eq ▸ (List.forall₂_map_left_iff.2 hIds.flip)

/-- Components that touch no term are dropped by the ranking as well. -/
theorem rankAll_touches {U : Unicode} {queryPhrase : Text} {terms : List Text}
    {filters : DiscoveryFilters} (components : List IndexedComponent) :
    rankAll U queryPhrase terms (components.filter (fun indexed =>
        Passes filters indexed ∧ (terms ≠ [] → Touches U terms indexed))) =
      rankAll U queryPhrase terms (components.filter (Passes filters)) := by
  unfold rankAll
  rw [List.filterMap_filter, List.filterMap_filter]
  apply List.filterMap_congr
  intro indexed _
  by_cases hTouches : terms ≠ [] → Touches U terms indexed
  · simp only [and_iff_left hTouches]
  · obtain ⟨hTerms, hNot⟩ := Classical.not_imp.1 hTouches
    simp [hTerms, hNot, rankRecord_eq_none hTerms hNot]

/-- A search of the index is a naive search of the compiled components. -/
theorem Compiles.search_eq {U : Unicode} {records : List ComponentRecord}
    {compiled components : List IndexedComponent} (h : Compiles U records compiled)
    (hPerm : compiled.Perm components) (query : Text) (filters : Option DiscoveryFilters)
    (limit : ℤ) :
    (ContractIndex.ofCompiled U records compiled).search U query filters limit = (do
      validateLimit limit
      return naiveSearch U components query (filters.getD .none) limit) := by
  obtain ⟨found, hFound, hKept⟩ := h.exists_found (filters.getD .none) (tokenize U query)
  have hDistinct : (found.map IndexedComponent.componentId).Nodup :=
    (hKept.map _).nodup_iff.2 (h.distinct.sublist (List.filter_sublist.map _))
  have hPasses : (compiled.filter (Passes (filters.getD .none))).Perm
      (components.filter (Passes (filters.getD .none))) := hPerm.filter _
  have hResults : resultsOf query (tokenize U query) (filters.getD .none) limit
      (rankAll U (normalisedPhrase U query) (tokenize U query) found) =
        naiveSearch U components query (filters.getD .none) limit := by
    rw [resultsOf_perm hKept hDistinct, rankAll_touches,
      resultsOf_perm hPasses (h.distinct.sublist (List.filter_sublist.map _))]
    rfl
  unfold ContractIndex.search
  simp only [hFound, hResults, bind, Except.bind]

/-! ## Building the index -/

theorem snapshotRecord_componentId {record snapshot : ComponentRecord}
    (h : snapshotRecord record = .ok snapshot) : snapshot.componentId = record.componentId := by
  obtain ⟨metadata, -, hSnapshot⟩ := Except.bind_eq_ok.1 h
  cases hSnapshot
  rfl

theorem compileRecord_record {U : Unicode} {record : ComponentRecord} {indexed : IndexedComponent}
    (h : compileRecord U record = .ok indexed) : indexed.record = record := by
  obtain ⟨facets, -, hIndexed⟩ := Except.bind_eq_ok.1 h
  cases hIndexed
  rfl

theorem addSnapshot_eq_ok {snapshots updated : List ComponentRecord} {record : ComponentRecord} :
    addSnapshot snapshots record = .ok updated ↔ snapshots.length + 1 ≤ maxIndexedRecords ∧
      record.componentId ∉ snapshots.map ComponentRecord.componentId ∧
      ∃ snapshot, snapshotRecord record = .ok snapshot ∧ updated = snapshots ++ [snapshot] := by
  unfold addSnapshot
  simp only [Except.bind_eq_ok, Except.raiseIf_eq_ok, Except.pure_eq_ok, not_lt, exists_and_left,
    exists_const, eq_comm (a := updated)]

/-- The loop over the records takes a snapshot of each, and goes through exactly when there are not
too many and no two have one ID. -/
theorem foldlM_addSnapshot_eq_ok {records snapshots updated : List ComponentRecord}
    (hSize : snapshots.length ≤ maxIndexedRecords) :
    records.foldlM addSnapshot snapshots = .ok updated ↔
      snapshots.length + records.length ≤ maxIndexedRecords ∧
      (records.map ComponentRecord.componentId).Nodup ∧
      (∀ record ∈ records, record.componentId ∉ snapshots.map ComponentRecord.componentId) ∧
      ∃ added, records.mapM snapshotRecord = .ok added ∧ updated = snapshots ++ added := by
  -- By induction on the records; a record added is compared with all that were added before.
  induction records generalizing snapshots with
  | nil => simp [hSize, eq_comm, pure, Except.pure]
  | cons record records ih =>
      rw [List.foldlM_cons, Except.bind_eq_ok]
      simp only [addSnapshot_eq_ok, Except.mapM_eq_ok]
      constructor
      · rintro ⟨_, ⟨hLength, hFresh, snapshot, hSnapshot, rfl⟩, hRest⟩
        have hId := snapshotRecord_componentId hSnapshot
        obtain ⟨hTotal, hNodup, hApart, added, hAdded, rfl⟩ := (ih (by simpa using hLength)).1 hRest
        simp only [List.map_append, List.map_cons, List.map_nil, List.mem_append,
          List.mem_singleton, not_or, hId] at hApart
        refine ⟨by simp at hTotal ⊢; omega, ?_, ?_, snapshot :: added,
          .cons hSnapshot (Except.mapM_eq_ok.1 hAdded), by simp⟩
        · rw [List.map_cons, List.nodup_cons, List.mem_map]
          exact ⟨fun ⟨other, hOther, hSame⟩ => (hApart other hOther).2 hSame, hNodup⟩
        · rw [List.forall_mem_cons]
          exact ⟨hFresh, fun other hOther => (hApart other hOther).1⟩
      · rintro ⟨hTotal, hNodup, hApart, _, hEach, rfl⟩
        obtain ⟨snapshot, added, hSnapshot, hAdded, rfl⟩ := List.forall₂_cons_left_iff.1 hEach
        have hId := snapshotRecord_componentId hSnapshot
        rw [List.map_cons, List.nodup_cons, List.mem_map] at hNodup
        rw [List.forall_mem_cons] at hApart
        rw [List.length_cons] at hTotal
        refine ⟨_, ⟨by omega, hApart.1, _, hSnapshot, rfl⟩, (ih (by simp; omega)).2 ⟨by simp; omega,
          hNodup.2, fun other hOther => ?_, _, Except.mapM_eq_ok.2 hAdded, by simp⟩⟩
        simp only [List.map_append, List.map_cons, List.map_nil, List.mem_append,
          List.mem_singleton, not_or, hId]
        exact ⟨hApart.2 other hOther, fun hSame => hNodup.1 ⟨other, hOther, hSame⟩⟩

theorem compileAll_eq_ok {U : Unicode} {records : List ComponentRecord}
    {components : List IndexedComponent} : compileAll U records = .ok components ↔
      ∃ snapshots, records.mapM snapshotRecord = .ok snapshots ∧
        snapshots.mapM (compileRecord U) = .ok components :=
  Except.mapM_bind_eq_ok

/-- When an index is built, and what it is. -/
theorem ContractIndex.init_eq_ok {U : Unicode} {records : List ComponentRecord}
    {index : ContractIndex} : ContractIndex.init U records = .ok index ↔
      records.length ≤ maxIndexedRecords ∧ (records.map ComponentRecord.componentId).Nodup ∧
      ∃ snapshots compiled, records.mapM snapshotRecord = .ok snapshots ∧
        (sortBy ComponentRecord.componentId snapshots).mapM (compileRecord U) = .ok compiled ∧
        index = .ofCompiled U (sortBy ComponentRecord.componentId snapshots) compiled := by
  unfold ContractIndex.init
  simp only [Except.bind_eq_ok, Except.pure_eq_ok,
    @foldlM_addSnapshot_eq_ok _ [] _ (Nat.zero_le _), List.length_nil, Nat.zero_add,
    List.map_nil, List.not_mem_nil, not_false_eq_true, implies_true, true_and, List.nil_append]
  constructor
  · rintro ⟨snapshots, ⟨hSize, hDistinct, _, hSnapshots, rfl⟩, compiled, hCompiled, rfl⟩
    exact ⟨hSize, hDistinct, snapshots, compiled, hSnapshots, hCompiled, rfl⟩
  · rintro ⟨hSize, hDistinct, snapshots, compiled, hSnapshots, hCompiled, rfl⟩
    exact ⟨snapshots, ⟨hSize, hDistinct, snapshots, hSnapshots, rfl⟩, compiled, hCompiled, rfl⟩

/-- Snapshots keep the IDs of the records. -/
theorem snapshots_componentIds {records snapshots : List ComponentRecord}
    (h : records.mapM snapshotRecord = .ok snapshots) :
    snapshots.map ComponentRecord.componentId = records.map ComponentRecord.componentId := by
  have hEach := (Except.mapM_eq_ok.1 h).imp (fun record snapshot => snapshotRecord_componentId)
  exact List.forall₂_eq_eq_eq ▸
    (List.forall₂_map_left_iff.2 (List.forall₂_map_right_iff.2 hEach.flip))

/-- An index holds what it was built from. -/
theorem compiles_of_compiled {U : Unicode} {snapshots : List ComponentRecord}
    {compiled : List IndexedComponent}
    (hDistinct : (snapshots.map ComponentRecord.componentId).Nodup)
    (hCompiled : (sortBy ComponentRecord.componentId snapshots).mapM (compileRecord U) =
      .ok compiled) :
    Compiles U (sortBy ComponentRecord.componentId snapshots) compiled := by
  have hEach := (Except.mapM_eq_ok.1 hCompiled).imp
    (fun record indexed h => congrArg ComponentRecord.componentId (compileRecord_record h))
  have hIds : compiled.map IndexedComponent.componentId =
      (sortBy ComponentRecord.componentId snapshots).map ComponentRecord.componentId :=
    List.forall₂_eq_eq_eq ▸ (List.forall₂_map_left_iff.2 (List.forall₂_map_right_iff.2 hEach.flip))
  refine ⟨hIds, ?_⟩
  rw [hIds]
  exact nodup_map_sortBy hDistinct

/-- Another order of the records gives the same index. -/
theorem ContractIndex.init_perm {U : Unicode} {records other : List ComponentRecord}
    {index : ContractIndex} (h : ContractIndex.init U records = .ok index)
    (hPerm : other.Perm records) : ContractIndex.init U other = .ok index := by
  obtain ⟨hSize, hDistinct, snapshots, compiled, hSnapshots, hCompiled, rfl⟩ := init_eq_ok.1 h
  obtain ⟨others, hOthers, hSame⟩ := Except.mapM_perm hSnapshots hPerm.symm
  have hIds : (snapshots.map ComponentRecord.componentId).Nodup := by
    rwa [snapshots_componentIds hSnapshots]
  have hSorted : sortBy ComponentRecord.componentId others =
      sortBy ComponentRecord.componentId snapshots :=
    (sortBy_eq_of_perm hSame (fun a ha b hb hId => List.inj_on_of_nodup_map hIds ha hb hId)).symm
  refine init_eq_ok.2 ⟨hPerm.length_eq ▸ hSize, (hPerm.map _).nodup_iff.2 hDistinct, others,
    compiled, hOthers, ?_, ?_⟩
  · rwa [hSorted]
  · rw [hSorted]

/-- For records with distinct IDs, an index can be built exactly when there are not too many records
and each has a snapshot that compiles. A search of it is the naive search of the compiled records,
for every query, filter and limit, and another order of the records gives the same index. -/
theorem indexed_search_eq_naive (U : Unicode) (records : List ComponentRecord)
    (hDistinct : (records.map ComponentRecord.componentId).Nodup) :
    ((∃ index, ContractIndex.init U records = .ok index) ↔
      records.length ≤ maxIndexedRecords ∧ ∃ components, compileAll U records = .ok components) ∧
    ∀ index components, ContractIndex.init U records = .ok index →
      compileAll U records = .ok components →
      (∀ query filters limit, index.search U query filters limit = (do
        validateLimit limit
        return naiveSearch U components query (filters.getD .none) limit)) ∧
      ∀ other : List ComponentRecord, other.Perm records → ContractIndex.init U other =
        .ok index := by
  constructor
  -- The index compiles the sorted snapshots, and compiling does not depend on their order.
  · constructor
    · rintro ⟨index, h⟩
      obtain ⟨hSize, -, snapshots, compiled, hSnapshots, hCompiled, -⟩ :=
        ContractIndex.init_eq_ok.1 h
      obtain ⟨components, hComponents, -⟩ := Except.mapM_perm hCompiled (sortBy_perm _ _)
      exact ⟨hSize, components, compileAll_eq_ok.2 ⟨snapshots, hSnapshots, hComponents⟩⟩
    · rintro ⟨hSize, components, h⟩
      obtain ⟨snapshots, hSnapshots, hComponents⟩ := compileAll_eq_ok.1 h
      obtain ⟨compiled, hCompiled, -⟩ := Except.mapM_perm hComponents
        (sortBy_perm ComponentRecord.componentId snapshots).symm
      exact ⟨_, ContractIndex.init_eq_ok.2
        ⟨hSize, hDistinct, snapshots, compiled, hSnapshots, hCompiled, rfl⟩⟩
  · intro index components h hComponents
    refine ⟨fun query filters limit => ?_, fun other hPerm => ContractIndex.init_perm h hPerm⟩
    obtain ⟨-, -, snapshots, compiled, hSnapshots, hCompiled, rfl⟩ := ContractIndex.init_eq_ok.1 h
    obtain ⟨same, hSame, hEach⟩ := compileAll_eq_ok.1 hComponents
    cases hSnapshots.symm.trans hSame
    obtain ⟨ordered, hOrdered, hPerm⟩ := Except.mapM_perm hEach
      (sortBy_perm ComponentRecord.componentId snapshots).symm
    cases hCompiled.symm.trans hOrdered
    have hIds : (snapshots.map ComponentRecord.componentId).Nodup := by
      rwa [snapshots_componentIds hSnapshots]
    exact (compiles_of_compiled hIds hCompiled).search_eq hPerm.symm query filters limit

/-- A contract that names itself and a tag. -/
def sampleContract (name tag : String) : ComponentRecord :=
  { componentId := py name
    callablePath := py "calculate:calculate"
    metadata := [(py "id", .str (py name)), (py "tags", .seq .list [.str (py tag)])]
    files := []
    importsRendering := .ok false
    schemas := .ok (.mapping [], .mapping []) }

/-- Unicode as it is on lower-case ASCII words. -/
def plainWords : Unicode :=
  { fold := fun text => text
    isAlnum := fun c => decide (0x61 ≤ c.val ∧ c.val ≤ 0x7A)
    strip := fun text => text }

/-- Two contracts of which one is tagged with the word that is searched for. -/
theorem indexed_search_eq_naive_sample :
    ∃ index components,
      ContractIndex.init plainWords [sampleContract "tail" "risk", sampleContract "drift" "growth"]
      =
        .ok index ∧
      index.search plainWords (py "risk") none 20 =
        .ok (naiveSearch plainWords components (py "risk") .none 20) ∧
      (naiveSearch plainWords components (py "risk") .none 20).totalMatches = 1 ∧
      ContractIndex.init plainWords [sampleContract "drift" "growth", sampleContract "tail" "risk"]
        =
        .ok index := by
  have hDistinct : ([sampleContract "tail" "risk", sampleContract "drift" "growth"].map
      ComponentRecord.componentId).Nodup := by decide
  have hSpec := indexed_search_eq_naive plainWords _ hDistinct
  have hCompiled : ∃ components, compileAll plainWords
      [sampleContract "tail" "risk", sampleContract "drift" "growth"] = .ok components ∧
      (naiveSearch plainWords components (py "risk") .none 20).totalMatches = 1 :=
    ⟨_, rfl, by decide +kernel⟩
  obtain ⟨components, hComponents, hTotal⟩ := hCompiled
  obtain ⟨index, hIndex⟩ := hSpec.1.2 ⟨by decide, components, hComponents⟩
  obtain ⟨hSearch, hOrder⟩ := hSpec.2 index components hIndex hComponents
  exact ⟨index, components, hIndex, hSearch _ _ _, hTotal, hOrder _ (List.Perm.swap _ _ _)⟩

end Discovery
