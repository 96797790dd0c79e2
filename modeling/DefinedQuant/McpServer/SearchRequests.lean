import DefinedQuant.Shared.DataRecords.Dataset
import DefinedQuant.Shared.DiscoverySearch

/-!
# Search requests

The request model of the search tool bounds its texts by their UTF-8 octets; the filters of the
index normalise them and refuse what is blank then. `search_executable_iff` says which accepted
requests the index can answer.
-/

namespace McpServer

open Json Components Protocol DataRecords Discovery

/-- A text bounded by `_utf8`. -/
def utf8Codec (minimum maximum : ℕ) : Codec (Utf8Text minimum maximum) :=
  Codec.text (utf8Within minimum maximum) "string is outside its UTF-8 byte limit"

/-- The values that are asked for in one facet. -/
abbrev FilterValues := Bounded (Utf8Text 1 128) 0 64

/-- `Field(default=(), max_length=64)` -/
def filterValues (name : String) : Fields FilterValues :=
  .defaulted name (Bounded.codec (utf8Codec 1 128) 0 64) ⟨[], rfl⟩

/-- `SearchFilters` -/
structure SearchFilters where
  categories : FilterValues
  groups : FilterValues
  tags : FilterValues
  intents : FilterValues
  inputConcepts : FilterValues
  outputConcepts : FilterValues
  lifecycles : FilterValues
  profiles : FilterValues

def SearchFilters.fields : Fields SearchFilters :=
  (Fields.and (filterValues "categories")
    (.and (filterValues "groups")
    (.and (filterValues "tags")
    (.and (filterValues "intents")
    (.and (filterValues "input_concepts")
    (.and (filterValues "output_concepts")
    (.and (filterValues "lifecycles") (filterValues "profiles")
    (by decide)) (by decide)) (by decide)) (by decide)) (by decide)) (by decide)) (by decide)).iso
    (fun (a, b, c, d, e, f, g, h) => ⟨a, b, c, d, e, f, g, h⟩)
    (fun s => (s.categories, s.groups, s.tags, s.intents, s.inputConcepts, s.outputConcepts,
      s.lifecycles, s.profiles))
    (fun _ => rfl)

def SearchFilters.codec : Codec SearchFilters := .object fields

/-- `SearchFilters()` -/
def SearchFilters.none : SearchFilters :=
  ⟨⟨[], rfl⟩, ⟨[], rfl⟩, ⟨[], rfl⟩, ⟨[], rfl⟩, ⟨[], rfl⟩, ⟨[], rfl⟩, ⟨[], rfl⟩, ⟨[], rfl⟩⟩

/-- `getattr(request.filters, facet)` -/
def SearchFilters.facet (self : SearchFilters) : FacetMap Text
  | .categories => self.categories.1.map Subtype.val
  | .groups => self.groups.1.map Subtype.val
  | .tags => self.tags.1.map Subtype.val
  | .intents => self.intents.1.map Subtype.val
  | .inputConcepts => self.inputConcepts.1.map Subtype.val
  | .outputConcepts => self.outputConcepts.1.map Subtype.val
  | .lifecycles => self.lifecycles.1.map Subtype.val
  | .profiles => self.profiles.1.map Subtype.val

/-- `SearchRequest`; its schema version is the one literal. -/
structure SearchRequest where
  query : Utf8Text 0 512
  filters : SearchFilters
  limit : Count 1 5

def SearchRequest.fields : Fields SearchRequest :=
  (Fields.and (.defaulted "host_schema_version"
      (.literalInt 1 "host schema version must be the integer one") ())
    (.and (.required "query" (utf8Codec 0 512))
    (.and (.defaulted "filters" SearchFilters.codec .none)
      (.defaulted "limit" (Count.codec 1 5) ⟨5, rfl⟩)
    (by decide)) (by decide)) (by decide)).iso
    (fun (_, a, b, c) => ⟨a, b, c⟩) (fun r => ((), r.query, r.filters, r.limit)) (fun _ => rfl)

def SearchRequest.codec : Codec SearchRequest := .object fields

/-- The search branch of `_dispatch`, up to the projection of the results. -/
def dispatchSearch (U : Unicode) (index : ContractIndex) (request : SearchRequest) :
    Except Discovery.Raised SearchResults := do
  let filters ← DiscoveryFilters.init U request.filters.facet
  index.search U request.query.1 (some filters) request.limit.1

/-! ## Filters -/

/-- A filter value that is blank once it is normalised. -/
def Blank (U : Unicode) (value : Text) : Prop := U.strip (U.fold value) = []

theorem normaliseFilterValue_eq_ok {U : Unicode} {value normalised : Text} :
    normaliseFilterValue U value = .ok normalised ↔ ¬ Blank U value ∧
      normalised = U.strip (U.fold value) := by
  unfold normaliseFilterValue Blank
  rw [Except.bind_eq_ok]
  constructor
  · rintro ⟨⟨⟩, hNonempty, h⟩
    exact ⟨Except.raiseIf_eq_ok.1 hNonempty, (Except.pure_eq_ok.1 h).symm⟩
  · rintro ⟨hNonempty, rfl⟩
    exact ⟨(), Except.raiseIf_eq_ok.2 hNonempty, rfl⟩

/-- A map over the facets is built exactly when it is for every facet. -/
theorem exists_facetMapM {α : Type} {values : FacetName → Except Discovery.Raised (List α)} :
    (∃ m, facetMapM values = .ok m) ↔ ∀ name, ∃ xs, values name = .ok xs := by
  unfold facetMapM
  constructor
  · rintro ⟨m, h⟩ name
    obtain ⟨entries, hEntries, -⟩ := Except.bind_eq_ok.1 h
    obtain ⟨entry, -, h⟩ := (Except.mapM_eq_ok.1 hEntries).exists_right (mem_facetNames name)
    obtain ⟨xs, hValues, -⟩ := Except.bind_eq_ok.1 h
    exact ⟨xs, hValues⟩
  · intro h
    have hEntries : ∃ entries, facetNames.mapM (fun name => do return (name, ← values name)) =
      .ok entries := by
      refine Except.exists_mapM_eq_ok (fun name _ => ?_)
      obtain ⟨xs, hValues⟩ := h name
      exact ⟨(name, xs), Except.bind_eq_ok.2 ⟨xs, hValues, rfl⟩⟩
    obtain ⟨entries, hEntries⟩ := hEntries
    exact ⟨_, Except.bind_eq_ok.2 ⟨entries, hEntries, rfl⟩⟩

theorem length_le_of_bounded {α : Type} {low high : ℕ} (xs : Bounded α low high) :
    xs.1.length ≤ high := by
  by_contra hLong
  have hValid := xs.2
  unfold lengthWithin at hValid
  rw [if_neg (fun h => hLong h.2)] at hValid
  cases hValid

/-- The request model lets through no more values than the index takes. -/
theorem length_facet_le (filters : SearchFilters) (name : FacetName) :
    (filters.facet name).length ≤ 64 := by
  cases name <;> exact (List.length_map _).le.trans (length_le_of_bounded _)

/-- The filters of a request are accepted exactly when none of them is blank. -/
theorem exists_init_iff {U : Unicode} {filters : SearchFilters} :
    (∃ f, DiscoveryFilters.init U filters.facet = .ok f) ↔ ∀ name, ∀ value ∈ filters.facet name,
      ¬ Blank U value := by
  have hFacet : ∀ name, (∃ xs, (do
      Except.raiseIf (64 < (filters.facet name).length)
        (.valueError (name.text ++ py " accepts at most 64 filter values"))
      return sortedSet (← (filters.facet name).mapM (normaliseFilterValue U)) :
        Except Discovery.Raised (List Text)) = .ok xs) ↔ ∀ value ∈ filters.facet name,
          ¬ Blank U value := by
    intro name
    constructor
    · rintro ⟨xs, h⟩ value hMem
      obtain ⟨-, -, h⟩ := Except.bind_eq_ok.1 h
      obtain ⟨normalised, hNormalised, -⟩ := Except.bind_eq_ok.1 h
      obtain ⟨n, -, hValue⟩ := (Except.mapM_eq_ok.1 hNormalised).exists_right hMem
      exact (normaliseFilterValue_eq_ok.1 hValue).1
    · intro h
      obtain ⟨normalised, hNormalised⟩ := Except.exists_mapM_eq_ok (fun value hMem =>
        ⟨_, normaliseFilterValue_eq_ok.2 ⟨h value hMem, rfl⟩⟩)
      refine ⟨_, Except.bind_eq_ok.2 ⟨(), Except.raiseIf_eq_ok.2 ?_,
        Except.bind_eq_ok.2 ⟨_, hNormalised, rfl⟩⟩⟩
      exact Nat.not_lt.2 (length_facet_le filters name)
  rw [← forall_congr' hFacet, ← exists_facetMapM]
  constructor
  · rintro ⟨f, h⟩
    obtain ⟨values, hValues, -⟩ := Except.bind_eq_ok.1 h
    exact ⟨values, hValues⟩
  · rintro ⟨values, hValues⟩
    exact ⟨⟨values⟩, Except.bind_eq_ok.2 ⟨values, hValues, rfl⟩⟩

/-! ## Requests -/

/-- A search of an index that was built raises only for a limit out of bounds. -/
theorem exists_search {U : Unicode} {records : List ComponentRecord} {index : ContractIndex}
    (h : ContractIndex.init U records = .ok index) (query : Text)
    (filters : Option DiscoveryFilters) {limit : ℤ}
    (hLow : 1 ≤ limit) (hHigh : limit ≤ maxLimit) : ∃ results, index.search U query filters limit =
    .ok results := by
  obtain ⟨-, hDistinct, snapshots, compiled, hSnapshots, hCompiled, rfl⟩ :=
    ContractIndex.init_eq_ok.1 h
  have hIds : (snapshots.map ComponentRecord.componentId).Nodup := by
    rw [snapshots_componentIds hSnapshots]
    exact hDistinct
  have hCompiles := compiles_of_compiled hIds hCompiled
  have hLimit : validateLimit limit = .ok () := Except.raiseIf_eq_ok.2 (by omega)
  rw [hCompiles.search_eq (List.Perm.refl _)]
  exact ⟨_, Except.bind_eq_ok.2 ⟨(), hLimit, rfl⟩⟩

/-- The request is answered by every index. -/
def Executable (U : Unicode) (request : SearchRequest) : Prop :=
  ∀ records index, ContractIndex.init U records = .ok index → ∃ results,
    dispatchSearch U index request = .ok results

/-- An accepted request is executable exactly when no filter value is blank once it is normalised. -/
theorem search_executable_iff (U : Unicode) (request : SearchRequest) :
    Executable U request ↔ ∀ name, ∀ value ∈ request.filters.facet name, ¬ Blank U value := by
  rw [← exists_init_iff]
  constructor
  · intro h
    obtain ⟨results, hResults⟩ := h [] _ rfl
    obtain ⟨filters, hFilters, -⟩ := Except.bind_eq_ok.1 hResults
    exact ⟨filters, hFilters⟩
  · rintro ⟨filters, hFilters⟩ records index hIndex
    have hRange := request.limit.2
    rw [Bool.and_eq_true, decide_eq_true_iff, decide_eq_true_iff] at hRange
    obtain ⟨results, hResults⟩ := exists_search hIndex request.query.1 (some filters) hRange.1
      (hRange.2.trans (by decide))
    exact ⟨results, Except.bind_eq_ok.2 ⟨filters, hFilters, hResults⟩⟩

/-- Unicode as it is on ASCII words without capital letters. -/
def spacedWords : Unicode :=
  { plainWords with
    strip :=
      fun text => ((text.dropWhile (fun c => c = 0x20)).reverse.dropWhile (fun c =>
        c = 0x20)).reverse }

/-- A request for the tag of one space is accepted, and no index answers it. -/
theorem not_executable_blank : ∃ request,
    SearchRequest.codec.decode (.obj [(py "query", .str (py "return")),
      (py "filters", .obj [(py "tags", .list [.str (py " ")])])]) = .ok request ∧
    ¬ Executable spacedWords request := by
  let tags : FilterValues := ⟨[⟨py " ", by decide⟩], by decide⟩
  refine ⟨⟨⟨py "return", by decide⟩, { SearchFilters.none with tags }, ⟨5, rfl⟩⟩, rfl, fun h => ?_⟩
  obtain ⟨results, hResults⟩ := h [] _ rfl
  cases hResults

end McpServer
