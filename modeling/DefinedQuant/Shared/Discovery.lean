import DefinedQuant.Lib.Postings
import DefinedQuant.Shared.Catalog
import Mathlib.Data.Prod.Lex

/-!
# Discovery

Search over component contracts. A `ContractIndex` holds a frozen snapshot of every record, compiled
into the fields that a query may match, with the component IDs posted under the terms and facet
values of its component. A search prunes the components by these postings and ranks the rest.

The Unicode tables that Python consults are a parameter.
-/

namespace Discovery

open Json Components Protocol

/-- What the module asks of Unicode. -/
structure Unicode where
  /-- `unicodedata.normalize("NFKC", text).casefold()` -/
  fold : Text → Text
  /-- `character.isalnum()` -/
  isAlnum : CodePoint → Bool
  /-- `text.strip()` -/
  strip : Text → Text

/-- A raised exception. -/
inductive Raised where
  | typeError (message : Text)
  | valueError (message : Text)
  | keyError (key : Text)
  | componentContractError (message : Text) (componentId : Option Text)
  deriving DecidableEq, Repr

/-- `DEFAULT_LIMIT` -/
def defaultLimit : ℤ := 20

/-- `MAX_LIMIT` -/
def maxLimit : ℤ := 100

/-- `MAX_INDEXED_RECORDS` -/
def maxIndexedRecords : ℕ := 10000

inductive FacetName where
  | categories
  | groups
  | tags
  | intents
  | inputConcepts
  | outputConcepts
  | lifecycles
  | profiles
  deriving DecidableEq, Repr

/-- `FACET_NAMES` -/
def facetNames : List FacetName :=
  [.categories, .groups, .tags, .intents, .inputConcepts, .outputConcepts, .lifecycles, .profiles]

@[simp] theorem mem_facetNames (name : FacetName) : name ∈ facetNames := by
  cases name <;> decide

def FacetName.text : FacetName → Text
  | .categories => py "categories"
  | .groups => py "groups"
  | .tags => py "tags"
  | .intents => py "intents"
  | .inputConcepts => py "input_concepts"
  | .outputConcepts => py "output_concepts"
  | .lifecycles => py "lifecycles"
  | .profiles => py "profiles"

/-- A mapping from every facet to its values. -/
abbrev FacetMap (α : Type) := FacetName → List α

/-- `{name: values(name) for name in FACET_NAMES}` -/
def facetMapM {α : Type} (values : FacetName → Except Raised (List α)) :
    Except Raised (FacetMap α) := do
  let entries ← facetNames.mapM (fun name => do return (name, ← values name))
  return fun name => (entries.lookup name).getD []

inductive MatchPolarity where
  | positive
  | boundary
  deriving DecidableEq, Repr

/-- `_STOPWORDS` -/
def stopwords : List Text :=
  ["a", "an", "and", "are", "as", "at", "be", "by", "calculate", "compute", "for", "from",
    "how", "i", "in", "into", "is", "it", "me", "my", "of", "on", "or", "please", "that", "the",
    "this", "to", "use", "want", "with"].map py

/-- `_POSITIVE_FIELD_WEIGHTS` -/
def positiveFieldWeights : List (Text × ℤ) :=
  [(py "id", 14), (py "slug", 14), (py "title", 14), (py "discovery.aliases", 13),
    (py "discovery.intents", 12), (py "discovery.output_concepts", 11),
    (py "discovery.input_concepts", 10), (py "tags", 8), (py "summary", 6),
    (py "guidance.use_when", 4), (py "category", 3), (py "group", 3), (py "template.profile", 2)]

/-- `_BOUNDARY_FIELDS` -/
def boundaryFields : List Text :=
  [py "guidance.do_not_use_when", py "guidance.unsupported_scope", py "limitations"]

/-- `_normalise_filter_value` -/
def normaliseFilterValue (U : Unicode) (value : Text) : Except Raised Text := do
  let normalised := U.strip (U.fold value)
  Except.raiseIf (normalised = []) (.valueError (py "filter values must not be empty"))
  return normalised

/-- `DiscoveryFilters`: for every facet the values of which one is asked for, in order and each
once. -/
structure DiscoveryFilters where
  values : FacetMap Text

/-- `DiscoveryFilters()` -/
def DiscoveryFilters.none : DiscoveryFilters := ⟨fun _ => []⟩

/-- `DiscoveryFilters.__post_init__` -/
def DiscoveryFilters.init (U : Unicode) (rawValues : FacetMap Text) :
    Except Raised DiscoveryFilters := do
  let values ← facetMapM (fun name => do
    Except.raiseIf (64 < (rawValues name).length)
      (.valueError (name.text ++ py " accepts at most 64 filter values"))
    return sortedSet (← (rawValues name).mapM (normaliseFilterValue U)))
  return ⟨values⟩

/-- Why query terms matched one field of a contract. -/
structure FieldMatch where
  field : Text
  polarity : MatchPolarity
  terms : List Text
  values : List Text
  deriving DecidableEq, Repr

structure SearchHit where
  record : ComponentRecord
  score : ℤ
  positiveMatches : List FieldMatch
  boundaryMatches : List FieldMatch
  matchedTerms : List Text
  unmatchedTerms : List Text

structure FacetValue where
  value : Text
  count : ℕ
  deriving DecidableEq, Repr

/-- A page of hits with the complete counts of the eligible components. -/
structure SearchResults where
  query : Text
  terms : List Text
  filters : DiscoveryFilters
  totalMatches : ℕ
  hits : List SearchHit
  facets : FacetMap FacetValue

structure IndexedField where
  name : Text
  values : List Text
  weight : ℤ
  deriving DecidableEq, Repr

structure IndexedComponent where
  record : ComponentRecord
  positiveFields : List IndexedField
  boundaryFields : List IndexedField
  facets : FacetMap Text

/-! ## Terms -/

/-- The loop of `_raw_tokens`, with the token that is being read. -/
def rawTokensFrom (U : Unicode) : Text → Text → List Text
  | token, [] => if token = [] then [] else [token]
  | token, character :: rest =>
      if U.isAlnum character then rawTokensFrom U (token ++ [character]) rest
      else if token = [] then rawTokensFrom U [] rest
      else token :: rawTokensFrom U [] rest

/-- `_raw_tokens` -/
def rawTokens (U : Unicode) (text : Text) : List Text := rawTokensFrom U [] (U.fold text)

/-- `text.endswith(suffix)` -/
def endsWith (text : Text) (suffix : String) : Bool := (py suffix).isSuffixOf text

/-- `_term_forms`: the term, and its singular if it looks like a plural. -/
def termForms (term : Text) : List Text :=
  if 4 < term.length ∧ endsWith term "ies" then [term, term.take (term.length - 3) ++ py "y"]
  else if 4 < term.length ∧ endsWith term "s" ∧
      ¬ (endsWith term "ss" ∨ endsWith term "is" ∨ endsWith term "us" ∨ endsWith term "series") then
    [term, term.take (term.length - 1)]
  else [term]

/-- The loop of `tokenize`, with the terms found so far. -/
def tokenizeFrom : List Text → List Text → List Text
  | terms, [] => terms
  | terms, token :: rest =>
      if token ∈ stopwords ∨ token ∈ terms then tokenizeFrom terms rest
      else tokenizeFrom (terms ++ [token]) rest

/-- `tokenize` -/
def tokenize (U : Unicode) (text : Text) : List Text := tokenizeFrom [] (rawTokens U text)

/-- `_string_values` -/
def stringValues : Data → List Text
  | .str s => [s]
  | .seq _ xs => xs.filterMap (fun x => match x with | .str s => some s | _ => .none)
  | _ => []

/-- `value.get(part)`, or `None` where the value is no mapping. -/
def mappingValue (value : Data) (part : Text) : Data :=
  match value with
  | .mapping m => (m.lookup (some part)).getD .none
  | _ => .none

/-- The metadata of a record as a mapping. -/
def metadataOf (record : ComponentRecord) : Data :=
  .mapping (record.metadata.map (fun p => (some p.1, p.2)))

/-- `_nested` -/
def nested (metadata : Data) (path : Text) : Data := (split 0x2E path).foldl mappingValue metadata

/-- `_field_values` -/
def fieldValues (record : ComponentRecord) (path : Text) : List Text :=
  (stringValues (nested (metadataOf record) path)).filter (fun value => value ≠ [])

/-- `_value_terms` -/
def valueTerms (U : Unicode) (values : List Text) : List Text :=
  values.flatMap (fun value => (rawTokens U value).flatMap termForms)

/-- `_matching_terms` -/
def matchingTerms (queryTerms indexed : List Text) : List Text :=
  queryTerms.filter (fun term => (termForms term).any (fun form => decide (form ∈ indexed)))

/-- `_normalised_phrase` -/
def normalisedPhrase (U : Unicode) (value : Text) : Text := (py " ").intercalate (rawTokens U value)

/-! ## Snapshots and facets -/

/-- `type(value).__name__` where it is not JSON-compatible; the ISO form of a date has ten
characters. -/
def incompatible (typeName : Text) : Raised :=
  .typeError (py "contract metadata value of type " ++ typeName ++ py " is not JSON-compatible")

mutual

/-- `_freeze_contract_value` -/
def freezeContractValue : Data → Except Raised Data
  | .none => .ok .none
  | .bool b => .ok (.bool b)
  | .int n => .ok (.int n)
  | .float x => .ok (.float x)
  | .str s => .ok (.str s)
  | .date isoformat =>
      .error (incompatible (if isoformat.length = 10 then py "date" else py "datetime"))
  | .mapping m => do return .mapping (← freezeMembers m)
  | .seq _ xs => do return .seq .tuple (← freezeItems xs)
  | .other typeName => .error (incompatible typeName)

def freezeItems : List Data → Except Raised (List Data)
  | [] => .ok []
  | x :: xs => do
      let item ← freezeContractValue x
      return item :: (← freezeItems xs)

def freezeMembers : List (Option Text × Data) → Except Raised (List (Option Text × Data))
  | [] => .ok []
  | (.none, _) :: _ => .error (.typeError (py "contract metadata keys must be strings"))
  | (some key, x) :: m => do
      let item ← freezeContractValue x
      return (some key, item) :: (← freezeMembers m)

end

/-- `_snapshot_record` -/
def snapshotRecord (record : ComponentRecord) : Except Raised ComponentRecord := do
  let metadata ← record.metadata.mapM (fun p => do return (p.1, ← freezeContractValue p.2))
  return { record with metadata }

/-- The values of a facet as the contract has them. -/
def rawFacet (record : ComponentRecord) : FacetMap Text :=
  let metadata := metadataOf record
  let discovery := mappingValue metadata (py "discovery")
  let template := mappingValue metadata (py "template")
  fun
  | .categories => stringValues (mappingValue metadata (py "category"))
  | .groups => stringValues (mappingValue metadata (py "group"))
  | .tags => stringValues (mappingValue metadata (py "tags"))
  | .intents => stringValues (mappingValue discovery (py "intents"))
  | .inputConcepts => stringValues (mappingValue discovery (py "input_concepts"))
  | .outputConcepts => stringValues (mappingValue discovery (py "output_concepts"))
  | .lifecycles => stringValues (mappingValue metadata (py "lifecycle"))
  | .profiles => stringValues (mappingValue template (py "profile"))

/-- `component_facets` -/
def componentFacets (U : Unicode) (record : ComponentRecord) : Except Raised (FacetMap Text) :=
  facetMapM (fun name => do
    let values := (rawFacet record name).filter (fun value => U.strip value ≠ [])
    return sortedSet (← values.mapM (normaliseFilterValue U)))

/-- `_compile_field` -/
def compileField (record : ComponentRecord) (fieldName : Text) (weight : ℤ) : IndexedField :=
  { name := fieldName, values := fieldValues record fieldName, weight }

/-- `_compile_record` -/
def compileRecord (U : Unicode) (record : ComponentRecord) : Except Raised IndexedComponent := do
  let facets ← componentFacets U record
  return { record
           positiveFields := positiveFieldWeights.map (fun p => compileField record p.1 p.2)
           boundaryFields := boundaryFields.map (fun name => compileField record name 0)
           facets }

/-! ## Ranking -/

/-- `_field_match` -/
def fieldMatch (U : Unicode) (polarity : MatchPolarity) (queryTerms : List Text)
    (indexed : IndexedField) : Option FieldMatch :=
  if queryTerms = [] then none
  else
    let terms := matchingTerms queryTerms (valueTerms U indexed.values)
    if terms = [] then none
    else some { field := indexed.name, polarity, terms, values := indexed.values }

/-- What a positive match adds to the score. -/
def fieldScore (U : Unicode) (queryPhrase : Text) (indexed : IndexedField) (found : FieldMatch) :
    ℤ :=
  indexed.weight * found.terms.length +
    (if queryPhrase ≠ [] ∧ queryPhrase ∈ indexed.values.map (normalisedPhrase U) then
      indexed.weight * 2
      else 0)

/-- `_rank_record` -/
def rankRecord (U : Unicode) (indexed : IndexedComponent) (queryPhrase : Text) (terms : List Text) :
    Option SearchHit :=
  let found := indexed.positiveFields.filterMap (fun field =>
    (fieldMatch U .positive terms field).map (fun m => (field, m)))
  let positive := found.map Prod.snd
  let boundary := indexed.boundaryFields.filterMap (fieldMatch U .boundary terms)
  let score := (found.map (fun p => fieldScore U queryPhrase p.1 p.2)).sum
  if terms ≠ [] ∧ positive = [] then none
  else
    let matched := terms.filter (fun term => positive.any (fun m => decide (term ∈ m.terms)))
    let unmatched := terms.filter (fun term => term ∉ matched)
    let boundaryTerms := (boundary.flatMap FieldMatch.terms).dedup
    some { record := indexed.record
           score := max 0 (score + 5 * matched.length - 3 * boundaryTerms.length)
           positiveMatches := positive
           boundaryMatches := boundary
           matchedTerms := matched
           unmatchedTerms := unmatched }

/-- `_catalog_facets_from_indexed` -/
def catalogFacetsFromIndexed (records : List IndexedComponent) : FacetMap FacetValue := fun name =>
  let counted := records.flatMap (fun indexed => indexed.facets name)
  (sortedSet counted).map (fun value => { value, count := counted.count value })

/-- `_validate_limit` -/
def validateLimit (limit : ℤ) : Except Raised Unit :=
  Except.raiseIf (limit < 1 ∨ maxLimit < limit) (.valueError (py "limit must be between 1 and 100"))

/-! ## The index -/

/-- `ContractIndex` -/
structure ContractIndex where
  allComponentIds : Finset Text
  records : List ComponentRecord
  components : List IndexedComponent
  positivePostings : Postings Text Text
  facetPostings : FacetName → Postings Text Text

/-- One turn of the loop over the records that are indexed. -/
def addSnapshot (snapshots : List ComponentRecord) (record : ComponentRecord) :
    Except Raised (List ComponentRecord) := do
  Except.raiseIf (maxIndexedRecords < snapshots.length + 1)
    (.componentContractError (py "contract index supports at most 10000 component records") none)
  Except.raiseIf (record.componentId ∈ snapshots.map ComponentRecord.componentId)
    (.componentContractError (py "duplicate component id: " ++ record.componentId)
      (some record.componentId))
  return snapshots ++ [← snapshotRecord record]

/-- The ID of an indexed component. -/
def IndexedComponent.componentId (indexed : IndexedComponent) : Text := indexed.record.componentId

/-- The terms under which a component is posted. -/
def IndexedComponent.positiveEntries (U : Unicode) (indexed : IndexedComponent) :
    List (Text × Text) :=
  indexed.positiveFields.flatMap (fun field =>
    (valueTerms U field.values).map (fun term => (term, indexed.componentId)))

/-- The facet values under which a component is posted. -/
def IndexedComponent.facetEntries (name : FacetName) (indexed : IndexedComponent) :
    List (Text × Text) :=
  (indexed.facets name).map (fun value => (value, indexed.componentId))

/-- The index of compiled records, in the order of their IDs. -/
def ContractIndex.ofCompiled (U : Unicode) (records : List ComponentRecord)
    (compiled : List IndexedComponent) : ContractIndex :=
  { allComponentIds := (records.map ComponentRecord.componentId).toFinset
    records
    components := compiled
    positivePostings := .ofEntries (compiled.flatMap (IndexedComponent.positiveEntries U))
    facetPostings := fun name =>
      .ofEntries (compiled.flatMap (IndexedComponent.facetEntries name)) }

/-- `ContractIndex.__init__` -/
def ContractIndex.init (U : Unicode) (records : List ComponentRecord) :
    Except Raised ContractIndex := do
  let snapshots ← records.foldlM addSnapshot []
  let orderedRecords := sortBy ComponentRecord.componentId snapshots
  let compiled ← orderedRecords.mapM (compileRecord U)
  return .ofCompiled U orderedRecords compiled

/-- `self._components[component_id]` -/
def ContractIndex.component (index : ContractIndex) (componentId : Text) :
    Except Raised IndexedComponent :=
  match index.components.find? (fun indexed => indexed.componentId = componentId) with
  | some indexed => .ok indexed
  | none => .error (.keyError componentId)

/-- The component IDs that a search looks at. -/
def ContractIndex.candidateIds (index : ContractIndex) (filters : DiscoveryFilters)
    (terms : List Text) : Finset Text :=
  let candidates := facetNames.foldl (fun candidates name =>
    if filters.values name ≠ [] then
      candidates ∩ (index.facetPostings name).any (filters.values name)
    else candidates) index.allComponentIds
  if terms ≠ [] then candidates ∩ index.positivePostings.any (terms.flatMap termForms)
    else candidates

/-- The matching components with their hits, in order. -/
def rankAll (U : Unicode) (queryPhrase : Text) (terms : List Text)
    (components : List IndexedComponent) : List (SearchHit × IndexedComponent) :=
  components.filterMap (fun indexed =>
    (rankRecord U indexed queryPhrase terms).map (fun hit => (hit, indexed)))

/-- `lambda hit: (-hit.score, hit.record.component_id)` -/
def SearchHit.key (hit : SearchHit) : Lex (ℤ × Text) := toLex (-hit.score, hit.record.componentId)

/-- The page of the best hits, with the counts of all that match. -/
def resultsOf (query : Text) (terms : List Text) (filters : DiscoveryFilters) (limit : ℤ)
    (ranked : List (SearchHit × IndexedComponent)) : SearchResults :=
  { query, terms, filters
    totalMatches := ranked.length
    hits := (sortBy SearchHit.key (ranked.map Prod.fst)).take limit.toNat
    facets := catalogFacetsFromIndexed (ranked.map Prod.snd) }

/-- `ContractIndex.search` -/
def ContractIndex.search (U : Unicode) (index : ContractIndex) (query : Text)
    (filters : Option DiscoveryFilters) (limit : ℤ) : Except Raised SearchResults := do
  validateLimit limit
  let appliedFilters := filters.getD .none
  let terms := tokenize U query
  let candidates := (index.candidateIds appliedFilters terms).sort
  let components ← candidates.mapM index.component
  return resultsOf query terms appliedFilters limit
    (rankAll U (normalisedPhrase U query) terms components)

end Discovery
