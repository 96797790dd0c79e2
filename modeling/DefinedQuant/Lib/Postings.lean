import DefinedQuant.Lib.SortBy
import Mathlib.Data.Finset.Sort

/-!
# Inverted indexes

An inverted index keeps for every key the documents that were posted under it. A search that looks
up the keys of a query, narrows the documents to those found and examines only the rest sees the
same documents as one that examines them all, when a document that is not found would have been
dropped.
-/

universe u v w

variable {κ : Type u} {ι : Type v}

/-- For every key the documents posted under it. -/
abbrev Postings (κ : Type u) (ι : Type v) := κ → Finset ι

namespace Postings

section

variable [DecidableEq κ] [DecidableEq ι]

/-- `postings[key].add(document)` -/
def add (postings : Postings κ ι) (entry : κ × ι) : Postings κ ι :=
  Function.update postings entry.1 (insert entry.2 (postings entry.1))

/-- The index of a list of entries. -/
def ofEntries (entries : List (κ × ι)) : Postings κ ι := entries.foldl add (fun _ => ∅)

theorem mem_add {postings : Postings κ ι} {entry : κ × ι} {key : κ} {document : ι} :
    document ∈ postings.add entry key ↔ document ∈ postings key ∨ entry = (key, document) := by
  unfold add
  by_cases h : key = entry.1
  · subst h
    rw [Function.update_self, Finset.mem_insert, or_comm, Prod.ext_iff]
    simp [eq_comm]
  · rw [Function.update_of_ne h, Prod.ext_iff]
    simp [Ne.symm h]

theorem mem_foldl_add {entries : List (κ × ι)} {postings : Postings κ ι} {key : κ} {document : ι} :
    document ∈ entries.foldl add postings key ↔
      document ∈ postings key ∨ (key, document) ∈ entries := by
  induction entries generalizing postings with
  | nil => simp
  | cons entry entries ih =>
      rw [List.foldl_cons, ih, mem_add, List.mem_cons, or_assoc, eq_comm (a := entry)]

/-- A document is found under exactly the keys under which it was posted. -/
theorem mem_ofEntries {entries : List (κ × ι)} {key : κ} {document : ι} :
    document ∈ ofEntries entries key ↔ (key, document) ∈ entries := by
  rw [ofEntries, mem_foldl_add]
  simp

end

section

variable [DecidableEq ι]

/-- The documents posted under any of the keys. -/
def any (postings : Postings κ ι) (keys : List κ) : Finset ι :=
  keys.foldl (fun found key => found ∪ postings key) ∅

theorem mem_foldl_union {postings : Postings κ ι} {keys : List κ} {found : Finset ι}
    {document : ι} :
    document ∈ keys.foldl (fun found key => found ∪ postings key) found ↔
      document ∈ found ∨ ∃ key ∈ keys, document ∈ postings key := by
  induction keys generalizing found with
  | nil => simp
  | cons key keys ih =>
      rw [List.foldl_cons, ih, Finset.mem_union, or_assoc]
      simp only [List.mem_cons, exists_eq_or_imp]

@[simp] theorem mem_any {postings : Postings κ ι} {keys : List κ} {document : ι} :
    document ∈ postings.any keys ↔ ∃ key ∈ keys, document ∈ postings key := by
  rw [any, mem_foldl_union]
  simp

/-- The candidates after a list of conditions, each of which either says nothing or names the
documents that meet it. -/
theorem mem_foldl_narrow {γ : Type w} {active : γ → Prop} [DecidablePred active]
    {found : γ → Finset ι} {conditions : List γ} {candidates : Finset ι} {document : ι} :
    document ∈ conditions.foldl
        (fun candidates c => if active c then candidates ∩ found c else candidates) candidates ↔
      document ∈ candidates ∧ ∀ c ∈ conditions, active c → document ∈ found c := by
  induction conditions generalizing candidates with
  | nil => simp
  | cons c conditions ih =>
      rw [List.foldl_cons, ih, List.forall_mem_cons, ← and_assoc]
      by_cases h : active c
      · simp [h, Finset.mem_inter]
      · simp [h]

end

section

variable [LinearOrder ι] {α β : Type*}

/-- The documents found for the candidates are those that a test keeps, in some order, when the
candidates are the identities of the documents that pass the test. -/
theorem perm_filter_of_candidates {identity : α → ι} {documents found : List α}
    {candidates : Finset ι} {keep : α → Prop} [DecidablePred keep]
    (hDistinct : (documents.map identity).Nodup) (hFound : ∀ a ∈ found, a ∈ documents)
    (hIdentities : found.map identity = candidates.sort)
    (hKeep : ∀ a ∈ documents, identity a ∈ candidates ↔ keep a) :
    found.Perm (documents.filter keep) := by
  have hNodup : found.Nodup := by
    apply List.Nodup.of_map identity
    rw [hIdentities]
    exact Finset.sort_nodup _ _
  have hCandidate : ∀ i, i ∈ candidates ↔ ∃ a ∈ found, identity a = i := by
    intro i
    rw [← List.mem_map, hIdentities, Finset.mem_sort]
  rw [List.perm_ext_iff_of_nodup hNodup ((hDistinct.of_map _).filter _)]
  intro a
  rw [List.mem_filter, decide_eq_true_iff]
  constructor
  · intro ha
    exact ⟨hFound a ha, (hKeep a (hFound a ha)).1 ((hCandidate _).2 ⟨a, ha, rfl⟩)⟩
  · rintro ⟨ha, hPasses⟩
    obtain ⟨b, hb, hSame⟩ := (hCandidate _).1 ((hKeep a ha).2 hPasses)
    rwa [← List.inj_on_of_nodup_map hDistinct (hFound b hb) ha hSame]

end

end Postings
