import Mathlib.Logic.Relation
import Mathlib.Data.List.Nodup

/-!
# Depth-first traversals with a path

A traversal visits a node, and then what the node points to, in order, and carries the path it is
on. It fails at a name that has no node (`missing`) and at a node that is on the path already
(`cycle`). There is no record of what was visited before: a shared node is visited once for each way
to it.

`Clean` says that the traversal from a node meets no fault, and `Meets` which one it meets first.
Over finitely many nodes one of them holds (`clean_or_meets`), and a traversal from scratch is clean
exactly when nothing missing and no cycle can be reached (`clean_iff`).
-/

namespace DepthFirst

variable {α : Type*} (next : α → Option (List α))

/-- What a traversal can fail at, with the path it is on. -/
inductive Fault (α : Type*) where
  | missing (path : List α) (name : α)
  | cycle (path : List α) (name : α)

/-- One step along the graph. -/
def Points (a b : α) : Prop := ∃ bs, next a = some bs ∧ b ∈ bs

/-- The traversal from a node ends without a fault. -/
inductive Clean : List α → α → Prop where
  | node {path a bs} : next a = some bs → a ∉ path → (∀ b ∈ bs, Clean (path ++ [a]) b) →
    Clean path a

/-- The first fault that the traversal from a name meets. -/
inductive Meets : List α → α → Fault α → Prop where
  | missing {path a} : next a = none → Meets path a (.missing path a)
  | cycle {path a bs} : next a = some bs → a ∈ path → Meets path a (.cycle path a)
  | deeper {path a before b after fault} : next a = some (before ++ b :: after) → a ∉ path →
      (∀ c ∈ before, Clean next (path ++ [a]) c) → Meets (path ++ [a]) b fault → Meets path a fault

variable {next}

/-! ## Clean traversals -/

/-- What can be reached from a clean node is clean, on a path that extends the one it was reached
by. -/
theorem Clean.points {path : List α} {a b : α} (h : Clean next path a) (hab : Points next a b) :
    Clean next (path ++ [a]) b := by
  obtain ⟨bs, hBs, hb⟩ := hab
  cases h with
  | node hNext _ hBelow =>
      rw [hBs] at hNext
      cases hNext
      exact hBelow b hb

theorem Clean.reach {path : List α} {a b : α} (h : Clean next path a)
    (hab : Relation.TransGen (Points next) a b) : ∃ path', a ∈ path' ∧ Clean next path' b := by
  induction hab with
  | single hab => exact ⟨path ++ [a], by simp, h.points hab⟩
  | @tail b c _ hbc ih =>
      obtain ⟨path', hMem, hClean⟩ := ih
      exact ⟨path' ++ [b], by simp [hMem], hClean.points hbc⟩

theorem Clean.notMem {path : List α} {a : α} (h : Clean next path a) : a ∉ path := by
  cases h with
  | node _ hNot _ => exact hNot

theorem Clean.isSome {path : List α} {a : α} (h : Clean next path a) : next a ≠ none := by
  cases h with
  | node hNext _ _ => rw [hNext]; exact Option.some_ne_none _

/-- A clean traversal stays clean on a shorter path. -/
theorem Clean.mono {path path' : List α} {a : α} (h : Clean next path a) (hPath : path' ⊆ path) :
    Clean next path' a := by
  induction h generalizing path' with
  | @node path a bs hNext hNot _ ih =>
      refine .node hNext (fun hMem => hNot (hPath hMem)) (fun b hb => ih b hb ?_)
      exact List.append_subset.2 ⟨List.subset_append_of_subset_left _ hPath, by simp⟩

/-- No clean node lies on a cycle. -/
theorem Clean.not_cycle {path : List α} {a : α} (h : Clean next path a) :
    ¬ Relation.TransGen (Points next) a a := by
  intro hCycle
  obtain ⟨path', hMem, hClean⟩ := h.reach hCycle
  exact hClean.notMem hMem

/-- The nodes that the graph holds, apart from those on the path. -/
def fresh [DecidableEq α] (nodes path : List α) : ℕ := (nodes.filter (fun a => a ∉ path)).length

/-- Going on along a node that was not on the path uses one up. -/
theorem fresh_lt [DecidableEq α] {nodes path : List α} {a : α} (hNode : a ∈ nodes)
    (hPath : a ∉ path) :
    fresh nodes (path ++ [a]) < fresh nodes path := by
  have hFilter : nodes.filter (fun b => b ∉ path ++ [a])
      = (nodes.filter (fun b => b ∉ path)).filter (fun b => b ≠ a) := by
    rw [List.filter_filter]
    refine List.filter_congr (fun b _ => ?_)
    simp [and_comm]
  rw [fresh, fresh, hFilter]
  refine Nat.lt_of_le_of_ne (List.length_filter_le _ _) (fun hEq => ?_)
  have hAll :=
    List.length_filter_eq_length_iff.1 hEq a (List.mem_filter.2 ⟨hNode, by simpa using hPath⟩)
  simp at hAll

/-- A traversal is clean when nothing on its path is reached again and nothing missing or cyclic is
reached at all. -/
theorem clean_of_acyclic [DecidableEq α] {nodes : List α} (hNodes : ∀ a, next a ≠ none → a ∈ nodes)
    (path : List α) (a : α) (hPath : ∀ b ∈ path, Relation.TransGen (Points next) b a)
    (hReach : ∀ b, Relation.ReflTransGen (Points next) a b →
      next b ≠ none ∧ ¬ Relation.TransGen (Points next) b b) : Clean next path a := by
  obtain ⟨hSome, hAcyclic⟩ := hReach a .refl
  obtain ⟨bs, hBs⟩ := Option.ne_none_iff_exists'.1 hSome
  have hNot : a ∉ path := fun hMem => hAcyclic (hPath a hMem)
  refine .node hBs hNot (fun b hb => ?_)
  have hPoints : Points next a b := ⟨bs, hBs, hb⟩
  have := fresh_lt (hNodes a hSome) hNot
  refine clean_of_acyclic hNodes (path ++ [a]) b (fun c hc => ?_)
    (fun c hc => hReach c (.head hPoints hc))
  rcases List.mem_append.1 hc with hc | hc
  · exact (hPath c hc).tail hPoints
  · rw [List.mem_singleton.1 hc]
    exact .single hPoints
termination_by fresh nodes path

/-- A traversal from scratch is clean exactly when nothing missing and no cycle can be reached. -/
theorem clean_iff [DecidableEq α] {nodes : List α} (hNodes : ∀ a, next a ≠ none → a ∈ nodes)
    {a : α} :
    Clean next [] a ↔ ∀ b, Relation.ReflTransGen (Points next) a b →
      next b ≠ none ∧ ¬ Relation.TransGen (Points next) b b := by
  constructor
  · intro h b hab
    rcases Relation.reflTransGen_iff_eq_or_transGen.1 hab with rfl | hab
    · exact ⟨h.isSome, h.not_cycle⟩
    · obtain ⟨path', -, hClean⟩ := h.reach hab
      exact ⟨hClean.isSome, hClean.not_cycle⟩
  · exact clean_of_acyclic hNodes [] a (fun b hb => absurd hb List.not_mem_nil)

/-! ## Every traversal ends -/

/-- A list of names is clean, or has a first one that is not. -/
theorem forall_or_first {P Q : α → Prop} : ∀ bs : List α, (∀ b ∈ bs, P b ∨ Q b) →
    (∀ b ∈ bs, P b) ∨ ∃ before b after, bs = before ++ b :: after ∧ (∀ c ∈ before, P c) ∧ Q b
  | [], _ => .inl (fun _ h => absurd h List.not_mem_nil)
  | b :: bs, h => by
      obtain ⟨hb, hbs⟩ := List.forall_mem_cons.1 h
      rcases hb with hP | hQ
      · rcases forall_or_first bs hbs with hAll | ⟨before, c, after, rfl, hBefore, hc⟩
        · exact .inl (List.forall_mem_cons.2 ⟨hP, hAll⟩)
        · exact .inr ⟨b :: before, c, after, rfl, List.forall_mem_cons.2 ⟨hP, hBefore⟩, hc⟩
      · exact .inr ⟨[], b, bs, rfl, fun _ h => absurd h List.not_mem_nil, hQ⟩

/-- Over finitely many nodes a traversal is clean or meets a fault. -/
theorem clean_or_meets [DecidableEq α] {nodes : List α} (hNodes : ∀ a, next a ≠ none → a ∈ nodes)
    (path : List α) (a : α) : Clean next path a ∨ ∃ fault, Meets next path a fault := by
  cases hNext : next a with
  | none => exact .inr ⟨_, .missing hNext⟩
  | some bs =>
      by_cases hPath : a ∈ path
      · exact .inr ⟨_, .cycle hNext hPath⟩
      · have hNode := hNodes a (by rw [hNext]; exact Option.some_ne_none bs)
        have := fresh_lt hNode hPath
        have hBelow : ∀ b ∈ bs, Clean next (path ++ [a]) b ∨ ∃ fault, Meets next (path ++ [a]) b
          fault :=
          fun b _ => clean_or_meets hNodes (path ++ [a]) b
        rcases forall_or_first bs hBelow with hAll | ⟨before, b, after, rfl, hBefore, fault, hFault⟩
        · exact .inl (.node hNext hPath hAll)
        · exact .inr ⟨fault, .deeper hNext hPath hBefore hFault⟩
termination_by fresh nodes path

end DepthFirst
