import DefinedQuant.Lib.Text

/-!
# Sources of octets

A source hands out what it still holds in pieces of its own choosing: a request for at most `n`
octets returns some of the next ones, and nothing only at the end. What a reader makes of a source
must not depend on that choice, so the laws say how a piece relates to the content and nothing about
its length beyond the bounds.
-/

/-- Something that can be read piece by piece, such as a pipe. -/
structure ByteSource (σ : Type) where
  /-- The content not handed out yet. -/
  rest : σ → Bytes
  read : ℕ → σ → Bytes × σ
  read_append_rest : ∀ n s, (read n s).1 ++ rest (read n s).2 = rest s
  length_read_le : ∀ n s, (read n s).1.length ≤ n
  read_ne_nil : ∀ n s, 0 < n → rest s ≠ [] → (read n s).1 ≠ []

namespace ByteSource

variable {σ : Type} (source : ByteSource σ)

/-- An empty piece is the end of the content, and the source stays there. -/
theorem rest_of_read_eq_nil {n : ℕ} {s : σ} (hn : 0 < n) (h : (source.read n s).1 = []) :
    source.rest s = [] ∧ source.rest (source.read n s).2 = [] := by
  have hEnd : source.rest s = [] := by
    by_contra hMore
    exact source.read_ne_nil n s hn hMore h
  have hSplit := source.read_append_rest n s
  rw [h, hEnd, List.nil_append] at hSplit
  exact ⟨hEnd, hSplit⟩

/-- The source that hands out as much as it is asked for. -/
def greedy : ByteSource Bytes where
  rest := id
  read n bytes := (bytes.take n, bytes.drop n)
  read_append_rest n bytes := List.take_append_drop n bytes
  length_read_le n bytes := List.length_take_le n bytes
  read_ne_nil n bytes hn hMore := by
    rw [Ne, List.take_eq_nil_iff, not_or]
    exact ⟨hn.ne', hMore⟩

end ByteSource
