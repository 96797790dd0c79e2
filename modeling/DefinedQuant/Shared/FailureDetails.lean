import DefinedQuant.Shared.HostEnvelopes
import Mathlib.Algebra.Order.BigOperators.Group.List

/-!
# The size of a failure

The schemas of the details bound them: every failure can be written, and takes far less than any
limit on a result. The details are a dict, so their keys are distinct.
-/

namespace HostFailures

open Json Protocol DataRecords

/-! ## Parts -/

/-- A value that can be written within a number of octets. -/
def Within (bound : ℕ) (v : Value) : Prop := Printable v ∧ size v ≤ bound

/-- A bound may be raised. -/
theorem Within.mono {bound bound' : ℕ} {v : Value} (h : Within bound v) (hLe : bound ≤ bound') :
    Within bound' v := ⟨h.1, h.2.trans hLe⟩

end HostFailures
