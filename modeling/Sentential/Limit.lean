/-
# Sentential.Limit -- bounds that a caller sets

A limit is a whole number of either sign, or blank: it was asked for and left without a number.
Nothing can be compared with a blank limit, so that a check against one ends in a fault whatever
the count, also where a number would have let it pass.
-/
import Sentential.Fault

namespace Sentential

/-- A bound on a count. -/
inductive Limit where
  | whole (value : Int)
  | blank
  deriving DecidableEq, Repr

namespace Limit

instance : Coe Int Limit := ⟨whole⟩

/-- Lets a count pass unless it is above the limit, for which `excess` is the fault. -/
def check (count : Nat) (excess : Int → Fault) : Limit → Except Fault Unit
  | whole value => if value < count then .error (excess value) else .ok ()
  | blank => .error .blankLimit

theorem check_eq_ok_iff {limit : Limit} {count : Nat} {excess : Int → Fault} :
    limit.check count excess = .ok () ↔ ∃ value : Int, limit = whole value ∧ count ≤ value := by
  cases limit with
  | whole value => simp [check]
  | blank => simp [check]

/-- A check fails with the fault for an excess over the limit, or because the limit is blank. -/
theorem check_eq_error {limit : Limit} {count : Nat} {excess : Int → Fault} {fault : Fault}
    (h : limit.check count excess = .error fault) :
    fault = .blankLimit ∨ ∃ value, fault = excess value := by
  cases limit with
  | whole value =>
      rw [check] at h
      split at h
      · exact .inr ⟨value, (Except.error.inj h).symm⟩
      · exact absurd h (by simp)
  | blank => exact .inl (Except.error.inj h).symm

end Limit

end Sentential
