import Mathlib.Algebra.BigOperators.Group.List.Basic
import Mathlib.Algebra.Order.Field.Rat
import SceneCompiler.Timing

/-!
# Exact costs

In double precision sums of costs are rounded, so little can be said of them beyond how they are
formed. Over exact numbers the same search can be compared with the sums that it stands for. The
rational numbers are such a kind of cost: there is neither an infinity nor a value that is no number,
and the total order is the order of numbers.
-/

namespace SceneCompiler

namespace CostScale

instance exact : CostScale ℚ where
  toZero := inferInstance
  toAdd := inferInstance
  toSub := inferInstance
  toMul := inferInstance
  ofNat n := n
  less a b := decide (a < b)
  atMost a b := decide (a ≤ b)
  compare a b := Ord.compare a b
  least := min
  greatest := max
  isFinite _ := true

variable {a b : ℚ}

@[simp] theorem less_exact : less a b = true ↔ a < b := decide_eq_true_iff

theorem less_exact_eq_false : less a b = false ↔ b ≤ a := decide_eq_false_iff_not.trans not_lt

@[simp] theorem atMost_exact : atMost a b = true ↔ a ≤ b := decide_eq_true_iff

theorem isLE_compare_exact : (CostScale.compare a b).isLE = true ↔ a ≤ b :=
  (Std.LawfulBCmp.isLE_iff_le : (Ord.compare a b).isLE = true ↔ a ≤ b)

theorem sum_exact (costs : List ℚ) : sum costs = costs.sum := by
  cases costs with
  | nil => rfl
  | cons first rest =>
    rw [List.sum_eq_foldl, List.foldl_cons, zero_add]
    rfl

end CostScale

/-- A list of commands costs the sum of what they cost. -/
theorem Timing.total_exact (timing : Timing ℚ) (commands : List Command) :
    timing.total commands = (commands.map timing.cost).sum := by
  rw [List.sum_eq_foldl, List.foldl_map]
  rfl

end SceneCompiler
