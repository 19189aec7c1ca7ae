import Mathlib.Algebra.BigOperators.Group.Finset.Basic
import Mathlib.Algebra.Order.BigOperators.Group.Finset
import Mathlib.Data.Fintype.BigOperators
import Mathlib.Tactic.Abel

/-!
# Tallies over a finite index

Sums `∑ i, f (g i)` over the cells of a table `g`, and how they change when one cell is
written.

Results: `update_update_apply` for a table with two indices, `sum_update_add`, its two-dimensional form `sum_sum_update_add`, and
`sum_eq_one_single_place` for tallies of a single item.
-/

namespace TiWlan.Lib

open Function (update)

/-- One cell of a table with two indices is written. -/
theorem update_update_apply {ι κ β : Type*} [DecidableEq ι] [DecidableEq κ] (g : ι → κ → β) (a : ι)
    (k : κ) (b : β) (i : ι) (j : κ) :
    update g a (update (g a) k b) i j = if i = a ∧ j = k then b else g i j := by
  by_cases hi : i = a
  · subst hi
    by_cases hj : j = k
    · simp [hj]
    · simp [hj]
  · simp [hi]

variable {ι κ β M : Type*} [Fintype ι] [DecidableEq ι] [Fintype κ] [DecidableEq κ]

/-- Writing one cell exchanges its contribution. -/
theorem sum_update_add [AddCommMonoid M] (g : ι → β) (a : ι) (b : β) (f : β → M) :
    ∑ i, f (update g a b i) + f (g a) = ∑ i, f (g i) + f b := by
  rw [← Finset.add_sum_erase Finset.univ _ (Finset.mem_univ a),
    ← Finset.add_sum_erase Finset.univ (fun i => f (g i)) (Finset.mem_univ a)]
  have hrest : ∑ i ∈ Finset.univ.erase a, f (update g a b i) =
      ∑ i ∈ Finset.univ.erase a, f (g i) := by
    refine Finset.sum_congr rfl fun i hi => ?_
    rw [Function.update_of_ne (Finset.ne_of_mem_erase hi)]
  rw [hrest, Function.update_self]
  abel

/-- The same for a cell of a two-dimensional table. -/
theorem sum_sum_update_add [AddCommMonoid M] [IsRightCancelAdd M] (g : ι → κ → β) (a : ι) (k : κ)
    (b : β) (f : β → M) :
    ∑ i, ∑ j, f (update g a (update (g a) k b) i j) + f (g a k) =
      ∑ i, ∑ j, f (g i j) + f b := by
  have hrow := sum_update_add g a (update (g a) k b) fun row => ∑ j, f (row j)
  have hcell := sum_update_add (g a) k b f
  refine add_right_cancel (b := ∑ j, f (g a j)) ?_
  calc ∑ i, ∑ j, f (update g a (update (g a) k b) i j) + f (g a k) + ∑ j, f (g a j)
      = (∑ i, ∑ j, f (update g a (update (g a) k b) i j) + ∑ j, f (g a j)) + f (g a k) := by abel
    _ = (∑ i, ∑ j, f (g i j) + ∑ j, f (update (g a) k b j)) + f (g a k) := by rw [hrow]
    _ = ∑ i, ∑ j, f (g i j) + (∑ j, f (update (g a) k b j) + f (g a k)) := by abel
    _ = ∑ i, ∑ j, f (g i j) + (∑ j, f (g a j) + f b) := by rw [hcell]
    _ = ∑ i, ∑ j, f (g i j) + f b + ∑ j, f (g a j) := by abel

omit [DecidableEq ι] in
/-- A tally of one is one in exactly one place. -/
theorem sum_eq_one_single_place {f : ι → ℕ} (h : ∑ i, f i = 1) :
    ∃ i, f i = 1 ∧ ∀ j, j ≠ i → f j = 0 := by
  classical
  obtain ⟨i, -, hi⟩ := Finset.exists_ne_zero_of_sum_ne_zero (h ▸ one_ne_zero)
  rw [← Finset.add_sum_erase Finset.univ _ (Finset.mem_univ i)] at h
  have hone : f i = 1 := by omega
  refine ⟨i, hone, fun j hj => ?_⟩
  have hrest : ∑ k ∈ Finset.univ.erase i, f k = 0 := by omega
  exact Finset.sum_eq_zero_iff.mp hrest j (Finset.mem_erase.mpr ⟨hj, Finset.mem_univ j⟩)

end TiWlan.Lib
