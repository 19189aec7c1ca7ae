import Mathlib.Algebra.GroupWithZero.Nat
import Mathlib.Algebra.Order.BigOperators.Group.List
import Mathlib.Algebra.Order.Group.Nat
import Mathlib.Data.List.Nodup
import Mathlib.Logic.Function.Basic

/-!
# Who holds what

Resources `α` are taken one at a time and kept by holders, each of which names the ones it
keeps in a record `β`. `held b a` says how often the record `b` names the resource `a`, and
`base a` how often `a` is in use for good. A map `taken` of the resources in use is *exact* for a
list of holders if it says of every resource that it is named once when it is taken and not
at all when it is not.

Results: exactness makes the holders disjoint (`Exact.eq_of_held`) and their names distinct
(`Exact.held_le_one`), and it is kept when one holder and the map change together
(`Exact.update`), when a holder joins (`Exact.cons`) or leaves (`Exact.erase`).
-/

namespace TiWlan.Lib

open Function (update)

variable {α β ι : Type*}

/-- Every resource is named once if it is taken, and not at all otherwise. -/
def Exact (base : α → ℕ) (held : β → α → ℕ) (taken : α → Bool) (f : ι → β) (l : List ι) : Prop :=
  ∀ a, base a + (l.map fun i => held (f i) a).sum = (taken a).toNat

section
variable {base : α → ℕ} {held : β → α → ℕ} {taken taken' : α → Bool} {f : ι → β} {l : List ι}
variable {i j : ι} {a : α} {b : β}

theorem Exact.nil (h : ∀ a, base a = (taken a).toNat) : Exact base held taken f [] :=
  fun a => by simpa using h a

/-- A resource that somebody names is taken, and named once. -/
theorem Exact.held_le (h : Exact base held taken f l) (hi : i ∈ l) (a : α) :
    held (f i) a ≤ (taken a).toNat := by
  have hle : held (f i) a ≤ (l.map fun i => held (f i) a).sum :=
    List.le_sum_of_mem (List.mem_map.mpr ⟨_, hi, rfl⟩)
  have := h a
  omega

theorem Exact.held_le_one (h : Exact base held taken f l) (hi : i ∈ l) (a : α) :
    held (f i) a ≤ 1 :=
  (h.held_le hi a).trans (Bool.toNat_le _)

theorem Exact.taken_of_held (h : Exact base held taken f l) (hi : i ∈ l)
    (ha : 0 < held (f i) a) : taken a = true := by
  have hle := h.held_le hi a
  cases hta : taken a with
  | true => rfl
  | false =>
    rw [hta, Bool.toNat_false] at hle
    omega

/-- A resource that is in use for good is taken. -/
theorem Exact.taken_of_base (h : Exact base held taken f l) (ha : 0 < base a) :
    taken a = true := by
  have hle := h a
  cases hta : taken a with
  | true => rfl
  | false =>
    rw [hta, Bool.toNat_false] at hle
    omega

/-- A holder leaves; what it named is free again. -/
theorem Exact.erase [DecidableEq ι] (h : Exact base held taken f l) (hi : i ∈ l)
    (hfree : ∀ a, held (f i) a + (taken' a).toNat = (taken a).toNat) :
    Exact base held taken' f (l.erase i) := by
  intro a
  have hsum := List.sum_map_erase (fun i => held (f i) a) hi
  have hall := h a
  have hout := hfree a
  omega

/-- Two holders that name the same resource are one. -/
theorem Exact.eq_of_held [DecidableEq ι] (h : Exact base held taken f l) (hi : i ∈ l) (hj : j ∈ l)
    (hai : 0 < held (f i) a) (haj : 0 < held (f j) a) : i = j := by
  by_contra hij
  have hsum := List.sum_map_erase (fun i => held (f i) a) hi
  have hj' : j ∈ l.erase i := (List.mem_erase_of_ne (Ne.symm hij)).mpr hj
  have hle : held (f j) a ≤ ((l.erase i).map fun i => held (f i) a).sum :=
    List.le_sum_of_mem (List.mem_map.mpr ⟨_, hj', rfl⟩)
  have hall := h a
  have hone := Bool.toNat_le (taken a)
  omega

/-- A holder joins and names what was free. -/
theorem Exact.cons (h : Exact base held taken f l)
    (htake : ∀ a, held (f i) a + (taken a).toNat = (taken' a).toNat) :
    Exact base held taken' f (i :: l) := by
  intro a
  have hall := h a
  have hin := htake a
  simp only [List.map_cons, List.sum_cons]
  omega

/-- One holder and the map change together. -/
theorem Exact.update [DecidableEq ι] (h : Exact base held taken f l) (hl : l.Nodup) (hi : i ∈ l)
    (hchange : ∀ a, held b a + (taken a).toNat = held (f i) a + (taken' a).toNat) :
    Exact base held taken' (update f i b) l := by
  have hout : i ∉ l.erase i := fun hmem => (hl.mem_erase_iff.mp hmem).1 rfl
  intro a
  have hsum := List.sum_map_erase (fun i => held (f i) a) hi
  have hsum' := List.sum_map_erase (fun j => held (Function.update f i b j) a) hi
  have hrest : ((l.erase i).map fun j => held (Function.update f i b j) a) =
      (l.erase i).map fun j => held (f j) a :=
    List.map_congr_left fun j hj => by
      rw [Function.update_of_ne]
      rintro rfl
      exact hout hj
  simp only [hrest, Function.update_self] at hsum'
  have hall := h a
  have hin := hchange a
  omega

/-- The records change without changing what they name. -/
theorem Exact.congr {g : ι → β} (h : Exact base held taken f l)
    (hg : ∀ i ∈ l, ∀ a, held (g i) a = held (f i) a) : Exact base held taken g l := by
  intro a
  have hmap : (l.map fun i => held (g i) a) = l.map fun i => held (f i) a :=
    List.map_congr_left fun i hi => hg i hi a
  rw [hmap]
  exact h a

end

end TiWlan.Lib
