import Mathlib.Tactic

/-!
# Rings

A writer stores its entries one after the other into the `n` slots of a ring, the `k`-th of
them into slot `(c + k) % n`. `RingHolds` says that the last `n` entries written are in their
slots, `ringRead` walks over the slots as a reader does. A reader that is at most `n` entries
behind reads what was written since (`RingHolds.read`).
-/

namespace TiWlan.Lib

variable {α : Type*} {n c : ℕ} {slots : ℕ → α} {written : List α}

/-- The last `n` entries of `written` are in their slots. -/
def RingHolds (n c : ℕ) (slots : ℕ → α) (written : List α) : Prop :=
  ∀ k < written.length, written.length ≤ k + n → written[k]? = some (slots ((c + k) % n))

/-- `m` slots from slot `i % n` on. -/
def ringRead (n : ℕ) (slots : ℕ → α) (i m : ℕ) : List α :=
  (List.range m).map fun j => slots ((i + j) % n)

theorem RingHolds.nil : RingHolds n c slots [] := by
  intro k hk
  simp at hk

theorem add_mod_ne {a b : ℕ} (hab : a < b) (hba : b < a + n) : (c + a) % n ≠ (c + b) % n := by
  intro heq
  have hdvd : n ∣ (c + b) - (c + a) := (Nat.modEq_iff_dvd' (by omega)).mp heq
  have hle := Nat.le_of_dvd (by omega) hdvd
  omega

theorem RingHolds.write (h : RingHolds n c slots written) (x : α) :
    RingHolds n c (Function.update slots ((c + written.length) % n) x) (written ++ [x]) := by
  intro k hk hn
  rw [List.length_append, List.length_singleton] at hk hn
  by_cases hlast : k = written.length
  · subst hlast
    simp
  · have hk' : k < written.length := by omega
    have hslot : (c + k) % n ≠ (c + written.length) % n := add_mod_ne hk' (by omega)
    rw [List.getElem?_append_left hk', Function.update_of_ne hslot]
    exact h k hk' (by omega)

theorem ringRead_succ (slots : ℕ → α) (i m : ℕ) :
    ringRead n slots i (m + 1) = slots (i % n) :: ringRead n slots (i + 1) m := by
  simp only [ringRead, List.range_succ_eq_map, List.map_cons, List.map_map, Nat.add_zero]
  congr 2
  funext j
  simp [Nat.add_assoc, Nat.add_comm 1 j]

theorem ringRead_mod (slots : ℕ → α) (i m : ℕ) :
    ringRead n slots (i % n) m = ringRead n slots i m := by
  simp [ringRead, Nat.add_mod]

/-- A reader at position `p` that is at most `n` entries behind reads what was written since. -/
theorem RingHolds.read (h : RingHolds n c slots written) {p : ℕ} (hp : written.length ≤ p + n) :
    ringRead n slots (c + p) (written.length - p) = written.drop p := by
  apply List.ext_getElem?
  intro j
  unfold ringRead
  by_cases hj : j < written.length - p
  · have hk := h (p + j) (by omega) (by omega)
    rw [List.getElem?_drop, hk, List.getElem?_map, List.getElem?_range hj, Option.map_some,
      Nat.add_assoc]
  · rw [List.getElem?_eq_none (by simpa using hj), List.getElem?_eq_none (by simp; omega)]

/-- The distance of two positions on the ring, as the difference of their slots. -/
theorem ring_distance (hn : 0 < n) {p q : ℕ} (hpq : p ≤ q) (hq : q < p + n) :
    ((c + q) % n + n - (c + p) % n) % n = q - p := by
  have hp : (c + p) % n < n := Nat.mod_lt _ hn
  obtain ⟨d, rfl⟩ := Nat.exists_eq_add_of_le hpq
  have hd : d < n := by omega
  have hsplit : (c + (p + d)) % n = ((c + p) % n + d) % n := by
    rw [← Nat.add_assoc, Nat.add_mod (c + p) d n, Nat.mod_eq_of_lt hd]
  rw [hsplit, Nat.add_sub_cancel_left]
  generalize (c + p) % n = r at hp
  by_cases hwrap : r + d < n
  · rw [Nat.mod_eq_of_lt hwrap, show r + d + n - r = d + n by omega, Nat.add_mod_right,
      Nat.mod_eq_of_lt hd]
  · have hmod : (r + d) % n = r + d - n := by
      rw [Nat.mod_eq_sub_mod (by omega), Nat.mod_eq_of_lt (by omega)]
    rw [hmod, show r + d - n + n - r = d by omega, Nat.mod_eq_of_lt hd]

end TiWlan.Lib
