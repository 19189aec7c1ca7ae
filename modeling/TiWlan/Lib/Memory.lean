import Mathlib.Data.List.Basic
import Mathlib.Tactic

/-!
# Buffers as functions

A memory of cells of type `α` is a function `ℕ → α`. `storeAt m off l` writes the
list `l` from offset `off` on and `loadAt m off n` reads `n` cells back. `memoryOf` is a block with
whatever lies behind it.

Results: reading back what was stored (`loadAt_storeAt_self`), reading around a
store (`loadAt_storeAt_below`, `loadAt_storeAt_above`) and reading a piece of what was
stored (`loadAt_storeAt_append`).
-/

namespace TiWlan.Lib

variable {α : Type*}

variable {i n off : ℕ}

/-- Write the cells of `l` from offset `off` on. -/
def storeAt (m : ℕ → α) (off : ℕ) (l : List α) : ℕ → α :=
  fun i => if off ≤ i then (l[i - off]?).getD (m i) else m i

/-- Read `n` cells from offset `off` on. -/
def loadAt (m : ℕ → α) (off n : ℕ) : List α := (List.range n).map fun i => m (off + i)

@[simp] theorem loadAt_length (m : ℕ → α) (off n : ℕ) : (loadAt m off n).length = n := by
  simp [loadAt]

theorem loadAt_congr {m m' : ℕ → α} (h : ∀ i < n, m (off + i) = m' (off + i)) :
    loadAt m off n = loadAt m' off n := by
  unfold loadAt
  apply List.map_congr_left
  intro i hi
  exact h i (List.mem_range.mp hi)

theorem loadAt_add (m : ℕ → α) (off a b : ℕ) :
    loadAt m off (a + b) = loadAt m off a ++ loadAt m (off + a) b := by
  simp [loadAt, List.range_add, Nat.add_assoc, Function.comp_def]

theorem storeAt_of_lt {m : ℕ → α} (l : List α) (h : i < off) : storeAt m off l i = m i := by
  rw [storeAt, if_neg (by omega)]

theorem storeAt_of_le {m : ℕ → α} (l : List α) (h : off + l.length ≤ i) :
    storeAt m off l i = m i := by
  rw [storeAt, if_pos (by omega), List.getElem?_eq_none (by omega), Option.getD_none]

theorem storeAt_nil (m : ℕ → α) (off : ℕ) : storeAt m off [] = m := by
  funext i
  simp [storeAt]

theorem storeAt_add {m : ℕ → α} {l : List α} (h : i < l.length) :
    storeAt m off l (off + i) = l[i] := by
  rw [storeAt, if_pos (by omega), Nat.add_sub_cancel_left, List.getElem?_eq_getElem h,
    Option.getD_some]

/-- Where a list is stored can be told from some memory. -/
theorem storeAt_off_inj [Nontrivial α] {l : List α} (hl : 0 < l.length) {off off' : ℕ}
    (h : ∀ m, storeAt m off l = storeAt m off' l) : off = off' := by
  obtain ⟨x, hx⟩ := exists_ne l[0]
  have hlt : ∀ {p q : ℕ}, p < q → storeAt (fun _ => x) p l ≠ storeAt (fun _ => x) q l := by
    intro p q hpq heq
    have hself : storeAt (fun _ => x) p l p = l[0] := storeAt_add hl
    rw [heq, storeAt_of_lt l hpq] at hself
    exact hx hself
  rcases Nat.lt_trichotomy off off' with hoff | hoff | hoff
  · exact absurd (h _) (hlt hoff)
  · exact hoff
  · exact absurd (h _).symm (hlt hoff)

theorem loadAt_storeAt_self (m : ℕ → α) (off : ℕ) (l : List α) :
    loadAt (storeAt m off l) off l.length = l := by
  apply List.ext_getElem (by simp)
  intro i hi hi'
  simp only [loadAt, List.getElem_map, List.getElem_range]
  exact storeAt_add hi'

theorem loadAt_storeAt_below {m : ℕ → α} {lo : ℕ} (l : List α) (h : lo + n ≤ off) :
    loadAt (storeAt m off l) lo n = loadAt m lo n :=
  loadAt_congr fun _ hi => storeAt_of_lt l (by omega)

theorem loadAt_storeAt_above {m : ℕ → α} {lo : ℕ} {l : List α} (h : off + l.length ≤ lo) :
    loadAt (storeAt m off l) lo n = loadAt m lo n :=
  loadAt_congr fun _ _ => storeAt_of_le l (by omega)

/-- Reading beside a store. -/
theorem loadAt_storeAt_apart {m : ℕ → α} {lo : ℕ} {l : List α}
    (h : lo + n ≤ off ∨ off + l.length ≤ lo) : loadAt (storeAt m off l) lo n = loadAt m lo n := by
  rcases h with h | h
  · exact loadAt_storeAt_below l h
  · exact loadAt_storeAt_above h

/-- Reading a middle piece of what was stored. -/
theorem loadAt_storeAt_append (m : ℕ → α) (off : ℕ) (l₁ l₂ l₃ : List α) :
    loadAt (storeAt m off (l₁ ++ l₂ ++ l₃)) (off + l₁.length) l₂.length = l₂ := by
  have h := loadAt_storeAt_self m off (l₁ ++ l₂ ++ l₃)
  rw [List.length_append, List.length_append, loadAt_add, loadAt_add] at h
  have h₁₂ := (List.append_inj h (by simp)).1
  exact (List.append_inj h₁₂ (by simp)).2

/-- Storing one cell. -/
theorem loadAt_storeAt_singleton {m : ℕ → α} (off i n : ℕ) (x : α) :
    loadAt (storeAt m (off + i) [x]) off n = (loadAt m off n).set i x := by
  apply List.ext_getElem (by simp)
  intro j hj hj'
  simp only [loadAt, List.getElem_map, List.getElem_range, List.getElem_set]
  by_cases hij : i = j
  · subst hij
    rw [if_pos rfl, show off + i = off + i + 0 from rfl]
    exact storeAt_add (by simp)
  · rw [if_neg hij]
    rcases Nat.lt_or_gt_of_ne hij with hlt | hlt
    · exact storeAt_of_le [x] (by simp; omega)
    · exact storeAt_of_lt [x] (by omega)

/-- Storing two lists one behind the other. -/
theorem storeAt_append (m : ℕ → α) (off : ℕ) (l₁ l₂ : List α) :
    storeAt (storeAt m off l₁) (off + l₁.length) l₂ = storeAt m off (l₁ ++ l₂) := by
  funext i
  unfold storeAt
  by_cases hlo : off ≤ i
  · by_cases hmid : off + l₁.length ≤ i
    · rw [if_pos hmid, if_pos hlo, if_pos hlo, List.getElem?_append_right (by omega),
        List.getElem?_eq_none (l := l₁) (by omega), Option.getD_none,
        show i - off - l₁.length = i - (off + l₁.length) by omega]
    · rw [if_neg hmid, if_pos hlo, if_pos hlo, List.getElem?_append_left (by omega)]
  · rw [if_neg (by omega), if_neg hlo, if_neg hlo]

theorem getD_loadAt {m : ℕ → α} (h : i < n) (x : α) : (loadAt m off n).getD i x = m (off + i) := by
  simp [loadAt, h]

/-! ## Several stores -/

/-- The stores of a list, each an offset and what is stored there. -/
def storeAll (m : ℕ → α) (ws : List (ℕ × List α)) : ℕ → α :=
  ws.foldl (fun m w => storeAt m w.1 w.2) m

/-- The cells of a store. -/
def Covers (w : ℕ × List α) (i : ℕ) : Prop := w.1 ≤ i ∧ i < w.1 + w.2.length

theorem storeAt_of_not_covers {m : ℕ → α} {w : ℕ × List α} (h : ¬Covers w i) :
    storeAt m w.1 w.2 i = m i := by
  by_cases hlo : w.1 ≤ i
  · exact storeAt_of_le w.2 (by unfold Covers at h; omega)
  · exact storeAt_of_lt w.2 (by omega)

theorem storeAt_of_covers {m : ℕ → α} {w : ℕ × List α} {x : α} (h : Covers w i)
    (hx : w.2[i - w.1]? = some x) : storeAt m w.1 w.2 i = x := by
  rw [storeAt, if_pos h.1, hx, Option.getD_some]

theorem storeAll_of_not_covers {m : ℕ → α} {ws : List (ℕ × List α)} (h : ∀ w ∈ ws, ¬Covers w i) :
    storeAll m ws i = m i := by
  induction ws generalizing m with
  | nil => rfl
  | cons w ws ih =>
    have hrest := ih (m := storeAt m w.1 w.2) fun w' hw' => h w' (List.mem_cons_of_mem _ hw')
    exact hrest.trans (storeAt_of_not_covers (h w (List.mem_cons_self ..)))

/-- What is stored does not depend on what was there before. -/
theorem storeAll_congr {m m' : ℕ → α} {ws : List (ℕ × List α)}
    (h : (∃ w ∈ ws, Covers w i) ∨ m i = m' i) : storeAll m ws i = storeAll m' ws i := by
  induction ws generalizing m m' with
  | nil =>
    rcases h with ⟨w, hw, -⟩ | h
    · simp at hw
    · exact h
  | cons w ws ih =>
    refine ih ?_
    by_cases hw : Covers w i
    · have hi : i - w.1 < w.2.length := by
        unfold Covers at hw
        omega
      have hx := List.getElem?_eq_getElem hi
      exact Or.inr ((storeAt_of_covers hw hx).trans (storeAt_of_covers hw hx).symm)
    · rcases h with ⟨w', hw', hc⟩ | h
      · rcases List.mem_cons.mp hw' with rfl | hw'
        · exact absurd hc hw
        · exact Or.inl ⟨w', hw', hc⟩
      · exact Or.inr ((storeAt_of_not_covers hw).trans (h.trans (storeAt_of_not_covers hw).symm))

/-- Stores that copy from `m'`. -/
theorem storeAll_copy {m m' : ℕ → α} {ws : List (ℕ × List α)}
    (hcopy : ∀ w ∈ ws, w.2 = loadAt m' w.1 w.2.length) (h : ∃ w ∈ ws, Covers w i) :
    storeAll m ws i = m' i := by
  have hself : storeAll m' ws i = m' i := by
    clear h
    induction ws with
    | nil => rfl
    | cons w ws ih =>
      have hid : storeAt m' w.1 w.2 = m' := by
        funext k
        by_cases hk : Covers w k
        · refine storeAt_of_covers hk ?_
          obtain ⟨hlo, hhi⟩ := hk
          rw [hcopy w (List.mem_cons_self ..), loadAt, List.getElem?_map,
            List.getElem?_range (by omega), Option.map_some, show w.1 + (k - w.1) = k by omega]
        · exact storeAt_of_not_covers hk
      show storeAll (storeAt m' w.1 w.2) ws i = m' i
      rw [hid]
      exact ih fun w' hw' => hcopy w' (List.mem_cons_of_mem _ hw')
  rw [← hself]
  exact storeAll_congr (Or.inl h)

/-! ## Blocks -/

/-- The memory from the start of a block on: the block, and what lies behind it. -/
def memoryOf (block : List α) (behind : ℕ → α) (i : ℕ) : α :=
  block.getD i (behind (i - block.length))

theorem memoryOf_of_lt {block : List α} (h : i < block.length) (behind : ℕ → α) :
    memoryOf block behind i = block[i] := by
  simp [memoryOf, h]

end TiWlan.Lib
