import Mathlib.Tactic

/-!
# Status codes

A C function that returns 0, a positive number or a negative error code, beside the state it
leaves: `ℤ × σ`. `proceed` is the idiom `if (ret < 0) goto out;`: the rest runs unless the code is
negative.

`Extends` and `Logged` are about states with a log that only grows. `Extends` says what every run
adds to it, and `Logged` what a run adds that does not fail. Both have a rule for `proceed`.
-/

namespace TiWlan.Lib

variable {σ ε : Type}

/-- The rest `k` runs unless the code is negative. -/
def proceed (r : ℤ × σ) (k : σ → ℤ × σ) : ℤ × σ := if r.1 < 0 then r else k r.2

section
variable {r : ℤ × σ} {k : σ → ℤ × σ}

theorem proceed_of_neg (h : r.1 < 0) : proceed r k = r := if_pos h

theorem proceed_of_nonneg (h : 0 ≤ r.1) : proceed r k = k r.2 := if_neg (by omega)

/-- A sequence that does not fail runs both of its parts. -/
theorem nonneg_of_proceed (h : 0 ≤ (proceed r k).1) : 0 ≤ r.1 ∧ proceed r k = k r.2 := by
  by_cases hneg : r.1 < 0
  · rw [proceed_of_neg hneg] at h
    omega
  · exact ⟨by omega, proceed_of_nonneg (by omega)⟩

end

/-! ## Logs -/

/-- The log has grown by events with the property `P`. -/
def Extends (log : σ → List ε) (P : ε → Prop) (s s' : σ) : Prop :=
  ∃ evs, log s' = log s ++ evs ∧ ∀ e ∈ evs, P e

namespace Extends

variable {log : σ → List ε} {P : ε → Prop} {s s' s'' : σ}

theorem refl (s : σ) : Extends log P s s := ⟨[], by simp, by simp⟩

theorem of_log_eq (h : log s' = log s) : Extends log P s s' := ⟨[], by simp [h], by simp⟩

theorem of_log_append {e : ε} (h : log s' = log s ++ [e]) (he : P e) : Extends log P s s' :=
  ⟨[e], h, by simpa using he⟩

theorem trans (h : Extends log P s s') (h' : Extends log P s' s'') : Extends log P s s'' := by
  obtain ⟨evs, hlog, hall⟩ := h
  obtain ⟨evs', hlog', hall'⟩ := h'
  refine ⟨evs ++ evs', by rw [hlog', hlog, List.append_assoc], fun e he => ?_⟩
  exact (List.mem_append.mp he).elim (hall e) (hall' e)

theorem mem_of_mem (h : Extends log P s s') {e : ε} (he : e ∈ log s) : e ∈ log s' := by
  obtain ⟨evs, hlog, -⟩ := h
  rw [hlog]
  exact List.mem_append_left _ he

theorem proceed {r : ℤ × σ} {k : σ → ℤ × σ} (h : Extends log P s r.2)
    (hk : ∀ s', Extends log P s' (k s').2) : Extends log P s (Lib.proceed r k).2 := by
  by_cases hneg : r.1 < 0
  · rwa [proceed_of_neg hneg]
  · rw [proceed_of_nonneg (by omega)]
    exact h.trans (hk r.2)

end Extends

/-- A run from `s` that does not fail adds `evs` to the log and leaves a state with `Q`. -/
def Logged (log : σ → List ε) (s : σ) (r : ℤ × σ) (evs : List ε) (Q : σ → Prop) : Prop :=
  0 ≤ r.1 → log r.2 = log s ++ evs ∧ Q r.2

theorem Logged.proceed {log : σ → List ε} {s : σ} {r : ℤ × σ} {k : σ → ℤ × σ}
    {evs evs' : List ε} {Q Q' : σ → Prop} (h : Logged log s r evs Q)
    (hk : ∀ s', Q s' → Logged log s' (k s') evs' Q') :
    Logged log s (Lib.proceed r k) (evs ++ evs') Q' := by
  intro hnonneg
  obtain ⟨hr, heq⟩ := nonneg_of_proceed hnonneg
  rw [heq] at hnonneg ⊢
  obtain ⟨hlog, hq⟩ := h hr
  obtain ⟨hlog', hq'⟩ := hk r.2 hq hnonneg
  exact ⟨by rw [hlog', hlog, List.append_assoc], hq'⟩

end TiWlan.Lib
