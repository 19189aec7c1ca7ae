import Mathlib.Data.List.Basic
import Mathlib.Logic.Function.Iterate

/-!
# Runs of a deterministic system

A system is a total function `step : σ → α → σ` on a state type `σ` and an
operation type `α`; whatever the environment decides (results of commands,
interleaved arrivals, contents of a status block) is part of the operation.

* `run step s ops` performs the operations in order.
* `Along step P s ops` says that `P` holds of every operation of the run, at the
  state in which the operation is performed. It states both what a run is
  assumed to do and what it is shown to do.
* `observe step obs s ops` collects what `obs` sees of every operation.

Results: the loop rule `foldl_rel`, the invariant rules `run_induction_mem`, `Along.induction` and
`observe_induction`, the transfer rules `Along.of_inv`, `Along.congr_of_inv` and `forall_take_iff_along`, and how runs
split (`Along.append_iff`, `Along.take`).
-/

namespace TiWlan.Lib

variable {σ α : Type*}

/-- The state after performing `ops` in order from `s`. -/
def run (step : σ → α → σ) (s : σ) (ops : List α) : σ := ops.foldl step s

@[simp] theorem run_nil (step : σ → α → σ) (s : σ) : run step s [] = s := rfl

@[simp] theorem run_cons (step : σ → α → σ) (s : σ) (a : α) (ops : List α) :
    run step s (a :: ops) = run step (step s a) ops := rfl

theorem run_append (step : σ → α → σ) (s : σ) (ops ops' : List α) :
    run step s (ops ++ ops') = run step (run step s ops) ops' :=
  List.foldl_append

/-- `P` holds of every operation of the run, at the state it starts in. -/
def Along (step : σ → α → σ) (P : σ → α → Prop) : σ → List α → Prop
  | _, [] => True
  | s, a :: ops => P s a ∧ Along step P (step s a) ops

instance Along.decidable (step : σ → α → σ) (P : σ → α → Prop) [∀ s a, Decidable (P s a)] :
    ∀ s ops, Decidable (Along step P s ops)
  | _, [] => isTrue trivial
  | s, a :: ops =>
    have := Along.decidable step P (step s a) ops
    inferInstanceAs (Decidable (P s a ∧ Along step P (step s a) ops))

section
variable {step : σ → α → σ} {P Q : σ → α → Prop} {Inv : σ → Prop}

@[simp] theorem Along.nil (s : σ) : Along step P s [] := trivial

theorem Along.cons_iff {s : σ} {a : α} {ops : List α} :
    Along step P s (a :: ops) ↔ P s a ∧ Along step P (step s a) ops := Iff.rfl

theorem Along.append_iff {s : σ} {ops ops' : List α} :
    Along step P s (ops ++ ops') ↔
      Along step P s ops ∧ Along step P (run step s ops) ops' := by
  induction ops generalizing s with
  | nil => simp
  | cons a ops ih => simp only [List.cons_append, Along.cons_iff, ih, run_cons, and_assoc]

theorem Along.take {s : σ} {ops : List α} (h : Along step P s ops) (n : ℕ) :
    Along step P s (ops.take n) := by
  rw [← List.take_append_drop n ops] at h
  exact (Along.append_iff.mp h).1

theorem Along.and {s : σ} {ops : List α} (h : Along step P s ops) (h' : Along step Q s ops) :
    Along step (fun s a => P s a ∧ Q s a) s ops := by
  induction ops generalizing s with
  | nil => trivial
  | cons a ops ih => exact ⟨⟨h.1, h'.1⟩, ih h.2 h'.2⟩

theorem Along.of_forall (h : ∀ s a, P s a) (s : σ) (ops : List α) : Along step P s ops := by
  induction ops generalizing s with
  | nil => trivial
  | cons a ops ih => exact ⟨h s a, ih (step s a)⟩

/-- A loop keeps what each of its passes keeps, in the sense of a reflexive and transitive `R`. -/
theorem foldl_rel {R : σ → σ → Prop} (hrefl : ∀ s, R s s)
    (htrans : ∀ {s s' s''}, R s s' → R s' s'' → R s s'') {f : σ → α → σ} {l : List α}
    (hf : ∀ s, ∀ a ∈ l, R s (f s a)) (s : σ) : R s (l.foldl f s) := by
  induction l generalizing s with
  | nil => exact hrefl s
  | cons a l ih =>
    exact htrans (hf s a (by simp)) (ih (fun s b hb => hf s b (by simp [hb])) (f s a))

/-- What the operations of a run keep holds at its end. -/
theorem run_induction_mem {ops : List α} (hstep : ∀ s, ∀ a ∈ ops, Inv s → Inv (step s a)) {s : σ}
    (hs : Inv s) : Inv (run step s ops) := by
  induction ops generalizing s with
  | nil => exact hs
  | cons a ops ih =>
    exact ih (fun s b hb => hstep s b (by simp [hb])) (hstep s a (by simp) hs)

/-- The same when only operations that meet `P` keep the invariant. -/
theorem Along.induction (hstep : ∀ s a, Inv s → P s a → Inv (step s a)) {s : σ} (hs : Inv s)
    {ops : List α} (h : Along step P s ops) : Inv (run step s ops) := by
  induction ops generalizing s with
  | nil => exact hs
  | cons a ops ih => exact ih (hstep s a hs h.1) h.2

/-- What the invariant implies of one operation holds of every operation of the run. -/
theorem Along.of_inv (hstep : ∀ s a, Inv s → P s a → Inv (step s a))
    (hQ : ∀ s a, Inv s → P s a → Q s a) {s : σ} (hs : Inv s) {ops : List α}
    (h : Along step P s ops) : Along step Q s ops := by
  induction ops generalizing s with
  | nil => trivial
  | cons a ops ih => exact ⟨hQ s a hs h.1, ih (hstep s a hs h.1) h.2⟩

/-- If an operation of a good state keeps it good exactly when it meets `Q`, then all states
of a run are good exactly when all its operations meet `Q`. -/
theorem forall_take_iff_along {Good : σ → Prop} (hstep : ∀ s a, Inv s → P s a → Inv (step s a))
    (hgood : ∀ s a, Inv s → P s a → Good s → (Good (step s a) ↔ Q s a)) {s : σ} (hs : Inv s)
    (hg : Good s) {ops : List α} (h : Along step P s ops) :
    (∀ n, Good (run step s (ops.take n))) ↔ Along step Q s ops := by
  induction ops generalizing s with
  | nil => simp [hg]
  | cons a ops ih =>
    have hstep' := hstep s a hs h.1
    constructor
    · intro hall
      have hgood' : Good (step s a) := by simpa using hall 1
      have hq := (hgood s a hs h.1 hg).mp hgood'
      exact ⟨hq, (ih hstep' hgood' h.2).mp fun n => by simpa using hall (n + 1)⟩
    · rintro ⟨hq, hrest⟩ n
      have hgood' := (hgood s a hs h.1 hg).mpr hq
      cases n with
      | zero => simpa using hg
      | succ n => simpa using (ih hstep' hgood' h.2).mpr hrest n

/-- The same without assumptions on the operations. -/
theorem forall_take_iff_along_of_good {Good : σ → Prop}
    (hgood : ∀ s a, Good s → (Good (step s a) ↔ Q s a)) {s : σ} (hg : Good s) (ops : List α) :
    (∀ n, Good (run step s (ops.take n))) ↔ Along step Q s ops := by
  have hgood' : ∀ s a, True → True → Good s → (Good (step s a) ↔ Q s a) :=
    fun s a _ _ => hgood s a
  have hstep : ∀ (s : σ) (a : α), True → True → True := fun _ _ _ _ => trivial
  exact forall_take_iff_along hstep hgood' trivial hg (Along.of_forall (fun _ _ => trivial) s ops)

/-- Two step properties that agree in every state of the invariant agree along runs. -/
theorem Along.congr_of_inv (hstep : ∀ s a, Inv s → P s a → Inv (step s a))
    (hPQ : ∀ s a, Inv s → (P s a ↔ Q s a)) {s : σ} (hs : Inv s) {ops : List α} :
    Along step P s ops ↔ Along step Q s ops := by
  induction ops generalizing s with
  | nil => exact Iff.rfl
  | cons a ops ih =>
    simp only [Along.cons_iff, hPQ s a hs]
    exact and_congr_right fun hq => ih (hstep s a hs ((hPQ s a hs).mpr hq))

end

/-! ## Observations -/

section
variable {ε : Type*} {step : σ → α → σ} {obs : σ → α → List ε}

/-- What is seen of the operations of a run, in order. -/
def observe (step : σ → α → σ) (obs : σ → α → List ε) : σ → List α → List ε
  | _, [] => []
  | s, a :: ops => obs s a ++ observe step obs (step s a) ops

/-- An invariant of the state and of what was seen so far. -/
theorem observe_induction {Inv : List ε → σ → Prop}
    (hstep : ∀ log s a, Inv log s → Inv (log ++ obs s a) (step s a)) (ops : List α)
    {log : List ε} {s : σ} (h : Inv log s) :
    Inv (log ++ observe step obs s ops) (run step s ops) := by
  induction ops generalizing log s with
  | nil =>
    rw [observe, List.append_nil]
    exact h
  | cons a ops ih =>
    rw [observe, ← List.append_assoc]
    exact ih (hstep log s a h)

end

end TiWlan.Lib
