import Mathlib.Control.Monad.Basic

/-!
# Fallible computations on a state

`Fallible σ ε α` is a computation on a state `σ` that returns an `α` or fails with an `ε`; a
failure keeps the changes made before it. `Keeps P m` says that `m` keeps `P`, whether or not it
fails; the rules follow the constructs of `do` blocks.
-/

namespace TiWlan.Lib

variable {σ ε α β : Type}

/-- Computations on a state that may fail. -/
abbrev Fallible (σ ε : Type) := ExceptT ε (StateM σ)

/-- Result and state of a computation. -/
def Fallible.exec (m : Fallible σ ε α) (s : σ) : Except ε α × σ := m.run s

namespace Fallible

theorem exec_bind (m : Fallible σ ε α) (f : α → Fallible σ ε β) (s : σ) :
    (m >>= f).exec s =
      match m.exec s with
      | (.ok a, s') => (f a).exec s'
      | (.error e, s') => (.error e, s') := by
  show ExceptT.bindCont f (m.exec s).1 (m.exec s).2 = _
  generalize m.exec s = r
  obtain ⟨_ | a, s'⟩ := r
  · rfl
  · rfl

/-- `m` with its failure ignored. -/
def ignore (m : Fallible σ ε α) : Fallible σ ε PUnit := fun s => (.ok ⟨⟩, (m.exec s).2)

end Fallible

/-- The computation keeps `P`. -/
def Keeps (P : σ → Prop) (m : Fallible σ ε α) : Prop := ∀ s, P s → P (m.exec s).2

namespace Keeps

variable {P : σ → Prop} {m : Fallible σ ε α}

theorem pure (a : α) : Keeps P (Pure.pure a : Fallible σ ε α) := fun _ h => h

theorem throw (e : ε) : Keeps P (throw e : Fallible σ ε α) := fun _ h => h

theorem modify {f : σ → σ} (h : ∀ s, P s → P (f s)) :
    Keeps P (modify f : Fallible σ ε PUnit) := h

theorem bind {f : α → Fallible σ ε β} (hm : Keeps P m) (hf : ∀ a, Keeps P (f a)) :
    Keeps P (m >>= f) := by
  intro s hs
  have hfirst := hm s hs
  rw [Fallible.exec_bind]
  generalize m.exec s = r at hfirst ⊢
  obtain ⟨_ | a, s'⟩ := r
  · exact hfirst
  · exact hf a s' hfirst

theorem ignore (hm : Keeps P m) : Keeps P (Fallible.ignore m) := hm

theorem getBind {f : σ → Fallible σ ε β} (hf : ∀ s, P s → P ((f s).exec s).2) :
    Keeps P (get >>= f) := by
  intro s hs
  rw [Fallible.exec_bind]
  exact hf s hs

theorem forM {γ : Type} {f : γ → Fallible σ ε PUnit} (hf : ∀ x, Keeps P (f x)) (l : List γ) :
    Keeps P (l.forM f) := by
  induction l with
  | nil => exact Keeps.pure PUnit.unit
  | cons x l ih => exact bind (hf x) fun _ => ih

end Keeps

end TiWlan.Lib
