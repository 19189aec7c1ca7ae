import Mathlib.Data.Nat.Digits.Defs
import Mathlib.Tactic

/-!
# Little-endian bytes

`leBytes n x` are the low `n` bytes of `x`, the lowest first, and `leNat` reads bytes back. The
two are inverse to each other, up to the bytes that `leBytes` cuts off. `forall_uint8` brings a
statement about all bytes to a bounded one.
-/

namespace TiWlan.Lib

/-- A property of all characters is checked for their codes. -/
theorem forall_uint8 {p : UInt8 → Prop} (h : ∀ n < 256, p (UInt8.ofNat n)) (c : UInt8) : p c := by
  have hc := h c.toNat c.toNat_lt
  rwa [UInt8.ofNat_toNat] at hc

/-- The low `n` bytes of `x`, the lowest first. -/
def leBytes : ℕ → ℕ → List UInt8
  | 0, _ => []
  | n + 1, x => UInt8.ofNat x :: leBytes n (x / 256)

/-- The number that little-endian bytes stand for. -/
def leNat : List UInt8 → ℕ
  | [] => 0
  | b :: l => b.toNat + 256 * leNat l

@[simp] theorem leBytes_length (n x : ℕ) : (leBytes n x).length = n := by
  induction n generalizing x with
  | zero => rfl
  | succ n ih => rw [leBytes, List.length_cons, ih]

theorem leNat_leBytes (n x : ℕ) : leNat (leBytes n x) = x % 256 ^ n := by
  induction n generalizing x with
  | zero => simp [leBytes, leNat, Nat.mod_one]
  | succ n ih =>
    have hlow : (UInt8.ofNat x).toNat = x % 256 := UInt8.toNat_ofNat'
    rw [leBytes, leNat, ih, hlow, Nat.pow_succ', Nat.mod_mul]

theorem leBytes_leNat (l : List UInt8) : leBytes l.length (leNat l) = l := by
  induction l with
  | nil => rfl
  | cons b l ih =>
    have hlow : UInt8.ofNat (b.toNat + 256 * leNat l) = b := by
      rw [← UInt8.toNat_inj, UInt8.toNat_ofNat']
      have := b.toNat_lt
      omega
    have hhigh : (b.toNat + 256 * leNat l) / 256 = leNat l := by
      have := b.toNat_lt
      omega
    rw [List.length_cons, leNat, leBytes, hlow, hhigh, ih]

theorem leNat_lt (l : List UInt8) : leNat l < 256 ^ l.length := by
  induction l with
  | nil => decide
  | cons b l ih =>
    have := b.toNat_lt
    rw [leNat, List.length_cons, Nat.pow_succ']
    omega

end TiWlan.Lib
