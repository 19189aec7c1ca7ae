import Mathlib.Tactic

/-!
# C integers

Values of the C integer types are `ℕ` (unsigned) or `ℤ` (signed). An expression
is computed over `ℤ` and wrapped where the C code stores or converts it:
`u8`, `u16`, `u32` and `u64` for the unsigned types, `s32` for a conversion to
`int`. `alignUp` is the kernel's `ALIGN`, `divRoundUp` its `DIV_ROUND_UP`.

Results: the range lemmas, that a value in range is unchanged, that an unsigned
difference recovers a small increment of a wrapping counter
(`u32_diff`, `u8_diff`), and that aligning stays below an aligned limit
(`alignUp_le_of_dvd`).
-/

namespace TiWlan.Lib

/-- Conversion to `u8`. -/
def u8 (x : ℤ) : ℕ := (x % 2 ^ 8).toNat

/-- Conversion to `u16`. -/
def u16 (x : ℤ) : ℕ := (x % 2 ^ 16).toNat

/-- Conversion to `u32`. -/
def u32 (x : ℤ) : ℕ := (x % 2 ^ 32).toNat

/-- Conversion to `u64`. -/
def u64 (x : ℤ) : ℕ := (x % 2 ^ 64).toNat

/-- Conversion to `int`. -/
def s32 (x : ℤ) : ℤ := (x + 2 ^ 31) % 2 ^ 32 - 2 ^ 31

theorem u8_lt (x : ℤ) : u8 x < 2 ^ 8 := by unfold u8; omega

theorem u32_lt (x : ℤ) : u32 x < 2 ^ 32 := by unfold u32; omega

theorem u32_of_lt {n : ℕ} (h : n < 2 ^ 32) : u32 n = n := by unfold u32; omega

theorem u64_of_lt {n : ℕ} (h : n < 2 ^ 64) : u64 n = n := by unfold u64; omega

theorem u32_sub_of_le {a b : ℕ} (h : b ≤ a) (ha : a < 2 ^ 32) : u32 ((a : ℤ) - b) = a - b := by
  unfold u32; omega

theorem s32_of_lt {x : ℤ} (h0 : -2 ^ 31 ≤ x) (h1 : x < 2 ^ 31) : s32 x = x := by
  unfold s32; omega

theorem s32_lt (x : ℤ) : s32 x < 2 ^ 31 := by unfold s32; omega

theorem s32_s32_add (x y : ℤ) : s32 (s32 x + y) = s32 (x + y) := by
  unfold s32; omega

/-- A 32-bit counter that advanced by `d` since the value `n % 2 ^ 32` was saved. -/
theorem u32_diff (n d : ℕ) (h : d < 2 ^ 32) :
    u32 (((n + d) % 2 ^ 32 : ℕ) - (n % 2 ^ 32 : ℕ) : ℤ) = d := by
  unfold u32; omega

/-- The same for an 8-bit counter. -/
theorem u8_diff (n d : ℕ) (h : d < 2 ^ 8) :
    u8 (((n + d) % 2 ^ 8 : ℕ) - (n % 2 ^ 8 : ℕ) : ℤ) = d := by
  unfold u8; omega

/-! ## Alignment -/

/-- `ALIGN(x, a)`: the least multiple of `a` that is at least `x`. -/
def alignUp (x a : ℕ) : ℕ := (x + a - 1) / a * a

/-- `DIV_ROUND_UP(x, a)`. -/
def divRoundUp (x a : ℕ) : ℕ := (x + a - 1) / a

theorem dvd_alignUp (x a : ℕ) : a ∣ alignUp x a := Dvd.intro_left _ rfl

theorem le_alignUp (x : ℕ) {a : ℕ} (ha : 0 < a) : x ≤ alignUp x a := by
  have h := Nat.lt_div_mul_add (a := x + a - 1) ha
  unfold alignUp
  omega

theorem alignUp_lt (x : ℕ) {a : ℕ} (ha : 0 < a) : alignUp x a < x + a := by
  have h := Nat.div_mul_le_self (x + a - 1) a
  unfold alignUp
  omega

/-- Aligning a length keeps it within any limit that is itself aligned. -/
theorem alignUp_le_of_dvd {x a m : ℕ} (ha : 0 < a) (hx : x ≤ m) (hm : a ∣ m) :
    alignUp x a ≤ m := by
  obtain ⟨k, rfl⟩ := hm
  have h : (x + a - 1) / a ≤ k := by
    have hk : (a * k + (a - 1)) / a = k := by
      rw [Nat.mul_add_div ha, Nat.div_eq_of_lt (by omega), Nat.add_zero]
    calc (x + a - 1) / a ≤ (a * k + (a - 1)) / a := Nat.div_le_div_right (by omega)
      _ = k := hk
  calc alignUp x a = (x + a - 1) / a * a := rfl
    _ ≤ k * a := Nat.mul_le_mul_right a h
    _ = a * k := Nat.mul_comm k a

/-- The aligned end of a frame that is appended at an aligned offset. -/
theorem add_alignUp_le {off len a m : ℕ} (ha : 0 < a) (hoff : a ∣ off) (hm : a ∣ m)
    (h : off + len ≤ m) : off + alignUp len a ≤ m := by
  have hsub : alignUp len a ≤ m - off :=
    alignUp_le_of_dvd ha (by omega) (Nat.dvd_sub hm hoff)
  omega

end TiWlan.Lib
