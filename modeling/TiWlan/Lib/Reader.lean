import TiWlan.Lib.Bytes
import TiWlan.Lib.MachInt

/-!
# Reading a binary file

A `Reader` consumes bytes from the front of what is left of a file; `none` means that the file
ends too early or that the reader gives up. `Reads r bytes a` says that `r` reads `a` from the
bytes `bytes`, whatever follows them. The rules put readers together as the bytes are put
together, so that a reader is shown to invert a writer piece by piece.
-/

namespace TiWlan.Lib

/-- Reading from the front of the rest of a file. -/
abbrev Reader := StateT (List UInt8) Option

/-- `r` reads `a` from `bytes` in front of anything. -/
def Reads {α : Type} (r : Reader α) (bytes : List UInt8) (a : α) : Prop :=
  ∀ rest, r.run (bytes ++ rest) = some (a, rest)

/-- `fread` of `n` bytes. -/
def readBytes (n : ℕ) : Reader (List UInt8) := fun file =>
  if n ≤ file.length then some (file.take n, file.drop n) else none

/-- A little-endian `int32_t`. -/
def readInt32 : Reader ℤ := do
  let bytes ← readBytes 4
  return s32 (leNat bytes)

/-- The bytes of an `int32_t`. -/
def int32Bytes (x : ℤ) : List UInt8 := leBytes 4 (u32 x)

@[simp] theorem int32Bytes_length (x : ℤ) : (int32Bytes x).length = 4 := leBytes_length 4 _

/-- The bytes of an `int32_t` are read back. -/
theorem s32_leNat_int32Bytes {x : ℤ} (hlo : -2 ^ 31 ≤ x) (hhi : x < 2 ^ 31) :
    s32 (leNat (int32Bytes x)) = x := by
  rw [int32Bytes, leNat_leBytes]
  unfold s32 u32
  omega

/-- `n` times the same. -/
def readMany {α : Type} (r : Reader α) : ℕ → Reader (List α)
  | 0 => return []
  | n + 1 => do
    let a ← r
    let as ← readMany r n
    return a :: as

namespace Reads

variable {α β : Type} {r : Reader α} {bytes : List UInt8} {a : α}

theorem pure (a : α) : Reads (Pure.pure a) [] a := fun _ => rfl

theorem bind {f : α → Reader β} {bytes' : List UInt8} {b : β} (hr : Reads r bytes a)
    (hf : Reads (f a) bytes' b) : Reads (r >>= f) (bytes ++ bytes') b := by
  intro rest
  rw [StateT.run_bind, List.append_assoc, hr]
  exact hf rest

/-- A reader that ends with a pure computation. -/
theorem map {f : α → β} (hr : Reads r bytes a) :
    Reads (r >>= fun a => Pure.pure (f a)) bytes (f a) := by
  have h : Reads (r >>= fun a => Pure.pure (f a)) (bytes ++ []) (f a) := bind hr (pure (f a))
  rwa [List.append_nil] at h

theorem readBytes (bytes : List UInt8) : Reads (readBytes bytes.length) bytes bytes := by
  intro rest
  show (if bytes.length ≤ (bytes ++ rest).length then _ else _) = _
  rw [if_pos (by simp), List.take_left, List.drop_left]

theorem readInt32 {x : ℤ} (hlo : -2 ^ 31 ≤ x) (hhi : x < 2 ^ 31) :
    Reads readInt32 (int32Bytes x) x := by
  have hbytes : Reads (Lib.readBytes 4) (int32Bytes x) (int32Bytes x) := readBytes (int32Bytes x)
  have h : Reads Lib.readInt32 (int32Bytes x) (s32 (leNat (int32Bytes x))) := map hbytes
  rwa [s32_leNat_int32Bytes hlo hhi] at h

theorem readMany {enc : α → List UInt8} {as : List α} (h : ∀ a ∈ as, Reads r (enc a) a) :
    Reads (readMany r as.length) (as.flatMap enc) as := by
  induction as with
  | nil => exact pure []
  | cons a as ih =>
    rw [List.flatMap_cons]
    have hrest := ih fun a' ha' => h a' (List.mem_cons_of_mem _ ha')
    exact bind (h a (List.mem_cons_self ..)) (map hrest)

end Reads

end TiWlan.Lib
