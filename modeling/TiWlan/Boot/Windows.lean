import Mathlib
import TiWlan.Driver.Io

/-!
# The windows lie side by side

`wlcore_translate_addr` (`wlcore/io.c`, lines 69–100) takes an address of one of the four windows
that `wlcore_set_partition` has set to an address of the bus, where the windows lie one behind the
other. Windows are chosen freely, so nothing but their being separate keeps two addresses apart.

* `wlcoreTranslateAddr_window`: an address keeps its offset in its window;
* `deviceAddr_window`: `deviceAddr` takes it back;
* `wlcoreTranslateAddr_bijOn`: the addresses of separate windows and the addresses of the bus
  correspond one to one, and a run within a window stays a run.

A window that ends at `2 ^ 32` has its end computed as 0, and no address is found in it.
-/

namespace TiWlan.Driver

open TiWlan.Lib

/-- The addresses of a window. -/
def Partition.addrs (p : Partition) : Set ℕ := {a | p.start ≤ a ∧ a < p.start + p.size}

theorem Partition.disjoint_addrs {p q : Partition} (h : p.start + p.size ≤ q.start) :
    Disjoint p.addrs q.addrs :=
  Set.disjoint_left.mpr fun _ hp hq => absurd (hp.2.trans_le h) (not_lt.mpr hq.1)

namespace PartitionSet

variable {part : PartitionSet} {p : Partition} {a b : ℕ}

/-- The windows, each with its place on the bus. -/
def windows (part : PartitionSet) : List (Partition × ℕ) :=
  [(part.mem, 0), (part.reg, part.mem.size), (part.mem2, part.mem.size + part.reg.size),
    (part.mem3, part.mem.size + part.reg.size + part.mem2.size)]

/-- The addresses of all the windows. -/
def addrs (part : PartitionSet) : Set ℕ := {a | ∃ p b, (p, b) ∈ part.windows ∧ a ∈ p.addrs}

/-- The size of the area on the bus. -/
def total (part : PartitionSet) : ℕ :=
  part.mem.size + part.reg.size + part.mem2.size + part.mem3.size

/-- The windows are disjoint, none wraps around the address space, and together they are smaller
than 2 GiB. -/
structure Separate (part : PartitionSet) : Prop where
  disjoint : part.windows.Pairwise fun w w' => Disjoint w.1.addrs w'.1.addrs
  noWrap : ∀ w ∈ part.windows, w.1.start + w.1.size < 2 ^ 32
  total : part.total < 2 ^ 31

/-- The test for a window that does not wrap. -/
theorem has_iff (h : p.start + p.size < 2 ^ 32) (ha : a < 2 ^ 32) :
    p.Has (u32 (s32 a)) ↔ a ∈ p.addrs := by
  have haddr : u32 (s32 a) = a := by
    unfold u32 s32
    omega
  have hend : u32 ((p.start : ℤ) + p.size) = p.start + p.size := by
    unfold u32
    omega
  rw [Partition.Has, haddr, hend]
  rfl

/-- A window and its place, one of the four. -/
theorem mem_windows : (p, b) ∈ part.windows ↔ p = part.mem ∧ b = 0 ∨
    p = part.reg ∧ b = part.mem.size ∨ p = part.mem2 ∧ b = part.mem.size + part.reg.size ∨
    p = part.mem3 ∧ b = part.mem.size + part.reg.size + part.mem2.size := by
  simp [windows]

/-- An address keeps its offset in its window. -/
theorem wlcoreTranslateAddr_window (h : part.Separate) (hw : (p, b) ∈ part.windows)
    (ha : a ∈ p.addrs) : wlcoreTranslateAddr part (s32 a) = (b + (a - p.start) : ℕ) := by
  obtain ⟨hdisj, hwrap, htotal⟩ := h
  have hlt : a < 2 ^ 32 := ha.2.trans (hwrap _ hw)
  have hhas (v : Partition × ℕ) (hv : v ∈ part.windows) := has_iff (hwrap v hv) hlt
  -- the first window with the address is the only one
  have hnot {q : Partition} (hq : Disjoint q.addrs p.addrs) : a ∉ q.addrs :=
    fun hmem => Set.disjoint_left.mp hq hmem ha
  simp only [windows, List.pairwise_cons, List.mem_cons, List.not_mem_nil, or_false,
    forall_eq_or_imp, forall_eq] at hdisj hhas
  obtain ⟨⟨h12, h13, h14⟩, ⟨h23, h24⟩, h34, -⟩ := hdisj
  obtain ⟨hmem, hreg, hmem2, hmem3⟩ := hhas
  obtain ⟨hlo, hhi⟩ := ha
  unfold total at htotal
  unfold wlcoreTranslateAddr
  rcases mem_windows.mp hw with ⟨rfl, rfl⟩ | ⟨rfl, rfl⟩ | ⟨rfl, rfl⟩ | ⟨rfl, rfl⟩
  · rw [if_pos (hmem.mpr ⟨hlo, hhi⟩)]
    unfold s32
    omega
  · rw [if_neg (mt hmem.mp (hnot h12)), if_pos (hreg.mpr ⟨hlo, hhi⟩)]
    unfold s32
    omega
  · rw [if_neg (mt hmem.mp (hnot h13)), if_neg (mt hreg.mp (hnot h23)),
      if_pos (hmem2.mpr ⟨hlo, hhi⟩)]
    unfold s32
    omega
  · rw [if_neg (mt hmem.mp (hnot h14)), if_neg (mt hreg.mp (hnot h24)),
      if_neg (mt hmem2.mp (hnot h34)), if_pos (hmem3.mpr ⟨hlo, hhi⟩)]
    unfold s32
    omega

/-- The way back. -/
theorem deviceAddr_window (hw : (p, b) ∈ part.windows) {i : ℕ} (hi : i < p.size) :
    part.deviceAddr (b + i) = p.start + i := by
  unfold deviceAddr
  rcases mem_windows.mp hw with ⟨rfl, rfl⟩ | ⟨rfl, rfl⟩ | ⟨rfl, rfl⟩ | ⟨rfl, rfl⟩ <;>
    split_ifs <;> omega

/-- Every address of the bus lies in a window. -/
theorem exists_window (ha : a < part.total) :
    ∃ p b i, (p, b) ∈ part.windows ∧ i < p.size ∧ a = b + i := by
  unfold total at ha
  simp only [mem_windows]
  by_cases h1 : a < part.mem.size
  · exact ⟨_, _, a, .inl ⟨rfl, rfl⟩, h1, by omega⟩
  by_cases h2 : a < part.mem.size + part.reg.size
  · exact ⟨_, _, a - part.mem.size, .inr (.inl ⟨rfl, rfl⟩), by omega, by omega⟩
  by_cases h3 : a < part.mem.size + part.reg.size + part.mem2.size
  · exact ⟨_, _, a - (part.mem.size + part.reg.size), .inr (.inr (.inl ⟨rfl, rfl⟩)), by omega,
      by omega⟩
  · exact ⟨_, _, a - (part.mem.size + part.reg.size + part.mem2.size),
      .inr (.inr (.inr ⟨rfl, rfl⟩)), by omega, by omega⟩

theorem window_lt (hw : (p, b) ∈ part.windows) {i : ℕ} (hi : i < p.size) : b + i < part.total := by
  unfold total
  rcases mem_windows.mp hw with ⟨rfl, rfl⟩ | ⟨rfl, rfl⟩ | ⟨rfl, rfl⟩ | ⟨rfl, rfl⟩ <;> omega

end PartitionSet

open PartitionSet

/-- The addresses of separate windows correspond one to one to the addresses of the area on the bus.
An address keeps its offset in its window, and a run of addresses in a window stays a run. -/
theorem wlcoreTranslateAddr_bijOn (part : PartitionSet) (h : part.Separate) :
    Set.BijOn (fun a : ℕ => wlcoreTranslateAddr part (s32 a)) part.addrs
      (Set.Ico 0 (part.total : ℤ)) ∧
    (∀ p b, (p, b) ∈ part.windows → ∀ i < p.size,
      wlcoreTranslateAddr part (s32 (p.start + i : ℕ)) = (b + i : ℕ)) ∧
    ∀ p b, (p, b) ∈ part.windows → ∀ a n : ℕ, (∀ k < n, a + k ∈ p.addrs) → ∀ k < n,
      wlcoreTranslateAddr part (s32 (a + k : ℕ)) = wlcoreTranslateAddr part (s32 a) + k := by
  have hoffset (p : Partition) (b : ℕ) (hw : (p, b) ∈ part.windows) (i : ℕ) (hi : i < p.size) :
      wlcoreTranslateAddr part (s32 (p.start + i : ℕ)) = (b + i : ℕ) := by
    rw [wlcoreTranslateAddr_window h hw ⟨by omega, by omega⟩, Nat.add_sub_cancel_left]
  refine ⟨⟨?_, ?_, ?_⟩, hoffset, ?_⟩
  · rintro a ⟨p, b, hw, ha⟩
    obtain ⟨hlo, hhi⟩ := id ha
    have hlt := window_lt hw (i := a - p.start) (by omega)
    simp only [wlcoreTranslateAddr_window h hw ha]
    exact ⟨by omega, by omega⟩
  · -- the way back tells the addresses apart
    have hback (a : ℕ) (ha : a ∈ part.addrs) :
        part.deviceAddr (wlcoreTranslateAddr part (s32 a)).toNat = a := by
      obtain ⟨p, b, hw, ha⟩ := ha
      obtain ⟨hlo, hhi⟩ := id ha
      rw [wlcoreTranslateAddr_window h hw ha, Int.toNat_natCast, deviceAddr_window hw (by omega)]
      omega
    intro a ha c hc hac
    simp only at hac
    rw [← hback a ha, hac, hback c hc]
  · rintro y ⟨hlo, hhi⟩
    have hlt : y.toNat < part.total := by omega
    obtain ⟨p, b, i, hw, hi, hy⟩ := exists_window hlt
    refine ⟨p.start + i, ⟨p, b, hw, by omega, by omega⟩, ?_⟩
    simp only [hoffset p b hw i hi]
    omega
  · intro p b hw a n hrun k hk
    have hlast := hrun k hk
    have hfirst : a ∈ p.addrs := hrun 0 (by omega)
    have hlo := hfirst.1
    rw [wlcoreTranslateAddr_window h hw hlast, wlcoreTranslateAddr_window h hw hfirst]
    omega

/-- The windows that `wl18xx_pre_boot` sets (`PART_BOOT` of `wl18xx_ptable`). -/
theorem wlcoreTranslateAddr_bijOn_wl18xx :
    let part : PartitionSet := ⟨⟨0x30c, 0x00700000⟩, ⟨0x14578, 0x00802000⟩, ⟨0x1000, 0x00b00404⟩,
      ⟨0x400, 0x00c00000⟩⟩
    part.Separate ∧
      wlcoreTranslateAddr part (s32 (part.reg.start + 5 : ℕ)) = (part.mem.size + 5 : ℕ) := by
  intro part
  have h : part.Separate :=
    ⟨List.Pairwise.imp Partition.disjoint_addrs (by decide :
      part.windows.Pairwise fun w w' => w.1.start + w.1.size ≤ w'.1.start), by decide, by decide⟩
  exact ⟨h, (wlcoreTranslateAddr_bijOn part h).2.1 _ _ (mem_windows.mpr (.inr (.inl ⟨rfl, rfl⟩))) 5
    (by decide)⟩

end TiWlan.Driver
