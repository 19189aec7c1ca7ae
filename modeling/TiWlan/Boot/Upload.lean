import TiWlan.Driver.Boot
import TiWlan.Lib.Run

/-!
# A chunk of the firmware arrives

`wl1271_boot_upload_firmware_chunk` (`wlcore/boot.c`, lines 165–238) writes the data in blocks of
`CHUNK_SIZE` bytes through the memory window, and moves the window when the block behind the next
one may not be in it. The limit that is tested is relative to `dest`, the address is not. So the
window can be moved too early, but never too late: if it is not moved then the window has room for
two more blocks, and a window that has just been moved has it because of its size. The last block
is written without a test and is the second of the two.

Results:

* `Uploads`: writes that store a part of the data, each of them inside the window of the chip.
* `moveWindow_uploads`: after the test there is room for two blocks.
* `uploadLoop_uploads`: what the loop has written, and the room that is left behind it.
* `bootUploadFirmwareChunk_covers`: a chunk that was uploaded is at its place.
-/

namespace TiWlan.Driver

open TiWlan.Lib

/-! ## What the chip sees -/

/-- The memory window of the chip after a write. -/
def chipMem (mem : Partition) : IoEvent → Partition
  | .rawWrite addr data =>
    if addr = hwPart0StartAddr then { mem with start := leNat data }
    else if addr = hwPart0SizeAddr then { mem with size := leNat data }
    else mem
  | _ => mem

/-- The write is translated with the memory window that the chip has, and all of it lies in that
window. -/
def InWindow (mem : Partition) : IoEvent → Prop
  | .write part addr physical data =>
    part.mem = mem ∧ physical = wlcoreTranslateAddr part addr ∧ 0 ≤ physical ∧
      physical < mem.size ∧ physical + data.length ≤ mem.size
  | _ => True

/-- The bytes that a write stores, with their addresses in the chip. -/
def IoEvent.stores : IoEvent → List (ℕ × UInt8)
  | .write part _ physical data =>
    (List.range data.length).map fun j => (part.deviceAddr (physical.toNat + j), data.getD j 0)
  | _ => []

/-- Bytes `lo` to `lo + n` of the data at `pos`, at their addresses from `dest` on. -/
def placed (image : ℕ → UInt8) (pos dest lo n : ℕ) : List (ℕ × UInt8) :=
  (List.range n).map fun i => (dest + (lo + i), image (pos + (lo + i)))

theorem placed_add (image : ℕ → UInt8) (pos dest lo a b : ℕ) :
    placed image pos dest lo (a + b) =
      placed image pos dest lo a ++ placed image pos dest (lo + a) b := by
  simp [placed, List.range_add, Function.comp_def, Nat.add_assoc]

/-- The events store bytes `lo` to `lo + n`, each of them inside the window, which they change from
`mem` to `mem'`. -/
structure Uploads (image : ℕ → UInt8) (pos dest lo n : ℕ) (mem mem' : Partition)
    (evs : List IoEvent) : Prop where
  stores : evs.flatMap IoEvent.stores = placed image pos dest lo n
  inWindow : Along chipMem InWindow mem evs
  window : run chipMem mem evs = mem'

namespace Uploads

variable {image : ℕ → UInt8} {pos dest lo n n' : ℕ} {mem mem' mem'' : Partition}
  {evs evs' : List IoEvent}

theorem nil : Uploads image pos dest lo 0 mem mem [] := ⟨rfl, trivial, rfl⟩

theorem append (h : Uploads image pos dest lo n mem mem' evs)
    (h' : Uploads image pos dest (lo + n) n' mem' mem'' evs') :
    Uploads image pos dest lo (n + n') mem mem'' (evs ++ evs') where
  stores := by rw [List.flatMap_append, h.stores, h'.stores, placed_add]
  inWindow := Along.append_iff.mpr ⟨h.inWindow, h.window.symm ▸ h'.inWindow⟩
  window := by rw [run_append, h.window, h'.window]

end Uploads

/-- New windows are in force when their registers are written. -/
theorem partitionWrites_uploads (image : ℕ → UInt8) (pos dest lo : ℕ) (mem : Partition)
    {p : PartitionSet} (hstart : p.mem.start < 2 ^ 32) (hsize : p.mem.size < 2 ^ 32) :
    Uploads image pos dest lo 0 mem p.mem (partitionWrites p) where
  stores := rfl
  inWindow := by simp [partitionWrites, Along, InWindow]
  window := by
    have hval {x : ℕ} (hx : x < 2 ^ 32) : leNat (leBytes 4 x) = x := by
      rw [leNat_leBytes]
      exact Nat.mod_eq_of_lt hx
    simp [partitionWrites, run, chipMem, hwPart0StartAddr, hwPart0SizeAddr, hwPart1SizeAddr,
      hwPart1StartAddr, hwPart2SizeAddr, hwPart2StartAddr, hwPart3StartAddr, hval hstart,
      hval hsize]

/-- A write to the memory window. -/
theorem write_uploads {image : ℕ → UInt8} {pos dest lo n : ℕ} {part : PartitionSet}
    (hsize : part.mem.size ≤ 2 ^ 30) (htop : part.mem.start < 2 ^ 31)
    (hstart : part.mem.start ≤ dest + lo) (hlt : dest + lo < part.mem.start + part.mem.size)
    (hend : dest + lo + n ≤ part.mem.start + part.mem.size) :
    Uploads image pos dest lo n part.mem part.mem
      [.read (pos + lo) n, .write part (dest + lo : ℕ) (wlcoreTranslateAddr part (dest + lo : ℕ))
        (loadAt image (pos + lo) n)] := by
  rw [wlcoreTranslateAddr_mem hstart hlt hsize htop]
  refine ⟨?_, ⟨trivial, ⟨rfl, ?_, ?_, ?_, ?_⟩, trivial⟩, rfl⟩
  · simp only [List.flatMap_cons, List.flatMap_nil, IoEvent.stores, List.nil_append,
      List.append_nil, loadAt_length, Int.toNat_natCast]
    refine List.map_congr_left fun j hj => ?_
    rw [List.mem_range] at hj
    rw [getD_loadAt hj, PartitionSet.deviceAddr, if_pos (by omega)]
    congr 1
    · omega
    · congr 1
      omega
  · exact (wlcoreTranslateAddr_mem hstart hlt hsize htop).symm
  · omega
  · show ((dest + lo - part.mem.start : ℕ) : ℤ) < part.mem.size
    omega
  · show ((dest + lo - part.mem.start : ℕ) : ℤ) + (loadAt image (pos + lo) n).length ≤ part.mem.size
    rw [loadAt_length]
    omega

/-! ## The loop -/

/-- Between the states bytes `lo` to `lo + n` were uploaded. -/
def UploadedTo (image : ℕ → UInt8) (pos dest lo n : ℕ) (io io' : Io) : Prop :=
  ∃ evs, io'.log = io.log ++ evs ∧
    Uploads image pos dest lo n io.currPart.mem io'.currPart.mem evs

theorem UploadedTo.trans {image : ℕ → UInt8} {pos dest lo n n' : ℕ} {io io' io'' : Io}
    (h : UploadedTo image pos dest lo n io io')
    (h' : UploadedTo image pos dest (lo + n) n' io' io'') :
    UploadedTo image pos dest lo (n + n') io io'' := by
  obtain ⟨evs, hlog, hup⟩ := h
  obtain ⟨evs', hlog', hup'⟩ := h'
  exact ⟨evs ++ evs', by rw [hlog', hlog, List.append_assoc], hup.append hup'⟩

/-- The window starts at block `k` and the limit belongs to it. -/
structure WindowAt (down : PartitionSet) (dest k : ℕ) (partitionLimit : ℤ) (io : Io) : Prop where
  part : io.currPart = down.moveMem (dest + k * chunkSize)
  limit : partitionLimit = (k * chunkSize + down.mem.size : ℕ)

section
variable {env : IoEnv} {down : PartitionSet} {image : ℕ → UInt8} {pos dest : ℕ}

/-- A block at `lo` that is written through a window with enough room. -/
theorem writeBlock_uploads {k lo n : ℕ} {io : Io} {r : ℤ × Io}
    (hr : wlcoreWrite env (s32 (dest + lo : ℕ)) (loadAt image (pos + lo) n)
      (io.read (pos + lo) n) = r)
    (hret : 0 ≤ r.1) (hsize : down.mem.size ≤ 2 ^ 30)
    (hpart : io.currPart = down.moveMem (dest + k * chunkSize)) (hk : k * chunkSize ≤ lo)
    (hroom : lo + n ≤ k * chunkSize + down.mem.size) (hlt : lo < k * chunkSize + down.mem.size)
    (hdest : dest + lo < 2 ^ 31) :
    UploadedTo image pos dest lo n io r.2 ∧ r.2.currPart = io.currPart := by
  have hstart : io.currPart.mem.start = dest + k * chunkSize := by rw [hpart]; rfl
  have hmem : io.currPart.mem.size = down.mem.size := by rw [hpart]; rfl
  subst hr
  rw [s32_of_lt (by omega) (by omega)] at hret ⊢
  obtain ⟨hlog, hsame⟩ := logged_of_read (wlcoreWrite_logged _ _) hret
  have hsame' : (wlcoreWrite env (dest + lo : ℕ) (loadAt image (pos + lo) n)
      (io.read (pos + lo) n)).2.currPart = io.currPart := hsame
  refine ⟨⟨_, hlog, ?_⟩, hsame'⟩
  rw [hsame']
  exact write_uploads (by omega) (by omega) (by omega) (by omega) (by omega)

/-- After the test the window has room for two blocks. -/
theorem updatePartition_uploads {k chunkNum : ℕ} {partitionLimit : ℤ} {io : Io} {r : ℤ × Io}
    (hr : updatePartition env down dest chunkNum partitionLimit io = r) (hret : 0 ≤ r.1)
    (hsize : 2 * chunkSize ≤ down.mem.size) (hsize' : down.mem.size ≤ 2 ^ 30)
    (hk : k ≤ chunkNum) (hnum : chunkNum * chunkSize ≤ 300000)
    (hdest : dest + (chunkNum + 2) * chunkSize < 2 ^ 31)
    (h : WindowAt down dest k partitionLimit io) :
    UploadedTo image pos dest (chunkNum * chunkSize) 0 io r.2 ∧
      ∃ k' ≤ chunkNum, WindowAt down dest k' (updateLimit down dest chunkNum partitionLimit) r.2 ∧
        (chunkNum + 2) * chunkSize ≤ k' * chunkSize + down.mem.size := by
  have htwo : (chunkNum + 2) * chunkSize = chunkNum * chunkSize + 2 * chunkSize := by ring
  by_cases hmove : needsMove dest chunkNum partitionLimit
  · have haddr : u32 (s32 (dest + chunkNum * chunkSize : ℕ)) = dest + chunkNum * chunkSize := by
      rw [s32_of_lt (by omega) (by omega)]
      exact u32_of_lt (by omega)
    have hlimit : s32 (chunkNum * chunkSize + down.mem.size : ℕ) =
        (chunkNum * chunkSize + down.mem.size : ℕ) := s32_of_lt (by omega) (by omega)
    rw [updatePartition, if_pos hmove, haddr] at hr
    rw [updateLimit, if_pos hmove, hlimit]
    subst hr
    obtain ⟨hlog, hpart⟩ := wlcoreSetPartition_logged _ hret
    refine ⟨⟨_, hlog, ?_⟩, chunkNum, le_refl _, ⟨hpart, rfl⟩, by omega⟩
    rw [hpart]
    refine partitionWrites_uploads image pos dest _ _ ?_ ?_
    · show dest + chunkNum * chunkSize < 2 ^ 32
      omega
    · show down.mem.size < 2 ^ 32
      omega
  · rw [updatePartition, if_neg hmove] at hr
    rw [updateLimit, if_neg hmove]
    subst hr
    refine ⟨⟨[], (List.append_nil _).symm, Uploads.nil⟩, k, hk, h, ?_⟩
    rw [needsMove, s32_of_lt (by omega) (by omega), h.limit] at hmove
    omega

/-- What the loop has written, and the room behind it. -/
theorem uploadLoop_uploads (hsize : 2 * chunkSize ≤ down.mem.size)
    (hsize' : down.mem.size ≤ 2 ^ 30) (left : ℕ) {k chunkNum : ℕ} (hk : k ≤ chunkNum)
    (hnum : (chunkNum + left) * chunkSize ≤ 300000)
    (hdest : dest + (chunkNum + left + 1) * chunkSize < 2 ^ 31)
    {partitionLimit : ℤ} {io : Io} {r : ℤ × Io} (h : WindowAt down dest k partitionLimit io)
    (hroom : (chunkNum + 1) * chunkSize ≤ k * chunkSize + down.mem.size)
    (hr : uploadLoop env down image pos dest left chunkNum partitionLimit io = r)
    (hret : 0 ≤ r.1) :
    UploadedTo image pos dest (chunkNum * chunkSize) (left * chunkSize) io r.2 ∧
      ∃ k' ≤ chunkNum + left, r.2.currPart = down.moveMem (dest + k' * chunkSize) ∧
        (chunkNum + left + 1) * chunkSize ≤ k' * chunkSize + down.mem.size := by
  induction left generalizing k chunkNum partitionLimit io r with
  | zero =>
    subst hr
    rw [Nat.zero_mul]
    exact ⟨⟨[], (List.append_nil _).symm, Uploads.nil⟩, k, hk, h.part, hroom⟩
  | succ left ih =>
    rw [uploadLoop] at hr
    have hle : chunkNum * chunkSize ≤ (chunkNum + (left + 1)) * chunkSize :=
      Nat.mul_le_mul_right _ (by omega)
    have hle' : (chunkNum + 2) * chunkSize ≤ (chunkNum + (left + 1) + 1) * chunkSize :=
      Nat.mul_le_mul_right _ (by omega)
    have htwo : (chunkNum + 2) * chunkSize = chunkNum * chunkSize + 2 * chunkSize := by ring
    have hone : (chunkNum + 1) * chunkSize = chunkNum * chunkSize + chunkSize := by ring
    have hpos := chunkSize_pos
    subst hr
    obtain ⟨hmoved, heq⟩ := nonneg_of_proceed hret
    rw [heq] at hret ⊢
    obtain ⟨hwritten, heq'⟩ := nonneg_of_proceed hret
    rw [heq'] at hret ⊢
    obtain ⟨hup, k', hk', hat, hroom'⟩ := updatePartition_uploads rfl hmoved hsize hsize' hk
      (by omega) (by omega) h
    have hkle : k' * chunkSize ≤ chunkNum * chunkSize := Nat.mul_le_mul_right _ hk'
    obtain ⟨hup', hpart⟩ := writeBlock_uploads rfl hwritten hsize' hat.part hkle (by omega)
      (by omega) (by omega)
    have hnext : (chunkNum + 1 + 1) * chunkSize ≤ k' * chunkSize + down.mem.size := by
      rwa [Nat.add_assoc]
    have hshift : chunkNum + 1 + left = chunkNum + (left + 1) := by omega
    rw [← hshift] at hnum hdest ⊢
    obtain ⟨hup'', k'', hk'', hpart'', hroom''⟩ := ih (by omega) hnum hdest
      ⟨hpart.trans hat.part, hat.limit⟩ hnext rfl hret
    refine ⟨?_, k'', hk'', hpart'', hroom''⟩
    have htrans := (hup.trans hup').trans (by rw [Nat.zero_add, ← hone]; exact hup'')
    rwa [Nat.zero_add, show chunkSize + left * chunkSize = (left + 1) * chunkSize by ring] at htrans

end

/-- A chunk that was uploaded is at its place: each byte is stored exactly once, through a window
that contains all of the write. -/
theorem bootUploadFirmwareChunk_covers (env : IoEnv) (down : PartitionSet) (image : ℕ → UInt8)
    (pos len dest : ℕ) (io : Io) (hlen : len ≤ 300000) (hfour : 4 ∣ len)
    (hdest : dest + len + 2 * chunkSize < 2 ^ 31) (hsize : 2 * chunkSize ≤ down.mem.size)
    (hsize' : down.mem.size ≤ 2 ^ 30)
    (hret : (wl1271BootUploadFirmwareChunk env down image pos len dest io).1 = 0) :
    ∃ evs, (wl1271BootUploadFirmwareChunk env down image pos len dest io).2.log = io.log ++ evs ∧
      evs.flatMap IoEvent.stores =
        (List.range len).map (fun i => (dest + i, image (pos + i))) ∧
      ∀ mem, Along chipMem InWindow mem evs := by
  have hmod : len % 4 = 0 := Nat.mod_eq_zero_of_dvd hfour
  have hdiv : len / chunkSize * chunkSize + len % chunkSize = len := Nat.div_add_mod' _ _
  have hrest : len % chunkSize < chunkSize := Nat.mod_lt _ chunkSize_pos
  have hone : (0 + len / chunkSize + 1) * chunkSize = len / chunkSize * chunkSize + chunkSize := by
    ring
  obtain ⟨r, hr⟩ : ∃ r, wl1271BootUploadFirmwareChunk env down image pos len dest io = r := ⟨_, rfl⟩
  rw [hr] at hret ⊢
  rw [wl1271BootUploadFirmwareChunk, if_neg (by omega)] at hr
  by_cases hmalloc : env.kmalloc io.log = false
  · rw [if_pos hmalloc] at hr
    rw [← hr] at hret
    exact absurd hret (show ¬(-12 : ℤ) = 0 by decide)
  · rw [if_neg hmalloc] at hr
    subst hr
    obtain ⟨hset, heq⟩ := nonneg_of_proceed hret.ge
    rw [heq] at hret ⊢
    obtain ⟨hloop, heq'⟩ := nonneg_of_proceed hret.ge
    rw [heq'] at hret ⊢
    obtain ⟨hlog, hpart⟩ := wlcoreSetPartition_logged _ hset
    have hat : WindowAt down dest 0 (s32 down.mem.size)
        (wlcoreSetPartition env (down.moveMem dest) io).2 :=
      ⟨by rw [hpart, Nat.zero_mul, Nat.add_zero],
        by rw [s32_of_lt (by omega) (by omega), Nat.zero_mul, Nat.zero_add]⟩
    obtain ⟨⟨evs, hlog', hup⟩, k, hk, hpart', hroom⟩ := uploadLoop_uploads hsize hsize' _
      (le_refl 0) (by rw [Nat.zero_add]; omega) (by omega) hat (by omega) rfl hloop
    have hkle : k * chunkSize ≤ len / chunkSize * chunkSize :=
      Nat.mul_le_mul_right _ (by omega)
    obtain ⟨⟨evs', hlog'', hup'⟩, -⟩ := writeBlock_uploads rfl hret.ge hsize' hpart' hkle
      (by omega) (by omega) (by omega)
    rw [Nat.zero_mul] at hup
    rw [hpart] at hup
    have hall (mem : Partition) := ((partitionWrites_uploads image pos dest 0 mem
      (p := down.moveMem dest) (show dest < 2 ^ 32 by omega)
      (show down.mem.size < 2 ^ 32 by omega)).append hup).append
      (by rw [Nat.zero_add, Nat.zero_add]; exact hup')
    refine ⟨_, by rw [hlog'', hlog', hlog, List.append_assoc, List.append_assoc], ?_, fun mem => ?_⟩
    · have hstores := (hall down.mem).stores
      rw [Nat.zero_add, hdiv] at hstores
      simpa [placed] using hstores
    · simpa using (hall mem).inWindow

/-- 100 kB in the windows of the wl18xx, which have to be moved. -/
theorem bootUploadFirmwareChunk_covers_wl18xx :
    (wl1271BootUploadFirmwareChunk okEnv wl18xxPartDown (fun _ => 1) 12 102400 0x8000 bootIo).1 =
      0 ∧
      ∃ evs, (wl1271BootUploadFirmwareChunk okEnv wl18xxPartDown (fun _ => 1) 12 102400 0x8000
        bootIo).2.log = bootIo.log ++ evs ∧
        evs.flatMap IoEvent.stores = (List.range 102400).map (fun i => (0x8000 + i, 1)) ∧
        ∀ mem, Along chipMem InWindow mem evs := by
  have hret : (wl1271BootUploadFirmwareChunk okEnv wl18xxPartDown (fun _ => 1) 12 102400 0x8000
      bootIo).1 = 0 := by decide +kernel
  exact ⟨hret, bootUploadFirmwareChunk_covers _ _ _ _ _ _ _ (by decide +kernel) (by decide +kernel)
    (by decide +kernel) (by decide +kernel) (by decide +kernel) hret⟩

end TiWlan.Driver
