import TiWlan.Rx.LogStream

/-!
# The log of a stopped firmware

`wl12xx_read_fwlog_panic` (`wlcore/main.c`, lines 828–898) follows pointers that the firmware has
left in the memory of the chip, and they can form any graph. It stops because the page fills up:
a pass that copies nothing is the last one, and a pass that copies something leaves less room.

Results:

* `fwlogScan_eq`: the loop of `wl12xx_copy_fwlog` finds the end of the records whatever lies behind
  the block.
* `fwlogScan_reads_lt`: it reads inside of the block.
* `panicLoop_bounded`: a pass for each byte of room, and one more.
* `readFwlogPanic_bounded`: the accesses of the whole function.
-/

namespace TiWlan.Rx

open TiWlan.Driver TiWlan.Lib

/-! ## One block -/

/-- The loop finds the end of the records, whatever lies behind the block. -/
theorem fwlogScan_eq (memblock : List UInt8) (mem : ℕ → UInt8)
    (hmem : ∀ i (h : i < memblock.length), mem i = memblock[i]) (len : ℕ) :
    (fwlogScan mem memblock.length len).1 = fwlogEnd memblock len := by
  fun_induction fwlogEnd memblock len with
  | case1 len hlt hzero =>
    rw [fwlogScan, if_pos hlt, hmem len hlt, if_pos hzero]
  | case2 len hlt hne hlong =>
    rw [fwlogScan, if_pos hlt, hmem len hlt, if_neg hne, if_pos hlong]
  | case3 len hlt hne hfit ih =>
    rw [fwlogScan, if_pos hlt, hmem len hlt, if_neg hne, if_neg hfit]
    exact ih
  | case4 len hge =>
    rw [fwlogScan, if_neg hge]

theorem fwlogScan_reads_lt (mem : ℕ → UInt8) (maxlen len : ℕ) :
    ∀ i ∈ (fwlogScan mem maxlen len).2, i < maxlen := by
  fun_induction fwlogScan mem maxlen len with
  | case1 len hlt => simpa using hlt
  | case2 len hlt => simpa using hlt
  | case3 len hlt _ _ r ih =>
    intro i hi
    rcases List.mem_append.mp hi with hi | hi
    · simp only [List.mem_cons, List.not_mem_nil, or_false, or_self] at hi
      omega
    · exact ih i hi
  | case4 => simp

def isHwBlock : FwLogAccess → Bool
  | .hwBlock _ => true
  | _ => false

/-- The number of blocks that are read from the chip. -/
def hwBlockReads (accesses : List FwLogAccess) : ℕ := accesses.countP isHwBlock

/-- Accesses inside of the buffer and inside of the page. -/
def Allowed (pageSize : ℕ) : FwLogAccess → Prop
  | .hwBlock _ => True
  | .blockByte i => i < hwBlockSize
  | .logByte i => i < pageSize

/-- The size of the log is that of bytes in the page. -/
def SizeOk (pageSize : ℕ) (wl : FwLog) : Prop := 0 ≤ wl.fwlogSize ∧ wl.fwlogSize ≤ pageSize

section
variable {pageSize : ℕ} {wl : FwLog}

theorem room_eq (hpage : pageSize < 2 ^ 32) (h : SizeOk pageSize wl) :
    (u32 (pageSize - wl.fwlogSize) : ℤ) = pageSize - wl.fwlogSize := by
  obtain ⟨h0, h1⟩ := h
  unfold u32
  omega

/-- The copy fills at most the room that is left, and changes nothing behind the page. -/
theorem copyFwlog_room (hpage : pageSize < 2 ^ 32) (h : SizeOk pageSize wl)
    (memblock : List UInt8) :
    SizeOk pageSize (wl12xxCopyFwlog pageSize wl memblock).2 ∧
      (wl12xxCopyFwlog pageSize wl memblock).2.fwlogSize =
        wl.fwlogSize + (wl12xxCopyFwlog pageSize wl memblock).1 ∧
      ∀ i ≥ pageSize, (wl12xxCopyFwlog pageSize wl memblock).2.fwlog i = wl.fwlog i := by
  have hroom := room_eq hpage h
  obtain ⟨h0, h1⟩ := h
  rw [wl12xxCopyFwlog]
  simp only [SizeOk]
  generalize u32 (pageSize - wl.fwlogSize) = room at *
  refine ⟨⟨by omega, by omega⟩, trivial, fun i hi => ?_⟩
  refine storeAt_of_le _ ?_
  rw [List.length_take]
  omega

theorem copyAccesses_allowed (hpage : pageSize < 2 ^ 32) (h : SizeOk pageSize wl) (block : HwBlock)
    (behind : ℕ → UInt8) {offset : ℕ} (hoff : offset ≤ hwBlockSize) :
    ∀ a ∈ copyAccesses pageSize wl (memoryOf block.1 behind) offset,
      Allowed pageSize a ∧ isHwBlock a = false := by
  have hroom := room_eq hpage h
  obtain ⟨h0, h1⟩ := h
  have hlen : (block.1.drop offset).length = hwBlockSize - offset := by
    rw [List.length_drop, block.2]
  have hscan := fwlogScan_eq (block.1.drop offset) (fun i => memoryOf block.1 behind (offset + i))
    (fun i hi => by
      rw [List.length_drop] at hi
      rw [memoryOf_of_lt (by omega), List.getElem_drop]) 0
  have hend := fwlogEnd_le (block.1.drop offset) (Nat.zero_le _)
  have hreads := fwlogScan_reads_lt (fun i => memoryOf block.1 behind (offset + i))
    (hwBlockSize - offset) 0
  rw [hlen] at hscan hend
  rw [copyAccesses]
  simp only [hscan]
  generalize
    (fwlogScan (fun i => memoryOf block.1 behind (offset + i)) (hwBlockSize - offset) 0).2 =
    reads at hreads
  generalize u32 (pageSize - wl.fwlogSize) = room at *
  intro a ha
  rcases List.mem_append.mp ha with ha | ha
  · obtain ⟨i, hi, rfl⟩ := List.mem_map.mp ha
    have hlt := hreads i hi
    exact ⟨show offset + i < hwBlockSize by omega, rfl⟩
  · obtain ⟨i, hi, ha⟩ := List.mem_flatMap.mp ha
    rw [List.mem_range] at hi
    simp only [List.mem_cons, List.not_mem_nil, or_false] at ha
    rcases ha with rfl | rfl
    · exact ⟨show offset + i < hwBlockSize by omega, rfl⟩
    · exact ⟨show wl.fwlogSize.toNat + i < pageSize by omega, rfl⟩

/-! ## The list of blocks -/

/-- What the accesses between two states of the log keep. -/
structure PanicBounded (pageSize : ℕ) (wl : FwLog) (accesses : List FwLogAccess) (wl' : FwLog) :
    Prop where
  hwBlocks : hwBlockReads accesses + wl.fwlogSize ≤ pageSize + 1
  allowed : ∀ a ∈ accesses, Allowed pageSize a
  size : SizeOk pageSize wl'
  frame : ∀ i ≥ pageSize, wl'.fwlog i = wl.fwlog i

/-- The accesses of one pass. -/
theorem pass_allowed (hpage : pageSize < 2 ^ 32) (h : SizeOk pageSize wl) (block : HwBlock)
    (behind : ℕ → UInt8) {offset : ℕ} (hoff : offset ≤ hwBlockSize) (addr : ℕ) :
    hwBlockReads (.hwBlock addr :: (List.range 4).map .blockByte ++
        copyAccesses pageSize wl (memoryOf block.1 behind) offset) = 1 ∧
      ∀ a ∈ .hwBlock addr :: (List.range 4).map .blockByte ++
        copyAccesses pageSize wl (memoryOf block.1 behind) offset, Allowed pageSize a := by
  have hcopy := copyAccesses_allowed hpage h block behind hoff
  generalize copyAccesses pageSize wl (memoryOf block.1 behind) offset = copied at hcopy
  constructor
  · have hzero : hwBlockReads copied = 0 := by
      rw [hwBlockReads, List.countP_eq_zero]
      intro a ha
      simp [(hcopy a ha).2]
    rw [hwBlockReads, List.countP_append, ← hwBlockReads, ← hwBlockReads, hzero]
    rfl
  · intro a ha
    rcases List.mem_append.mp ha with ha | ha
    · rcases List.mem_cons.mp ha with rfl | ha
      · trivial
      · obtain ⟨i, hi, rfl⟩ := List.mem_map.mp ha
        rw [List.mem_range] at hi
        exact lt_trans hi (by decide)
    · exact (hcopy a ha).1

/-- A pass is the last one, or it copies something. -/
theorem panicLoop_pass (hpage : pageSize < 2 ^ 32) {offset : ℕ} (hoff : offset ≤ hwBlockSize)
    (endOfLog : ℕ) (device : ℕ → Option HwBlock) (behind : ℕ → UInt8) (addr : ℕ)
    (h : SizeOk pageSize wl) :
    ∃ accesses wl', hwBlockReads accesses = 1 ∧ PanicBounded pageSize wl accesses wl' ∧
      ((∀ fuel, panicLoop pageSize offset endOfLog device behind (fuel + 1) addr wl =
          some (accesses, wl')) ∨
        (wl.fwlogSize < wl'.fwlogSize ∧
          ∃ next, ∀ fuel, panicLoop pageSize offset endOfLog device behind (fuel + 1) addr wl =
            (panicLoop pageSize offset endOfLog device behind fuel next wl').map fun s =>
              (accesses ++ s.1, s.2))) := by
  cases hblock : device addr with
  | none =>
    refine ⟨[.hwBlock addr], wl, rfl, ⟨?_, ?_, h, fun _ _ => rfl⟩, Or.inl fun fuel => ?_⟩
    · have hle := h.2
      show ((1 : ℕ) : ℤ) + wl.fwlogSize ≤ pageSize + 1
      omega
    · simp [Allowed]
    · rw [panicLoop, hblock]
  | some block =>
    obtain ⟨hone, hallowed⟩ := pass_allowed hpage h block behind hoff addr
    obtain ⟨hsize, hgrown, hframe⟩ := copyFwlog_room hpage h (block.1.drop offset)
    refine ⟨_, (wl12xxCopyFwlog pageSize wl (block.1.drop offset)).2, hone,
      ⟨?_, hallowed, hsize, hframe⟩, ?_⟩
    · have hle := h.2
      rw [hone]
      omega
    · by_cases hlast : (wl12xxCopyFwlog pageSize wl (block.1.drop offset)).1 = 0 ∨
          leNat (block.1.take 4) = 0 ∨ leNat (block.1.take 4) = endOfLog
      · refine Or.inl fun fuel => ?_
        rw [panicLoop, hblock]
        exact if_pos hlast
      · refine Or.inr ⟨by omega, leNat (block.1.take 4), fun fuel => ?_⟩
        rw [panicLoop, hblock]
        exact if_neg hlast

/-- There is a pass for each byte of room, and one more. -/
theorem panicLoop_bounded (hpage : pageSize < 2 ^ 32) {offset : ℕ} (hoff : offset ≤ hwBlockSize)
    (endOfLog : ℕ) (device : ℕ → Option HwBlock) (behind : ℕ → UInt8) (room addr : ℕ)
    (h : SizeOk pageSize wl) (hroom : pageSize ≤ wl.fwlogSize + room) :
    ∃ accesses wl', (∀ fuel ≥ room + 1,
        panicLoop pageSize offset endOfLog device behind fuel addr wl = some (accesses, wl')) ∧
      PanicBounded pageSize wl accesses wl' := by
  induction room generalizing addr wl with
  | zero =>
    obtain ⟨accesses, wl', -, hbounded, hlast | ⟨hgrown, -⟩⟩ :=
      panicLoop_pass hpage hoff endOfLog device behind addr h
    · refine ⟨accesses, wl', fun fuel hfuel => ?_, hbounded⟩
      rw [show fuel = fuel - 1 + 1 by omega]
      exact hlast _
    · -- the page is full, and nothing can be copied
      have hfull := hbounded.size.2
      omega
  | succ room ih =>
    obtain ⟨accesses, wl', hone, hbounded, hlast | ⟨hgrown, next, hnext⟩⟩ :=
      panicLoop_pass hpage hoff endOfLog device behind addr h
    · refine ⟨accesses, wl', fun fuel hfuel => ?_, hbounded⟩
      rw [show fuel = fuel - 1 + 1 by omega]
      exact hlast _
    · obtain ⟨accesses', wl'', hrest, hbounded'⟩ := ih next hbounded.size (by omega)
      refine ⟨accesses ++ accesses', wl'', fun fuel hfuel => ?_, ⟨?_, ?_, hbounded'.size, ?_⟩⟩
      · rw [show fuel = fuel - 1 + 1 by omega, hnext, hrest _ (by omega)]
        rfl
      · have hreads := hbounded'.hwBlocks
        rw [hwBlockReads, List.countP_append, ← hwBlockReads, ← hwBlockReads, hone]
        push_cast
        omega
      · exact fun a ha => (List.mem_append.mp ha).elim (hbounded.allowed a) (hbounded'.allowed a)
      · exact fun i hi => (hbounded'.frame i hi).trans (hbounded.frame i hi)

end

/-- For every memory of the chip, the log of a stopped firmware is read with at most
`PAGE_SIZE - fwlog_size + 1` blocks, inside of the buffer and inside of the page. -/
theorem readFwlogPanic_bounded (pageSize : ℕ) (hpage : pageSize < 2 ^ 32) (panic : FwLogPanic)
    (device : ℕ → Option HwBlock) (behind : ℕ → UInt8) (wl : FwLog) (hnonneg : 0 ≤ wl.fwlogSize)
    (hle : wl.fwlogSize ≤ pageSize) :
    ∃ accesses wl', (∀ fuel : ℕ, pageSize - wl.fwlogSize + 1 ≤ fuel →
        wl12xxReadFwlogPanic fuel pageSize panic device behind wl = some (accesses, wl')) ∧
      hwBlockReads accesses ≤ pageSize - wl.fwlogSize + 1 ∧
      (∀ i, .blockByte i ∈ accesses → i < hwBlockSize) ∧
      (∀ i, .logByte i ∈ accesses → i < pageSize) ∧
      (0 ≤ wl'.fwlogSize ∧ wl'.fwlogSize ≤ pageSize) ∧
      ∀ i ≥ pageSize, wl'.fwlog i = wl.fwlog i := by
  suffices h : ∃ accesses wl', (∀ fuel : ℕ, pageSize - wl.fwlogSize + 1 ≤ fuel →
      wl12xxReadFwlogPanic fuel pageSize panic device behind wl = some (accesses, wl')) ∧
      PanicBounded pageSize wl accesses wl' by
    obtain ⟨accesses, wl', hret, hbounded⟩ := h
    have hreads := hbounded.hwBlocks
    exact ⟨accesses, wl', hret, by omega, fun i hi => hbounded.allowed _ hi,
      fun i hi => hbounded.allowed _ hi, hbounded.size, hbounded.frame⟩
  have hnothing : PanicBounded pageSize wl [] wl :=
    ⟨show ((0 : ℕ) : ℤ) + wl.fwlogSize ≤ pageSize + 1 by omega, by simp, ⟨hnonneg, hle⟩,
      fun _ _ => rfl⟩
  have hloop {offset : ℕ} (hoff : offset ≤ hwBlockSize) (endOfLog addr : ℕ) :=
    panicLoop_bounded hpage hoff endOfLog device behind (pageSize - wl.fwlogSize).toNat addr
      ⟨hnonneg, hle⟩ (by omega)
  unfold wl12xxReadFwlogPanic
  split
  · exact ⟨[], wl, fun _ _ => rfl, hnothing⟩
  · split
    · exact ⟨[], wl, fun _ _ => rfl, hnothing⟩
    · split
      · exact ⟨[], wl, fun _ _ => rfl, hnothing⟩
      · cases panic.logStartAddr with
        | none => exact ⟨[], wl, fun _ _ => rfl, hnothing⟩
        | some addr =>
          by_cases hzero : addr = 0
          · simp only [if_pos hzero]
            exact ⟨[], wl, fun _ _ => rfl, hnothing⟩
          · simp only [if_neg hzero]
            cases panic.continuous with
            | true =>
              obtain ⟨accesses, wl', hret, hbounded⟩ := hloop (show 20 ≤ hwBlockSize by decide)
                fwLogEnd addr
              exact ⟨accesses, wl', fun fuel hfuel => hret fuel (by omega), hbounded⟩
            | false =>
              obtain ⟨accesses, wl', hret, hbounded⟩ := hloop (show 4 ≤ hwBlockSize by decide)
                addr addr
              exact ⟨accesses, wl', fun fuel hfuel => hret fuel (by omega), hbounded⟩

/-- Two blocks that point to each other, and never to the start. -/
theorem readFwlogPanic_bounded_cycle :
    let block (next : UInt8) : HwBlock :=
      ⟨[next, 0, 0, 0] ++ [1, 65] ++ List.replicate 250 0, by
        rw [List.length_append, List.length_replicate]
        rfl⟩
    let device (addr : ℕ) : Option HwBlock := some (block (if addr = 2 then 3 else 2))
    let panic : FwLogPanic := ⟨false, 1, true, true, some 1, false⟩
    ∃ accesses wl', (∀ fuel : ℕ, ((4096 : ℕ) : ℤ) - 4090 + 1 ≤ fuel →
        wl12xxReadFwlogPanic fuel 4096 panic device (fun _ => 0) ⟨fun _ => 0, 4090⟩ =
          some (accesses, wl')) ∧
      hwBlockReads accesses ≤ ((4096 : ℕ) : ℤ) - 4090 + 1 ∧
      (∀ i, .blockByte i ∈ accesses → i < hwBlockSize) ∧
      (∀ i, .logByte i ∈ accesses → i < 4096) ∧
      (0 ≤ wl'.fwlogSize ∧ wl'.fwlogSize ≤ (4096 : ℕ)) ∧
      ∀ i ≥ 4096, wl'.fwlog i = 0 := by
  intro block device panic
  exact readFwlogPanic_bounded 4096 (by decide) panic device (fun _ => 0) ⟨fun _ => 0, 4090⟩
    (by decide) (by decide)

end TiWlan.Rx
