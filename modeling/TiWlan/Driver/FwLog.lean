import TiWlan.Lib.Bytes
import TiWlan.Lib.MachInt
import TiWlan.Lib.Memory

/-!
# The firmware log

Model of `wl12xx_copy_fwlog` (`wlcore/main.c`, lines 803–824), which appends blocks of the
firmware's log to a page, and of `wl1271_sysfs_read_fwlog` (lines 5489–5545), which hands the
front of the page to a reader. The page has `pageSize` bytes. `wl12xx_read_fwlog_panic` (lines
828–898) copies the blocks that a firmware has left behind when it stopped; they are a linked list
in the memory of the chip, with any contents.

A read of an empty log waits and is modelled when it gets on; until then it does nothing.
-/

namespace TiWlan.Driver

open TiWlan.Lib

/-- The log's page and how much of it is filled (`ssize_t`). -/
structure FwLog where
  fwlog : ℕ → UInt8
  fwlogSize : ℤ

/-- The loop of `wl12xx_copy_fwlog` (main.c:808): the end of the length-value list that starts at
`len`. -/
def fwlogEnd (memblock : List UInt8) (len : ℕ) : ℕ :=
  if h : len < memblock.length then
    if memblock[len].toNat = 0 then len
    else if memblock.length < len + memblock[len].toNat + 1 then len
    else fwlogEnd memblock (len + memblock[len].toNat + 1)
  else len
termination_by memblock.length - len

/-- `wl12xx_copy_fwlog` (main.c:803) for a block of `maxlen` bytes, with the length it returns. -/
def wl12xxCopyFwlog (pageSize : ℕ) (wl : FwLog) (memblock : List UInt8) : ℕ × FwLog :=
  let len := min (fwlogEnd memblock 0) (u32 (pageSize - wl.fwlogSize))
  (len, { fwlog := storeAt wl.fwlog wl.fwlogSize.toNat (memblock.take len)
          fwlogSize := wl.fwlogSize + len })

/-- What a reader gets. -/
inductive FwLogRead where
  /-- the log is empty: the reader waits, or returns `-ERESTARTSYS` on a signal -/
  | wait
  | data (bytes : List UInt8)
  deriving DecidableEq, Repr

/-- `wl1271_sysfs_read_fwlog` (main.c:5489). -/
def wl1271SysfsReadFwlog (wl : FwLog) (count : ℕ) : FwLogRead × FwLog :=
  if wl.fwlogSize = 0 then (.wait, wl)
  -- "Check if the fwlog is still valid"
  else if wl.fwlogSize < 0 then (.data [], wl)
  else
    let len := min count (u32 wl.fwlogSize)
    let left := wl.fwlogSize - len
    (.data (loadAt wl.fwlog 0 len),
      { fwlog := storeAt wl.fwlog 0 (loadAt wl.fwlog len left.toNat)
        fwlogSize := left })

/-- The log with what has gone through it. -/
structure FwLogSys extends FwLog where
  /-- the prefixes that `wl12xx_copy_fwlog` accepted -/
  accepted : List UInt8
  /-- the bytes that readers got -/
  delivered : List UInt8

namespace FwLogSys

/-- The zeroed page of `wlcore_alloc_hw` (main.c:5909, 5946). -/
def start : FwLogSys := ⟨⟨fun _ => 0, 0⟩, [], []⟩

inductive Act where
  | copy (memblock : List UInt8)
  | read (count : ℕ)
  deriving DecidableEq, Repr

def step (pageSize : ℕ) (s : FwLogSys) : Act → FwLogSys
  | .copy memblock =>
    let r := wl12xxCopyFwlog pageSize s.toFwLog memblock
    { s with toFwLog := r.2, accepted := s.accepted ++ memblock.take r.1 }
  | .read count =>
    match wl1271SysfsReadFwlog s.toFwLog count with
    | (.wait, wl) => { s with toFwLog := wl }
    | (.data bytes, wl) => { s with toFwLog := wl, delivered := s.delivered ++ bytes }

/-- The bytes in the page. -/
def stored (s : FwLogSys) : List UInt8 := loadAt s.fwlog 0 s.fwlogSize.toNat

/-- The complete records of a block fit into the rest of the page. -/
def HasRoom (pageSize : ℕ) (s : FwLogSys) : Act → Prop
  | .copy memblock => s.fwlogSize + fwlogEnd memblock 0 ≤ pageSize
  | .read _ => True

end FwLogSys

/-! ## The log of a stopped firmware -/

/-- `WL12XX_HW_BLOCK_SIZE`. -/
def hwBlockSize : ℕ := 256

/-- The contents of a block of the chip's memory. -/
abbrev HwBlock := { block : List UInt8 // block.length = hwBlockSize }

/-- What `wl12xx_read_fwlog_panic` accesses. -/
inductive FwLogAccess
  /-- `wlcore_read_hwaddr` reads a block of the chip -/
  | hwBlock (addr : ℕ)
  /-- a byte of the buffer `block` is read -/
  | blockByte (i : ℕ)
  /-- a byte of the page is written -/
  | logByte (i : ℕ)
  deriving DecidableEq, Repr

/-- The loop of `wl12xx_copy_fwlog` (main.c:808) as it looks at the memory from `memblock` on: the
end of the list, and the bytes that were read on the way. -/
def fwlogScan (memblock : ℕ → UInt8) (maxlen len : ℕ) : ℕ × List ℕ :=
  if len < maxlen then
    if (memblock len).toNat = 0 then (len, [len])
    else if maxlen < len + (memblock len).toNat + 1 then (len, [len, len])
    else
      let r := fwlogScan memblock maxlen (len + (memblock len).toNat + 1)
      (r.1, [len, len, len] ++ r.2)
  else (len, [])
termination_by maxlen - len

/-- The accesses of `wl12xx_copy_fwlog` (main.c:803) for the block from `offset` on. -/
def copyAccesses (pageSize : ℕ) (wl : FwLog) (block : ℕ → UInt8) (offset : ℕ) : List FwLogAccess :=
  let scan := fwlogScan (fun i => block (offset + i)) (hwBlockSize - offset) 0
  let len := min scan.1 (u32 (pageSize - wl.fwlogSize))
  scan.2.map (fun i => .blockByte (offset + i)) ++
    (List.range len).flatMap fun i =>
      [.blockByte (offset + i), .logByte (wl.fwlogSize.toNat + i)]

/-- `WLCORE_FW_LOG_END`. -/
def fwLogEnd : ℕ := 0x2000000

/-- The loop of `wl12xx_read_fwlog_panic` (main.c:872), with the number of passes bounded by `fuel`.
A block that cannot be read is `none`; `behind` is the memory behind the buffer. -/
def panicLoop (pageSize offset endOfLog : ℕ) (device : ℕ → Option HwBlock) (behind : ℕ → UInt8) :
    ℕ → ℕ → FwLog → Option (List FwLogAccess × FwLog)
  | 0, _, _ => none
  | fuel + 1, addr, wl =>
    match device addr with
    | none => some ([.hwBlock addr], wl)
    | some block =>
      let next := leNat (block.1.take 4)
      let r := wl12xxCopyFwlog pageSize wl (block.1.drop offset)
      let accesses := .hwBlock addr :: (List.range 4).map .blockByte ++
        copyAccesses pageSize wl (memoryOf block.1 behind) offset
      if r.1 = 0 ∨ next = 0 ∨ next = endOfLog then some (accesses, r.2)
      else (panicLoop pageSize offset endOfLog device behind fuel next r.2).map fun s =>
        (accesses ++ s.1, s.2)

/-- What `wl12xx_read_fwlog_panic` finds. -/
structure FwLogPanic where
  /-- `WLCORE_QUIRK_FWLOG_NOT_IMPLEMENTED` -/
  notImplemented : Bool
  /-- `conf.fwlog.mem_blocks` -/
  memBlocks : ℕ
  /-- the buffer is allocated -/
  kmalloc : Bool
  /-- `wl1271_ps_elp_wakeup` succeeds -/
  wakeup : Bool
  /-- `log_start_addr` of the status, if it can be read -/
  logStartAddr : Option ℕ
  /-- `conf.fwlog.mode` is `WL12XX_FWLOG_CONTINUOUS` -/
  continuous : Bool

/-- `wl12xx_read_fwlog_panic` (main.c:828). The command that stops the logger is left out: its
result is ignored. -/
def wl12xxReadFwlogPanic (fuel pageSize : ℕ) (panic : FwLogPanic) (device : ℕ → Option HwBlock)
    (behind : ℕ → UInt8) (wl : FwLog) : Option (List FwLogAccess × FwLog) :=
  if panic.notImplemented = true ∨ panic.memBlocks = 0 then some ([], wl)
  else if panic.kmalloc = false then some ([], wl)
  else if panic.wakeup = false then some ([], wl)
  else match panic.logStartAddr with
    | none => some ([], wl)
    | some addr =>
      if addr = 0 then some ([], wl)
      else if panic.continuous then
        -- the pointer and a receive descriptor
        panicLoop pageSize 20 fwLogEnd device behind fuel addr wl
      else panicLoop pageSize 4 addr device behind fuel addr wl

end TiWlan.Driver
