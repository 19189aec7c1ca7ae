import TiWlan.Driver.Types
import TiWlan.Lib.Bytes
import TiWlan.Lib.MachInt
import TiWlan.Lib.Status

/-!
# Writes to the chip

Model of the address translation `wlcore_translate_addr` (`wlcore/io.c`, lines 69–100), of
`wlcore_set_partition` (lines 137–187), and of the inline functions of `wlcore/io.h` (lines 58–190)
for writes.

The chip is seen through four windows (`struct wlcore_partition_set`) that lie one behind the other
on the bus. The driver keeps the windows that it has set in `curr_part` and translates addresses of
the chip to addresses of the bus with it.

The log has every write that is handed to the bus. A translated write has the windows that were in
force, the address of the chip and the one of the bus. What the bus answers is a function of the
log, and so is the success of an allocation; an error of the bus can leave anything in the chip.
-/

namespace TiWlan.Driver

open TiWlan.Lib

/-- The values of the errors. -/
inductive IoErrno
  | enoent | eio | enomem | enodev | einval | eilseq
  deriving DecidableEq, Repr

def IoErrno.code : IoErrno → ℤ
  | .enoent => 2
  | .eio => 5
  | .enomem => 12
  | .enodev => 19
  | .einval => 22
  | .eilseq => 84

/-! ## Windows -/

/-- `struct wlcore_partition`. -/
structure Partition where
  size : ℕ
  start : ℕ
  deriving DecidableEq, Repr

/-- `struct wlcore_partition_set`. -/
structure PartitionSet where
  mem : Partition
  reg : Partition
  mem2 : Partition
  mem3 : Partition
  deriving DecidableEq, Repr

/-- The tests of `wlcore_translate_addr`; the end of a window wraps as a `u32`. -/
def Partition.Has (p : Partition) (addr : ℕ) : Prop :=
  p.start ≤ addr ∧ addr < u32 (p.start + p.size)

instance (p : Partition) (addr : ℕ) : Decidable (p.Has addr) := by
  unfold Partition.Has
  infer_instance

/-- `wlcore_translate_addr` (io.c:69). The comparisons are those of `u32`. -/
def wlcoreTranslateAddr (part : PartitionSet) (addr : ℤ) : ℤ :=
  if part.mem.Has (u32 addr) then s32 (addr - part.mem.start)
  else if part.reg.Has (u32 addr) then s32 (addr - part.reg.start + part.mem.size)
  else if part.mem2.Has (u32 addr) then
    s32 (addr - part.mem2.start + part.mem.size + part.reg.size)
  else if part.mem3.Has (u32 addr) then
    s32 (addr - part.mem3.start + part.mem.size + part.reg.size + part.mem2.size)
  -- WARN "HW address out of range"
  else 0

/-- The address of the chip that an address of the bus stands for: the windows lie one behind the
other. -/
def PartitionSet.deviceAddr (part : PartitionSet) (physical : ℕ) : ℕ :=
  if physical < part.mem.size then part.mem.start + physical
  else if physical < part.mem.size + part.reg.size then
    part.reg.start + (physical - part.mem.size)
  else if physical < part.mem.size + part.reg.size + part.mem2.size then
    part.mem2.start + (physical - part.mem.size - part.reg.size)
  else part.mem3.start + (physical - part.mem.size - part.reg.size - part.mem2.size)

/-! ## Events -/

inductive IoEvent
  /-- the driver reads `len` bytes at `pos` of the image that it uploads -/
  | read (pos len : ℕ)
  /-- a write to an address of the bus -/
  | rawWrite (addr : ℤ) (data : List UInt8)
  /-- a write to an address of the chip, translated to `physical` -/
  | write (part : PartitionSet) (addr physical : ℤ) (data : List UInt8)
  deriving DecidableEq, Repr

/-- What the driver does not decide. -/
structure IoEnv where
  /-- what `if_ops->write` returns for the last event of the log -/
  bus : List IoEvent → ℤ
  /-- whether memory is allocated -/
  kmalloc : List IoEvent → Bool

/-- The fields of `struct wl1271` that writes use, with the log. -/
structure Io where
  currPart : PartitionSet
  state : WlcoreState
  /-- `WL1271_FLAG_IO_FAILED` -/
  ioFailed : Bool
  log : List IoEvent

/-- More events in the log. -/
def Io.emit (io : Io) (evs : List IoEvent) : Io := { io with log := io.log ++ evs }

theorem Io.emit_emit (io : Io) (evs evs' : List IoEvent) :
    (io.emit evs).emit evs' = io.emit (evs ++ evs') := by
  rw [emit, emit, emit, List.append_assoc]

theorem Io.emit_up {io : Io} (h : io.ioFailed = false) (evs : List IoEvent) :
    (io.emit evs).ioFailed = false := h

/-- Reads of the image do not concern the chip. -/
def Io.read (io : Io) (pos len : ℕ) : Io := io.emit [.read pos len]

/-! ## Writes -/

/-- `wlcore_raw_write` (io.h:59), which is logged as `e`. -/
def wlcoreRawWrite (env : IoEnv) (e : IoEvent) (io : Io) : ℤ × Io :=
  if io.ioFailed then (-IoErrno.eio.code, io)
  else
    let log := io.log ++ [e]
    let ret := env.bus log
    (ret, { io with log := log, ioFailed := ret ≠ 0 ∧ io.state ≠ .off })

/-- `wlcore_raw_write32` (io.h:119). -/
def wlcoreRawWrite32 (env : IoEnv) (addr : ℤ) (val : ℕ) (io : Io) : ℤ × Io :=
  wlcoreRawWrite env (.rawWrite addr (leBytes 4 val)) io

/-- `wlcore_write` (io.h:137). -/
def wlcoreWrite (env : IoEnv) (addr : ℤ) (data : List UInt8) (io : Io) : ℤ × Io :=
  wlcoreRawWrite env (.write io.currPart addr (wlcoreTranslateAddr io.currPart addr) data) io

/-- `wlcore_write32` (io.h:182). -/
def wlcoreWrite32 (env : IoEnv) (addr : ℤ) (val : ℕ) (io : Io) : ℤ × Io :=
  wlcoreWrite env addr (leBytes 4 val) io

/-- `HW_PART0_SIZE_ADDR` and the registers behind it. -/
def hwPart0SizeAddr : ℤ := 0x1ffc0
def hwPart0StartAddr : ℤ := hwPart0SizeAddr + 4
def hwPart1SizeAddr : ℤ := hwPart0SizeAddr + 8
def hwPart1StartAddr : ℤ := hwPart0SizeAddr + 12
def hwPart2SizeAddr : ℤ := hwPart0SizeAddr + 16
def hwPart2StartAddr : ℤ := hwPart0SizeAddr + 20
def hwPart3StartAddr : ℤ := hwPart0SizeAddr + 24

/-- `wlcore_set_partition` (io.c:137). -/
def wlcoreSetPartition (env : IoEnv) (p : PartitionSet) (io : Io) : ℤ × Io :=
  proceed (wlcoreRawWrite32 env hwPart0StartAddr p.mem.start { io with currPart := p }) fun io =>
  proceed (wlcoreRawWrite32 env hwPart0SizeAddr p.mem.size io) fun io =>
  proceed (wlcoreRawWrite32 env hwPart1StartAddr p.reg.start io) fun io =>
  proceed (wlcoreRawWrite32 env hwPart1SizeAddr p.reg.size io) fun io =>
  proceed (wlcoreRawWrite32 env hwPart2StartAddr p.mem2.start io) fun io =>
  proceed (wlcoreRawWrite32 env hwPart2SizeAddr p.mem2.size io) fun io =>
  -- the size of the last window follows from the others
  wlcoreRawWrite32 env hwPart3StartAddr p.mem3.start io

/-! ## What they leave -/

section
variable {env : IoEnv} {io : Io}

theorem wlcoreRawWrite_logged (e : IoEvent) :
    Logged Io.log io (wlcoreRawWrite env e io) [e] fun io' => io'.currPart = io.currPart := by
  intro hnonneg
  rw [wlcoreRawWrite] at hnonneg ⊢
  by_cases hfailed : io.ioFailed = true
  · rw [if_pos hfailed] at hnonneg
    exact absurd hnonneg (show ¬(0 : ℤ) ≤ -5 by decide)
  · rw [if_neg hfailed]
    exact ⟨rfl, rfl⟩

theorem wlcoreRawWrite_extends {P : IoEvent → Prop} {e : IoEvent} (he : P e) :
    Extends Io.log P io (wlcoreRawWrite env e io).2 := by
  rw [wlcoreRawWrite]
  split
  · exact Extends.refl io
  · exact Extends.of_log_append rfl he

/-- The writes to the registers of the windows. -/
def partitionWrites (p : PartitionSet) : List IoEvent :=
  [.rawWrite hwPart0StartAddr (leBytes 4 p.mem.start),
    .rawWrite hwPart0SizeAddr (leBytes 4 p.mem.size),
    .rawWrite hwPart1StartAddr (leBytes 4 p.reg.start),
    .rawWrite hwPart1SizeAddr (leBytes 4 p.reg.size),
    .rawWrite hwPart2StartAddr (leBytes 4 p.mem2.start),
    .rawWrite hwPart2SizeAddr (leBytes 4 p.mem2.size),
    .rawWrite hwPart3StartAddr (leBytes 4 p.mem3.start)]

theorem wlcoreSetPartition_logged (p : PartitionSet) :
    Logged Io.log io (wlcoreSetPartition env p io) (partitionWrites p) fun io' =>
      io'.currPart = p := by
  have hwrite (addr : ℤ) (val : ℕ) (io' : Io) (hpart : io'.currPart = p) :
      Logged Io.log io' (wlcoreRawWrite32 env addr val io') [.rawWrite addr (leBytes 4 val)]
        fun io'' => io''.currPart = p := by
    subst hpart
    exact wlcoreRawWrite_logged _
  have hrest := (hwrite hwPart0StartAddr p.mem.start { io with currPart := p } rfl).proceed
    fun _ h => (hwrite hwPart0SizeAddr p.mem.size _ h).proceed
    fun _ h => (hwrite hwPart1StartAddr p.reg.start _ h).proceed
    fun _ h => (hwrite hwPart1SizeAddr p.reg.size _ h).proceed
    fun _ h => (hwrite hwPart2StartAddr p.mem2.start _ h).proceed
    fun _ h => (hwrite hwPart2SizeAddr p.mem2.size _ h).proceed
    fun _ h => hwrite hwPart3StartAddr p.mem3.start _ h
  exact hrest

/-- A property of events that all writes have. -/
structure OfWrites (P : IoEvent → Prop) : Prop where
  rawWrite : ∀ addr data, P (.rawWrite addr data)
  write : ∀ part addr physical data, P (.write part addr physical data)

theorem OfWrites.true : OfWrites fun _ => True := ⟨fun _ _ => trivial, fun _ _ _ _ => trivial⟩

theorem wlcoreSetPartition_extends {P : IoEvent → Prop} (hP : OfWrites P) (p : PartitionSet) :
    Extends Io.log P io (wlcoreSetPartition env p io).2 := by
  have hwrite (addr : ℤ) (val : ℕ) (io' : Io) :
      Extends Io.log P io' (wlcoreRawWrite32 env addr val io').2 :=
    wlcoreRawWrite_extends (hP.rawWrite _ _)
  have hstart : Extends Io.log P io { io with currPart := p } := Extends.of_log_eq rfl
  exact hstart.trans <| (hwrite _ _ _).proceed fun _ => (hwrite _ _ _).proceed
    fun _ => (hwrite _ _ _).proceed fun _ => (hwrite _ _ _).proceed
    fun _ => (hwrite _ _ _).proceed fun _ => (hwrite _ _ _).proceed fun _ => hwrite _ _ _

theorem logged_of_read {p n : ℕ} {r : ℤ × Io} {evs : List IoEvent} {Q : Io → Prop}
    (h : Logged Io.log (io.read p n) r evs Q) : Logged Io.log io r (.read p n :: evs) Q := by
  intro hr
  obtain ⟨hlog, hq⟩ := h hr
  exact ⟨by rw [hlog, Io.read, Io.emit, List.append_assoc, List.singleton_append], hq⟩

theorem wlcoreWrite_logged (addr : ℤ) (data : List UInt8) :
    Logged Io.log io (wlcoreWrite env addr data io)
      [.write io.currPart addr (wlcoreTranslateAddr io.currPart addr) data]
      fun io' => io'.currPart = io.currPart :=
  wlcoreRawWrite_logged _

theorem wlcoreWrite_extends {P : IoEvent → Prop} (hP : OfWrites P) {p n : ℕ} (hread : P (.read p n))
    (addr : ℤ) (data : List UInt8) :
    Extends Io.log P io (wlcoreWrite env addr data (io.read p n)).2 := by
  have hfirst : Extends Io.log P io (io.read p n) := Extends.of_log_append rfl hread
  exact hfirst.trans (wlcoreRawWrite_extends (hP.write _ _ _ _))

/-! ## Without errors -/

/-- Every write succeeds and there is always memory. -/
structure IoEnv.Succeeds (env : IoEnv) : Prop where
  bus : ∀ log, env.bus log = 0
  kmalloc : ∀ log, env.kmalloc log = true

/-- A run without an error. -/
structure Works (r : ℤ × Io) : Prop where
  ret : r.1 = 0
  up : r.2.ioFailed = false

theorem Works.proceed {r : ℤ × Io} {k : Io → ℤ × Io} (h : Works r)
    (hk : ∀ io, io.ioFailed = false → Works (k io)) : Works (Lib.proceed r k) := by
  rw [proceed_of_nonneg h.ret.ge]
  exact hk r.2 h.up

theorem wlcoreRawWrite_eq (henv : env.Succeeds) (hio : io.ioFailed = false) (e : IoEvent) :
    wlcoreRawWrite env e io = (0, io.emit [e]) := by
  rw [wlcoreRawWrite, if_neg (by simp [hio])]
  simp [henv.bus, Io.emit, hio]

theorem wlcoreRawWrite_works (henv : env.Succeeds) (hio : io.ioFailed = false) (e : IoEvent) :
    Works (wlcoreRawWrite env e io) := by
  rw [wlcoreRawWrite_eq henv hio]
  exact ⟨rfl, hio⟩

/-- A write whose data was read from an image. -/
theorem wlcoreWrite_works (henv : env.Succeeds) (hio : io.ioFailed = false) (p n : ℕ) (addr : ℤ)
    (data : List UInt8) :
    Works (wlcoreWrite env addr data (io.read p n)) ∧
      .read p n ∈ (wlcoreWrite env addr data (io.read p n)).2.log := by
  have hio' : (io.read p n).ioFailed = false := hio
  have hread : IoEvent.read p n ∈ (io.read p n).log :=
    List.mem_append_right _ (List.mem_singleton.mpr rfl)
  have hgrown : Extends Io.log (fun _ => True) (io.read p n)
      (wlcoreWrite env addr data (io.read p n)).2 := wlcoreRawWrite_extends trivial
  exact ⟨wlcoreRawWrite_works henv hio' _, hgrown.mem_of_mem hread⟩

theorem wlcoreSetPartition_works (henv : env.Succeeds) (hio : io.ioFailed = false)
    (p : PartitionSet) : Works (wlcoreSetPartition env p io) := by
  have hwrite (addr : ℤ) (val : ℕ) (io' : Io) (h : io'.ioFailed = false) :
      Works (wlcoreRawWrite32 env addr val io') := wlcoreRawWrite_works henv h _
  rw [wlcoreSetPartition]
  exact (hwrite _ _ _ (by exact hio)).proceed fun _ h => (hwrite _ _ _ h).proceed
    fun _ h => (hwrite _ _ _ h).proceed fun _ h => (hwrite _ _ _ h).proceed
    fun _ h => (hwrite _ _ _ h).proceed fun _ h => (hwrite _ _ _ h).proceed
    fun _ h => hwrite _ _ _ h

end

/-! ## The memory window -/

/-- An address in the memory window that does not reach the end of the address space. -/
theorem wlcoreTranslateAddr_mem {part : PartitionSet} {addr : ℕ} (hstart : part.mem.start ≤ addr)
    (hend : addr < part.mem.start + part.mem.size) (hsize : part.mem.size ≤ 2 ^ 30)
    (htop : part.mem.start < 2 ^ 31) :
    wlcoreTranslateAddr part addr = (addr - part.mem.start : ℕ) := by
  have haddr : u32 (addr : ℤ) = addr := u32_of_lt (by omega)
  have htotal : u32 ((part.mem.start : ℤ) + part.mem.size) = part.mem.start + part.mem.size := by
    unfold u32
    omega
  have hhas : part.mem.Has (u32 (addr : ℤ)) := by
    rw [Partition.Has, haddr, htotal]
    exact ⟨hstart, hend⟩
  rw [wlcoreTranslateAddr, if_pos hhas, s32_of_lt (by omega) (by omega)]
  omega

end TiWlan.Driver
