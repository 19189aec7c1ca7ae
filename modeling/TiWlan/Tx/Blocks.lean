import TiWlan.Lib.Run
import TiWlan.Lib.MachInt
import TiWlan.Tx.Admission
import TiWlan.Tx.Keep

/-!
# Accounting of the firmware's Tx memory blocks

The host may hand over a frame when its blocks fit into `tx_blocks_available`
(`wl1271_tx_allocate`), and learns from the status block how many blocks the firmware has
released and how large its Tx pool is (`wlcore_fw_status`, `wlcore/main.c`, lines 416–466).
The firmware moves blocks between its Tx and Rx pools: it announces that occupied Tx blocks
will go to the Rx pool by lowering `tx_total` before it reports their release, and it gives
free blocks to the Tx pool by raising `tx_total`.

`BlkSys` is the driver together with that pool. Main results:

* `blkStep_inv`: the invariant `BlkInv` that relates the counters of the two sides;
* `blocks_run`: in every run the host's count of allocated blocks is exact and what it takes
  for available is really free, and after a status read without outstanding moves the two add
  up to `tx_total`.
-/

namespace TiWlan.Tx

open TiWlan.Lib TiWlan.Driver

/-- The blocks that a list of packets occupies. -/
def pktBlocks (l : List HwPkt) : ℕ := (l.map HwPkt.blocks).sum

@[simp] theorem pktBlocks_nil : pktBlocks [] = 0 := rfl

@[simp] theorem pktBlocks_cons (p : HwPkt) (l : List HwPkt) :
    pktBlocks (p :: l) = p.blocks + pktBlocks l := by
  simp [pktBlocks]

@[simp] theorem pktBlocks_append (l l' : List HwPkt) :
    pktBlocks (l ++ l') = pktBlocks l + pktBlocks l' := by
  simp [pktBlocks]

theorem pktBlocks_eraseIdx {l : List HwPkt} {i : ℕ} {p : HwPkt} (h : l[i]? = some p) :
    pktBlocks (l.eraseIdx i) + p.blocks = pktBlocks l := by
  induction l generalizing i with
  | nil => simp at h
  | cons a l ih =>
    cases i with
    | zero =>
      cases h
      simp [add_comm]
    | succ i =>
      have := ih (i := i) (by simpa using h)
      simp only [List.eraseIdx_cons_succ, pktBlocks_cons]
      omega

/-! ## The driver side -/

/-- The block counters and the packets in the firmware are the same. -/
structure BlocksKeep (wl wl' : Wl1271) : Prop where
  freed : wl'.txBlocksFreed = wl.txBlocksFreed
  available : wl'.txBlocksAvailable = wl.txBlocksAvailable
  allocated : wl'.txAllocatedBlocks = wl.txAllocatedBlocks
  held : wl'.fwHeld = wl.fwHeld

namespace BlocksKeep

theorem refl (wl : Wl1271) : BlocksKeep wl wl := ⟨rfl, rfl, rfl, rfl⟩

theorem trans {wl wl' wl'' : Wl1271} (h : BlocksKeep wl wl') (h' : BlocksKeep wl' wl'') :
    BlocksKeep wl wl'' :=
  ⟨h'.freed.trans h.freed, h'.available.trans h.available, h'.allocated.trans h.allocated,
    h'.held.trans h.held⟩

theorem foldl {α : Type} {f : Wl1271 → α → Wl1271} (hf : ∀ wl a, BlocksKeep wl (f wl a))
    (l : List α) (wl : Wl1271) : BlocksKeep wl (l.foldl f wl) :=
  foldl_rel refl trans (fun wl a _ => hf wl a) wl

end BlocksKeep

/-- What a successful `wl1271_tx_allocate` does to the block counters. -/
structure Committed (wl wl' : Wl1271) (a : TxAlloc) : Prop where
  fits : a.totalBlocks ≤ wl.txBlocksAvailable
  freed : wl'.txBlocksFreed = wl.txBlocksFreed
  available : wl'.txBlocksAvailable = wl.txBlocksAvailable - a.totalBlocks
  allocated : wl'.txAllocatedBlocks = u32 (wl.txAllocatedBlocks + a.totalBlocks)
  held : pktBlocks wl'.fwHeld = pktBlocks wl.fwHeld + a.totalBlocks

theorem allocated_blocks {wl : Wl1271} {v : Option VifId} {skb : Skb} {extra off : ℕ} {h : Hlid}
    {gem : Bool} {r : Except Errno TxAlloc × Wl1271}
    (hpath : TxAllocated wl v skb extra off h gem r) :
    (∃ a wl', r = (.ok a, wl') ∧ Committed wl wl' a) ∨
      ∃ e wl', r = (.error e, wl') ∧ BlocksKeep wl wl' := by
  cases hpath with
  | full | noId => exact Or.inr ⟨_, _, rfl, .refl _⟩
  | noBlocks =>
    refine Or.inr ⟨_, _, rfl, ?_⟩
    unfold wl1271FreeTxId
    split <;> exact ⟨rfl, rfl, rfl, rfl⟩
  | handed _ _ _ _ hfits =>
    exact Or.inl ⟨_, _, rfl, hfits, rfl, rfl, rfl, by simp [txAllocateCommit]⟩

theorem wl12xxPsLinkStart_blocks (wl : Wl1271) (h : Hlid) (clean found : Bool) :
    BlocksKeep wl (wl12xxPsLinkStart wl h clean found) := by
  unfold wl12xxPsLinkStart
  split_ifs <;> exact ⟨rfl, rfl, rfl, rfl⟩

theorem updateLinkStatus_blocks (st : FwStatus) (wl : Wl1271) (h : Hlid) :
    BlocksKeep wl (updateLinkStatus st wl h) := by
  dsimp only [updateLinkStatus, wl12xxIrqPsRegulateLink]
  split_ifs
  · unfold wl12xxPsLinkEnd
    split_ifs <;> exact ⟨rfl, rfl, rfl, rfl⟩
  · refine BlocksKeep.trans ?_ (wl12xxPsLinkStart_blocks _ h true _)
    exact ⟨rfl, rfl, rfl, rfl⟩
  · exact ⟨rfl, rfl, rfl, rfl⟩

/-- Apart from `fwStatusAccounting`, a status block does not concern the block counters. -/
theorem wlcoreFwStatus_blocks (wl : Wl1271) (st : FwStatus) :
    BlocksKeep { wl with toTxAccounting := fwStatusAccounting wl st } (wlcoreFwStatus wl st) := by
  refine .foldl (f := wl12xxIrqUpdateLinksStatus st) (fun wl v => ?_) _ _
  refine BlocksKeep.trans ?_ (.foldl (f := updateLinkStatus st) (updateLinkStatus_blocks st) _ _)
  exact ⟨rfl, rfl, rfl, rfl⟩

/-- The wrapping difference of the release counters is the number of blocks released since the
last status block. -/
theorem freedBlocks_eq {wl : Wl1271} {st : FwStatus} {rep d : ℕ}
    (hfreed : wl.txBlocksFreed = rep % 2 ^ 32) (hst : st.totalReleasedBlks = (rep + d) % 2 ^ 32)
    (hd : d < 2 ^ 31) : freedBlocks wl st = d := by
  unfold freedBlocks s32
  rw [hfreed, hst]
  split_ifs <;> omega

/-! ## The driver and the firmware's pool -/

/-- The driver and the Tx pool of the firmware; the packets in the firmware are
`wl.fwHeld`. -/
structure BlkSys where
  wl : Wl1271
  /-- Tx blocks that are really free -/
  free : ℤ
  /-- occupied Tx blocks announced to move to the Rx pool -/
  moving : ℕ
  /-- `tx_total` -/
  total : ℤ
  /-- blocks released since boot; the firmware reports this number modulo `2 ^ 32` -/
  released : ℕ
  /-- packets released since the last status read -/
  unreported : List HwPkt

/-- The blocks that packets occupy. -/
def BlkSys.occupied (s : BlkSys) : ℕ := pktBlocks s.wl.fwHeld

/-- What the two sides can do. -/
inductive BlkOp
  /-- the host calls `wl1271_tx_allocate` -/
  | allocate (v : Option VifId) (skb : Skb) (extra off : ℕ) (h : Hlid) (gem : Bool)
  /-- the firmware releases its `i`-th packet; `moved` of the blocks go to the Rx pool -/
  | release (i moved : ℕ)
  /-- the firmware announces that `k` occupied blocks will move to the Rx pool -/
  | announce (k : ℕ)
  /-- the firmware gives `k` free blocks to the Tx pool -/
  | give (k : ℕ)
  /-- the host reads a status block, whose other fields are those of `st` -/
  | readStatus (st : FwStatus)
  /-- anything that does not concern the accounting -/
  | other (x : Wl1271)

/-- The free blocks after an attempt to hand over a frame. -/
def freeAfter (free : ℤ) : Except Errno TxAlloc → ℤ
  | .ok a => free - a.totalBlocks
  | .error _ => free

/-- One step of either side. -/
def blkStep (s : BlkSys) : BlkOp → BlkSys
  | .allocate v skb extra off h gem =>
    { s with
      wl := (wl1271TxAllocate s.wl v skb extra off h gem).2
      free := freeAfter s.free (wl1271TxAllocate s.wl v skb extra off h gem).1 }
  | .release i moved =>
    match s.wl.fwHeld[i]? with
    | none => s
    | some p =>
      { s with
        wl := { s.wl with fwHeld := s.wl.fwHeld.eraseIdx i }
        free := s.free + p.blocks - moved
        moving := s.moving - moved
        released := s.released + p.blocks
        unreported := p :: s.unreported }
  | .announce k => { s with total := s.total - k, moving := s.moving + k }
  | .give k => { s with total := s.total + k, free := s.free + k }
  | .readStatus st =>
    { s with
      wl := wlcoreFwStatus s.wl
        { st with totalReleasedBlks := s.released % 2 ^ 32, txTotal := s.total.toNat }
      unreported := [] }
  | .other x => { s with wl := { x with toTxAccounting := s.wl.toTxAccounting } }

/-- What is assumed of the firmware, with `mem` memory blocks in all: blocks move to the Rx
pool as announced, only occupied blocks are announced, and the Tx pool fits into memory. -/
def BlkOp.Legit (mem : ℕ) (s : BlkSys) : BlkOp → Prop
  | .release i moved =>
    ∀ p, s.wl.fwHeld[i]? = some p →
      moved ≤ p.blocks ∧ moved ≤ s.moving ∧ s.moving + p.blocks ≤ s.occupied + moved
  | .announce k => s.moving + k ≤ s.occupied
  | .give k => s.free + s.occupied + k ≤ mem
  | _ => True

/-- The counters of the two sides. -/
structure BlkInv (mem : ℕ) (s : BlkSys) : Prop where
  allocated : s.wl.txAllocatedBlocks = s.occupied + pktBlocks s.unreported
  freed : ∃ rep, s.wl.txBlocksFreed = rep % 2 ^ 32 ∧ s.released = rep + pktBlocks s.unreported
  available : (s.wl.txBlocksAvailable : ℤ) ≤ s.free
  total : s.total = s.free + s.occupied - s.moving
  moving : s.moving ≤ s.occupied
  pool : s.free + s.occupied ≤ mem
  committed : s.wl.txBlocksAvailable + s.wl.txAllocatedBlocks ≤ mem

section
variable {mem : ℕ} {s : BlkSys}

theorem allocate_inv (hmem : mem < 2 ^ 31) (h : BlkInv mem s) (v : Option VifId) (skb : Skb)
    (extra off : ℕ) (l : Hlid) (gem : Bool) :
    BlkInv mem (blkStep s (.allocate v skb extra off l gem)) := by
  obtain ⟨hal, ⟨rep, hfr, hrel⟩, hav, htot, hmov, hpool, hcom⟩ := h
  rcases allocated_blocks (wl1271TxAllocate_path s.wl v skb extra off l gem) with
    ⟨a, wl', heq, hc⟩ | ⟨e, wl', heq, hk⟩
  · have hfits := hc.fits
    have hu32 : u32 (s.wl.txAllocatedBlocks + a.totalBlocks) =
        s.wl.txAllocatedBlocks + a.totalBlocks := by
      rw [← Nat.cast_add]
      exact u32_of_lt (by omega)
    have hal' := hc.allocated
    have hav' := hc.available
    have hheld := hc.held
    rw [hu32] at hal'
    have hstep : blkStep s (.allocate v skb extra off l gem) =
        { s with wl := wl', free := s.free - a.totalBlocks } := by
      simp only [blkStep, heq, freeAfter]
    rw [hstep]
    unfold BlkSys.occupied at *
    refine ⟨?_, ⟨rep, hc.freed.trans hfr, hrel⟩, ?_, ?_, ?_, ?_, ?_⟩ <;>
      simp only [BlkSys.occupied] <;> omega
  · have hstep : blkStep s (.allocate v skb extra off l gem) = { s with wl := wl' } := by
      simp only [blkStep, heq, freeAfter]
    rw [hstep]
    refine ⟨?_, ⟨rep, hk.freed.trans hfr, hrel⟩, ?_, ?_, ?_, ?_, ?_⟩ <;>
      simp only [BlkSys.occupied, hk.held, hk.allocated, hk.available] <;> assumption

theorem release_inv (h : BlkInv mem s) {i moved : ℕ} (hop : (BlkOp.release i moved).Legit mem s) :
    BlkInv mem (blkStep s (.release i moved)) := by
  obtain ⟨hal, ⟨rep, hfr, hrel⟩, hav, htot, hmov, hpool, hcom⟩ := h
  dsimp only [blkStep]
  split
  · exact ⟨hal, ⟨rep, hfr, hrel⟩, hav, htot, hmov, hpool, hcom⟩
  · rename_i p hp
    obtain ⟨hm₁, hm₂, hm₃⟩ := hop p hp
    have herase := pktBlocks_eraseIdx hp
    unfold BlkSys.occupied at *
    refine ⟨?_, ⟨rep, hfr, ?_⟩, ?_, ?_, ?_, ?_, hcom⟩ <;>
      simp only [BlkSys.occupied, pktBlocks_cons] <;> omega

/-- A status read: the released blocks are taken off and the larger of the old value and the
rest of the pool becomes available. -/
theorem readStatus_counters (hmem : mem < 2 ^ 31) (h : BlkInv mem s) (st : FwStatus) :
    (blkStep s (.readStatus st)).wl.txAllocatedBlocks = s.occupied ∧
      ((blkStep s (.readStatus st)).wl.txBlocksAvailable : ℤ) =
        max (s.wl.txBlocksAvailable : ℤ) (s.total - s.occupied) ∧
      (blkStep s (.readStatus st)).wl.txBlocksFreed = s.released % 2 ^ 32 ∧
      (blkStep s (.readStatus st)).wl.fwHeld = s.wl.fwHeld := by
  obtain ⟨hal, ⟨rep, hfr, hrel⟩, hav, htot, hmov, hpool, hcom⟩ := h
  have hkeep := wlcoreFwStatus_blocks s.wl
    { st with totalReleasedBlks := s.released % 2 ^ 32, txTotal := s.total.toNat }
  have hfreed : freedBlocks s.wl
      { st with totalReleasedBlks := s.released % 2 ^ 32, txTotal := s.total.toNat } =
      pktBlocks s.unreported :=
    freedBlocks_eq hfr (by rw [hrel]) (by omega)
  have hu32 : u32 (s.wl.txAllocatedBlocks - (pktBlocks s.unreported : ℤ)) = s.occupied := by
    rw [u32_sub_of_le (by omega) (by omega)]
    omega
  have htotal : ((s.total.toNat : ℕ) : ℤ) = s.total := Int.toNat_of_nonneg (by omega)
  refine ⟨?_, ?_, hkeep.freed.trans rfl, hkeep.held.trans rfl⟩
  · refine hkeep.allocated.trans ?_
    simp only [fwStatusAccounting, hfreed, hu32]
  · rw [show (blkStep s (.readStatus st)).wl.txBlocksAvailable = _ from hkeep.available]
    simp only [fwStatusAccounting, hfreed, hu32, htotal]
    rw [s32_of_lt (by omega) (by omega), s32_of_lt (by omega) (by omega)]
    unfold u32
    omega

theorem readStatus_inv (hmem : mem < 2 ^ 31) (h : BlkInv mem s) (st : FwStatus) :
    BlkInv mem (blkStep s (.readStatus st)) := by
  obtain ⟨hal', hav', hfr', hheld'⟩ := readStatus_counters hmem h st
  obtain ⟨hal, ⟨rep, hfr, hrel⟩, hav, htot, hmov, hpool, hcom⟩ := h
  have hocc : (blkStep s (.readStatus st)).occupied = s.occupied := congrArg pktBlocks hheld'
  have hfree : (blkStep s (.readStatus st)).free = s.free := rfl
  have hmoving : (blkStep s (.readStatus st)).moving = s.moving := rfl
  refine ⟨?_, ⟨s.released, hfr', rfl⟩, ?_, ?_, ?_, ?_, ?_⟩
  · rw [hal', hocc]; rfl
  · rw [hav', hfree]; omega
  · rw [hocc]; exact htot
  · rw [hocc]; exact hmov
  · rw [hocc]; exact hpool
  · omega

/-- Every step keeps the invariant. -/
theorem blkStep_inv (hmem : mem < 2 ^ 31) (h : BlkInv mem s) {op : BlkOp} (hop : op.Legit mem s) :
    BlkInv mem (blkStep s op) := by
  cases op with
  | allocate v skb extra off l gem => exact allocate_inv hmem h v skb extra off l gem
  | release i moved => exact release_inv h hop
  | readStatus st => exact readStatus_inv hmem h st
  | other x =>
    exact ⟨h.allocated, h.freed, h.available, h.total, h.moving, h.pool, h.committed⟩
  | announce k =>
    obtain ⟨hal, hfr, hav, htot, hmov, hpool, hcom⟩ := h
    have hk : s.moving + k ≤ s.occupied := hop
    refine ⟨hal, hfr, hav, ?_, hk, hpool, hcom⟩
    show s.total - k = s.free + s.occupied - ((s.moving + k : ℕ) : ℤ)
    omega
  | give k =>
    obtain ⟨hal, hfr, hav, htot, hmov, hpool, hcom⟩ := h
    have hk : s.free + s.occupied + k ≤ mem := hop
    refine ⟨hal, hfr, ?_, ?_, hmov, ?_, hcom⟩
    · show (s.wl.txBlocksAvailable : ℤ) ≤ s.free + k
      omega
    · show s.total + k = s.free + k + s.occupied - s.moving
      omega
    · show s.free + k + s.occupied ≤ mem
      omega

end

/-! ## Runs -/

/-- No block is accounted for: the driver after probe, or after a stop. -/
structure BlocksClear (wl : Wl1271) : Prop where
  allocated : wl.txAllocatedBlocks = 0
  freed : wl.txBlocksFreed = 0
  held : wl.fwHeld = []

/-- The system after `wl1271_acx_init_mem_config` with `n` Tx memory blocks. -/
def blkStart (wl : Wl1271) (n : ℕ) : BlkSys :=
  { wl := wl1271AcxInitMemConfig wl n, free := n, moving := 0, total := n, released := 0,
    unreported := [] }

theorem blkStart_inv {mem n : ℕ} (hn : n ≤ mem) {wl : Wl1271} (hwl : BlocksClear wl) :
    BlkInv mem (blkStart wl n) := by
  have hocc : (blkStart wl n).occupied = 0 := congrArg pktBlocks hwl.held
  have hal : (blkStart wl n).wl.txAllocatedBlocks = 0 := hwl.allocated
  have hav : (blkStart wl n).wl.txBlocksAvailable = n := rfl
  refine ⟨?_, ⟨0, hwl.freed, rfl⟩, le_refl _, ?_, Nat.zero_le _, ?_, ?_⟩
  · rw [hal, hocc]; rfl
  · rw [hocc]; simp [blkStart]
  · rw [hocc]; simpa [blkStart] using hn
  · rw [hal, hav]; omega

/-- The host's view of the firmware's memory: the allocated blocks are those of the packets
handed over and not yet reported released, the available ones are really free, and the two
make up `tx_total` right after a status read without outstanding moves. -/
structure BlocksExact (s : BlkSys) : Prop where
  allocated : s.wl.txAllocatedBlocks = pktBlocks (s.wl.fwHeld ++ s.unreported)
  available : (s.wl.txBlocksAvailable : ℤ) ≤ s.free
  afterRead : ∀ st, (blkStep s (.readStatus st)).moving = 0 →
    ((blkStep s (.readStatus st)).wl.txBlocksAvailable : ℤ) =
      (blkStep s (.readStatus st)).total - (blkStep s (.readStatus st)).wl.txAllocatedBlocks

theorem BlkInv.exact {mem : ℕ} (hmem : mem < 2 ^ 31) {s : BlkSys} (h : BlkInv mem s) :
    BlocksExact s := by
  refine ⟨by rw [pktBlocks_append]; exact h.allocated, h.available, fun st hmoving => ?_⟩
  obtain ⟨hal, hav, -, -⟩ := readStatus_counters hmem h st
  have hzero : s.moving = 0 := hmoving
  have htot := h.total
  have havail := h.available
  rw [hal, hav]
  show max (s.wl.txBlocksAvailable : ℤ) (s.total - s.occupied) = s.total - s.occupied
  omega

/-- In every run of the driver and its firmware, from the configuration of the memory on, the
host's block accounting is exact and never over-commits. -/
theorem blocks_run (mem n : ℕ) (hmem : mem < 2 ^ 31) (hn : n ≤ mem) (wl : Wl1271)
    (hwl : BlocksClear wl) (ops : List BlkOp)
    (hops : Along blkStep (fun s op => op.Legit mem s) (blkStart wl n) ops) :
    BlocksExact (run blkStep (blkStart wl n) ops) := by
  have hstep (s : BlkSys) (op : BlkOp) (h : BlkInv mem s) (hop : op.Legit mem s) :
      BlkInv mem (blkStep s op) := blkStep_inv hmem h hop
  have hinv := Along.induction hstep (blkStart_inv hn hwl) hops
  exact hinv.exact hmem

/-- A frame is handed over, one of its blocks is announced to move, and it is released. -/
def moveOps : List BlkOp :=
  [.allocate (some 0) (staFrame 1) 0 0 1 false, .announce 1, .release 0 1]

/-- Before the status read one block is still due; the host neither counts it as free nor as
lost. -/
theorem blocks_run_move :
    (run blkStep (blkStart staDriver 10) moveOps).wl.txAllocatedBlocks = 3 ∧
      BlocksExact (run blkStep (blkStart staDriver 10) moveOps) := by
  refine ⟨by decide +kernel, blocks_run 100 10 (by decide) (by decide) staDriver
    ⟨rfl, rfl, rfl⟩ moveOps ⟨trivial, ?_, ?_, trivial⟩⟩
  · simp only [BlkOp.Legit]
    decide +kernel
  · intro p hp
    have hpkt : (run blkStep (blkStart staDriver 10) (moveOps.take 2)).wl.fwHeld[0]? =
        some ⟨0, 1, 0, 3⟩ := by decide +kernel
    cases hp.symm.trans hpkt
    decide +kernel

end TiWlan.Tx
