import TiWlan.Driver.TxRings
import TiWlan.Link.PktAccounting
import TiWlan.Tx.IdTable
import TiWlan.Tx.Prepare
import TiWlan.Tx.Rings
import TiWlan.Tx.Turns

/-!
# Packets of a category in the firmware

`tx_allocated_pkts[ac]` counts the packets of a category that the firmware has. It is raised by
`wl1271_tx_allocate` (`wlcore/tx.c`, lines 186–242) and lowered by `wlcore_fw_status`
(`wlcore/main.c`, lines 416–424), by the difference modulo 256 of two values of a release counter of
the firmware. The difference is the number of packets released if less than 256 of them were
released between two status reads.

A packet has a descriptor id, of which there are at most 32, from the time it is allocated until it
is completed. An interrupt (`wlcore_irq_locked`, lines 505–632) reads the status and then completes
packets once, at once (wl18xx) or after it has sent more (wl12xx). So the packets that are released
between two reads had an id when the completions began, or were given one afterwards: there are at
most 64 of them. `AcInv k` says this as an invariant, with `k = 0` between a read and the
completions that follow it and `k = 32` after them.

Results:
* `AcInv.read`: a status read makes the count exact.
* `AcInv.complete`: what completions do.
* `acPkts_run`: the count is exact after every read of every run, the releases between two reads
  are less than 256, and the count never falls below zero.
-/

namespace TiWlan.Link

open TiWlan.Lib TiWlan.Driver TiWlan.Tx
open Function (update update_of_ne update_self)

variable {α : Type} {wl' : Wl1271} (wl : Wl1271) (env : PrepEnv) (v : Option VifId) (skb : Skb)
  (attempts : List BootAttempt)

/-! ## What the functions of the driver do -/

/-- The packet counters and the packets in the firmware are the same, and at most the descriptors
`ids` are free that were not so before. -/
structure PktsKeep (ids : List ℕ) (wl wl' : Wl1271) : Prop where
  allocated : wl'.txAllocatedPkts = wl.txAllocatedPkts
  freed : wl'.txPktsFreed = wl.txPktsFreed
  held : wl'.fwHeld = wl.fwHeld
  slots : ∀ i : TxId, i.val ∉ ids → wl'.txFramesMap i = wl.txFramesMap i

namespace PktsKeep

variable {ids ids' : List ℕ} {wl wl' wl'' : Wl1271}

theorem refl (wl : Wl1271) : PktsKeep ids wl wl := ⟨rfl, rfl, rfl, fun _ _ => rfl⟩

theorem trans (h : PktsKeep ids wl wl') (h' : PktsKeep ids' wl' wl'') :
    PktsKeep (ids ++ ids') wl wl'' := by
  refine ⟨h'.allocated.trans h.allocated, h'.freed.trans h.freed, h'.held.trans h.held, ?_⟩
  intro i hi
  rw [List.mem_append, not_or] at hi
  exact (h'.slots i hi.2).trans (h.slots i hi.1)

theorem foldl {f : Wl1271 → α → Wl1271} (hf : ∀ wl a, PktsKeep [] wl (f wl a)) (l : List α)
    (wl : Wl1271) : PktsKeep [] wl (l.foldl f wl) :=
  foldl_rel refl trans (fun wl a _ => hf wl a) wl

theorem map_eq (h : PktsKeep [] wl wl') : wl'.txFramesMap = wl.txFramesMap := by
  funext i
  exact h.slots i (by simp)

theorem usedSlots_eq (h : PktsKeep [] wl wl') :
    usedSlots wl'.toTxQueues = usedSlots wl.toTxQueues := by
  unfold usedSlots
  rw [h.map_eq]

/-- A packet that the firmware holds keeps its descriptor. -/
theorem heldIds (h : PktsKeep ids wl wl') (hids : HeldIds wl)
    (hheld : ∀ p ∈ wl.fwHeld, p.id.val ∉ ids) : HeldIds wl' := by
  refine ⟨h.held ▸ hids.nodup, fun p hp => ?_⟩
  rw [h.held] at hp
  rw [h.slots p.id (hheld p hp)]
  exact hids.used p hp

end PktsKeep

/-! ### Completions -/

theorem wl1271FreeTxId_pkts (slot : TxId) : PktsKeep [slot.val] wl (wl1271FreeTxId wl slot) := by
  unfold wl1271FreeTxId
  split
  · refine ⟨rfl, rfl, rfl, fun i hi => ?_⟩
    have hne : i ≠ slot := fun heq => hi (by simp [heq])
    exact update_of_ne hne _ _
  · exact .refl wl

theorem wl1271TxCompletePacket_pktsKeep (r : TxResult) :
    PktsKeep [r.id] wl (wl1271TxCompletePacket wl r) := by
  unfold wl1271TxCompletePacket
  split
  · exact .refl wl
  · rename_i slot skb hslot
    rw [← completedFrame_slot hslot]
    split
    · exact wl1271FreeTxId_pkts wl slot
    · obtain ⟨hqueues, hacct, -⟩ := completeVif_parts wl r skb
      have hvif : PktsKeep [] wl { completeVif wl r skb with
          deferredTxQueue := (completeVif wl r skb).deferredTxQueue ++ [skb]
          netstackWorkQueued := true } :=
        ⟨congrArg TxAccounting.txAllocatedPkts hacct, congrArg TxAccounting.txPktsFreed hacct,
          congrArg TxAccounting.fwHeld hacct,
          fun i _ => congrFun (congrArg TxQueues.txFramesMap hqueues) i⟩
      exact hvif.trans (wl1271FreeTxId_pkts _ slot)

theorem wl18xxTxCompletePacket_pktsKeep (b : ℕ) :
    PktsKeep [b &&& 0x7f] wl (wl18xxTxCompletePacket wl b) := by
  unfold wl18xxTxCompletePacket
  split
  · exact .refl wl
  · rename_i slot skb hslot
    rw [← completedFrame_slot hslot]
    split
    · exact wl1271FreeTxId_pkts wl slot
    · have hdefer : PktsKeep [] wl { wl with
          deferredTxQueue := wl.deferredTxQueue ++ [skb], netstackWorkQueued := true } :=
        ⟨rfl, rfl, rfl, fun _ _ => rfl⟩
      exact hdefer.trans (wl1271FreeTxId_pkts _ slot)

/-- The entries of `released_tx_desc` that `wl18xx_tx_immediate_complete` passes on. -/
def releaseReports (released : ℕ → ℕ) : ℕ → ℕ → List ℕ
  | 0, _ => []
  | n + 1, i => released i :: releaseReports released n ((i + 1) % 33)

/-- The descriptor ids that the interrupt finds completed in the status block. -/
def immediateIds (it : IrqIter) (wl : Wl1271) : List ℕ :=
  if wl.chip = .wl18xx ∧ it.fwReleaseIdx < 33 then
    (releaseReports it.released ((it.fwReleaseIdx + 33 - wl.lastFwRlsIdx) % 33)
      wl.lastFwRlsIdx).map fun b => b &&& 0x7f
  else []

/-- The descriptor ids that it finds completed in the results block. -/
def delayedIds (it : IrqIter) (wl : Wl1271) : List ℕ :=
  if wl.chip = .wl18xx ∨ it.txResultsCounter = wl.txResultsCount % 256 then []
  else
    match it.results with
    | none => []
    | some (fwCounter, queue) =>
      (txCompleteLoop queue (u32 ((fwCounter : ℤ) - wl.txResultsCount)) wl).1.map TxResult.id

theorem wl18xxReleaseLoop_pktsKeep (released : ℕ → ℕ) (n i : ℕ) (wl : Wl1271) :
    PktsKeep ((releaseReports released n i).map fun b => b &&& 0x7f) wl
      (wl18xxReleaseLoop released n i wl) := by
  induction n generalizing i wl with
  | zero => exact .refl wl
  | succ n ih =>
    have hone := wl18xxTxCompletePacket_pktsKeep wl (released i)
    have hrest := ih ((i + 1) % 33) { wl18xxTxCompletePacket wl (released i) with
      txResultsCount := u32 ((wl18xxTxCompletePacket wl (released i)).txResultsCount + 1) }
    have hcount : PktsKeep [] (wl18xxTxCompletePacket wl (released i))
        { wl18xxTxCompletePacket wl (released i) with
          txResultsCount := u32 ((wl18xxTxCompletePacket wl (released i)).txResultsCount + 1) } :=
      ⟨rfl, rfl, rfl, fun _ _ => rfl⟩
    exact (hone.trans hcount).trans hrest

theorem immediateCompl_pktsKeep (it : IrqIter) (wl : Wl1271) :
    PktsKeep (immediateIds it wl) wl (wlcoreHwTxImmediateCompl it wl) := by
  unfold wlcoreHwTxImmediateCompl
  split
  · rename_i hchip
    unfold wl18xxTxImmediateComplete
    split_ifs with hsame hinvalid
    · exact .refl wl
    · exact .refl wl
    · have hids : immediateIds it wl = (releaseReports it.released
          ((it.fwReleaseIdx + 33 - wl.lastFwRlsIdx) % 33) wl.lastFwRlsIdx).map
          fun b => b &&& 0x7f := if_pos ⟨hchip, by omega⟩
      rw [hids]
      have hloop := wl18xxReleaseLoop_pktsKeep it.released
        ((it.fwReleaseIdx + 33 - wl.lastFwRlsIdx) % 33) wl.lastFwRlsIdx wl
      exact ⟨hloop.allocated, hloop.freed, hloop.held, hloop.slots⟩
  · exact .refl wl

theorem txCompleteLoop_pktsKeep (queue : ℕ → TxResult) (n : ℕ) (wl : Wl1271) :
    PktsKeep ((txCompleteLoop queue n wl).1.map TxResult.id) wl (txCompleteLoop queue n wl).2 := by
  induction n generalizing wl with
  | zero => exact .refl wl
  | succ n ih =>
    have hone := wl1271TxCompletePacket_pktsKeep wl (queue (wl.txResultsCount % 16))
    have hrest := ih { wl1271TxCompletePacket wl (queue (wl.txResultsCount % 16)) with
      txResultsCount := u32 (wl.txResultsCount + 1) }
    have hcount : PktsKeep [] (wl1271TxCompletePacket wl (queue (wl.txResultsCount % 16)))
        { wl1271TxCompletePacket wl (queue (wl.txResultsCount % 16)) with
          txResultsCount := u32 (wl.txResultsCount + 1) } := ⟨rfl, rfl, rfl, fun _ _ => rfl⟩
    exact (hone.trans hcount).trans hrest

theorem delayedCompl_pktsKeep (it : IrqIter) (wl : Wl1271) :
    PktsKeep (delayedIds it wl) wl (wlcoreHwTxDelayedCompl it wl).2 := by
  unfold wlcoreHwTxDelayedCompl
  split_ifs with hchip hsame
  · exact .refl wl
  · exact .refl wl
  · unfold delayedIds
    rw [if_neg (not_or.mpr ⟨hchip, hsame⟩)]
    cases it.results with
    | none => exact .refl wl
    | some r =>
      obtain ⟨fwCounter, queue⟩ := r
      have hloop := txCompleteLoop_pktsKeep queue (u32 ((fwCounter : ℤ) - wl.txResultsCount)) wl
      dsimp only [wlcoreTxComplete]
      rw [← txCompleteLoop_driver]
      exact hloop

/-! ### The other functions -/

/-- A frame is handed over with a free descriptor and counted, or nothing changes. -/
theorem allocated_category {extra off : ℕ} {h : Hlid} {gem : Bool}
    {r : Except Errno TxAlloc × Wl1271} (hpath : TxAllocated wl v skb extra off h gem r) :
    (∃ id blocks, wl.txFramesMap id = false ∧ r.2.txFramesMap = update wl.txFramesMap id true ∧
        r.2.fwHeld = wl.fwHeld ++ [⟨id, h, skb.ac, blocks⟩] ∧
        r.2.txAllocatedPkts =
          update wl.txAllocatedPkts skb.ac (u32 (wl.txAllocatedPkts skb.ac + 1)) ∧
        r.2.txPktsFreed = wl.txPktsFreed) ∨
      PktsKeep [] wl r.2 := by
  cases hpath with
  | full | noId => exact Or.inr (.refl wl)
  | handed _ hid => exact Or.inl ⟨_, _, (findFirstZeroBit_some hid).2, rfl, rfl, rfl, rfl⟩
  | noBlocks _ hid =>
    have hfree := (findFirstZeroBit_some hid).2
    refine Or.inr ⟨?_, ?_, ?_, fun i _ => ?_⟩ <;> simp [wl1271FreeTxId, ← hfree]

theorem updateLinkStatus_pktsKeep (st : FwStatus) (wl : Wl1271) (h : Hlid) :
    PktsKeep [] wl (updateLinkStatus st wl h) := by
  dsimp only [updateLinkStatus, wl12xxIrqPsRegulateLink]
  split_ifs
  · unfold wl12xxPsLinkEnd
    split_ifs <;> exact ⟨rfl, rfl, rfl, fun _ _ => rfl⟩
  · unfold wl12xxPsLinkStart
    split_ifs <;> exact ⟨rfl, rfl, rfl, fun _ _ => rfl⟩
  · exact ⟨rfl, rfl, rfl, fun _ _ => rfl⟩

/-- Apart from `fwStatusAccounting`, a status block does not concern the categories. -/
theorem wlcoreFwStatus_pktsKeep (st : FwStatus) :
    PktsKeep [] { wl with toTxAccounting := fwStatusAccounting wl st } (wlcoreFwStatus wl st) := by
  have hvif (wl : Wl1271) (v : VifId) : PktsKeep [] wl (wl12xxIrqUpdateLinksStatus st wl v) := by
    have hmap : PktsKeep [] wl { wl with apFwPsMap := st.linkPsBitmap } :=
      ⟨rfl, rfl, rfl, fun _ _ => rfl⟩
    exact hmap.trans (.foldl (updateLinkStatus_pktsKeep st) _ _)
  exact .foldl hvif _ _

theorem initFw_pktsKeep (wl : Wl1271) : PktsKeep [] wl (wl12xxInitFw wl attempts).2 := by
  refine initFwLoop_induction wl ?_ ?_ ?_ ?_ (.refl wl) <;> intros <;> rename_i hk <;>
    exact ⟨hk.allocated, hk.freed, hk.held, hk.slots⟩

/-! ## The system -/

/-- The driver, and the packets that the running firmware has released: all of them, and those
that it released after the last status read. -/
structure AcSys where
  wl : Wl1271
  released : Ac → ℕ
  since : Ac → ℕ

/-- The packets of a category that the running firmware holds. -/
def heldIn (wl : Wl1271) (q : Ac) : ℕ := wl.fwHeld.countP fun p => decide (p.ac = q)

/-- What can happen at any time. -/
inductive AcOp
  | allocate (v : Option VifId) (skb : Skb) (extra off : ℕ) (h : Hlid) (gem : Bool)
  /-- the firmware releases the `i`-th packet that it holds -/
  | release (i : ℕ)
  | queueRecovery
  /-- everything may become what it is in `x`, but for the packets and their descriptors -/
  | other (x : Wl1271)

/-- The transmit loop does nothing while the device is off (tx.c:694). -/
def acStep (s : AcSys) : AcOp → AcSys
  | .allocate v skb extra off h gem =>
    if s.wl.state = .off then s
    else { s with wl := (wl1271TxAllocate s.wl v skb extra off h gem).2 }
  | .release i =>
    match s.wl.fwHeld[i]? with
    | none => s
    | some p =>
      { wl := { s.wl with fwHeld := s.wl.fwHeld.eraseIdx i }
        released := update s.released p.ac (s.released p.ac + 1)
        since := update s.since p.ac (s.since p.ac + 1) }
  | .queueRecovery => { s with wl := wl12xxQueueRecoveryWork s.wl }
  | .other x =>
    { s with wl := { x with
        toConf := s.wl.toConf
        txAllocatedPkts := s.wl.txAllocatedPkts
        txPktsFreed := s.wl.txPktsFreed
        fwHeld := s.wl.fwHeld
        txFramesMap := s.wl.txFramesMap
        txFrames := s.wl.txFrames
        txFramesCnt := s.wl.txFramesCnt
        state := s.wl.state } }

/-- The status block that the firmware writes: its counters are reported modulo 256. -/
def AcSys.report (s : AcSys) (st : FwStatus) : FwStatus :=
  { st with txReleasedPkts := fun q => s.released q % 2 ^ 8 }

/-- A status read. -/
def AcSys.read (s : AcSys) (st : FwStatus) : AcSys :=
  { s with wl := wlcoreFwStatus s.wl (s.report st), since := fun _ => 0 }

/-- An iteration of `wlcore_irq_locked` before the results block is read (main.c:534–589): the
status, the completions that it reports, and what happens `during` the iteration. -/
def AcSys.irqBegin (s : AcSys) (it : IrqIter) (st : FwStatus) (during : List AcOp) : AcSys :=
  run acStep { s.read st with wl := wlcoreHwTxImmediateCompl it (s.read st).wl } during

/-- An iteration of `wlcore_irq_locked`, up to the completions in the results block. -/
def AcSys.irq (s : AcSys) (it : IrqIter) (st : FwStatus) (during : List AcOp) : AcSys :=
  { s.irqBegin it st during with
    wl := (wlcoreHwTxDelayedCompl it (s.irqBegin it st during).wl).2 }

inductive AcRunOp
  | step (op : AcOp)
  | irq (it : IrqIter) (st : FwStatus) (during : List AcOp)
  | stop
  | boot (attempts : List BootAttempt)

/-- One operation. The firmware that boots after a stop counts from zero. -/
def acRunStep (s : AcSys) : AcRunOp → AcSys
  | .step op => acStep s op
  | .irq it st during => if s.wl.state ≠ .on then s else s.irq it st during
  | .stop => { wl := wlcoreOpStopLocked s.wl, released := fun _ => 0, since := fun _ => 0 }
  | .boot attempts =>
    if s.wl.state = .off then { s with wl := (wl12xxInitFw s.wl attempts).2 } else s

/-- The firmware reports a descriptor as completed when it does not hold its packet any more, and
so has counted it as released. -/
def AcRunOp.Truthful (s : AcSys) : AcRunOp → Prop
  | .irq it st during =>
    (∀ p ∈ (s.read st).wl.fwHeld, p.id.val ∉ immediateIds it (s.read st).wl) ∧
      ∀ p ∈ (s.irqBegin it st during).wl.fwHeld,
        p.id.val ∉ delayedIds it (s.irqBegin it st during).wl
  | _ => True

/-! ## The invariant -/

/-- The counters of the two sides. Of the packets that have left the firmware since the last read,
all but `k` still have a descriptor. -/
structure AcInv (k : ℕ) (s : AcSys) : Prop where
  ids : HeldIds s.wl
  allocated : ∀ q, s.wl.txAllocatedPkts q = heldIn s.wl q + s.since q
  freed : ∀ q, ∃ rep, s.wl.txPktsFreed q = rep % 2 ^ 8 ∧ s.released q = rep + s.since q
  bound : ∑ q, s.since q + s.wl.fwHeld.length ≤ usedSlots s.wl.toTxQueues + k
  off : s.wl.state = .off →
    s.wl.fwHeld = [] ∧ (∀ q, s.wl.txPktsFreed q = 0) ∧ ∀ q, s.released q = 0

theorem usedSlots_claim {t t' : TxQueues} {id : TxId} (hfree : t.txFramesMap id = false)
    (hmap : t'.txFramesMap = update t.txFramesMap id true) : usedSlots t' = usedSlots t + 1 := by
  have hsum := sum_update_add t.txFramesMap id true Bool.toNat
  rw [hfree] at hsum
  unfold usedSlots
  rw [hmap]
  simpa using hsum

theorem usedSlots_le (t : TxQueues) : usedSlots t ≤ 32 := by
  rw [usedSlots_eq_card]
  exact (Finset.card_le_univ _).trans (by simp)

theorem HeldIds.length_le_used {wl : Wl1271} (h : HeldIds wl) :
    wl.fwHeld.length ≤ usedSlots wl.toTxQueues := by
  have hcard : (wl.fwHeld.map HwPkt.id).toFinset.card = wl.fwHeld.length := by
    rw [List.toFinset_card_of_nodup h.nodup, List.length_map]
  rw [usedSlots_eq_card, ← hcard]
  refine Finset.card_le_card fun i hi => ?_
  obtain ⟨p, hp, rfl⟩ := List.mem_map.mp (List.mem_toFinset.mp hi)
  exact Finset.mem_filter.mpr ⟨Finset.mem_univ _, h.used p hp⟩

section
variable {k : ℕ} {s : AcSys}

theorem heldIn_congr {wl : Wl1271} (h : wl'.fwHeld = wl.fwHeld) (q : Ac) :
    heldIn wl' q = heldIn wl q := by
  unfold heldIn
  rw [h]

/-- At most 64 packets are released between two reads. -/
theorem AcInv.since_le (h : AcInv k s) (hk : k ≤ 32) (q : Ac) : s.since q ≤ 64 := by
  have hsum : s.since q ≤ ∑ q, s.since q :=
    Finset.single_le_sum (fun _ _ => Nat.zero_le _) (Finset.mem_univ q)
  have hbound := h.bound
  have hslots := usedSlots_le s.wl.toTxQueues
  omega

theorem AcInv.of_keep (h : AcInv k s) (hkeep : PktsKeep [] s.wl wl')
    (hoff : wl'.state = .off → s.wl.state = .off) : AcInv k { s with wl := wl' } := by
  refine ⟨hkeep.heldIds h.ids (by simp), fun q => ?_, fun q => ?_, ?_, fun hstate => ?_⟩
  · rw [hkeep.allocated, heldIn_congr hkeep.held]
    exact h.allocated q
  · rw [hkeep.freed]
    exact h.freed q
  · rw [hkeep.held, hkeep.usedSlots_eq]
    exact h.bound
  · rw [hkeep.held, hkeep.freed]
    exact h.off (hoff hstate)

theorem AcInv.allocate (h : AcInv k s) (hk : k ≤ 32) (v : Option VifId) (skb : Skb)
    (extra off : ℕ) (l : Hlid) (gem : Bool) :
    AcInv k (acStep s (.allocate v skb extra off l gem)) := by
  dsimp only [acStep]
  split
  · exact h
  rename_i hon
  have hpower := (wl1271TxAllocate_keep s.wl v skb extra off l gem).powerKeep
  have hnot := PowerKeep.not_off hpower hon
  have hcase := allocated_category _ _ _ (wl1271TxAllocate_path s.wl v skb extra off l gem)
  generalize (wl1271TxAllocate s.wl v skb extra off l gem).2 = wl' at hnot hcase ⊢
  rcases hcase with ⟨id, blocks, hfree, hmap, hheld, hcount, hfreed⟩ | hkeep
  · refine ⟨h.ids.append hfree hmap hheld, fun q => ?_, fun q => ?_, ?_,
      fun hoff => absurd hoff hnot⟩
    · have hold := h.allocated q
      have hsince := h.since_le hk q
      have hle : heldIn s.wl q ≤ s.wl.fwHeld.length := List.countP_le_length
      have hlen := h.ids.length_le
      have hnew : heldIn wl' q = heldIn s.wl q + if skb.ac = q then 1 else 0 := by
        simp [heldIn, hheld]
      rw [hcount, hnew]
      by_cases hq : skb.ac = q
      · subst hq
        rw [update_self, if_pos rfl, hold]
        dsimp only
        unfold u32
        omega
      · rw [update_of_ne (Ne.symm hq), if_neg hq]
        exact hold
    · rw [hfreed]
      exact h.freed q
    · have hbound := h.bound
      have hslots : usedSlots wl'.toTxQueues = usedSlots s.wl.toTxQueues + 1 :=
        usedSlots_claim hfree hmap
      rw [hslots, hheld, List.length_append, List.length_singleton]
      dsimp only
      omega
  · exact h.of_keep hkeep fun hoff => absurd hoff hnot

theorem AcInv.release (h : AcInv k s) (i : ℕ) : AcInv k (acStep s (.release i)) := by
  dsimp only [acStep]
  split
  · exact h
  · rename_i p hp
    obtain ⟨hi, -⟩ := List.getElem?_eq_some_iff.mp hp
    refine ⟨h.ids.eraseIdx i, fun q => ?_, fun q => ?_, ?_, fun hoff => ?_⟩
    · have hone := countP_eraseIdx_add (fun p => decide (p.ac = q)) hp
      have hold := h.allocated q
      unfold heldIn at hold ⊢
      dsimp only
      by_cases hq : p.ac = q
      · subst hq
        rw [update_self]
        simp only [decide_true, if_true] at hone
        omega
      · rw [update_of_ne (Ne.symm hq)]
        simp only [hq, decide_false, Bool.false_eq_true, if_false] at hone
        omega
    · obtain ⟨rep, hfreed, hrel⟩ := h.freed q
      refine ⟨rep, hfreed, ?_⟩
      dsimp only
      by_cases hq : q = p.ac
      · subst hq
        rw [update_self, update_self]
        omega
      · rw [update_of_ne hq, update_of_ne hq]
        exact hrel
    · have hsum := sum_update_add s.since p.ac (s.since p.ac + 1) id
      have hlen := List.length_eraseIdx_add_one hi
      have hbound := h.bound
      simp only [id_eq] at hsum
      dsimp only
      omega
    · obtain ⟨hnil, -⟩ := h.off hoff
      rw [hnil] at hi
      exact absurd hi (Nat.not_lt_zero i)

theorem AcInv.step (h : AcInv k s) (hk : k ≤ 32) (op : AcOp) : AcInv k (acStep s op) := by
  cases op with
  | allocate v skb extra off l gem => exact h.allocate hk v skb extra off l gem
  | release i => exact h.release i
  | queueRecovery =>
    have hkeep : PktsKeep [] s.wl (wl12xxQueueRecoveryWork s.wl) := ⟨rfl, rfl, rfl, fun _ _ => rfl⟩
    exact h.of_keep hkeep (TxKeep.queueRecovery s.wl).power.off_of_off
  | other x => exact h.of_keep ⟨rfl, rfl, rfl, fun _ _ => rfl⟩ fun hoff => hoff

/-- The difference of the 8-bit counters is unambiguous. -/
theorem AcInv.diff (h : AcInv k s) (hk : k ≤ 32) (q : Ac) :
    u8 ((s.released q % 2 ^ 8 : ℕ) - (s.wl.txPktsFreed q : ℤ)) = s.since q := by
  obtain ⟨rep, hfreed, hrel⟩ := h.freed q
  have hsince := h.since_le hk q
  rw [hrel, hfreed]
  exact u8_diff rep (s.since q) (by omega)

/-- A status read takes off what was released since the last one. -/
theorem AcInv.read_allocated (h : AcInv k s) (hk : k ≤ 32) (st : FwStatus) (q : Ac) :
    (s.read st).wl.txAllocatedPkts q = heldIn (s.read st).wl q := by
  have hkeep := wlcoreFwStatus_pktsKeep s.wl (s.report st)
  have hsince := h.since_le hk q
  have hold := h.allocated q
  have hle : heldIn s.wl q ≤ s.wl.fwHeld.length := List.countP_le_length
  have hlen := h.ids.length_le
  have hheld : heldIn (s.read st).wl q = heldIn s.wl q := heldIn_congr hkeep.held q
  have hread : (s.read st).wl.txAllocatedPkts q =
      u32 ((s.wl.txAllocatedPkts q : ℤ) -
        u8 ((s.released q % 2 ^ 8 : ℕ) - (s.wl.txPktsFreed q : ℤ))) :=
    congrFun hkeep.allocated q
  rw [hread, h.diff hk q, hheld, hold, u32_sub_of_le (by omega) (by omega)]
  omega

theorem AcInv.read (h : AcInv k s) (hk : k ≤ 32) (st : FwStatus) : AcInv 0 (s.read st) := by
  have hkeep := wlcoreFwStatus_pktsKeep s.wl (s.report st)
  have hids : HeldIds (s.read st).wl := h.ids.congr hkeep.held hkeep.map_eq
  have hfreed (q : Ac) : (s.read st).wl.txPktsFreed q = s.released q % 2 ^ 8 :=
    congrFun hkeep.freed q
  refine ⟨hids, h.read_allocated hk st, fun q => ⟨s.released q, hfreed q, rfl⟩, ?_, fun hoff => ?_⟩
  · have hlen := hids.length_le_used
    have hsum : ∑ q, (s.read st).since q = 0 := Finset.sum_eq_zero fun _ _ => rfl
    omega
  · have hpower := (wlcoreFwStatus_keep s.wl (s.report st)).power
    obtain ⟨hnil, -, hzero⟩ := h.off (hpower.off_of_off hoff)
    refine ⟨hkeep.held.trans hnil, fun q => ?_, hzero⟩
    rw [hfreed, hzero q]
    rfl

/-- Completions free descriptors, of packets that were released. -/
theorem AcInv.complete (h : AcInv 0 s) {ids : List ℕ} (hkeep : PktsKeep ids s.wl wl')
    (hpower : s.wl.toPower.MayRecover wl'.toPower) (hheld : ∀ p ∈ s.wl.fwHeld, p.id.val ∉ ids) :
    AcInv 32 { s with wl := wl' } := by
  have hbound := h.bound
  have hslots := usedSlots_le s.wl.toTxQueues
  refine ⟨hkeep.heldIds h.ids hheld, fun q => ?_, fun q => ?_, ?_, fun hoff => ?_⟩
  · rw [hkeep.allocated, heldIn_congr hkeep.held]
    exact h.allocated q
  · rw [hkeep.freed]
    exact h.freed q
  · rw [hkeep.held]
    dsimp only
    omega
  · rw [hkeep.held, hkeep.freed]
    exact h.off (hpower.off_of_off hoff)

theorem AcInv.run (h : AcInv k s) (hk : k ≤ 32) (ops : List AcOp) : AcInv k (run acStep s ops) := by
  have hstep (s : AcSys) (op : AcOp) (_ : op ∈ ops) (h : AcInv k s) : AcInv k (acStep s op) :=
    h.step hk op
  exact run_induction_mem hstep h

theorem acStep_conf (s : AcSys) (op : AcOp) : (acStep s op).wl.toConf = s.wl.toConf := by
  cases op with
  | allocate v skb extra off h gem =>
    dsimp only [acStep]
    split
    · rfl
    · exact (wl1271TxAllocate_keep s.wl v skb extra off h gem).conf
  | release i =>
    dsimp only [acStep]
    split <;> rfl
  | queueRecovery => rfl
  | other x => rfl

theorem irqBegin_conf (s : AcSys) (it : IrqIter) (st : FwStatus) (during : List AcOp) :
    (s.irqBegin it st during).wl.toConf = s.wl.toConf := by
  have hread : (s.read st).wl.toConf = s.wl.toConf := (wlcoreFwStatus_keep s.wl (s.report st)).conf
  have hcompl := (wlcoreHwTxImmediateCompl_keep it (s.read st).wl).conf
  have hstep (s' : AcSys) (op : AcOp) (_ : op ∈ during) (h : s'.wl.toConf = s.wl.toConf) :
      (acStep s' op).wl.toConf = s.wl.toConf := (acStep_conf s' op).trans h
  exact run_induction_mem hstep (hcompl.trans hread)

/-- An iteration of the interrupt handler completes packets once: on wl18xx right after the read,
on the other chips at the end. -/
theorem AcInv.irq (h : AcInv 32 s) {it : IrqIter} {st : FwStatus} {during : List AcOp}
    (htruth : (AcRunOp.irq it st during).Truthful s) : AcInv 32 (s.irq it st during) := by
  have hread := h.read le_rfl st
  have himm := immediateCompl_pktsKeep it (s.read st).wl
  have hpower := (wlcoreHwTxImmediateCompl_keep it (s.read st).wl).power
  have hconf : (s.read st).wl.toConf = s.wl.toConf := (wlcoreFwStatus_keep s.wl (s.report st)).conf
  have hdel := delayedCompl_pktsKeep it (s.irqBegin it st during).wl
  have hpower' := (wlcoreHwTxDelayedCompl_keep it (s.irqBegin it st during).wl).power
  have hconf' := irqBegin_conf s it st during
  by_cases hchip : s.wl.chip = .wl18xx
  · have hbegin : AcInv 32 (s.irqBegin it st during) :=
      (hread.complete himm hpower htruth.1).run le_rfl during
    have hnone : delayedIds it (s.irqBegin it st during).wl = [] := by
      unfold delayedIds
      rw [hconf', if_pos (Or.inl hchip)]
    rw [hnone] at hdel
    exact hbegin.of_keep hdel hpower'.off_of_off
  · have hnone : immediateIds it (s.read st).wl = [] := by
      unfold immediateIds
      rw [hconf, if_neg fun hand => hchip hand.1]
    rw [hnone] at himm
    have hbegin : AcInv 0 (s.irqBegin it st during) :=
      (hread.of_keep himm hpower.off_of_off).run (Nat.zero_le _) during
    exact hbegin.complete hdel hpower' htruth.2

/-- Nothing is in the firmware, and it has not counted anything. -/
theorem AcInv.empty {wl : Wl1271} (hheld : wl.fwHeld = []) (halloc : ∀ q, wl.txAllocatedPkts q = 0)
    (hfreed : ∀ q, wl.txPktsFreed q = 0) : AcInv 32 ⟨wl, fun _ => 0, fun _ => 0⟩ := by
  refine ⟨⟨?_, ?_⟩, fun q => ?_, fun q => ⟨0, hfreed q, rfl⟩, ?_,
    fun _ => ⟨hheld, hfreed, fun _ => rfl⟩⟩
  · simp [hheld]
  · simp [hheld]
  · simp [heldIn, hheld, halloc]
  · simp [hheld]

theorem AcInv.stop (h : AcInv 32 s) : AcInv 32 (acRunStep s .stop) := by
  dsimp only [acRunStep, wlcoreOpStopLocked]
  by_cases hoff : s.wl.state = .off
  · obtain ⟨hnil, hfreed, hrel⟩ := h.off hoff
    have halloc (q : Ac) : s.wl.txAllocatedPkts q = 0 := by
      obtain ⟨rep, -, hsum⟩ := h.freed q
      have hold := h.allocated q
      have hheld : heldIn s.wl q = 0 := by simp [heldIn, hnil]
      have hzero := hrel q
      omega
    rw [if_pos hoff]
    split <;> exact .empty hnil halloc hfreed
  · rw [if_neg hoff]
    exact .empty rfl (fun _ => rfl) fun _ => rfl

theorem AcInv.boot (h : AcInv 32 s) (attempts : List BootAttempt) :
    AcInv 32 (acRunStep s (.boot attempts)) := by
  dsimp only [acRunStep]
  split
  · rename_i hoff
    exact h.of_keep (initFw_pktsKeep attempts s.wl) fun _ => hoff
  · exact h

theorem acRunStep_inv (h : AcInv 32 s) {op : AcRunOp} (hop : op.Truthful s) :
    AcInv 32 (acRunStep s op) := by
  cases op with
  | step op => exact h.step le_rfl op
  | irq it st during =>
    dsimp only [acRunStep]
    split
    · exact h
    · exact h.irq hop
  | stop => exact h.stop
  | boot attempts => exact h.boot attempts

end

/-! ## Runs -/

/-- What the next status read finds. -/
structure AcExact (s : AcSys) : Prop where
  /-- after the read, the count is the number of packets in the firmware -/
  afterRead : ∀ st q, (s.read st).wl.txAllocatedPkts q = heldIn (s.read st).wl q
  /-- the 8-bit difference is the number of releases since the last read -/
  unambiguous : ∀ q, s.since q < 2 ^ 8 ∧
    u8 ((s.released q % 2 ^ 8 : ℕ) - (s.wl.txPktsFreed q : ℤ)) = s.since q
  noUnderflow : ∀ q, s.since q ≤ s.wl.txAllocatedPkts q

/-- The driver after probe; no firmware runs yet. -/
def acStart (c : Conf) : AcSys := ⟨wlcoreProbe c, fun _ => 0, fun _ => 0⟩

theorem AcInv.exact {s : AcSys} (h : AcInv 32 s) : AcExact s := by
  refine ⟨fun st q => h.read_allocated le_rfl st q, fun q => ?_, fun q => ?_⟩
  · have hsince := h.since_le le_rfl q
    exact ⟨by omega, h.diff le_rfl q⟩
  · rw [h.allocated q]
    omega

/-- In every run in which the firmware counts a packet no later than it reports it completed, each
status read makes the counts of all categories exact. -/
theorem acPkts_run (c : Conf) (ops : List AcRunOp)
    (hops : Along acRunStep (fun s op => op.Truthful s) (acStart c) ops) :
    AcExact (run acRunStep (acStart c) ops) := by
  have hstart : AcInv 32 (acStart c) := .empty rfl (fun _ => rfl) fun _ => rfl
  have hstep (s : AcSys) (op : AcRunOp) (h : AcInv 32 s) (hop : op.Truthful s) :
      AcInv 32 (acRunStep s op) := acRunStep_inv h hop
  exact (Along.induction hstep hstart hops).exact

/-- The firmware boots and gets two packets, of which it sends one. The interrupt completes that
one, while another is handed over; then the firmware sends the second. -/
def acOps : List AcRunOp :=
  [.boot [.boots 100],
   .step (.allocate (some 0) (stationFrame 1) 0 0 1 false),
   .step (.allocate (some 0) (stationFrame 2) 0 0 1 false),
   .step (.release 0),
   .irq { status := none, intr := {}, txResultsCounter := 1
          results := some (1, fun _ => ⟨0, true, 0⟩) } idleStatus
     [.allocate (some 0) (stationFrame 3) 0 0 1 false],
   .step (.release 0)]

/-- Two packets are counted and one was released; one is left after the next read. -/
theorem acPkts_run_three :
    (run acRunStep (acStart (chipConf .wl128x)) acOps).wl.txAllocatedPkts 0 = 2 ∧
      ((run acRunStep (acStart (chipConf .wl128x)) acOps).read idleStatus).wl.txAllocatedPkts 0 =
        1 ∧
      AcExact (run acRunStep (acStart (chipConf .wl128x)) acOps) := by
  refine ⟨by decide +kernel, by decide +kernel, acPkts_run _ acOps ?_⟩
  refine ⟨trivial, trivial, trivial, trivial, ⟨?_, ?_⟩, trivial, trivial⟩ <;> decide +kernel

end TiWlan.Link
