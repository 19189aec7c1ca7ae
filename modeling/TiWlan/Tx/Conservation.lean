import TiWlan.Lib.Run
import TiWlan.Tx.Admission
import TiWlan.Tx.Ledger

/-!
# Frame conservation and queue counters over whole runs

A run mixes the operations of the data path (`TxOp`) with `wlcore_op_stop_locked` and with
arbitrary changes of everything but the configuration and the frames. `wlcore_op_stop_locked`
is not a chain of atomic steps: `wl12xx_tx_reset` zeroes the queue counters while the dummy
packet may still be pending, and `wl->flags = 0` forgets it only later. `Quiet` describes the
state in between.

Main results:

* `frame_in_one_place`: a frame that `op_tx` received is in exactly one place, is given back at
  most once, and is given back after a stop;
* `queueCount_exact`: each `tx_queue_count` counts the queued frames and the pending dummy
  packet, and the warnings of the dequeue functions never fire.
-/

namespace TiWlan.Tx

open TiWlan.Lib TiWlan.Driver
open Function (update update_of_ne update_self)

variable {c : Conf} {wl : Wl1271}

/-! ## Places -/

/-- Where a frame can be. -/
inductive Place
  | queue (h : Hlid) (q : Ac)
  | slot (i : TxId)
  | deferred
  | returned
  deriving DecidableEq

/-- The places as a sum type. -/
def placeEquiv : Place ≃ (Hlid × Ac) ⊕ TxId ⊕ Bool where
  toFun
    | .queue h q => .inl (h, q)
    | .slot i => .inr (.inl i)
    | .deferred => .inr (.inr false)
    | .returned => .inr (.inr true)
  invFun
    | .inl (h, q) => .queue h q
    | .inr (.inl i) => .slot i
    | .inr (.inr false) => .deferred
    | .inr (.inr true) => .returned
  left_inv := by rintro (_ | _ | _ | _) <;> rfl
  right_inv := by rintro (_ | _ | _ | _) <;> rfl

instance : Fintype Place := Fintype.ofEquiv _ placeEquiv.symm

/-- The number of copies of a frame in one place. -/
def copiesIn (t : TxQueues) (s : Skb) : Place → ℕ
  | .queue h q => (t.txQueue h q).count s
  | .slot i => (t.txFrames i).toList.count s
  | .deferred => t.deferredTxQueue.count s
  | .returned => t.returned.count s

theorem sum_copiesIn (t : TxQueues) (s : Skb) : ∑ p, copiesIn t s p = heldCopies t s := by
  rw [← Equiv.sum_comp placeEquiv.symm, Fintype.sum_sum_type, Fintype.sum_sum_type,
    Fintype.sum_prod_type, Fintype.sum_bool]
  show queuedCopies t s + (slotCopies t s + (t.returned.count s + t.deferredTxQueue.count s)) = _
  unfold heldCopies
  omega

/-! ## Stopping -/

/-- The queues are empty and the counters zero, whatever the dummy packet flag says. -/
structure Quiet (c : Conf) (t : TxQueues) : Prop where
  slots : SlotInv c.numTxDesc t
  empty : ∀ h q, t.txQueue h q = []
  count : ∀ q, t.txQueueCount q = 0
  warned : t.countWarned = false
  conserved : Conserved c.dummyPacket none t

theorem drain_keeps_empty {h : Hlid} (hempty : ∀ q, wl.txQueue h q = []) (h' : Hlid) (q : Ac) :
    (wl1271TxResetLinkQueues wl h').txQueue h q = [] := by
  show update wl.txQueue h' (fun _ => []) h q = []
  by_cases hh : h = h'
  · subst hh
    rw [update_self]
  · rw [update_of_ne hh]
    exact hempty q

theorem drain_empties (wl : Wl1271) (h : Hlid) (q : Ac) :
    (wl1271TxResetLinkQueues wl h).txQueue h q = [] := by
  show update wl.txQueue h (fun _ => []) h q = []
  rw [update_self]

theorem foldl_drain_empties (hs : List Hlid) (wl : Wl1271) (h : Hlid)
    (hh : h ∈ hs ∨ ∀ q, wl.txQueue h q = []) (q : Ac) :
    (hs.foldl wl1271TxResetLinkQueues wl).txQueue h q = [] := by
  induction hs generalizing wl with
  | nil => exact (hh.resolve_left (by simp)) q
  | cons h' hs ih =>
    refine ih (wl1271TxResetLinkQueues wl h') ?_
    rcases hh with hmem | hempty
    · rcases List.mem_cons.mp hmem with rfl | hmem
      · exact Or.inr (drain_empties wl h)
      · exact Or.inl hmem
    · exact Or.inr (drain_keeps_empty hempty h')

theorem txResetQueues_quiet (h : Ledger c (none, wl)) : Quiet c (txResetQueues wl).toTxQueues := by
  unfold txResetQueues
  split_ifs with htotal
  · have hreset := ledger_reach (fun _ hs => hs)
      (resetAllLinkQueues_reach (P := .frames (NotDummy c)) wl) h
    exact ⟨⟨hreset.slots.frames, hreset.slots.bound, hreset.slots.cnt⟩,
      fun h' => foldl_drain_empties _ wl h' (Or.inl (List.mem_finRange h')), fun _ => rfl,
      hreset.counts.warned, hreset.conserved.congr rfl rfl rfl rfl rfl⟩
  · rw [not_not] at htotal
    have hzero := count_eq_zero_of_total h.counts htotal
    exact ⟨h.slots, queue_nil_of_total h.counts htotal, hzero, h.counts.warned, h.conserved⟩

/-- One slot of `wl12xx_tx_reset`, on the frames. -/
def resetSlot (c : Conf) (t : TxQueues) (i : TxId) : TxQueues :=
  if i.val < c.numTxDesc then
    match t.txFrames i with
    | none => t
    | some skb =>
      if c.dummyPacket.id == skb.id then freeSlot t i
      else { freeSlot t i with returned := (freeSlot t i).returned ++ [skb] }
  else t

theorem txResetSlot_toTxQueues (wl : Wl1271) (i : TxId) :
    (txResetSlot wl i).toTxQueues = resetSlot wl.toConf wl.toTxQueues i := by
  have hconf := (wl1271FreeTxId_keep wl i).conf
  dsimp only [txResetSlot, resetSlot]
  split
  · cases wl.txFrames i with
    | none => rfl
    | some skb =>
      dsimp only
      rw [wl12xxIsDummyPacket, hconf, ← freeTxId_toTxQueues]
      split <;> rfl
  · rfl

/-- The frame of a slot is given back. -/
theorem Quiet.resetSlot {t : TxQueues} (h : Quiet c t) (i : TxId) :
    Quiet c (resetSlot c t i) ∧ (resetSlot c t i).txFrames i = none ∧
      (∀ j, t.txFrames j = none → (Tx.resetSlot c t i).txFrames j = none) ∧
      (Tx.resetSlot c t i).deferredTxQueue = t.deferredTxQueue ∧
      (Tx.resetSlot c t i).accepted = t.accepted := by
  unfold Tx.resetSlot
  split
  · split
    · rename_i hnone
      exact ⟨h, hnone, fun _ hj => hj, rfl, rfl⟩
    · rename_i skb hskb
      have hmap : t.txFramesMap i = true := by simp [h.slots.frames, hskb]
      have hcons := h.conserved.free h.slots hskb
      have hslots := h.slots.free i
      rw [freeSlot, if_pos hmap] at hcons hslots ⊢
      have hnone (j : TxId) (hj : t.txFrames j = none ∨ j = i) :
          update t.txFrames i none j = none := by
        by_cases hji : j = i
        · rw [hji, update_self]
        · rw [update_of_ne hji]
          exact hj.resolve_right hji
      split
      · rename_i hd
        have hid : skb.id = c.dummyPacket.id := (beq_iff_eq.mp hd).symm
        have hcons' := hcons.dummy none (by simpa using hid) (by simp)
        exact ⟨⟨hslots, h.empty, h.count, h.warned, hcons'⟩, hnone i (Or.inr rfl),
          fun j hj => hnone j (Or.inl hj), rfl, rfl⟩
      · exact ⟨⟨⟨hslots.frames, hslots.bound, hslots.cnt⟩, h.empty, h.count, h.warned,
          hcons.giveBack⟩, hnone i (Or.inr rfl), fun j hj => hnone j (Or.inl hj), rfl, rfl⟩
  · rename_i hge
    have hnone : t.txFrames i = none := by
      refine h.slots.frames_none ?_
      rw [← Bool.not_eq_true]
      exact fun hmap => hge (h.slots.bound i hmap)
    exact ⟨h, hnone, fun _ hj => hj, rfl, rfl⟩

/-- The loop over the slots gives all their frames back. -/
theorem Quiet.foldl_txResetSlot (is : List TxId) (hc : wl.toConf = c) (h : Quiet c wl.toTxQueues) :
    Quiet c (is.foldl txResetSlot wl).toTxQueues ∧
      (∀ j, j ∈ is ∨ wl.txFrames j = none → (is.foldl txResetSlot wl).txFrames j = none) ∧
      (is.foldl txResetSlot wl).deferredTxQueue = wl.deferredTxQueue ∧
      (is.foldl txResetSlot wl).accepted = wl.accepted := by
  induction is generalizing wl with
  | nil => exact ⟨h, fun j hj => hj.resolve_left (by simp), rfl, rfl⟩
  | cons i is ih =>
    obtain ⟨hquiet, hi, hkeep, hdef, hacc⟩ := h.resetSlot i
    have ht : (txResetSlot wl i).toTxQueues = Tx.resetSlot c wl.toTxQueues i := by
      rw [txResetSlot_toTxQueues, hc]
    rw [← ht] at hquiet hi hkeep hdef hacc
    obtain ⟨hquiet', hnone, hdef', hacc'⟩ := ih ((txResetSlot_keep wl i).conf.trans hc) hquiet
    refine ⟨hquiet', fun j hj => hnone j ?_, hdef'.trans hdef, hacc'.trans hacc⟩
    rcases hj with hmem | hj
    · rcases List.mem_cons.mp hmem with rfl | hmem
      · exact Or.inr hi
      · exact Or.inl hmem
    · exact Or.inr (hkeep j hj)

theorem txResetQueues_deferred (wl : Wl1271) :
    (txResetQueues wl).deferredTxQueue = wl.deferredTxQueue ∧
      (txResetQueues wl).accepted = wl.accepted := by
  obtain ⟨_, _, _, _, heq⟩ := txResetQueues_frame wl
  rw [heq]
  exact ⟨rfl, rfl⟩

/-- After `wl12xx_tx_reset` the queues and the slots are empty; it defers and receives
nothing. -/
theorem wl12xxTxReset_quiet (h : Ledger c (none, wl)) :
    Quiet c (wl12xxTxReset wl).toTxQueues ∧ (∀ i, (wl12xxTxReset wl).txFrames i = none) ∧
      (wl12xxTxReset wl).deferredTxQueue = wl.deferredTxQueue ∧
      (wl12xxTxReset wl).accepted = wl.accepted := by
  have hconf : (wl1271HandleTxLowWatermark (txResetQueues wl)).toConf = c :=
    (txResetQueues_keep wl).conf.trans h.conf
  have hlow : Quiet c (wl1271HandleTxLowWatermark (txResetQueues wl)).toTxQueues :=
    txResetQueues_quiet h
  unfold wl12xxTxReset
  obtain ⟨hquiet, hnone, hdef, hacc⟩ := Quiet.foldl_txResetSlot (List.finRange 32) hconf hlow
  exact ⟨hquiet, fun i => hnone i (Or.inl (List.mem_finRange i)),
    hdef.trans (txResetQueues_deferred wl).1, hacc.trans (txResetQueues_deferred wl).2⟩

theorem Ledger.congr {wl' : Wl1271} (h : Ledger c (none, wl)) (hc : wl'.toConf = wl.toConf)
    (ht : wl'.toTxQueues = wl.toTxQueues) : Ledger c (none, wl') :=
  ⟨hc.trans h.conf, ht ▸ h.slots, ht ▸ h.counts, ht ▸ h.conserved⟩

theorem opStopCancel_ledger (h : Ledger c (none, wl)) :
    Ledger c (none, opStopCancel (opStopOff wl)) := by
  have hoff : Ledger c (none, opStopOff wl) := h.congr rfl rfl
  have hflush : Ledger c (none, wl1271FlushDeferredWork (opStopOff wl)) :=
    ledger_flushDeferred hoff
  exact hflush.congr rfl rfl

/-- The frames after a stop: what `wl12xx_tx_reset` leaves, and no dummy packet pending. -/
theorem opStop_frames (h : Ledger c (none, wl)) (hon : wl.state ≠ .off) :
    ∃ t, (wlcoreOpStopLocked wl).toConf = c ∧
      (wlcoreOpStopLocked wl).toTxQueues = { t with dummyPacketPending := false } ∧
      Quiet c t ∧ (∀ i, t.txFrames i = none) ∧ t.deferredTxQueue = [] ∧
      t.accepted = wl.accepted := by
  have hcancel := opStopCancel_ledger h
  obtain ⟨hquiet, hslots, hdef, hacc⟩ := wl12xxTxReset_quiet hcancel
  have hconf := (wl12xxTxReset_keep (opStopCancel (opStopOff wl))).conf.trans hcancel.conf
  rcases wlcoreOpStopLocked_cases wl with ⟨hoff, -⟩ | ⟨-, wl₁, p, hwl, heq⟩
  · exact absurd hoff hon
  · rw [hwl] at hquiet hslots hdef hacc hconf
    rw [heq]
    exact ⟨_, hconf, rfl, hquiet, hslots, hdef, hacc⟩

theorem opStop_ledger (h : Ledger c (none, wl)) : Ledger c (none, wlcoreOpStopLocked wl) := by
  rcases wlcoreOpStopLocked_cases wl with ⟨-, p, heq⟩ | ⟨hon, -⟩
  · rw [heq]
    exact h.congr rfl rfl
  · obtain ⟨t, hc, ht, hq, -⟩ := opStop_frames h hon
    refine ⟨hc, ?_, ?_, ?_⟩ <;> dsimp only <;> rw [ht]
    · exact ⟨hq.slots.frames, hq.slots.bound, hq.slots.cnt⟩
    · refine ⟨fun q => ?_, fun h' q s hs => ?_, fun _ hs => by simp at hs, hq.warned⟩
      · have hlen : queueLen t q = 0 := Finset.sum_eq_zero fun h' _ => by rw [hq.empty h' q]; rfl
        show t.txQueueCount q = (queueLen t q : ℤ) + 0
        rw [hq.count q, hlen]
        rfl
      · exact absurd hs (by rw [hq.empty h' q]; simp)
    · exact hq.conserved.congr rfl rfl rfl rfl rfl

/-- After a stop every frame has been given back as often as it was received. -/
theorem opStop_returned (h : Ledger c (none, wl)) (hon : wl.state ≠ .off) {s : Skb}
    (hs : NotDummy c s) : (wlcoreOpStopLocked wl).returned.count s = wl.accepted.count s := by
  obtain ⟨t, -, ht, hq, hslots, hdef, hacc⟩ := opStop_frames h hon
  have hcons := hq.conserved s hs
  have hqueued : queuedCopies t s = 0 :=
    Finset.sum_eq_zero fun h' _ => Finset.sum_eq_zero fun q _ => by rw [hq.empty h' q]; rfl
  have hslot : slotCopies t s = 0 := Finset.sum_eq_zero fun i _ => by rw [hslots i]; rfl
  rw [heldCopies, hqueued, hslot, hdef, hacc] at hcons
  rw [ht]
  simpa using hcons

/-! ## Runs -/

/-- The operations that touch frames, and any other change of the driver. -/
inductive TxOp
  | opTx (skb : Skb)
  | txDummyPacket (env : TxWorkEnv)
  | txWorkLocked (env : TxWorkEnv)
  | completePacket (r : TxResult)
  | completePacket18xx (txStatByte : ℕ)
  | psFilterFrames (h : Hlid)
  | resetLinkQueues (h : Hlid)
  | freeLink (v : VifId) (h : Hlid)
  | flushBegin
  | flushPoll (elpOk : Bool) (env : TxWorkEnv)
  | flushEnd (timedOut : Bool)
  | flushDeferredWork
  | fwStatus (st : FwStatus)
  | opStopLocked
  /-- everything but the configuration and the frames may become what it is in `x` -/
  | other (x : Wl1271)

/-- One operation. -/
def txStep (wl : Wl1271) : TxOp → Wl1271
  | .opTx skb => wl1271OpTx wl skb
  | .txDummyPacket env => (wl1271TxDummyPacket wl env).2
  | .txWorkLocked env => (wlcoreTxWorkLocked wl env).2
  | .completePacket r => wl1271TxCompletePacket wl r
  | .completePacket18xx b => wl18xxTxCompletePacket wl b
  | .psFilterFrames h => wl1271PsFilterFrames wl h
  | .resetLinkQueues h => wl1271TxResetLinkQueues wl h
  | .freeLink v h => wl12xxFreeLink wl v h
  | .flushBegin => txFlushBegin wl
  | .flushPoll elpOk env => txFlushPoll wl elpOk env
  | .flushEnd timedOut => txFlushEnd wl timedOut
  | .flushDeferredWork => wl1271FlushDeferredWork wl
  | .fwStatus st => wlcoreFwStatus wl st
  | .opStopLocked => wlcoreOpStopLocked wl
  | .other x => { x with toConf := wl.toConf, toTxQueues := wl.toTxQueues }

/-- mac80211 never offers the driver's own dummy packet. -/
def TxOp.Foreign (c : Conf) : TxOp → Prop
  | .opTx skb => NotDummy c skb
  | .txDummyPacket env | .txWorkLocked env | .flushPoll _ env => Offers (NotDummy c) env
  | _ => True

theorem txStep_ledger {op : TxOp} (hop : op.Foreign c) (h : Ledger c (none, wl)) :
    Ledger c (none, txStep wl op) := by
  have hreach {wl' : Wl1271} (hr : Reach (.frames (NotDummy c)) (none, wl) (none, wl')) :
      Ledger c (none, wl') := ledger_reach (fun _ hs => hs) hr h
  cases op with
  | opTx skb => exact ledger_opTx h hop
  | txDummyPacket env => exact hreach (wl1271TxDummyPacket_reach (P := .frames _) hop trivial wl)
  | txWorkLocked env => exact hreach (wlcoreTxWorkLocked_reach (P := .frames _) hop wl)
  | completePacket r => exact hreach (wl1271TxCompletePacket_reach wl r)
  | completePacket18xx b => exact hreach (wl18xxTxCompletePacket_reach wl b)
  | psFilterFrames l => exact ledger_drain h l
  | resetLinkQueues l => exact ledger_drain h l
  | freeLink v l =>
    have hlinks : Ledger c (none, { wl with
        linksMap := update wl.linksMap l false
        vifs := update wl.vifs v
          { wl.vifs v with linksMap := update (wl.vifs v).linksMap l false } }) := h.congr rfl rfl
    exact ledger_drain hlinks l
  | flushBegin => exact hreach (txFlushBegin_reach wl)
  | flushPoll elpOk env => exact hreach (txFlushPoll_reach (P := .frames _) hop wl elpOk)
  | flushEnd timedOut => exact hreach (txFlushEnd_reach wl timedOut)
  | flushDeferredWork => exact ledger_flushDeferred h
  | fwStatus st =>
    have hr : Reach (.frames (NotDummy c)) (none, wl) (none, wlcoreFwStatus wl st) :=
      wlcoreFwStatus_reach trivial
    exact hreach hr
  | opStopLocked => exact opStop_ledger h
  | other x => exact h.congr rfl rfl

theorem probe_ledger (c : Conf) : Ledger c (none, wlcoreProbe c) := by
  refine ⟨rfl, ⟨fun _ => rfl, fun _ hi => (nomatch hi), ?_⟩,
    ⟨fun q => ?_, fun _ _ _ hs => (nomatch hs), fun _ hs => (nomatch hs), rfl⟩, fun s _ => ?_⟩
  · simp [wlcoreProbe, usedSlots]
  · simp [wlcoreProbe, queueLen, pendingDummy]
  · simp [wlcoreProbe, heldCopies, queuedCopies, slotCopies]

/-- The ledger holds in every state of a run. -/
theorem run_ledger {ops : List TxOp} (hops : ∀ op ∈ ops, op.Foreign c) :
    Ledger c (none, run txStep (wlcoreProbe c) ops) := by
  have hstep (wl : Wl1271) (op : TxOp) (hop : op ∈ ops) (h : Ledger c (none, wl)) :
      Ledger c (none, txStep wl op) := txStep_ledger (hops op hop) h
  exact run_induction_mem hstep (probe_ledger c)

/-- A frame that `op_tx` received once is in exactly one place, once; it is given back at most
once; and if the device is stopped now, it is then given back exactly once. -/
theorem frame_in_one_place (c : Conf) (ops : List TxOp) (hops : ∀ op ∈ ops, op.Foreign c)
    (s : Skb) (hs : NotDummy c s)
    (honce : (run txStep (wlcoreProbe c) ops).accepted.count s = 1) :
    (∃ p, copiesIn (run txStep (wlcoreProbe c) ops).toTxQueues s p = 1 ∧
        ∀ p', p' ≠ p → copiesIn (run txStep (wlcoreProbe c) ops).toTxQueues s p' = 0) ∧
      (run txStep (wlcoreProbe c) ops).returned.count s ≤ 1 ∧
      ((run txStep (wlcoreProbe c) ops).state ≠ .off →
        (wlcoreOpStopLocked (run txStep (wlcoreProbe c) ops)).returned.count s = 1) := by
  have h := run_ledger hops
  generalize run txStep (wlcoreProbe c) ops = wl at h honce
  have hheld : heldCopies wl.toTxQueues s = 1 := by
    have := h.conserved s hs
    rwa [Option.toList_none, List.count_nil, add_zero, honce] at this
  refine ⟨sum_eq_one_single_place (by rw [sum_copiesIn, hheld]), ?_, fun hon => ?_⟩
  · unfold heldCopies at hheld
    omega
  · rw [opStop_returned h hon hs, honce]

/-- Two frames are queued and sent, the first is completed and given back. -/
def twoFramesOps : List TxOp :=
  [.other { staDriver with txBlocksAvailable := 100 }, .opTx (staFrame 1), .opTx (staFrame 2),
   .txWorkLocked { iters := [{}, {}, {}] }, .completePacket ⟨0, true, 0⟩, .flushDeferredWork]

theorem twoFramesOps_foreign : ∀ op ∈ twoFramesOps, op.Foreign (chipConf .wl128x) := by
  simp only [twoFramesOps, List.forall_mem_cons]
  refine ⟨trivial, ?_, ?_, ?_, trivial, trivial, by simp⟩
  · show (1 : ℕ) ≠ 0
    decide
  · show (2 : ℕ) ≠ 0
    decide
  · simp [TxOp.Foreign, Offers]

/-- The second frame of that run is in its descriptor slot, and a stop gives it back. -/
theorem frame_in_one_place_inFlight :
    copiesIn (run txStep (wlcoreProbe (chipConf .wl128x)) twoFramesOps).toTxQueues (staFrame 2)
        (.slot 1) = 1 ∧
      (wlcoreOpStopLocked (run txStep (wlcoreProbe (chipConf .wl128x))
        twoFramesOps)).returned.count (staFrame 2) = 1 :=
  ⟨by decide +kernel,
    (frame_in_one_place (chipConf .wl128x) twoFramesOps twoFramesOps_foreign (staFrame 2)
      (by show (2 : ℕ) ≠ 0; decide) (by decide +kernel)).2.2 (by decide +kernel)⟩

/-- In every state of a run each counter is the number of queued frames of its category, plus
one if the dummy packet is pending there; no counter is negative and no warning has fired. -/
theorem queueCount_exact (c : Conf) (ops : List TxOp) (hops : ∀ op ∈ ops, op.Foreign c) (q : Ac) :
    (run txStep (wlcoreProbe c) ops).txQueueCount q =
        (∑ h, ((run txStep (wlcoreProbe c) ops).txQueue h q).length : ℕ) +
          (if (run txStep (wlcoreProbe c) ops).dummyPacketPending ∧ q = c.dummyPacket.ac
            then 1 else 0) ∧
      0 ≤ (run txStep (wlcoreProbe c) ops).txQueueCount q ∧
      (run txStep (wlcoreProbe c) ops).countWarned = false := by
  have h := (run_ledger hops).counts
  exact ⟨h.count q, count_nonneg h q, h.warned⟩

/-- A frame is queued and the firmware, which is busy, asks for the dummy packet. -/
def dummyOps : List TxOp :=
  [.other { staDriver with fwTxBusy := true }, .opTx (staFrame 1), .txDummyPacket { iters := [] }]

theorem dummyOps_foreign : ∀ op ∈ dummyOps, op.Foreign (chipConf .wl128x) := by
  simp only [dummyOps, List.forall_mem_cons]
  refine ⟨trivial, ?_, ?_, by simp⟩
  · show (1 : ℕ) ≠ 0
    decide
  · simp [TxOp.Foreign, Offers]

/-- The dummy packet is counted in its category without being in any queue. -/
theorem queueCount_exact_dummy :
    (run txStep (wlcoreProbe (chipConf .wl128x)) dummyOps).txQueueCount 3 =
        (∑ h, ((run txStep (wlcoreProbe (chipConf .wl128x)) dummyOps).txQueue h 3).length : ℕ) +
          1 ∧
      (run txStep (wlcoreProbe (chipConf .wl128x)) dummyOps).countWarned = false := by
  have h := queueCount_exact (chipConf .wl128x) dummyOps dummyOps_foreign 3
  have hpend : (run txStep (wlcoreProbe (chipConf .wl128x)) dummyOps).dummyPacketPending = true ∧
      (3 : Ac) = (chipConf .wl128x).dummyPacket.ac := by decide +kernel
  rw [if_pos hpend] at h
  exact ⟨h.1, h.2.2⟩

end TiWlan.Tx
