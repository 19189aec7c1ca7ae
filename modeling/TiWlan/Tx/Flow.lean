import TiWlan.Tx.Dequeue

/-!
# Why the firmware is busy

`FW_TX_BUSY` is set when a frame finds no free descriptor or too few memory blocks
(`wlcore/tx.c`, lines 735–744). It is cleared when a descriptor is freed while all were in use
(`wl1271_free_tx_id`, lines 75–84) and when a status block brings more blocks
(`wlcore_fw_status`, `wlcore/main.c`, lines 458–466). With an honest firmware and frames that
fit into its pool, the flag therefore always has a reason that is still there: all descriptors
are in use, or the firmware holds blocks.

Main results:

* `flow_reach`: this and what it rests on is kept by every function of the data path;
* `wlcoreTxWorkLocked_settled`: when the transmit loop returns and the device is on, nothing is
  queued or the firmware is busy.
-/

namespace TiWlan.Tx

open TiWlan.Lib TiWlan.Driver
open Function (update update_of_ne)

variable {e : Errno} {st : FwStatus} {l : Hlid} {v : Option VifId} {env : PrepEnv} {skb : Skb}
  {a : TxAccounting} {it : TxIter} {wl' : Wl1271} {n : ℕ}

/-! ## The environment -/

/-- The memory blocks that a frame needs at most. -/
def maxBlocks (c : Conf) (skb : Skb) : ℕ :=
  wlcoreHwCalcTxBlocks c (skb.data.length + txHwDescrSize + txExtraSpace c.quirks skb) 2

/-- A frame that fits into a pool of `T` blocks; only frames of a vif are encrypted. -/
structure Sendable (c : Conf) (T : ℕ) (skb : Skb) : Prop where
  fits : maxBlocks c skb ≤ T
  keyed : skb.hwKey ≠ none → NotDummy c skb ∧ skb.vif ≠ none

/-- The packets of a category that a status block releases. -/
def releasedPkts (wl : Wl1271) (st : FwStatus) (q : Ac) : ℕ :=
  u8 ((st.txReleasedPkts q : ℤ) - wl.txPktsFreed q)

/-- A status block of a firmware whose pool has `T` blocks: it releases blocks and packets that
it was given, and every packet that it keeps occupies a block. -/
structure HonestStatus (T : ℕ) (wl : Wl1271) (st : FwStatus) : Prop where
  total : st.txTotal = T
  freed : 0 ≤ freedBlocks wl st ∧ freedBlocks wl st ≤ wl.txAllocatedBlocks
  released : ∀ q, releasedPkts wl st q ≤ wl.txAllocatedPkts q
  kept : (∑ q, (wl.txAllocatedPkts q - releasedPkts wl st q) : ℕ) + freedBlocks wl st ≤
    wl.txAllocatedBlocks

/-- What is assumed of the frames of the vifs `vs` and of the firmware; `dummy` tells whether it
may ask for the dummy packet. -/
def flowAssume (c : Conf) (T : ℕ) (vs : List VifId) (dummy : Prop) : Assume where
  frame skb := NotDummy c skb ∧ Sendable c T skb ∧ ∀ v, skb.vif = some v → v ∈ vs
  status := HonestStatus T
  dummy := dummy

/-! ## The accounting -/

/-- Available and allocated blocks make up the pool, and every packet occupies a block. -/
structure AcctInv (T : ℕ) (a : TxAccounting) : Prop where
  blocks : a.txBlocksAvailable + a.txAllocatedBlocks = T
  pkts : ∑ q, a.txAllocatedPkts q ≤ a.txAllocatedBlocks

section
variable {c : Conf} {T : ℕ} {vs : List VifId} {D : Prop} {wl : Wl1271}
  {s s' : Option Skb × Wl1271}

theorem AcctInv.pkts_le (h : AcctInv T a) (q : Ac) : a.txAllocatedPkts q ≤ T := by
  have hq : a.txAllocatedPkts q ≤ ∑ q, a.txAllocatedPkts q :=
    Finset.single_le_sum (fun _ _ => Nat.zero_le _) (Finset.mem_univ q)
  have := h.blocks
  have := h.pkts
  omega

theorem AcctInv.selectable (h : AcctInv T a) (hT : T < 2 ^ 31) : Selectable a := by
  intro q
  have := h.pkts_le q
  omega

theorem AcctInv.of_keep {a' : TxAccounting} (h : AcctInv T a) (hk : AcctKeep a a') :
    AcctInv T a' := by
  obtain ⟨_, _, rfl⟩ := hk
  exact ⟨h.blocks, h.pkts⟩

theorem AcctInv.commit (hT : T < 2 ^ 31) (h : AcctInv T wl.toTxAccounting) {a : TxAlloc}
    (hb : a.totalBlocks ≤ wl.txBlocksAvailable) (hpos : 0 < a.totalBlocks) (v : Option VifId)
    (skb : Skb) (l : Hlid) : AcctInv T (txAllocateCommit wl v skb l a).toTxAccounting := by
  have hblocks := h.blocks
  have hpkts := h.pkts
  have hle := h.pkts_le skb.ac
  have halloc : u32 (wl.txAllocatedBlocks + a.totalBlocks) =
      wl.txAllocatedBlocks + a.totalBlocks := by
    unfold u32
    omega
  have hpkt : u32 (wl.txAllocatedPkts skb.ac + 1) = wl.txAllocatedPkts skb.ac + 1 := by
    unfold u32
    omega
  have hsum := sum_update_add wl.txAllocatedPkts skb.ac (wl.txAllocatedPkts skb.ac + 1) id
  refine ⟨?_, ?_⟩
  · show wl.txBlocksAvailable - a.totalBlocks + u32 (wl.txAllocatedBlocks + a.totalBlocks) = T
    omega
  · show ∑ q, update wl.txAllocatedPkts skb.ac (u32 (wl.txAllocatedPkts skb.ac + 1)) q ≤
      u32 (wl.txAllocatedBlocks + a.totalBlocks)
    rw [halloc, hpkt]
    simp only [id] at hsum
    omega

/-- The block counters after an honest status block. -/
theorem fwStatusAccounting_blocks (hT : T < 2 ^ 31) (h : AcctInv T wl.toTxAccounting)
    (hst : HonestStatus T wl st) :
    ((fwStatusAccounting wl st).txAllocatedBlocks : ℤ) = wl.txAllocatedBlocks - freedBlocks wl st ∧
      (fwStatusAccounting wl st).txBlocksAvailable + (fwStatusAccounting wl st).txAllocatedBlocks =
        T := by
  have hblocks := h.blocks
  obtain ⟨hf₀, hf₁⟩ := hst.freed
  have halloc : (u32 ((wl.txAllocatedBlocks : ℤ) - freedBlocks wl st) : ℤ) =
      wl.txAllocatedBlocks - freedBlocks wl st := by
    unfold u32
    omega
  refine ⟨halloc, ?_⟩
  show u32 (max (s32 wl.txBlocksAvailable)
      (s32 ((st.txTotal : ℤ) - u32 ((wl.txAllocatedBlocks : ℤ) - freedBlocks wl st)))) +
    u32 ((wl.txAllocatedBlocks : ℤ) - freedBlocks wl st) = T
  rw [hst.total, s32_of_lt (by omega) (by omega), s32_of_lt (by omega) (by omega)]
  generalize u32 ((wl.txAllocatedBlocks : ℤ) - freedBlocks wl st) = n at halloc ⊢
  unfold u32
  omega

theorem AcctInv.status (hT : T < 2 ^ 31) (h : AcctInv T wl.toTxAccounting)
    (hst : HonestStatus T wl st) : AcctInv T (fwStatusAccounting wl st) := by
  obtain ⟨halloc, hsum⟩ := fwStatusAccounting_blocks hT h hst
  refine ⟨hsum, ?_⟩
  have hpkts (q : Ac) : (fwStatusAccounting wl st).txAllocatedPkts q =
      wl.txAllocatedPkts q - releasedPkts wl st q := by
    have hq := hst.released q
    have hle := h.pkts_le q
    show u32 ((wl.txAllocatedPkts q : ℤ) - releasedPkts wl st q) = _
    exact u32_sub_of_le hq (by omega)
  have hkept := hst.kept
  simp only [hpkts]
  omega

theorem acct_atom (hT : T < 2 ^ 31) (hatom : TxAtom (flowAssume c T vs D) s s')
    (h : AcctInv T s.2.toTxAccounting) : AcctInv T s'.2.toTxAccounting := by
  cases hatom with
  | opTx hp =>
    unfold wl1271OpTx
    split <;> exact h
  | @commit wl wl' skb v l a hid hb hpos =>
    obtain ⟨-, heq⟩ := allocTxId_some hid
    have hacct : AcctInv T wl'.toTxAccounting := by
      rw [heq]
      exact h
    have hfits : a.totalBlocks ≤ wl'.txBlocksAvailable := by
      rw [heq]
      exact hb
    exact hacct.commit hT hfits hpos v skb l
  | release hid =>
    obtain ⟨-, rfl⟩ := allocTxId_some hid
    unfold wl1271FreeTxId
    split <;> exact ⟨h.blocks, h.pkts⟩
  | busy hb => exact ⟨h.blocks, h.pkts⟩
  | complete hs hd =>
    unfold deferFrame wl1271FreeTxId
    split <;> exact ⟨h.blocks, h.pkts⟩
  | completeDummy hs hd =>
    unfold wl1271FreeTxId
    split <;> exact ⟨h.blocks, h.pkts⟩
  | status hst => exact AcctInv.status hT h hst
  | other hk ht ha hw => exact h.of_keep ha
  | _ => exact h

/-! ## The links that have frames -/

/-- Only links that the scheduler looks at have frames. -/
def QueuesServed (wl : Wl1271) : Prop := ∀ h q, wl.txQueue h q ≠ [] → Served wl h

/-- A queue of a link that is served is written. -/
theorem QueuesServed.setQueue (h : QueuesServed wl) (hk : TxKeep wl wl') {q : Ac} {xs : List Skb}
    (hl : Served wl l) (heq : wl'.txQueue = (wl.toTxQueues.setQueue l q xs).txQueue) :
    QueuesServed wl' := by
  intro h' q' hne
  by_cases hh : h' = l
  · subst hh
    exact hl.of_keep hk
  · refine (h h' q' ?_).of_keep hk
    rw [heq] at hne
    simpa [TxQueues.setQueue, update_of_ne hh] using hne

theorem QueuesServed.of_keep (h : QueuesServed wl) (hk : TxKeep wl wl')
    (heq : wl'.txQueue = wl.txQueue) : QueuesServed wl' := by
  intro h' q hne
  rw [heq] at hne
  exact (h h' q hne).of_keep hk

/-- The link on which `op_tx` queues a frame of a listed vif. -/
theorem opTxLink_served (hl : opTxLink wl skb = some l)
    (hv : ∀ v, skb.vif = some v → v ∈ wl.wlvifList) : Served wl l := by
  obtain ⟨hget, hadmit⟩ := Option.filter_eq_some_iff.mp hl
  rw [Bool.and_eq_true] at hadmit
  cases hvif : skb.vif with
  | none =>
    have hsys : wl12xxTxGetHlid wl skb = some systemHlid := by
      unfold wl12xxTxGetHlid
      rw [hvif]
    rw [hsys] at hget
    exact Or.inl (Option.some.inj hget).symm
  | some v =>
    refine Or.inr ⟨v, hv v hvif, ?_⟩
    have hlink := hadmit.1
    unfold linkAdmits at hlink
    rwa [hvif] at hlink

theorem served_atom {P : Assume} (hP : ∀ skb, P.frame skb → ∀ v, skb.vif = some v → v ∈ vs)
    (hlist : s.2.wlvifList = vs) (hatom : TxAtom P s s') (h : QueuesServed s.2) :
    QueuesServed s'.2 := by
  have hkeep := hatom.keep
  cases hatom with
  | @opTx wl skb hp =>
    unfold wl1271OpTx at hkeep ⊢
    split at hkeep <;> rename_i hlink
    · exact h.of_keep hkeep rfl
    · have hserved := opTxLink_served hlink fun v hv => by
        rw [hlist]
        exact hP skb hp v hv
      exact h.setQueue hkeep hserved rfl
  | @take wl l q skb rest hq =>
    exact h.setQueue hkeep (h l q (by simp [hq])) rfl
  | putBack hd hs => exact h.setQueue hkeep hs rfl
  | @drain hand wl l =>
    intro h' q hne
    refine (h h' q ?_).of_keep hkeep
    have hne' : update wl.txQueue l (fun _ => []) h' q ≠ [] := hne
    by_cases hh : h' = l
    · subst hh
      simp at hne'
    · rwa [update_of_ne hh] at hne'
  | commit hid hb hpos =>
    obtain ⟨-, rfl⟩ := allocTxId_some hid
    exact h.of_keep hkeep rfl
  | @release wl wl' skb id hid =>
    obtain ⟨-, rfl⟩ := allocTxId_some hid
    refine h.of_keep hkeep ?_
    unfold wl1271FreeTxId
    split <;> rfl
  | complete hs hd =>
    refine h.of_keep hkeep ?_
    unfold deferFrame wl1271FreeTxId
    split <;> rfl
  | completeDummy hs hd =>
    refine h.of_keep hkeep ?_
    unfold wl1271FreeTxId
    split <;> rfl
  | other hk ht ha hw => exact h.of_keep hkeep (congrArg TxQueues.txQueue ht)
  | _ => exact h.of_keep hkeep rfl

/-! ## The reason for `FW_TX_BUSY` -/

/-- While the device is on, a busy firmware has all descriptors in use or holds blocks. -/
def BusyInv (n : ℕ) (wl : Wl1271) : Prop :=
  wl.fwTxBusy = true → wl.state ≠ .on ∨ wl.txFramesCnt = n ∨ 0 < wl.txAllocatedBlocks

/-- Without a free descriptor all of them are counted. -/
theorem SlotInv.cnt_of_full {t : TxQueues} (h : SlotInv n t) (hn : n ≤ 32)
    (hfull : findFirstZeroBit t.txFramesMap n = none) : t.txFramesCnt = n := by
  have hmap (i : TxId) : t.txFramesMap i = decide (i.val < n) := by
    have hi := List.find?_eq_none.mp hfull i (List.mem_finRange i)
    have hb := h.bound i
    cases hm : t.txFramesMap i with
    | false => simpa [hm] using hi
    | true => simpa using hb hm
  have hused : usedSlots t = n := by
    calc usedSlots t = ∑ i : TxId, (decide (i.val < n)).toNat :=
          Finset.sum_congr rfl fun i _ => by rw [hmap i]
      _ = ∑ i : TxId, if i.val < n then 1 else 0 := by
          refine Finset.sum_congr rfl fun i _ => ?_
          by_cases hi : i.val < n <;> simp [hi]
      _ = (Finset.univ.filter fun i : TxId => i.val < n).card := (Finset.card_filter _ _).symm
      _ = n := by rw [Fin.card_filter_val_lt, min_eq_right hn]
  rw [h.cnt, hused]

theorem frameBlocks_le (hconf : wl.toConf = c) (skb : Skb) :
    frameBlocks wl skb ≤ maxBlocks c skb := by
  have hspare := wlcoreHwGetSpareBlocks_le wl (txIsGem skb)
  unfold frameBlocks maxBlocks wlcoreHwCalcTxBlocks
  rw [hconf]
  split <;> omega

/-- When the flag is set while a frame is in hand, the reason is there. -/
theorem BusyReason.busyInv (hb : BusyReason wl skb) (hl : Ledger c (some skb, wl))
    (hs : Sendable c T skb) (ha : AcctInv T wl.toTxAccounting) :
    wl.state ≠ .on ∨ wl.txFramesCnt = c.numTxDesc ∨ 0 < wl.txAllocatedBlocks := by
  have hnum : wl.numTxDesc = c.numTxDesc := congrArg Conf.numTxDesc hl.conf
  rcases hb with hoff | hfull | hfew
  · exact Or.inl hoff
  · rw [hnum] at hfull
    exact Or.inr (Or.inl (hl.slots.cnt_of_full c.numTxDesc_le hfull))
  · -- fewer blocks are available than the pool has
    have hle : frameBlocks wl skb ≤ maxBlocks c skb := frameBlocks_le hl.conf skb
    have hfits := hs.fits
    have hblocks := ha.blocks
    exact Or.inr (Or.inr (by omega))

theorem BusyInv.free (h : BusyInv c.numTxDesc wl) (hconf : wl.toConf = c) (i : TxId) :
    BusyInv c.numTxDesc (wl1271FreeTxId wl i) := by
  have hnum : wl.numTxDesc = c.numTxDesc := congrArg Conf.numTxDesc hconf
  unfold wl1271FreeTxId
  split
  · intro hbusy
    have hbusy' : (if wl.txFramesCnt = wl.numTxDesc then false else wl.fwTxBusy) = true := hbusy
    split_ifs at hbusy' with hcnt
    rw [hnum] at hcnt
    rcases h hbusy' with hoff | hfull | hheld
    · exact Or.inl hoff
    · exact absurd hfull hcnt
    · exact Or.inr (Or.inr hheld)
  · exact h

/-- More blocks clear the flag, so a flag that stays has kept its reason. -/
theorem BusyInv.status (hT : T < 2 ^ 31) (h : BusyInv n wl) (ha : AcctInv T wl.toTxAccounting)
    (hst : HonestStatus T wl st) :
    BusyInv n { wl with toTxAccounting := fwStatusAccounting wl st } := by
  intro hbusy
  have hbusy' : (if wl.txBlocksAvailable < (fwStatusAccounting wl st).txBlocksAvailable then false
      else wl.fwTxBusy) = true := hbusy
  split_ifs at hbusy' with hmore
  obtain ⟨-, hsum⟩ := fwStatusAccounting_blocks hT ha hst
  have hblocks := ha.blocks
  rcases h hbusy' with hoff | hfull | hheld
  · exact Or.inl hoff
  · exact Or.inr (Or.inl hfull)
  · refine Or.inr (Or.inr ?_)
    show 0 < (fwStatusAccounting wl st).txAllocatedBlocks
    omega

theorem BusyInv.of_keep (h : BusyInv n wl) (hk : TxKeep wl wl')
    (ht : wl'.toTxQueues = wl.toTxQueues) (ha : AcctKeep wl.toTxAccounting wl'.toTxAccounting) :
    BusyInv n wl' := by
  obtain ⟨_, _, hacct⟩ := ha
  have hflag : wl'.fwTxBusy = wl.fwTxBusy := by rw [hacct]
  have hblocks : wl'.txAllocatedBlocks = wl.txAllocatedBlocks := by rw [hacct]
  have hcnt : wl'.txFramesCnt = wl.txFramesCnt := congrArg TxQueues.txFramesCnt ht
  intro hbusy
  rw [hflag] at hbusy
  rw [hblocks, hcnt]
  rcases h hbusy with hoff | hreason
  · refine Or.inl ?_
    rwa [show wl'.state = wl.state from congrArg Power.state (hk.power.eq_of_not_on hoff)]
  · exact Or.inr hreason

/-! ## The invariant of the data path -/

/-- What the flow of frames rests on. -/
structure FlowInv (c : Conf) (T : ℕ) (vs : List VifId) (s : Option Skb × Wl1271) : Prop where
  ledger : Ledger c s
  sendable : Queued (Sendable c T) s
  list : s.2.wlvifList = vs
  served : QueuesServed s.2
  acct : AcctInv T s.2.toTxAccounting
  busy : BusyInv c.numTxDesc s.2

theorem busy_atom (hT : T < 2 ^ 31) (hatom : TxAtom (flowAssume c T vs D) s s')
    (h : FlowInv c T vs s) : BusyInv c.numTxDesc s'.2 := by
  have hacct := acct_atom hT hatom h.acct
  cases hatom with
  | opTx hp =>
    unfold wl1271OpTx
    split <;> exact h.busy
  | @commit wl wl' skb v l a hid hb hpos =>
    obtain ⟨-, rfl⟩ := allocTxId_some hid
    intro _
    refine Or.inr (Or.inr ?_)
    have hbefore := h.acct.blocks
    have hafter := hacct.blocks
    dsimp only [txAllocateCommit] at hbefore hafter ⊢
    omega
  | @release wl wl' skb id hid =>
    obtain ⟨-, rfl⟩ := allocTxId_some hid
    unfold wl1271FreeTxId
    rw [if_pos (by simp)]
    intro hbusy
    have hflag : (if wl.txFramesCnt + 1 = wl.numTxDesc then false else wl.fwTxBusy) = true := hbusy
    split_ifs at hflag
    rcases h.busy hflag with hoff | hfull | hheld
    · exact Or.inl hoff
    · refine Or.inr (Or.inl ?_)
      show wl.txFramesCnt + 1 - 1 = c.numTxDesc
      rw [add_sub_cancel_right]
      exact hfull
    · exact Or.inr (Or.inr hheld)
  | busy hb => exact fun _ => hb.busyInv h.ledger (h.sendable.hand _ rfl) h.acct
  | @complete wl slot skb hs hd =>
    have hdefer : BusyInv c.numTxDesc { wl with
        deferredTxQueue := wl.deferredTxQueue ++ [skb], netstackWorkQueued := true } := h.busy
    exact hdefer.free h.ledger.conf slot
  | completeDummy hs hd => exact h.busy.free h.ledger.conf _
  | status hst => exact h.busy.status hT h.acct hst
  | other hk ht ha hw => exact h.busy.of_keep hk ht ha
  | _ => exact h.busy

theorem flow_atom (hT : T < 2 ^ 31) (hatom : TxAtom (flowAssume c T vs D) s s')
    (h : FlowInv c T vs s) : FlowInv c T vs s' where
  ledger := ledger_atom (P := flowAssume c T vs D) (fun _ hp => hp.1) hatom h.ledger
  sendable := queued_atom (P := flowAssume c T vs D) (fun _ hp => hp.2.1) hatom h.sendable
  list := hatom.keep.wlvifList.trans h.list
  served := served_atom (P := flowAssume c T vs D) (fun _ hp => hp.2.2) h.list hatom h.served
  acct := acct_atom hT hatom h.acct
  busy := busy_atom hT hatom h

/-- The invariant is kept by every function of the data path. -/
theorem flow_reach (hT : T < 2 ^ 31) (hreach : Reach (flowAssume c T vs D) s s')
    (h : FlowInv c T vs s) : FlowInv c T vs s' :=
  hreach.invariant (fun _ _ => flow_atom hT) h

/-- When the scheduler finds nothing, the counters are zero. -/
theorem FlowInv.total_of_dequeue_none (hT : T < 2 ^ 31) (h : FlowInv c T vs (none, wl))
    (heq : wl1271SkbDequeue wl = (none, wl')) : wl1271TxTotalQueueCount wl' = 0 := by
  have hp : Selectable wl.toTxAccounting := h.acct.selectable hT
  obtain ⟨hsame, hidle, hdummy⟩ := wl1271SkbDequeue_none hp heq
  have hempty (l : Hlid) (q : Ac) : wl.txQueue l q = [] := by
    by_contra hne
    exact hne (hidle l (h.served l q hne) q)
  have hzero (q : Ac) : wl.txQueueCount q = 0 := by
    have hcount := h.ledger.counts.count q
    have hlen : queueLen wl.toTxQueues q = 0 := by simp [queueLen, hempty]
    have hpend : pendingDummy c.dummyPacket wl.toTxQueues q = 0 := by simp [pendingDummy, hdummy]
    dsimp only at hcount
    rw [hcount, hlen, hpend]
    rfl
  unfold wl1271TxTotalQueueCount
  rw [hsame.queues]
  simp [hzero]

/-! ## How the transmit loop ends -/

/-- The environment of a transmit loop: its frames are as assumed, and memory for a command is
always found. -/
structure TxEnvOk (c : Conf) (T : ℕ) (vs : List VifId) (env : TxWorkEnv) : Prop where
  offers : Offers (flowAssume c T vs True).frame env
  memory : ∀ it ∈ env.iters, it.prep.wepKey ≠ .noMem

/-- The device is not on, or nothing is queued, or the firmware is busy. -/
def Settled (wl : Wl1271) : Prop :=
  wl.state ≠ .on ∨ wl1271TxTotalQueueCount wl = 0 ∨ wl.fwTxBusy = true

theorem Settled.congr (h : Settled wl) (hp : wl'.toPower = wl.toPower)
    (ht : wl'.toTxQueues = wl.toTxQueues) (ha : wl'.toTxAccounting = wl.toTxAccounting) :
    Settled wl' := by
  unfold Settled wl1271TxTotalQueueCount at h ⊢
  rw [hp, ht, ha]
  exact h

/-- With memory for the command and a vif for every key, switching the key only fails with a
recovery. -/
theorem prepareWepKey_fails (hv : skb.hwKey ≠ none → v ≠ none) (hmem : env.wepKey ≠ .noMem)
    (h : prepareWepKey wl env v skb = (.error e, wl')) : wl'.state ≠ .on := by
  unfold prepareWepKey at h
  split at h
  · cases h
  · rename_i key hkey
    split_ifs at h
    · split at h
      · exact absurd rfl (hv (by simp [hkey]))
      · split_ifs at h
        · cases h
        · split at h
          · cases h
          · rename_i hno
            exact absurd hno hmem
          · cases h
            exact wl.toPower.queueRecoveryWork_not_on
    · cases h

theorem wl1271TxAllocate_error {extra off : ℕ} {gem : Bool}
    (h : wl1271TxAllocate wl v skb extra off l gem = (.error e, wl')) :
    e = .eagain ∨ e = .ebusy := by
  have hpath := wl1271TxAllocate_path wl v skb extra off l gem
  rw [h] at hpath
  cases hpath with
  | full => exact Or.inl rfl
  | noId | noBlocks => exact Or.inr rfl

/-- A frame is refused for lack of room, or because a command failed. -/
theorem wl1271PrepareTxFrame_error {off : ℕ} (hv : skb.hwKey ≠ none → v ≠ none)
    (hmem : env.wepKey ≠ .noMem) (h : wl1271PrepareTxFrame wl env v skb off l = (.error e, wl')) :
    e = .eagain ∨ e = .ebusy ∨ wl'.state ≠ .on := by
  dsimp only [wl1271PrepareTxFrame] at h
  split at h
  · rename_i hwep
    cases h
    exact Or.inr (Or.inr (prepareWepKey_fails hv hmem hwep))
  · split at h
    · rename_i halloc
      cases h
      rcases wl1271TxAllocate_error halloc with he | he
      · exact Or.inl he
      · exact Or.inr (Or.inl he)
    · cases h

/-- A dequeued frame ends the loop because the firmware is busy, or with a recovery. -/
theorem txWorkFrame_outAck {loc : TxLocals} (hconf : wl.toConf = c) (hs : Sendable c T skb)
    (hmem : it.prep.wepKey ≠ .noMem) (hexit : (txWorkFrame wl it skb l loc).1 = some .outAck) :
    Settled (txWorkFrame wl it skb l loc).2.1 := by
  have hv : skb.hwKey ≠ none → (if wl12xxIsDummyPacket wl skb then none else skb.vif) ≠ none := by
    intro hkey
    obtain ⟨hd, hvif⟩ := hs.keyed hkey
    have hnot : wl12xxIsDummyPacket wl skb = false := by
      unfold wl12xxIsDummyPacket
      rw [hconf]
      simpa using hd.symm
    rw [if_neg (by simp [hnot])]
    exact hvif
  dsimp only [txWorkFrame] at hexit ⊢
  generalize (if wl12xxIsDummyPacket wl skb = true then none else skb.vif) = v at hv hexit ⊢
  generalize (if v.isSome = true then l else systemHlid) = l' at hexit ⊢
  cases heq : wl1271PrepareTxFrame wl it.prep v skb loc.bufOffset l' with
  | mk r wl₁ =>
    rw [heq] at hexit
    cases r with
    | ok n => cases hexit
    | error e =>
      have hrefused := wl1271PrepareTxFrame_error hv hmem heq
      have hback := (wl1271SkbQueueHead_keep wl₁ v skb l').power
      cases e with
      | eagain =>
        dsimp only [txWorkEagain] at hexit
        split at hexit <;> cases hexit
      | ebusy => exact Or.inr (Or.inr rfl)
      | _ =>
        have hoff : wl₁.state ≠ .on := by simpa using hrefused
        dsimp only
        split
        · refine Or.inl ?_
          show (wl1271SkbQueueHead wl₁ v skb l').state ≠ .on
          rw [congrArg Power.state (hback.eq_of_not_on hoff)]
          exact hoff
        · exact Or.inl hoff

theorem txWorkIter_outAck (hT : T < 2 ^ 31) (h : FlowInv c T vs (none, wl))
    (hoffer : ∀ skb ∈ it.arrivals, (flowAssume c T vs True).frame skb)
    (hmem : it.prep.wepKey ≠ .noMem) {l : TxLocals}
    (hexit : (txWorkIter wl it l).1 = some .outAck) :
    Settled (txWorkIter wl it l).2.1 := by
  have harrived := flow_reach hT (arrivals_reach hoffer wl) h
  have hdeq := flow_reach (D := True) hT (wl1271SkbDequeue_reach _) harrived
  unfold txWorkIter at hexit ⊢
  split at hexit <;> rename_i heq <;> rw [heq] at hdeq
  · exact Or.inr (Or.inl (harrived.total_of_dequeue_none hT heq))
  · exact txWorkFrame_outAck hdeq.ledger.conf (hdeq.sendable.hand _ rfl) hmem hexit

theorem txWorkLoop_outAck (hT : T < 2 ^ 31) {its : List TxIter}
    (hoffer : ∀ it ∈ its, ∀ skb ∈ it.arrivals, (flowAssume c T vs True).frame skb)
    (hmem : ∀ it ∈ its, it.prep.wepKey ≠ .noMem) (h : FlowInv c T vs (none, wl)) {l : TxLocals}
    (hexit : (txWorkLoop its wl l).1 = .outAck) : Settled (txWorkLoop its wl l).2.1 := by
  induction its generalizing wl l with
  | nil => cases hexit
  | cons it its ih =>
    have hiter := txWorkIter_outAck (l := l) hT h (hoffer it (by simp)) (hmem it (by simp))
    have hflow := flow_reach hT (txWorkIter_reach (hoffer it (by simp)) wl l) h
    unfold txWorkLoop at hexit ⊢
    split at hexit <;> rename_i heq <;> rw [heq] at hiter hflow
    · exact hiter (congrArg some hexit)
    · exact ih (fun it' hit' => hoffer it' (by simp [hit']))
        (fun it' hit' => hmem it' (by simp [hit'])) hflow hexit

theorem txWorkOutAck_settled (h : Settled wl) (env : TxWorkEnv) (loc : TxLocals) :
    Settled (txWorkOutAck wl env loc).2 := by
  have hsend : Settled (wlcoreHwPrePktSend wl loc.bufOffset loc.lastLen).2 := by
    dsimp only [wlcoreHwPrePktSend]
    split
    · dsimp only
      split <;> exact h.congr rfl rfl rfl
    · exact h
  dsimp only [txWorkOutAck]
  split_ifs
  · exact hsend
  · exact hsend.congr rfl rfl rfl
  · exact hsend.congr rfl rfl rfl
  · exact h
  · exact h.congr rfl rfl rfl
  · exact h

/-- When the transmit loop returns without a bus error, the device is off, or nothing is queued,
or the firmware is busy. -/
theorem wlcoreTxWorkLocked_settled (hT : T < 2 ^ 31) {env : TxWorkEnv} (henv : TxEnvOk c T vs env)
    (h : FlowInv c T vs (none, wl)) (hok : (wlcoreTxWorkLocked wl env).1 = .ok) :
    Settled (wlcoreTxWorkLocked wl env).2 := by
  have hloop := txWorkLoop_outAck (l := {}) hT henv.offers henv.memory h
  unfold wlcoreTxWorkLocked at hok ⊢
  split_ifs at hok ⊢ with hstate
  · exact Or.inl hstate
  · split at hok <;> rename_i heq <;> rw [heq] at hloop
    · cases hok
    · cases hok
    · exact txWorkOutAck_settled (hloop rfl) env _

end

end TiWlan.Tx
