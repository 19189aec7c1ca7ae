import TiWlan.Driver.Keys
import TiWlan.Lib.Run

/-!
# What the data path leaves alone

`TxKeep wl wl'` says that between two states the configuration, the list of vifs, the
link ownership and the keys are the same, that a vif changed at most in its scheduling
cursor, its default WEP key and its sequence number, and that the power state changed
at most by queueing a recovery. Everything from `op_tx` to the threaded interrupt
handler stays within this frame, which is what the invariants about links, power and
scheduling need to know of it.

Removing interfaces and stations changes the links, but is within the weaker frame
`PowerKeep` of the configuration and the power state.

Results: a lemma `f_keep` for the functions `f` that the data path is made of, and a lemma
`f_powerKeep` for those that remove links.
-/

namespace TiWlan.Driver

open Function (update update_self)

variable {p p' : Power} {α : Type} {wl' : Wl1271} (wl : Wl1271) (v : VifId) (wlvif : Option VifId)
  (skb : Skb) (h : Hlid)

/-! ## The frame -/

/-- At most a recovery was queued. -/
def Power.MayRecover (p p' : Power) : Prop := p' = p ∨ p' = p.queueRecoveryWork

theorem Power.queueRecoveryWork_idem (p : Power) :
    p.queueRecoveryWork.queueRecoveryWork = p.queueRecoveryWork := by
  unfold Power.queueRecoveryWork
  split_ifs with h h' <;> simp_all

/-- A queued recovery takes the device out of `WLCORE_STATE_ON`. -/
theorem Power.queueRecoveryWork_not_on (p : Power) : p.queueRecoveryWork.state ≠ .on := by
  unfold Power.queueRecoveryWork
  split_ifs with h
  · simp
  · exact h

theorem Power.MayRecover.refl (p : Power) : p.MayRecover p := Or.inl rfl

theorem Power.MayRecover.trans {p'' : Power} (h : p.MayRecover p') (h' : p'.MayRecover p'') :
    p.MayRecover p'' := by
  rcases h with rfl | rfl
  · exact h'
  · rcases h' with rfl | rfl
    · exact Or.inr rfl
    · exact Or.inr p.queueRecoveryWork_idem

/-- A recovery is only queued while the device is on. -/
theorem Power.MayRecover.eq_of_not_on (h : p.MayRecover p') (hp : p.state ≠ .on) : p' = p := by
  rcases h with rfl | rfl
  · rfl
  · simp [Power.queueRecoveryWork, hp]

theorem Power.MayRecover.recoveryInProgress (h : p.MayRecover p')
    (hp : p.recoveryInProgress = true) :
    p'.recoveryInProgress = true := by
  rcases h with rfl | rfl
  · exact hp
  · unfold Power.queueRecoveryWork
    split
    · rfl
    · exact hp

theorem Power.MayRecover.state_ne_off (h : p.MayRecover p') (hp : p.state ≠ .off) :
    p'.state ≠ .off := by
  rcases h with rfl | rfl
  · exact hp
  · unfold Power.queueRecoveryWork
    split
    · simp
    · exact hp

theorem Power.MayRecover.off_of_off (h : p.MayRecover p') (hoff : p'.state = .off) :
    p.state = .off :=
  not_not.mp fun hp => h.state_ne_off hp hoff

theorem Power.MayRecover.on_of_on (h : p.MayRecover p') (hon : p'.state = .on) : p.state = .on := by
  by_contra hp
  rw [h.eq_of_not_on hp] at hon
  exact hp hon

/-- A vif changed at most in its cursor, its default key and its sequence number. -/
def VifKeep (w w' : Wl12xxVif) : Prop :=
  ∃ l d s b, w' = { w with
    lastTxHlid := l, defaultKey := d, txSecuritySeq := s, txSecurityLastSeqLsb := b }

theorem VifKeep.refl (w : Wl12xxVif) : VifKeep w w := ⟨_, _, _, _, rfl⟩

theorem VifKeep.trans {w w' w'' : Wl12xxVif} (h : VifKeep w w') (h' : VifKeep w' w'') :
    VifKeep w w'' := by
  obtain ⟨_, _, _, _, rfl⟩ := h
  obtain ⟨l, d, s, b, rfl⟩ := h'
  exact ⟨l, d, s, b, rfl⟩

/-- The last vif served is the same or another one of the list. -/
def LastKeep (l l' : VifLinks) : Prop :=
  l'.lastWlvif = l.lastWlvif ∨ ∃ v ∈ l.wlvifList, l'.lastWlvif = some v

theorem LastKeep.refl (l : VifLinks) : LastKeep l l := Or.inl rfl

theorem LastKeep.trans {l l' l'' : VifLinks} (h : LastKeep l l') (h' : LastKeep l' l'')
    (hlist : l'.wlvifList = l.wlvifList) : LastKeep l l'' := by
  rcases h' with heq | ⟨v, hv, heq⟩
  · rcases h with heq' | ⟨v, hv, heq'⟩
    · exact Or.inl (heq.trans heq')
    · exact Or.inr ⟨v, hv, heq.trans heq'⟩
  · exact Or.inr ⟨v, hlist ▸ hv, heq⟩

/-- The last vif that was served is the same, or one of the listed ones. -/
theorem LastKeep.listed {l l' : VifLinks} (h : LastKeep l l') {u : VifId}
    (hu : l'.lastWlvif = some u) : l.lastWlvif = some u ∨ u ∈ l.wlvifList := by
  rcases h with heq | ⟨v, hv, heq⟩
  · exact Or.inl (heq.symm.trans hu)
  · obtain rfl : v = u := Option.some.inj (heq.symm.trans hu)
    exact Or.inr hv

/-- The frame of the data path. -/
structure TxKeep (wl wl' : Wl1271) : Prop where
  conf : wl'.toConf = wl.toConf
  power : wl.toPower.MayRecover wl'.toPower
  vif : ∀ v, VifKeep (wl.vifs v) (wl'.vifs v)
  wlvifList : wl'.wlvifList = wl.wlvifList
  last : LastKeep wl.toVifLinks wl'.toVifLinks
  linksMap : wl'.linksMap = wl.linksMap
  activeStaCount : wl'.activeStaCount = wl.activeStaCount
  extraSpareVifCount : wl'.extraSpareVifCount = wl.extraSpareVifCount
  keyCmds : wl'.keyCmds = wl.keyCmds

namespace TxKeep

theorem refl : TxKeep wl wl :=
  ⟨rfl, .refl _, fun _ => .refl _, rfl, .refl _, rfl, rfl, rfl, rfl⟩

theorem trans {wl wl'' : Wl1271} (h : TxKeep wl wl') (h' : TxKeep wl' wl'') : TxKeep wl wl'' :=
  ⟨h'.conf.trans h.conf, h.power.trans h'.power, fun v => (h.vif v).trans (h'.vif v),
    h'.wlvifList.trans h.wlvifList, h.last.trans h'.last h.wlvifList,
    h'.linksMap.trans h.linksMap, h'.activeStaCount.trans h.activeStaCount,
    h'.extraSpareVifCount.trans h.extraSpareVifCount,
    h'.keyCmds.trans h.keyCmds⟩

/-- Changes outside the framed parts. -/
theorem of_parts {wl : Wl1271} (hc : wl'.toConf = wl.toConf) (hp : wl'.toPower = wl.toPower)
    (hv : wl'.toVifLinks = wl.toVifLinks)
    (hs : wl'.extraSpareVifCount = wl.extraSpareVifCount) (hk : wl'.keyCmds = wl.keyCmds) :
    TxKeep wl wl' where
  conf := hc
  power := Or.inl hp
  vif v := by rw [show wl'.vifs = wl.vifs from congrArg VifLinks.vifs hv]; exact .refl _
  wlvifList := congrArg VifLinks.wlvifList hv
  last := Or.inl (congrArg VifLinks.lastWlvif hv)
  linksMap := congrArg VifLinks.linksMap hv
  activeStaCount := congrArg VifLinks.activeStaCount hv
  extraSpareVifCount := hs
  keyCmds := hk

theorem setVif {f : Wl12xxVif → Wl12xxVif}
    (hf : VifKeep (wl.vifs v) (f (wl.vifs v))) : TxKeep wl (wl.setVif v f) where
  conf := rfl
  power := .refl _
  vif v' := by
    show VifKeep _ (update wl.vifs v (f (wl.vifs v)) v')
    by_cases h : v' = v
    · subst h; rw [Function.update_self]; exact hf
    · rw [Function.update_of_ne h]; exact .refl _
  wlvifList := rfl
  last := Or.inl rfl
  linksMap := rfl
  activeStaCount := rfl
  extraSpareVifCount := rfl
  keyCmds := rfl

theorem queueRecovery : TxKeep wl (wl12xxQueueRecoveryWork wl) where
  conf := rfl
  power := Or.inr rfl
  vif _ := .refl _
  wlvifList := rfl
  last := Or.inl rfl
  linksMap := rfl
  activeStaCount := rfl
  extraSpareVifCount := rfl
  keyCmds := rfl

theorem foldl {f : Wl1271 → α → Wl1271} (hf : ∀ wl a, TxKeep wl (f wl a)) (l : List α)
    (wl : Wl1271) :
    TxKeep wl (l.foldl f wl) :=
  Lib.foldl_rel refl trans (fun wl a _ => hf wl a) wl

theorem bssType {wl : Wl1271} (h : TxKeep wl wl') (v : VifId) :
    (wl'.vifs v).bssType = (wl.vifs v).bssType := by
  obtain ⟨_, _, _, _, h⟩ := h.vif v
  rw [h]

theorem vifLinksMap {wl : Wl1271} (h : TxKeep wl wl') (v : VifId) :
    (wl'.vifs v).linksMap = (wl.vifs v).linksMap := by
  obtain ⟨_, _, _, _, h⟩ := h.vif v
  rw [h]

theorem staHlidMap {wl : Wl1271} (h : TxKeep wl wl') (v : VifId) :
    (wl'.vifs v).staHlidMap = (wl.vifs v).staHlidMap := by
  obtain ⟨_, _, _, _, h⟩ := h.vif v
  rw [h]

end TxKeep

/-! ## Queues -/

theorem wl1271OpTx_keep : TxKeep wl (wl1271OpTx wl skb) := by
  unfold wl1271OpTx
  split <;> exact .of_parts rfl rfl rfl rfl rfl

theorem drainLinkQueues_keep : TxKeep wl (drainLinkQueues wl h) :=
  .of_parts rfl rfl rfl rfl rfl

/-- A change of the power save maps. -/
theorem TxKeep.psMaps (ps fwPs : Hlid → Bool) :
    TxKeep wl { wl with apPsMap := ps, apFwPsMap := fwPs } :=
  ⟨rfl, .refl _, fun _ => .refl _, rfl, Or.inl rfl, rfl, rfl, rfl, rfl⟩

/-! ## The scheduler -/

theorem TxKeep.setLastTxHlid : TxKeep wl (wl.setVif v fun w => { w with lastTxHlid := h }) :=
  .setVif wl v ⟨h, _, _, _, rfl⟩

theorem TxKeep.setLastWlvif {wl : Wl1271} {v : VifId} (hv : v ∈ wl.wlvifList) :
    TxKeep wl { wl with lastWlvif := some v } :=
  ⟨rfl, .refl _, fun _ => .refl _, rfl, Or.inr ⟨v, hv, rfl⟩, rfl, rfl, rfl, rfl⟩

theorem mem_of_mem_vifsAfterLast {wl : Wl1271} {v : VifId} (hv : v ∈ vifsAfterLast wl) :
    v ∈ wl.wlvifList := by
  unfold vifsAfterLast at hv
  split at hv
  · simp at hv
  · exact (List.dropWhile_suffix _).subset (List.mem_of_mem_tail hv)

theorem wl1271SkbQueueHead_keep : TxKeep wl (wl1271SkbQueueHead wl wlvif skb h) := by
  unfold wl1271SkbQueueHead
  split_ifs
  · exact .of_parts rfl rfl rfl rfl rfl
  · cases wlvif with
    | none => exact .of_parts rfl rfl rfl rfl rfl
    | some v =>
      have hpush : TxKeep wl (wl.pushHead h skb) := .of_parts rfl rfl rfl rfl rfl
      exact hpush.trans (.setLastTxHlid _ v _)

/-! ## Preparing a frame -/

theorem wl1271FreeTxId_keep (id : TxId) : TxKeep wl (wl1271FreeTxId wl id) := by
  unfold wl1271FreeTxId
  split
  · exact .of_parts rfl rfl rfl rfl rfl
  · exact .refl _

/-- `wl` with the descriptor `id` claimed for `skb`. -/
abbrev claimTxId (wl : Wl1271) (id : TxId) (skb : Skb) : Wl1271 :=
  { wl with
    txFramesMap := update wl.txFramesMap id true
    txFrames := update wl.txFrames id (some skb)
    txFramesCnt := wl.txFramesCnt + 1 }

theorem allocTxId_none {wl : Wl1271} {skb : Skb} (h : wl1271AllocTxId wl skb = (none, wl')) :
    wl' = wl ∧ findFirstZeroBit wl.txFramesMap wl.numTxDesc = none := by
  unfold wl1271AllocTxId at h
  split at h
  · cases h
    exact ⟨rfl, by assumption⟩
  · cases h

theorem allocTxId_some {wl : Wl1271} {skb : Skb} {id : TxId}
    (h : wl1271AllocTxId wl skb = (some id, wl')) :
    findFirstZeroBit wl.txFramesMap wl.numTxDesc = some id ∧ wl' = claimTxId wl id skb := by
  unfold wl1271AllocTxId at h
  split at h
  · cases h
  · cases h
    exact ⟨by assumption, rfl⟩

/-- The ways out of `wl1271_tx_allocate`: the aggregation buffer is full, no descriptor is
free, the memory blocks do not suffice and the descriptor is given back, or the frame is
handed over. -/
inductive TxAllocated (wl : Wl1271) (wlvif : Option VifId) (skb : Skb) (extra off : ℕ) (h : Hlid)
    (gem : Bool) : Except Errno TxAlloc × Wl1271 → Prop
  | full (hfull : wl.aggrBufSize < off + (skb.data.length + txHwDescrSize + extra)) :
      TxAllocated wl wlvif skb extra off h gem (.error .eagain, wl)
  | noId (hroom : off + (skb.data.length + txHwDescrSize + extra) ≤ wl.aggrBufSize)
      (hnone : findFirstZeroBit wl.txFramesMap wl.numTxDesc = none) :
      TxAllocated wl wlvif skb extra off h gem (.error .ebusy, wl)
  | noBlocks {id : TxId}
      (hroom : off + (skb.data.length + txHwDescrSize + extra) ≤ wl.aggrBufSize)
      (hid : findFirstZeroBit wl.txFramesMap wl.numTxDesc = some id)
      (hblocks : wl.txBlocksAvailable < wlcoreHwCalcTxBlocks wl.toConf
        (skb.data.length + txHwDescrSize + extra) (wlcoreHwGetSpareBlocks wl gem)) :
      TxAllocated wl wlvif skb extra off h gem
        (.error .ebusy, wl1271FreeTxId (claimTxId wl id skb) id)
  | handed {a : TxAlloc}
      (hroom : off + (skb.data.length + txHwDescrSize + extra) ≤ wl.aggrBufSize)
      (hid : findFirstZeroBit wl.txFramesMap wl.numTxDesc = some a.id)
      (hspare : a.spareBlocks = wlcoreHwGetSpareBlocks wl gem)
      (htotal : a.totalBlocks = wlcoreHwCalcTxBlocks wl.toConf
        (skb.data.length + txHwDescrSize + extra) a.spareBlocks)
      (hblocks : a.totalBlocks ≤ wl.txBlocksAvailable) :
      TxAllocated wl wlvif skb extra off h gem
        (.ok a, txAllocateCommit (claimTxId wl a.id skb) wlvif skb h a)

theorem wl1271TxAllocate_path (extra off : ℕ) (h : Hlid) (gem : Bool) :
    TxAllocated wl wlvif skb extra off h gem
      (wl1271TxAllocate wl wlvif skb extra off h gem) := by
  dsimp only [wl1271TxAllocate]
  split_ifs with hroom
  · exact .full hroom
  · split <;> rename_i heq
    · obtain ⟨rfl, hnone⟩ := allocTxId_none heq
      exact .noId (not_lt.mp hroom) hnone
    · obtain ⟨hid, rfl⟩ := allocTxId_some heq
      split_ifs with hblocks
      · exact .handed (not_lt.mp hroom) hid rfl rfl hblocks
      · exact .noBlocks (not_lt.mp hroom) hid (not_le.mp hblocks)

/-- What the allocation writes: the descriptors and the blocks. -/
theorem wl1271TxAllocate_frame (extra off : ℕ) (h : Hlid) (gem : Bool) :
    ∃ busy map frames cnt avail blocks pending pkts linkPkts held,
      (wl1271TxAllocate wl wlvif skb extra off h gem).2 =
        { wl with
          fwTxBusy := busy, txFramesMap := map, txFrames := frames, txFramesCnt := cnt
          txBlocksAvailable := avail, txAllocatedBlocks := blocks
          txWatchdogPending := pending, txAllocatedPkts := pkts, allocatedPkts := linkPkts
          fwHeld := held } := by
  have hpath := wl1271TxAllocate_path wl wlvif skb extra off h gem
  generalize wl1271TxAllocate wl wlvif skb extra off h gem = r at hpath ⊢
  cases hpath with
  | full | noId | handed => exact ⟨_, _, _, _, _, _, _, _, _, _, rfl⟩
  | noBlocks =>
    dsimp only [wl1271FreeTxId]
    split <;> exact ⟨_, _, _, _, _, _, _, _, _, _, rfl⟩

theorem wl1271TxAllocate_keep (extra off : ℕ) (h : Hlid) (gem : Bool) :
    TxKeep wl (wl1271TxAllocate wl wlvif skb extra off h gem).2 := by
  obtain ⟨_, _, _, _, _, _, _, _, _, _, heq⟩ :=
    wl1271TxAllocate_frame wl wlvif skb extra off h gem
  rw [heq]
  exact .of_parts rfl rfl rfl rfl rfl

theorem cmdEffect_keep (ret : CmdRet) : TxKeep wl (cmdEffect wl ret) := by
  cases ret
  · exact .refl _
  · exact .refl _
  · exact .queueRecovery _

theorem removeSleepAuth_cmd (wasAp : Bool) (env : RemoveEnv) :
    ∃ ret, removeSleepAuth wl wasAp env = cmdEffect wl ret := by
  unfold removeSleepAuth
  split_ifs
  · exact ⟨.ok, rfl⟩
  · exact ⟨_, rfl⟩
  · exact ⟨.ok, rfl⟩

theorem removeSleepAuth_keep (wasAp : Bool) (env : RemoveEnv) :
    TxKeep wl (removeSleepAuth wl wasAp env) := by
  obtain ⟨ret, heq⟩ := removeSleepAuth_cmd wl wasAp env
  rw [heq]
  exact cmdEffect_keep wl ret

/-- Without a device role, disabling the roles only sends commands. -/
theorem removeDisableRoles_cmd {wl : Wl1271} {v : VifId} (hdev : (wl.vifs v).devHlid = none)
    (env : RemoveEnv) : ∃ ret, removeDisableRoles wl v env = cmdEffect wl ret := by
  unfold removeDisableRoles
  split_ifs
  · exact ⟨.ok, rfl⟩
  · exact ⟨.failed .eio, rfl⟩
  · simp only [hdev, Option.isSome_none, Bool.false_eq_true, and_false, if_false]
    exact ⟨_, rfl⟩

theorem TxKeep.setDefaultKey (k : ℕ) :
    TxKeep wl (wl.setVif v fun w => { w with defaultKey := k }) :=
  .setVif wl v ⟨_, k, _, _, rfl⟩

/-! ## Completions -/

theorem deferFrame_keep (slot : TxId) (skb : Skb) : TxKeep wl (deferFrame wl slot skb) := by
  have hq : TxKeep wl { wl with
      deferredTxQueue := wl.deferredTxQueue ++ [skb], netstackWorkQueued := true } :=
    .of_parts rfl rfl rfl rfl rfl
  exact hq.trans (wl1271FreeTxId_keep _ slot)

theorem completeVif_keep (r : TxResult) (skb : Skb) : TxKeep wl (completeVif wl r skb) := by
  unfold completeVif
  split
  · exact .of_parts rfl rfl rfl rfl rfl
  · split_ifs
    · refine .setVif wl _ ?_
      exact ⟨_, _, _, _, rfl⟩
    · exact .refl _

theorem wl1271FlushDeferredWork_keep : TxKeep wl (wl1271FlushDeferredWork wl) :=
  .of_parts rfl rfl rfl rfl rfl

/-! ## Stopping -/

theorem resetAllLinkQueues_frame :
    ∃ queue count back stop, resetAllLinkQueues wl =
      { wl with txQueue := queue, txQueueCount := count, returned := back, toTxStop := stop } := by
  unfold resetAllLinkQueues
  induction allHlids generalizing wl with
  | nil => exact ⟨_, _, _, _, rfl⟩
  | cons h hs ih =>
    obtain ⟨_, _, _, _, heq⟩ := ih (wl1271TxResetLinkQueues wl h)
    exact ⟨_, _, _, _, heq⟩

theorem txResetQueues_frame :
    ∃ queue count back stop, txResetQueues wl =
      { wl with txQueue := queue, txQueueCount := count, returned := back, toTxStop := stop } := by
  unfold txResetQueues
  split
  · obtain ⟨_, _, _, _, heq⟩ := resetAllLinkQueues_frame wl
    rw [heq]
    exact ⟨_, _, _, _, rfl⟩
  · exact ⟨_, _, _, _, rfl⟩

theorem txResetSlot_frame (i : TxId) :
    ∃ busy map frames cnt back, txResetSlot wl i =
      { wl with
        fwTxBusy := busy, txFramesMap := map, txFrames := frames, txFramesCnt := cnt
        returned := back } := by
  dsimp only [txResetSlot, wl1271FreeTxId]
  repeat' split
  all_goals exact ⟨_, _, _, _, _, rfl⟩

/-- What `wl12xx_tx_reset` writes: the queues and the descriptors. -/
theorem wl12xxTxReset_frame :
    ∃ queue count stop busy map frames cnt back, wl12xxTxReset wl =
      { wl with
        txQueue := queue, txQueueCount := count, toTxStop := stop, fwTxBusy := busy
        txFramesMap := map, txFrames := frames, txFramesCnt := cnt, returned := back } := by
  have hslots (is : List TxId) (wl : Wl1271) : ∃ busy map frames cnt back,
      is.foldl txResetSlot wl = { wl with
        fwTxBusy := busy, txFramesMap := map, txFrames := frames, txFramesCnt := cnt
        returned := back } := by
    induction is generalizing wl with
    | nil => exact ⟨_, _, _, _, _, rfl⟩
    | cons i is ih =>
      obtain ⟨_, _, _, _, _, hi⟩ := txResetSlot_frame wl i
      rw [List.foldl_cons, hi]
      obtain ⟨_, _, _, _, _, heq⟩ := ih _
      exact ⟨_, _, _, _, _, heq⟩
  obtain ⟨_, _, _, _, heq⟩ := txResetQueues_frame wl
  rw [wl12xxTxReset, heq]
  obtain ⟨_, _, _, _, _, hreset⟩ := hslots (List.finRange 32) _
  exact ⟨_, _, _, _, _, _, _, _, hreset⟩

theorem txResetSlot_keep (i : TxId) : TxKeep wl (txResetSlot wl i) := by
  obtain ⟨_, _, _, _, _, heq⟩ := txResetSlot_frame wl i
  rw [heq]
  exact .of_parts rfl rfl rfl rfl rfl

theorem txResetQueues_keep : TxKeep wl (txResetQueues wl) := by
  obtain ⟨_, _, _, _, heq⟩ := txResetQueues_frame wl
  rw [heq]
  exact .of_parts rfl rfl rfl rfl rfl

theorem wl12xxTxReset_keep : TxKeep wl (wl12xxTxReset wl) := by
  obtain ⟨_, _, _, _, _, _, _, _, heq⟩ := wl12xxTxReset_frame wl
  rw [heq]
  exact .of_parts rfl rfl rfl rfl rfl

/-- On a device that is off, `wlcore_op_stop_locked` only changes the power state. -/
theorem wlcoreOpStopLocked_cases :
    (wl.state = .off ∧ ∃ p, wlcoreOpStopLocked wl = { wl with toPower := p }) ∨
      wl.state ≠ .off ∧ ∃ wl₁ p, wl12xxTxReset (opStopCancel (opStopOff wl)) = wl₁ ∧
        wlcoreOpStopLocked wl = opStopReset { wl₁ with toPower := p } := by
  unfold wlcoreOpStopLocked
  split
  · refine Or.inl ⟨‹_›, ?_⟩
    split <;> exact ⟨_, rfl⟩
  · refine Or.inr ⟨‹_›, ?_⟩
    generalize wl12xxTxReset (opStopCancel (opStopOff wl)) = wl₁
    unfold opStopEnable
    split
    · exact ⟨wl₁, _, rfl, rfl⟩
    · exact ⟨wl₁, wl₁.toPower, rfl, rfl⟩

/-! ## Booting -/

/-- What each write of an attempt to boot keeps, the boot keeps. -/
theorem initFwLoop_induction {I : Wl1271 → Prop} {attempts : List BootAttempt}
    (hpower : ∀ wl p, I wl → I { wl with toPower := p })
    (hpriv : ∀ wl idx n k, I wl →
      I { wl with lastFwRlsIdx := idx, extraSpareVifCount := n, fwSpareBlocks := k })
    (hflush : ∀ wl, I wl → I (wl1271FlushDeferredWork { wl with netstackWorkQueued := false }))
    (hmem : ∀ wl n, .boots n ∈ attempts ∨ .hwInitFails (some n) ∈ attempts → I wl →
      I { wl with txBlocksAvailable := n }) (h : I wl) : I (initFwLoop attempts wl).2 := by
  have hinit (wl : Wl1271) (h : I wl) : I (hwInitPriv wl) := by
    unfold hwInitPriv
    split
    · exact hpriv wl _ _ _ h
    · exact h
  induction attempts generalizing wl with
  | nil => exact h
  | cons a attempts ih =>
    have hstep : I (bootAttempt wl a).2 := by
      cases a with
      | wakeupFails => exact h
      | bootFails _ => exact hpower _ _ h
      | hwInitFails mem =>
        have hfail := hflush _ (hinit _ (hpower _ (wl.toPower.failedBoot true) h))
        cases mem with
        | none => exact hfail
        | some n => exact hmem _ n (by simp) hfail
      | boots n => exact hmem _ n (by simp) (hinit _ (hpower _ _ h))
    unfold initFwLoop
    split <;> rename_i heq <;> rw [heq] at hstep
    · exact hpower _ _ hstep
    · exact ih _ (fun wl n hn => hmem wl n (hn.imp (List.mem_cons_of_mem _)
        (List.mem_cons_of_mem _))) hstep

/-! ## Removing links -/

/-- The configuration is the same and at most a recovery was queued. -/
structure PowerKeep (wl wl' : Wl1271) : Prop where
  conf : wl'.toConf = wl.toConf
  power : wl.toPower.MayRecover wl'.toPower

namespace PowerKeep

theorem refl : PowerKeep wl wl := ⟨rfl, .refl _⟩

theorem trans {wl wl'' : Wl1271} (h : PowerKeep wl wl') (h' : PowerKeep wl' wl'') :
    PowerKeep wl wl'' :=
  ⟨h'.conf.trans h.conf, h.power.trans h'.power⟩

theorem of_parts {wl : Wl1271} (hc : wl'.toConf = wl.toConf) (hp : wl'.toPower = wl.toPower) :
    PowerKeep wl wl' := ⟨hc, Or.inl hp⟩

theorem setVif (f : Wl12xxVif → Wl12xxVif) : PowerKeep wl (wl.setVif v f) := .of_parts rfl rfl

theorem foldl {f : Wl1271 → α → Wl1271} (hf : ∀ wl a, PowerKeep wl (f wl a)) (l : List α)
    (wl : Wl1271) : PowerKeep wl (l.foldl f wl) :=
  Lib.foldl_rel refl trans (fun wl a _ => hf wl a) wl

end PowerKeep

theorem TxKeep.powerKeep {wl : Wl1271} (h : TxKeep wl wl') : PowerKeep wl wl' :=
  ⟨h.conf, h.power⟩

theorem wl12xxFreeLink_powerKeep : PowerKeep wl (wl12xxFreeLink wl v h) := by
  refine PowerKeep.trans ?_ (drainLinkQueues_keep _ h).powerKeep
  exact .of_parts rfl rfl

theorem freeRoleLink_powerKeep (r : RoleLink) : PowerKeep wl (freeRoleLink wl v r) := by
  unfold freeRoleLink
  split
  · exact .refl _
  · rename_i h _
    exact (wl12xxFreeLink_powerKeep wl v h).trans (.setVif _ v _)

theorem wl1271FreeSta_of_not {wl : Wl1271} {v : VifId} {h : Hlid}
    (hsta : (wl.vifs v).staHlidMap h = false) : wl1271FreeSta wl v h = wl := by
  unfold wl1271FreeSta
  simp [hsta]

/-- Freeing a station empties the queues of its link, clears its bits and may arm the watchdog. -/
theorem wl1271FreeSta_frame {wl : Wl1271} {v : VifId} {h : Hlid}
    (hsta : (wl.vifs v).staHlidMap h = true) :
    ∃ b, wl1271FreeSta wl v h = { drainLinkQueues wl h with
      vifs := update wl.vifs v { wl.vifs v with
        linksMap := update (wl.vifs v).linksMap h false
        staHlidMap := update (wl.vifs v).staHlidMap h false }
      linksMap := update wl.linksMap h false
      apPsMap := update wl.apPsMap h false
      apFwPsMap := update wl.apFwPsMap h false
      activeStaCount := wl.activeStaCount - 1
      txWatchdogPending := wl.txWatchdogPending || b } := by
  refine ⟨decide (wl.activeStaCount - 1 = 0) && wl.txAllocatedBlocks != 0, ?_⟩
  simp only [wl1271FreeSta, hsta, wl12xxRearmTxWatchdogLocked, wl12xxFreeLink,
    wl1271TxResetLinkQueues, drainLinkQueues, wl1271HandleTxLowWatermark, Wl1271.setVif,
    Function.update_idem, update_self]
  by_cases hz : wl.activeStaCount - 1 = 0 <;> simp [hz] <;> rfl

theorem wl1271FreeSta_powerKeep : PowerKeep wl (wl1271FreeSta wl v h) := by
  cases hsta : (wl.vifs v).staHlidMap h with
  | false =>
    rw [wl1271FreeSta_of_not hsta]
    exact .refl wl
  | true =>
    obtain ⟨_, heq⟩ := wl1271FreeSta_frame hsta
    rw [heq]
    exact .of_parts rfl rfl

/-- What the loop of `wl12xx_tx_reset_wlvif` writes to. -/
theorem txResetLoop_frame (hs : List Hlid) (wl : Wl1271) (v : VifId) :
    ∃ q c d s lm sm m ps fps n a p b, hs.foldl (txResetWlvifLink v) wl = { wl with
      txQueue := q, txQueueCount := c, returned := d, toTxStop := s
      vifs := update wl.vifs v { wl.vifs v with linksMap := lm, staHlidMap := sm }
      linksMap := m, apPsMap := ps, apFwPsMap := fps, activeStaCount := n
      allocatedPkts := a, prevFreedPkts := p, txWatchdogPending := b } := by
  induction hs generalizing wl with
  | nil =>
    exact ⟨wl.txQueue, wl.txQueueCount, wl.returned, wl.toTxStop, (wl.vifs v).linksMap,
      (wl.vifs v).staHlidMap, wl.linksMap, wl.apPsMap, wl.apFwPsMap, wl.activeStaCount,
      wl.allocatedPkts, wl.prevFreedPkts, wl.txWatchdogPending, by simp⟩
  | cons h hs ih =>
    obtain ⟨q, c, d, s, lm, sm, m, ps, fps, n, a, p, b, heq⟩ := ih (txResetWlvifLink v wl h)
    refine ⟨q, c, d, s, lm, sm, m, ps, fps, n, a, p, b, heq.trans ?_⟩
    unfold txResetWlvifLink
    split
    · cases hsta : (wl.vifs v).staHlidMap h with
      | false => rw [wl1271FreeSta_of_not hsta]
      | true =>
        obtain ⟨_, hfree⟩ := wl1271FreeSta_frame hsta
        simp only [hfree, drainLinkQueues, wl1271HandleTxLowWatermark, Function.update_idem,
          update_self]
    · rfl

/-- What `deinit` writes to. -/
theorem removeDeinit_frame :
    ∃ lm q c d s m ps fps n a p b, removeDeinit wl v = { wl with
      txQueue := q, txQueueCount := c, returned := d, toTxStop := s
      vifs := update wl.vifs v { forgetRoles (wl.vifs v) with
        linksMap := lm, staHlidMap := fun _ => false, lastTxHlid := 0 }
      wlvifList := wl.wlvifList.erase v
      lastWlvif := if wl.lastWlvif = some v then none else wl.lastWlvif
      linksMap := m, apPsMap := ps, apFwPsMap := fps, activeStaCount := n
      allocatedPkts := a, prevFreedPkts := p, txWatchdogPending := b } := by
  obtain ⟨q, c, d, s, lm, sm, m, ps, fps, n, a, p, b, heq⟩ := txResetLoop_frame
    (allHlids.filter ((wl.setVif v forgetRoles).vifs v).linksMap) (wl.setVif v forgetRoles) v
  refine ⟨lm, q, c, d, s, m, ps, fps, n, a, p, b, ?_⟩
  unfold removeDeinit wl12xxTxResetWlvif
  simp only [heq]
  simp only [Wl1271.setVif, Function.update_idem, update_self]

theorem removeDeinit_powerKeep : PowerKeep wl (removeDeinit wl v) := by
  obtain ⟨_, _, _, _, _, _, _, _, _, _, _, _, heq⟩ := removeDeinit_frame wl v
  rw [heq]
  exact .of_parts rfl rfl

end TiWlan.Driver
