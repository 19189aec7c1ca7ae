import TiWlan.Tx.Aggregation

/-!
# What preparing a frame does

`wl1271_prepare_tx_frame` (`wlcore/tx.c`, lines 347–425) may change the default WEP key, allocates
a descriptor id and blocks, and copies the frame. For a station of an AP that is asleep it ends by
emptying the queues of the link. This module says, for every result, what that means for the frames
that wait, for the descriptor ids and for the aggregation buffer.
-/

namespace TiWlan.Tx

open TiWlan.Driver
open Function (update)

/-! ## The frames that wait -/

/-- The same frames wait, and the queues are stopped for the same reasons. -/
structure WaitSame (wl wl' : Wl1271) : Prop where
  conf : wl'.toConf = wl.toConf
  queue : wl'.txQueue = wl.txQueue
  count : wl'.txQueueCount = wl.txQueueCount
  pending : wl'.dummyPacketPending = wl.dummyPacketPending
  stop : wl'.toTxStop = wl.toTxStop

namespace WaitSame

variable {wl wl' wl'' : Wl1271}

theorem refl (wl : Wl1271) : WaitSame wl wl := ⟨rfl, rfl, rfl, rfl, rfl⟩

theorem trans (h : WaitSame wl wl') (h' : WaitSame wl' wl'') : WaitSame wl wl'' :=
  ⟨h'.conf.trans h.conf, h'.queue.trans h.queue, h'.count.trans h.count,
    h'.pending.trans h.pending, h'.stop.trans h.stop⟩

/-- The queues of a link are emptied in both. -/
theorem drain (h : WaitSame wl wl') (l : Hlid) :
    WaitSame (drainLinkQueues wl l) (drainLinkQueues wl' l) := by
  have hcount : (fun q => wl'.txQueueCount q - ((wl'.txQueue l q).length : ℤ)) =
      fun q => wl.txQueueCount q - ((wl.txQueue l q).length : ℤ) := by rw [h.count, h.queue]
  refine ⟨h.conf, ?_, hcount, h.pending, ?_⟩
  · show update wl'.txQueue l _ = update wl.txQueue l _
    rw [h.queue]
  · show wl'.toTxStop.handleTxLowWatermark _ = wl.toTxStop.handleTxLowWatermark _
    rw [h.stop, hcount]

theorem queueRecovery (wl : Wl1271) : WaitSame wl (wl12xxQueueRecoveryWork wl) :=
  ⟨rfl, rfl, rfl, rfl, rfl⟩

theorem cmdEffect (wl : Wl1271) (ret : CmdRet) : WaitSame wl (cmdEffect wl ret) := by
  unfold Driver.cmdEffect
  split
  · exact .queueRecovery wl
  · exact .refl wl

theorem freeTxId (wl : Wl1271) (id : TxId) : WaitSame wl (wl1271FreeTxId wl id) := by
  unfold wl1271FreeTxId
  split <;> exact ⟨rfl, rfl, rfl, rfl, rfl⟩

end WaitSame

section
variable (wl : Wl1271) (env : PrepEnv) (v : Option VifId) (skb : Skb) (off : ℕ) (h : Hlid)

theorem prepareWepKey_wait : WaitSame wl (prepareWepKey wl env v skb).2 := by
  unfold prepareWepKey
  repeat' split
  all_goals first
    | exact .refl wl
    | exact .queueRecovery wl
    | exact ⟨rfl, rfl, rfl, rfl, rfl⟩

/-- The key is the business of the vif. -/
theorem prepareWepKey_queues : (prepareWepKey wl env v skb).2.toTxQueues = wl.toTxQueues := by
  unfold prepareWepKey
  repeat' split
  all_goals rfl

theorem wl1271TxAllocate_wait (extra : ℕ) (gem : Bool) :
    WaitSame wl (wl1271TxAllocate wl v skb extra off h gem).2 := by
  obtain ⟨_, _, _, _, _, _, _, _, _, _, heq⟩ := wl1271TxAllocate_frame wl v skb extra off h gem
  rw [heq]
  exact ⟨rfl, rfl, rfl, rfl, rfl⟩

theorem wl1271TxRegulateLink_wait (u : VifId) (found : Bool) :
    WaitSame wl (wl1271TxRegulateLink wl u h found) ∨
      WaitSame (drainLinkQueues wl h) (wl1271TxRegulateLink wl u h found) := by
  unfold wl1271TxRegulateLink wl12xxPsLinkStart
  split_ifs
  all_goals first
    | exact Or.inl (.refl wl)
    | exact Or.inr ⟨rfl, rfl, rfl, rfl, rfl⟩
    | exact Or.inl ⟨rfl, rfl, rfl, rfl, rfl⟩

/-- The frames of a station that went to sleep are dropped. -/
theorem prepareAp_wait : WaitSame wl (prepareAp wl env v skb h) ∨
    WaitSame (drainLinkQueues wl h) (prepareAp wl env v skb h) := by
  unfold prepareAp
  split
  · exact Or.inl (.refl wl)
  · rename_i u
    split
    · have hauth : WaitSame wl (if ieee80211IsAuth (frameControl skb.data) then
          cmdEffect wl env.inconnectionSta else wl) := by
        split
        · exact .cmdEffect wl _
        · exact .refl wl
      rcases wl1271TxRegulateLink_wait _ h u env.staFound with hr | hr
      · exact Or.inl (hauth.trans hr)
      · exact Or.inr ((hauth.drain h).trans hr)
    · exact Or.inl (.refl wl)

theorem prepareAp_slots : (prepareAp wl env v skb h).txFramesMap = wl.txFramesMap := by
  have hregulate (wl : Wl1271) (u : VifId) :
      (wl1271TxRegulateLink wl u h env.staFound).txFramesMap = wl.txFramesMap := by
    unfold wl1271TxRegulateLink wl12xxPsLinkStart
    split_ifs <;> rfl
  unfold prepareAp
  split
  · rfl
  · split
    · refine (hregulate _ _).trans ?_
      split
      · cases env.inconnectionSta <;> rfl
      · rfl
    · rfl

end

/-! ## The two results -/

section
variable {wl wl' : Wl1271} {env : PrepEnv} {v : Option VifId} {skb : Skb} {off : ℕ} {h : Hlid}

theorem wl1271TxAllocate_ok_id {extra : ℕ} {gem : Bool} {a : TxAlloc}
    (heq : wl1271TxAllocate wl v skb extra off h gem = (.ok a, wl')) :
    findFirstZeroBit wl.txFramesMap wl.numTxDesc = some a.id ∧
      wl'.txFramesMap = update wl.txFramesMap a.id true := by
  have hpath := wl1271TxAllocate_path wl v skb extra off h gem
  rw [heq] at hpath
  cases hpath with
  | handed _ hid => exact ⟨hid, rfl⟩

/-- A frame that was prepared: it has a descriptor id that was free, and is the last one in the
buffer. The other frames wait as before, unless those of the link are dropped. -/
structure Prepared (wl : Wl1271) (skb : Skb) (off : ℕ) (h : Hlid) (n : ℕ) (wl' : Wl1271) :
    Prop where
  size : 0 < n
  id : ∃ i, findFirstZeroBit wl.txFramesMap wl.numTxDesc = some i ∧
    wl'.txFramesMap = update wl.txFramesMap i true
  buffer : ∃ id blocks, wl'.aggrFrames = (if off = 0 then [] else wl.aggrFrames) ++
    [⟨id, h, blocks, txFrameBytes skb.data (txExtraSpace wl.quirks skb)⟩]
  writes : wl'.busWrites = wl.busWrites
  wait : WaitSame wl wl' ∨ WaitSame (drainLinkQueues wl h) wl'

theorem wl1271PrepareTxFrame_ok {n : ℕ}
    (heq : wl1271PrepareTxFrame wl env v skb off h = (.ok n, wl')) :
    Prepared wl skb off h n wl' := by
  have hwep := prepareWepKey_wait wl env v skb
  have hwepAggr := prepareWepKey_aggr wl env v skb
  have hwepMap := prepareWepKey_queues wl env v skb
  dsimp only [wl1271PrepareTxFrame] at heq
  split at heq
  · cases heq
  · rename_i wl₁ hwepEq
    rw [hwepEq] at hwep hwepAggr hwepMap
    have halloc := wl1271TxAllocate_wait wl₁ v skb off h (txExtraSpace wl.quirks skb) (txIsGem skb)
    have hallocAggr := wl1271TxAllocate_aggr wl₁ v skb (txExtraSpace wl.quirks skb) off h
      (txIsGem skb)
    split at heq
    · cases heq
    · rename_i a wl₂ hallocEq
      rw [hallocEq] at halloc hallocAggr
      obtain ⟨hfree, hmap⟩ := wl1271TxAllocate_ok_id hallocEq
      have hapAggr := (prepareAp_aggr wl₂ env v skb h).trans (hallocAggr.trans hwepAggr)
      have hapMap := prepareAp_slots wl₂ env v skb h
      have hsame : WaitSame wl wl₂ := hwep.trans halloc
      obtain ⟨hn, rfl⟩ := Prod.mk.inj heq
      cases hn
      have hnum : wl₁.numTxDesc = wl.numTxDesc := congrArg Conf.numTxDesc hwep.conf
      refine ⟨?_, ⟨a.id, ?_, ?_⟩, ⟨a.id, a.totalBlocks, ?_⟩, ?_, ?_⟩
      · rw [placedBytes_length]
        exact Nat.zero_lt_of_lt (lt_frameSize wl₂.toConf ⟨0, 0, 0, _⟩)
      · rw [← hfree, hnum, hwepMap]
      · exact hapMap.trans (hmap.trans (by rw [hwepMap]))
      · show (if off = 0 then [] else (prepareAp wl₂ env v skb h).aggrFrames) ++ [_] = _
        rw [hapAggr]
      · show (prepareAp wl₂ env v skb h).busWrites = wl.busWrites
        rw [hapAggr]
      · rcases prepareAp_wait wl₂ env v skb h with hap | hap
        · exact Or.inl (hsame.trans (hap.trans ⟨rfl, rfl, rfl, rfl, rfl⟩))
        · exact Or.inr ((hsame.drain h).trans (hap.trans ⟨rfl, rfl, rfl, rfl, rfl⟩))

/-- Nothing waits differently after an error, and nothing was copied. -/
theorem wl1271PrepareTxFrame_error_wait {e : Errno}
    (heq : wl1271PrepareTxFrame wl env v skb off h = (.error e, wl')) :
    WaitSame wl wl' ∧ (e = .eagain → wl'.txFramesMap = wl.txFramesMap) := by
  have hwep := prepareWepKey_wait wl env v skb
  have hwepMap := prepareWepKey_queues wl env v skb
  dsimp only [wl1271PrepareTxFrame] at heq
  split at heq
  · rename_i hwepEq
    rw [hwepEq] at hwep hwepMap
    cases heq
    exact ⟨hwep, fun _ => congrArg TxQueues.txFramesMap hwepMap⟩
  · rename_i wl₁ hwepEq
    rw [hwepEq] at hwep hwepMap
    have halloc := wl1271TxAllocate_wait wl₁ v skb off h (txExtraSpace wl.quirks skb) (txIsGem skb)
    split at heq
    · rename_i hallocEq
      rw [hallocEq] at halloc
      cases heq
      refine ⟨hwep.trans halloc, ?_⟩
      rintro rfl
      rw [(wl1271TxAllocate_eagain hallocEq).1, hwepMap]
    · cases heq

end

/-! ## The buffer goes to the bus -/

theorem wlcoreHwPrePktSend_wait (wl : Wl1271) (off lastLen : ℕ) :
    WaitSame wl (wlcoreHwPrePktSend wl off lastLen).2 := by
  unfold wlcoreHwPrePktSend
  split
  · dsimp only
    split <;> exact ⟨rfl, rfl, rfl, rfl, rfl⟩
  · exact .refl wl

/-- After a frame was put back, the transfer concerns no frame that waits. -/
theorem txWorkEagain_wait (wl : Wl1271) (it : TxIter) (v : Option VifId) (skb : Skb) (h : Hlid)
    (l : TxLocals) :
    WaitSame (wl1271SkbQueueHead wl v skb h) (txWorkEagain wl it v skb h l).2.1 := by
  have hsend := wlcoreHwPrePktSend_wait (wl1271SkbQueueHead wl v skb h) l.bufOffset l.lastLen
  dsimp only [txWorkEagain]
  split
  · exact hsend.trans ⟨rfl, rfl, rfl, rfl, rfl⟩
  · exact hsend

/-- The low watermark is checked in both. -/
theorem WaitSame.lowWatermark {wl wl' : Wl1271} (h : WaitSame wl wl') :
    WaitSame (wl1271HandleTxLowWatermark wl) (wl1271HandleTxLowWatermark wl') := by
  refine ⟨h.conf, h.queue, h.count, h.pending, ?_⟩
  show wl'.toTxStop.handleTxLowWatermark _ = wl.toTxStop.handleTxLowWatermark _
  rw [h.stop, h.count]

/-- At `out_ack` the queues are woken below the low watermark, or nothing happens to them. -/
theorem txWorkOutAck_wait (wl : Wl1271) (env : TxWorkEnv) (l : TxLocals) :
    WaitSame wl (txWorkOutAck wl env l).2 ∨
      WaitSame (wl1271HandleTxLowWatermark wl) (txWorkOutAck wl env l).2 := by
  have hsend := wlcoreHwPrePktSend_wait wl l.bufOffset l.lastLen
  have hwrite (n : ℕ) : WaitSame wl
      (wlcoreWriteAggrBuf (wlcoreHwPrePktSend wl l.bufOffset l.lastLen).2 n) :=
    hsend.trans ⟨rfl, rfl, rfl, rfl, rfl⟩
  dsimp only [txWorkOutAck]
  split_ifs
  · exact Or.inl hsend
  · exact Or.inl (hwrite _)
  · exact Or.inr (hwrite _).lowWatermark
  · exact Or.inl (.refl wl)
  · exact Or.inr (.refl _)
  · exact Or.inl (.refl wl)

end TiWlan.Tx
