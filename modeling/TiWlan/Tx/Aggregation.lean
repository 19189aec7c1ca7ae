import TiWlan.Lib.Run
import TiWlan.Tx.AggrFormat
import TiWlan.Tx.Admission
import TiWlan.Tx.Keep

/-!
# The transmit loop fills the aggregation buffer

`wlcore_tx_work_locked` (`wlcore/tx.c`, lines 683–794) places frames at `buf_offset` until a
frame does not fit, hands the buffer to the bus and starts again. The invariant `Filling` of
this loop says that the buffer below `buf_offset` is a batch of laid out frames, and that the
offset is aligned and in bounds; space is checked with the unaligned length, so the bound rests
on the buffer being made of whole blocks.

Main results:

* `wl1271PrepareTxFrame_placed`: a prepared frame is laid out at `buf_offset`;
* `wlcoreHwPrePktSend_formatOk`: what is handed to the bus decodes to the batch;
* `aggr_format`: over every run of `tx_work`, whatever else happens in between.
-/

namespace TiWlan.Tx

open TiWlan.Lib TiWlan.Driver

variable {f : AggrFrame} {gem : Bool} {env : PrepEnv} {a : TxAlloc} {l : TxLocals} {extra off : ℕ}
  (wl : Wl1271) (wlvif : Option VifId)

/-! ## Functions that leave the buffer alone -/

theorem arrivals_aggr (skbs : List Skb) : (skbs.foldl wl1271OpTx wl).toAggr = wl.toAggr := by
  induction skbs generalizing wl with
  | nil => rfl
  | cons skb skbs ih =>
    rw [List.foldl_cons, ih]
    unfold wl1271OpTx
    split <;> rfl

theorem wl1271TxRegulateLink_aggr (v : VifId) (h : Hlid) (found : Bool) :
    (wl1271TxRegulateLink wl v h found).toAggr = wl.toAggr := by
  unfold wl1271TxRegulateLink wl12xxPsLinkStart
  split_ifs <;> rfl

theorem wl12xxLnkSkbDequeue_aggr (h : Hlid) : (wl12xxLnkSkbDequeue wl h).2.toAggr = wl.toAggr := by
  unfold wl12xxLnkSkbDequeue
  split
  · rfl
  · split <;> rfl

theorem vifSkbDequeueLoop_aggr (v : VifId) (hs : List Hlid) (wl : Wl1271) :
    (vifSkbDequeueLoop v hs wl).2.toAggr = wl.toAggr := by
  induction hs generalizing wl with
  | nil => rfl
  | cons h hs ih =>
    have hlnk := wl12xxLnkSkbDequeue_aggr wl h
    unfold vifSkbDequeueLoop
    split
    · exact ih wl
    · split <;> rename_i heq <;> rw [heq] at hlnk
      · exact (ih _).trans hlnk
      · exact hlnk

theorem vifPass_aggr (b : Bool) (vs : List VifId) (wl : Wl1271) :
    (vifPass b vs wl).2.toAggr = wl.toAggr := by
  induction vs generalizing wl with
  | nil => rfl
  | cons v vs ih =>
    have hvif : (wl12xxVifSkbDequeue wl v).2.toAggr = wl.toAggr := vifSkbDequeueLoop_aggr _ _ _
    unfold vifPass
    split <;> rename_i heq <;> rw [heq] at hvif
    · exact hvif
    · split
      · exact hvif
      · exact (ih _).trans hvif

theorem wl1271SkbDequeue_aggr : (wl1271SkbDequeue wl).2.toAggr = wl.toAggr := by
  have hfirst := vifPass_aggr false (vifsAfterLast wl) wl
  unfold wl1271SkbDequeue
  split <;> rename_i wl₁ heq <;> rw [heq] at hfirst
  · exact hfirst
  · have hsys := wl12xxLnkSkbDequeue_aggr wl₁ systemHlid
    split <;> rename_i wl₂ heq₂ <;> rw [heq₂] at hsys
    · exact hsys.trans hfirst
    · have hsecond := vifPass_aggr true wl₂.wlvifList wl₂
      split <;> rename_i wl₃ heq₃ <;> rw [heq₃] at hsecond
      · exact hsecond.trans (hsys.trans hfirst)
      · refine Eq.trans ?_ (hsecond.trans (hsys.trans hfirst))
        unfold dummySkbDequeue
        split <;> rfl

theorem wl1271SkbQueueHead_aggr (skb : Skb) (h : Hlid) :
    (wl1271SkbQueueHead wl wlvif skb h).toAggr = wl.toAggr := by
  unfold wl1271SkbQueueHead
  split
  · rfl
  · split <;> rfl

theorem prepareWepKey_aggr (env : PrepEnv) (wlvif : Option VifId) (skb : Skb) :
    (prepareWepKey wl env wlvif skb).2.toAggr = wl.toAggr := by
  unfold prepareWepKey
  repeat' split
  all_goals rfl

theorem prepareAp_aggr (env : PrepEnv) (wlvif : Option VifId) (skb : Skb) (h : Hlid) :
    (prepareAp wl env wlvif skb h).toAggr = wl.toAggr := by
  unfold prepareAp
  split
  · rfl
  · split
    · refine (wl1271TxRegulateLink_aggr _ _ _ _).trans ?_
      split
      · cases env.inconnectionSta <;> rfl
      · rfl
    · rfl

theorem wl1271TxAllocate_aggr (skb : Skb) (extra off : ℕ) (h : Hlid) (gem : Bool) :
    (wl1271TxAllocate wl wlvif skb extra off h gem).2.toAggr = wl.toAggr := by
  obtain ⟨_, _, _, _, _, _, _, _, _, _, heq⟩ :=
    wl1271TxAllocate_frame wl wlvif skb extra off h gem
  rw [heq]

/-! ## Placing a frame -/

/-- A frame fits into an empty aggregation buffer. -/
def FitsAggr (c : Conf) (skb : Skb) : Prop :=
  skb.data.length + txHwDescrSize + txExtraSpace c.quirks skb ≤ c.aggrBufSize

section
variable {c : Conf} {wl wl' : Wl1271} {wlvif : Option VifId} {skb : Skb} {h : Hlid}

/-- A successful allocation: the frame fits behind `buf_offset`. -/
theorem wl1271TxAllocate_ok (heq : wl1271TxAllocate wl wlvif skb extra off h gem = (.ok a, wl')) :
    off + (skb.data.length + txHwDescrSize + extra) ≤ wl.aggrBufSize ∧
      AllocFor wl.toConf (skb.data.length + txHwDescrSize + extra) a := by
  have hpath := wl1271TxAllocate_path wl wlvif skb extra off h gem
  rw [heq] at hpath
  cases hpath with
  | handed hroom _ hspare htotal => exact ⟨hroom, hspare ▸ wlcoreHwGetSpareBlocks_le _ _, htotal⟩

/-- `-EAGAIN` from the allocation: the frame does not fit behind `buf_offset`. -/
theorem wl1271TxAllocate_eagain
    (heq : wl1271TxAllocate wl wlvif skb extra off h gem = (.error .eagain, wl')) :
    wl' = wl ∧ wl.aggrBufSize < off + (skb.data.length + txHwDescrSize + extra) := by
  have hpath := wl1271TxAllocate_path wl wlvif skb extra off h gem
  rw [heq] at hpath
  cases hpath with
  | full hfull => exact ⟨rfl, hfull⟩

/-- What `wl1271_prepare_tx_frame` did to the buffer: a frame was laid out at `off`. -/
structure Placed (c : Conf) (off : ℕ) (a a' : Aggr) (f : AggrFrame) : Prop where
  chunk : Chunk c a'.aggrBuf off f c.quirks.txPadLastFrame
  room : off + (txHwDescrSize + f.payload.length) ≤ c.aggrBufSize
  below : ∀ i < off, a'.aggrBuf i = a.aggrBuf i
  top : a'.aggrTop = max a.aggrTop (off + frameSize c f)
  frames : a'.aggrFrames = (if off = 0 then [] else a.aggrFrames) ++ [f]
  underrun : a'.aggrUnderrun = a.aggrUnderrun
  writes : a'.busWrites = a.busWrites

/-- The header of a frame, as `hwSetTxDesc` completes it. -/
theorem wl1271TxFillHdr_eq (wl : Wl1271) (wlvif : Option VifId) (skb : Skb) (extra : ℕ) (h : Hlid)
    (a : TxAlloc) (startTime : ℕ) :
    ∃ d, wl1271TxFillHdr wl wlvif skb extra h a startTime =
        hwSetTxDesc wl.toConf a (txHwDescrSize + (txFrameBytes skb.data extra).length) d ∧
      PlainAttr d ∧ d.id = a.id.val ∧ d.hlid = h.val := by
  rw [txFrameBytes_length, Nat.add_comm skb.data.length, ← Nat.add_assoc]
  exact ⟨_, rfl,
    ⟨⟨_, txSessionAttr_lt wl wlvif skb⟩, ⟨_, txRateIdx_lt wl wlvif skb h⟩, _, _, rfl⟩, rfl, rfl⟩

/-- No field of the descriptor of an allocated frame is truncated. -/
theorem wl1271TxFillHdr_fits (hc : AggrConf wl.toConf)
    (heq : wl1271TxAllocate wl wlvif skb extra off h gem = (.ok a, wl')) (startTime : ℕ) :
    FieldsFit (wl1271TxFillHdr wl' wlvif skb extra h a startTime) := by
  obtain ⟨hroom, ha⟩ := wl1271TxAllocate_ok heq
  have hconf : wl'.toConf = wl.toConf := by
    have := (wl1271TxAllocate_keep wl wlvif skb extra off h gem).conf
    rwa [heq] at this
  obtain ⟨d, hd, hplain, -, -⟩ := wl1271TxFillHdr_eq wl' wlvif skb extra h a startTime
  have hlen : txHwDescrSize + (txFrameBytes skb.data extra).length =
      skb.data.length + txHwDescrSize + extra := by
    rw [txFrameBytes_length]
    omega
  rw [hd, hconf, hlen]
  exact hwSetTxDesc_fits hc (by omega) ha hplain

/-- A prepared frame is laid out at `buf_offset`, and its aligned length is returned. -/
theorem wl1271PrepareTxFrame_placed (hc : AggrConf c) (hconf : wl.toConf = c) {n : ℕ}
    (heq : wl1271PrepareTxFrame wl env wlvif skb off h = (.ok n, wl')) :
    ∃ f, Placed c off wl.toAggr wl'.toAggr f ∧ n = frameSize c f := by
  have hwep := prepareWepKey_aggr wl env wlvif skb
  have hwepConf := (prepareWepKey_keep wl env wlvif skb).conf
  dsimp only [wl1271PrepareTxFrame] at heq
  split at heq
  · cases heq
  · rename_i wl₁ hwepEq
    rw [hwepEq] at hwep hwepConf
    have halloc := wl1271TxAllocate_aggr wl₁ wlvif skb (txExtraSpace wl.quirks skb) off h
      (txIsGem skb)
    have hallocConf := (wl1271TxAllocate_keep wl₁ wlvif skb (txExtraSpace wl.quirks skb) off h
      (txIsGem skb)).conf
    split at heq
    · cases heq
    · rename_i a wl₂ hallocEq
      rw [hallocEq] at halloc hallocConf
      obtain ⟨hroom, ha⟩ := wl1271TxAllocate_ok hallocEq
      obtain ⟨hn, rfl⟩ := Prod.mk.inj heq
      cases hn
      subst hconf
      obtain ⟨d, hd, hplain, hid, hhlid⟩ := wl1271TxFillHdr_eq wl₂ wlvif skb
        (txExtraSpace wl.quirks skb) h a env.startTime
      have hlen : txHwDescrSize + (txFrameBytes skb.data (txExtraSpace wl.quirks skb)).length =
          skb.data.length + txHwDescrSize + txExtraSpace wl.quirks skb := by
        rw [txFrameBytes_length]
        omega
      have hc₁ : wl₁.toConf = wl.toConf := hwepConf
      have hc₂ : wl₂.toConf = wl.toConf := hallocConf.trans hc₁
      rw [hc₁, ← hlen] at ha hroom
      have haggr := (prepareAp_aggr wl₂ env wlvif skb h).trans (halloc.trans hwep)
      dsimp only [Aggr.store, Aggr.log]
      rw [haggr, hd, hc₂, placedBytes_length]
      refine ⟨⟨a.id, h, a.totalBlocks, _⟩, ⟨?_, hroom, ?_, rfl, rfl, rfl, rfl⟩, rfl⟩
      · rw [← hhlid]
        exact chunk_of_store hc (by omega) ha hplain hid (by omega) _ _
      · intro i hi
        exact storeAt_of_lt _ hi

/-- A frame that fits into the empty buffer is only put back from a buffer in use, unless the
key command itself failed with `-EAGAIN`. -/
theorem wl1271PrepareTxFrame_eagain (hconf : wl.toConf = c) (hfits : FitsAggr c skb)
    (henv : env.wepKey ≠ .failed .eagain)
    (heq : wl1271PrepareTxFrame wl env wlvif skb off h = (.error .eagain, wl')) : 0 < off := by
  have hwepConf := (prepareWepKey_keep wl env wlvif skb).conf
  dsimp only [wl1271PrepareTxFrame] at heq
  split at heq
  · rename_i e wl₁ hwepEq
    cases heq
    exfalso
    dsimp only [prepareWepKey] at hwepEq
    repeat' split at hwepEq
    all_goals cases hwepEq
    exact henv ‹_›
  · rename_i wl₁ hwepEq
    rw [hwepEq] at hwepConf
    split at heq
    · rename_i e wl₂ hallocEq
      cases heq
      have hroom := (wl1271TxAllocate_eagain hallocEq).2
      subst hconf
      have hsize : wl₁.aggrBufSize = wl.aggrBufSize := congrArg Conf.aggrBufSize hwepConf
      unfold FitsAggr at hfits
      omega
    · cases heq

end

/-! ## Handing the buffer to the bus -/

/-- A transfer is well formed: the descriptors alone give back the frames of the batch, the
`NOT_PADDED` bits are clear except, if only the last frame is padded, in the frames before it, and
the transfer ends inside the buffer. -/
structure FormatOk (c : Conf) (w : BusWrite) : Prop where
  decode : ∃ fs f, w.frames = fs ++ [f] ∧
    decodeAggr c w.data w.len (w.frames.length + 1) 0 =
      some (fs.map (⟨·, c.quirks.txPadLastFrame⟩) ++ [⟨f, false⟩])
  len : w.len ≤ c.aggrBufSize

/-- Every transfer so far was well formed, and every write to the buffer was inside it. -/
structure BufferOk (c : Conf) (a : Aggr) : Prop where
  writes : ∀ w ∈ a.busWrites, FormatOk c w
  top : a.aggrTop ≤ c.aggrBufSize
  underrun : a.aggrUnderrun = false

/-- The buffer up to `off` holds a batch whose last frame takes `last` bytes. -/
def Batch (c : Conf) (a : Aggr) (off last : ℕ) : Prop :=
  ∃ fs f m, a.aggrFrames = fs ++ [f] ∧ Laid c a.aggrBuf c.quirks.txPadLastFrame 0 fs m ∧
    Chunk c a.aggrBuf m f c.quirks.txPadLastFrame ∧ off = m + frameSize c f ∧
    last = frameSize c f

section
variable {c : Conf}

/-- Clearing the top bit of the last descriptor's `ctrl` byte marks the frame as padded and leaves
the rest of it alone. -/
theorem Chunk.clearNotPadded {buf : ℕ → Byte} {m : ℕ} {np : Bool} (h : Chunk c buf m f np)
    (hchip : c.chip = .wl18xx) :
    Chunk c (storeAt buf (m + 3) [buf (m + 3) &&& 0x7f]) m f false := by
  have hbyte (i : ℕ) (hi : i ≠ 3) :
      storeAt buf (m + 3) [buf (m + 3) &&& 0x7f] (m + i) = buf (m + i) := by
    rcases Nat.lt_or_gt_of_ne hi with hi | hi
    · exact storeAt_of_lt _ (by omega)
    · exact storeAt_of_le _ (by simp only [List.length_singleton]; omega)
  have h0 : storeAt buf (m + 3) [buf (m + 3) &&& 0x7f] m = buf m := hbyte 0 (by decide)
  have hctrl : storeAt buf (m + 3) [buf (m + 3) &&& 0x7f] (m + 3) = buf (m + 3) &&& 0x7f :=
    storeAt_add (i := 0) (by simp)
  refine ⟨?_, ?_, ?_, ?_, ?_, ?_⟩
  · rw [← h.len]
    simp only [descLen, hchip, le16]
    rw [h0, hbyte 1 (by decide)]
  · rw [← h.id, hbyte 12 (by decide)]
  · rw [← h.hlid, hbyte 14 (by decide)]
  · rw [← h.blocks]
    simp only [descBlocks, hchip]
    rw [hbyte 2 (by decide)]
  · refine Eq.trans (loadAt_congr fun i _ => ?_) h.payload
    rw [Nat.add_assoc]
    exact hbyte _ (by unfold txHwDescrSize; omega)
  · have hlt : (buf (m + 3) &&& 0x7f).toNat < 128 := by
      rw [UInt8.toNat_and]
      exact Nat.lt_of_le_of_lt Nat.and_le_right (by decide)
    rw [descNotPadded, hctrl]
    simp only [Bool.and_eq_false_iff, decide_eq_false_iff_not]
    exact Or.inr (by omega)

/-- The buffer after `wlcore_hw_pre_pkt_send`, and the length that goes to the bus. -/
theorem wlcoreHwPrePktSend_formatOk (hc : AggrConf c) {wl : Wl1271} (hconf : wl.toConf = c)
    (hok : BufferOk c wl.toAggr) {last : ℕ} (hbatch : Batch c wl.toAggr off last)
    (hoff : off ≤ c.aggrBufSize) :
    BufferOk c (wlcoreHwPrePktSend wl off last).2.toAggr ∧
      FormatOk c ⟨(wlcoreHwPrePktSend wl off last).1, (wlcoreHwPrePktSend wl off last).2.aggrBuf,
        (wlcoreHwPrePktSend wl off last).2.aggrFrames⟩ := by
  obtain ⟨fs, f, m, hframes, hlaid, hchunk, rfl, rfl⟩ := hbatch
  subst hconf
  have hsize := lt_frameSize wl.toConf f
  unfold wlcoreHwPrePktSend
  split
  · rename_i hpad
    obtain ⟨hchip, hpad⟩ := hpad
    rw [if_neg (by omega)]
    have hctrl : m + frameSize wl.toConf f - frameSize wl.toConf f + 3 = m + 3 := by omega
    dsimp only [Aggr.store]
    rw [hctrl]
    have hlaid' : Laid wl.toConf (storeAt wl.aggrBuf (m + 3) [wl.aggrBuf (m + 3) &&& 0x7f])
        wl.quirks.txPadLastFrame 0 fs m :=
      hlaid.congr fun i _ hi => storeAt_of_lt _ (by omega)
    have hpadded := le_alignUp (m + frameSize wl.toConf f) (by decide : 0 < 256)
    refine ⟨⟨hok.writes, ?_, hok.underrun⟩, ⟨fs, f, hframes, ?_⟩, ?_⟩
    · have := hok.top
      simp only [List.length_singleton]
      omega
    · rw [hframes, List.length_append]
      exact decodeAggr_laid hlaid' (hchunk.clearNotPadded hchip) hpadded
        (fun h => absurd h (by simp [hpad]))
    · exact alignUp_le_of_dvd (by decide) hoff hc.blocks
  · rename_i hpad
    have hnp : wl.quirks.txPadLastFrame = false := by
      by_cases hchip : wl.chip = .wl18xx
      · simpa [hchip] using hpad
      · exact hc.wl12xx hchip
    refine ⟨hok, ⟨fs, f, hframes, ?_⟩, hoff⟩
    rw [hframes, List.length_append]
    exact decodeAggr_laid hlaid (hnp ▸ hchunk) le_rfl fun _ => rfl

/-- The bus write of a batch. -/
theorem wlcoreWriteAggrBuf_ok {wl : Wl1271} {len : ℕ} (hok : BufferOk c wl.toAggr)
    (hfmt : FormatOk c ⟨len, wl.aggrBuf, wl.aggrFrames⟩) :
    BufferOk c (wlcoreWriteAggrBuf wl len).toAggr := by
  refine ⟨fun w hw => ?_, hok.top, hok.underrun⟩
  rcases List.mem_cons.mp hw with rfl | hw
  · exact hfmt
  · exact hok.writes w hw

/-! ## The loop -/

/-- The loop invariant: the buffer holds a batch up to `buf_offset`, or nothing yet. -/
structure Filling (c : Conf) (a : Aggr) (l : TxLocals) : Prop extends BufferOk c a where
  batch : l.bufOffset = 0 ∨ Batch c a l.bufOffset l.lastLen
  aligned : packetAlignment c.quirks ∣ l.bufOffset
  bound : l.bufOffset ≤ c.aggrBufSize

/-- A frame is placed behind the batch. -/
theorem Filling.place (hc : AggrConf c) {a a' : Aggr} (h : Filling c a l)
    (hp : Placed c l.bufOffset a a' f) :
    Filling c a' { l with lastLen := frameSize c f, bufOffset := l.bufOffset + frameSize c f } := by
  -- the buffer ends at a multiple of the alignment, so the padding fits if the frame does
  have hbound : l.bufOffset + frameSize c f ≤ c.aggrBufSize := by
    have hroom := hp.room
    exact add_alignUp_le (packetAlignment_pos c.quirks) h.aligned (packetAlignment_dvd _ hc.blocks)
      (by omega)
  refine ⟨⟨?_, ?_, ?_⟩, Or.inr ?_, ?_, hbound⟩
  · rw [hp.writes]
    exact h.writes
  · rw [hp.top]
    exact max_le h.top hbound
  · rw [hp.underrun]
    exact h.underrun
  · rcases h.batch with hzero | ⟨fs, g, m, hframes, hlaid, hchunk, hoff, -⟩
    · refine ⟨[], f, 0, ?_, rfl, ?_, ?_, rfl⟩
      · rw [hp.frames, if_pos hzero]
      · rw [← hzero]
        exact hp.chunk
      · rw [hzero]
    · have hsize := lt_frameSize c g
      refine ⟨fs ++ [g], f, l.bufOffset, ?_, ?_, hp.chunk, rfl, rfl⟩
      · rw [hp.frames, if_neg (by omega), hframes]
      · exact (Laid.concat_iff.mpr ⟨m, hlaid, hchunk, hoff⟩).congr fun i _ hi => hp.below i hi
  · exact Dvd.dvd.add h.aligned (dvd_alignUp _ _)

/-- What one turn of the loop leaves: the invariant, or after a bus error a buffer that was
only written within bounds. -/
def LoopOk (c : Conf) (e : Option LoopExit) (a : Aggr) (l : TxLocals) : Prop :=
  BufferOk c a ∧ (e ≠ some .out → Filling c a l)

theorem Filling.loopOk {a : Aggr} (h : Filling c a l) (e : Option LoopExit) : LoopOk c e a l :=
  ⟨h.toBufferOk, fun _ => h⟩

theorem wl1271PrepareTxFrame_error_aggr {wl wl' : Wl1271} {v : Option VifId} {skb : Skb} {h : Hlid}
    {e : Errno} (heq : wl1271PrepareTxFrame wl env v skb off h = (.error e, wl')) :
    wl'.toAggr = wl.toAggr := by
  have hwep := prepareWepKey_aggr wl env v skb
  dsimp only [wl1271PrepareTxFrame] at heq
  split at heq
  · rename_i hwepEq
    rw [hwepEq] at hwep
    cases heq
    exact hwep
  · rename_i wl₁ hwepEq
    rw [hwepEq] at hwep
    have halloc := wl1271TxAllocate_aggr wl₁ v skb (txExtraSpace wl.quirks skb) off h (txIsGem skb)
    split at heq
    · rename_i hallocEq
      rw [hallocEq] at halloc
      cases heq
      exact halloc.trans hwep
    · cases heq

variable {wl : Wl1271} {l : TxLocals} {it : TxIter} {skb : Skb}

theorem txWorkEagain_loopOk (hc : AggrConf c) (hconf : wl.toConf = c) (hfill : Filling c wl.toAggr l)
    (hoff : 0 < l.bufOffset) (v : Option VifId) (h : Hlid) :
    LoopOk c (txWorkEagain wl it v skb h l).1 (txWorkEagain wl it v skb h l).2.1.toAggr
      (txWorkEagain wl it v skb h l).2.2 := by
  have hbatch : Batch c wl.toAggr l.bufOffset l.lastLen := hfill.batch.resolve_left (by omega)
  have haggr := wl1271SkbQueueHead_aggr wl v skb h
  obtain ⟨hok, hfmt⟩ := wlcoreHwPrePktSend_formatOk hc
    ((wl1271SkbQueueHead_keep wl v skb h).conf.trans hconf) (haggr ▸ hfill.toBufferOk)
    (haggr ▸ hbatch) hfill.bound
  dsimp only [txWorkEagain]
  split
  · exact Filling.loopOk
      ⟨wlcoreWriteAggrBuf_ok hok hfmt, Or.inl rfl, Nat.dvd_zero _, Nat.zero_le _⟩ _
  · exact ⟨hok, fun hne => absurd rfl hne⟩

theorem txWorkFrame_loopOk (hc : AggrConf c) (hconf : wl.toConf = c) (hfits : FitsAggr c skb)
    (henv : it.prep.wepKey ≠ .failed .eagain) (hfill : Filling c wl.toAggr l) (h : Hlid) :
    LoopOk c (txWorkFrame wl it skb h l).1 (txWorkFrame wl it skb h l).2.1.toAggr
      (txWorkFrame wl it skb h l).2.2 := by
  dsimp only [txWorkFrame]
  generalize (if wl12xxIsDummyPacket wl skb = true then none else skb.vif) = v
  generalize (if v.isSome = true then h else systemHlid) = h'
  have hkeep := (wl1271PrepareTxFrame_keep wl it.prep v skb l.bufOffset h').conf
  cases hprep : wl1271PrepareTxFrame wl it.prep v skb l.bufOffset h' with
  | mk r wl₁ =>
    rw [hprep] at hkeep
    cases r with
    | ok n =>
      obtain ⟨f, hplaced, rfl⟩ := wl1271PrepareTxFrame_placed hc hconf hprep
      have hnext := hfill.place hc hplaced
      have hcounted : Filling c { wl₁ with txPacketsCount := wl₁.txPacketsCount + 1 }.toAggr
          { l with lastLen := frameSize c f, bufOffset := l.bufOffset + frameSize c f } :=
        ⟨⟨hnext.writes, hnext.top, hnext.underrun⟩, hnext.batch, hnext.aligned, hnext.bound⟩
      exact hcounted.loopOk none
    | error e =>
      have haggr := wl1271PrepareTxFrame_error_aggr hprep
      have hfill₁ : Filling c wl₁.toAggr l := haggr ▸ hfill
      have hback : Filling c (wl1271SkbQueueHead wl₁ v skb h').toAggr l :=
        (wl1271SkbQueueHead_aggr wl₁ v skb h').symm ▸ hfill₁
      cases e with
      | eagain =>
        exact txWorkEagain_loopOk hc (hkeep.trans hconf) hfill₁
          (wl1271PrepareTxFrame_eagain hconf hfits henv hprep) v h'
      | ebusy => exact hback.loopOk _
      | _ =>
        dsimp only
        split
        · exact hback.loopOk _
        · exact hfill₁.loopOk _

/-- The frames that one call of `wlcore_tx_work_locked` meets fit into the buffer one by one, and
no key command fails with `-EAGAIN`. -/
structure IterFits (c : Conf) (it : TxIter) : Prop where
  arrivals : ∀ skb ∈ it.arrivals, FitsAggr c skb
  wepKey : it.prep.wepKey ≠ .failed .eagain

theorem txWorkIter_loopOk (hc : AggrConf c) (hconf : wl.toConf = c) (hit : IterFits c it)
    (hq : Queued (FitsAggr c) (none, wl)) (hfill : Filling c wl.toAggr l) :
    LoopOk c (txWorkIter wl it l).1 (txWorkIter wl it l).2.1.toAggr (txWorkIter wl it l).2.2 := by
  have hreach := (arrivals_reach (P := .frames (FitsAggr c)) hit.arrivals wl).trans
    (wl1271SkbDequeue_reach _)
  have hq₁ := queued_reach (fun _ hs => hs) hreach hq
  have haggr := (wl1271SkbDequeue_aggr (it.arrivals.foldl wl1271OpTx wl)).trans
    (arrivals_aggr wl it.arrivals)
  have hconf₁ := (wl1271SkbDequeue_keep (it.arrivals.foldl wl1271OpTx wl)).conf.trans
    (TxKeep.foldl wl1271OpTx_keep it.arrivals wl).conf
  unfold txWorkIter
  split <;> rename_i heq <;> rw [heq] at hq₁ haggr hconf₁
  · exact (haggr.symm ▸ hfill).loopOk _
  · exact txWorkFrame_loopOk hc (hconf₁.trans hconf) (hq₁.hand _ rfl) hit.wepKey
      (haggr.symm ▸ hfill) _

theorem txWorkLoop_loopOk (hc : AggrConf c) {its : List TxIter} (hits : ∀ it ∈ its, IterFits c it)
    (hconf : wl.toConf = c) (hq : Queued (FitsAggr c) (none, wl)) (hfill : Filling c wl.toAggr l) :
    LoopOk c (some (txWorkLoop its wl l).1) (txWorkLoop its wl l).2.1.toAggr
      (txWorkLoop its wl l).2.2 := by
  induction its generalizing wl l with
  | nil => exact hfill.loopOk _
  | cons it its ih =>
    have hit := hits it (by simp)
    have hstep := txWorkIter_loopOk hc hconf hit hq hfill
    have hkeep := (txWorkIter_keep wl it l).conf
    have hq₁ := queued_reach (fun _ hs => hs)
      (txWorkIter_reach (P := .frames (FitsAggr c)) hit.arrivals wl l) hq
    unfold txWorkLoop
    split <;> rename_i heq <;> rw [heq] at hstep hkeep hq₁
    · exact hstep
    · exact ih (fun it' hit' => hits it' (by simp [hit'])) (hkeep.trans hconf) hq₁
        (hstep.2 (by simp))

theorem txWorkOutAck_bufferOk (hc : AggrConf c) (hconf : wl.toConf = c)
    (hfill : Filling c wl.toAggr l) (env : TxWorkEnv) :
    BufferOk c (txWorkOutAck wl env l).2.toAggr := by
  dsimp only [txWorkOutAck]
  by_cases hoff : 0 < l.bufOffset
  · obtain ⟨hok, hfmt⟩ := wlcoreHwPrePktSend_formatOk hc hconf hfill.toBufferOk
      (hfill.batch.resolve_left (by omega)) hfill.bound
    rw [if_pos hoff]
    split_ifs
    · exact hok
    · exact wlcoreWriteAggrBuf_ok hok hfmt
    · exact wlcoreWriteAggrBuf_ok hok hfmt
  · rw [if_neg hoff]
    split_ifs <;> exact hfill.toBufferOk

/-- One call of `wlcore_tx_work_locked`. -/
theorem wlcoreTxWorkLocked_bufferOk (hc : AggrConf c) {env : TxWorkEnv}
    (henv : ∀ it ∈ env.iters, IterFits c it) (hconf : wl.toConf = c)
    (hq : Queued (FitsAggr c) (none, wl)) (hok : BufferOk c wl.toAggr) :
    BufferOk c (wlcoreTxWorkLocked wl env).2.toAggr := by
  have hloop := txWorkLoop_loopOk (l := {}) hc henv hconf hq
    ⟨hok, Or.inl rfl, Nat.dvd_zero _, Nat.zero_le _⟩
  have hkeep := (txWorkLoop_keep env.iters wl {}).conf
  unfold wlcoreTxWorkLocked
  split
  · exact hok
  · split <;> rename_i heq <;> rw [heq] at hloop hkeep
    · exact hloop.1
    · exact hloop.1
    · exact txWorkOutAck_bufferOk hc (hkeep.trans hconf) (hloop.2 (by simp)) env

end

/-! ## Runs -/

/-- Runs of the transmit worker. In between, anything may happen to the rest of the driver. -/
inductive AggrOp
  | txWork (env : TxWorkEnv)
  | other (wl : Wl1271)

def aggrStep (wl : Wl1271) : AggrOp → Wl1271
  | .txWork env => (wlcoreTxWorkLocked wl env).2
  | .other wl' => { wl' with toConf := wl.toConf, toAggr := wl.toAggr }

/-- The frames that a call of the worker finds in the queues, and that arrive while it runs, fit
into the buffer. -/
def AggrOp.Fits (wl : Wl1271) : AggrOp → Prop
  | .txWork env => Queued (FitsAggr wl.toConf) (none, wl) ∧ ∀ it ∈ env.iters, IterFits wl.toConf it
  | .other _ => True

/-- Every transfer of the aggregation buffer that the transmit worker makes, from the probed
driver on and whatever happens between its calls, decodes by its descriptors to the frames that
were placed in it, with their ids, links and block counts; the `NOT_PADDED` bit is set in all
frames but the last one if only the last frame is padded, and in none otherwise; all writes to the
buffer and the transfers stay within it; and no field of a descriptor is truncated. -/
theorem aggr_format (wl : Wl1271) (hc : AggrConf wl.toConf) (hstart : BufferOk wl.toConf wl.toAggr)
    (ops : List AggrOp) (hops : Along aggrStep AggrOp.Fits wl ops) :
    BufferOk wl.toConf (run aggrStep wl ops).toAggr ∧
      ∀ wl₁ wl₂ v skb extra off h gem a startTime, wl₁.toConf = wl.toConf →
        wl1271TxAllocate wl₁ v skb extra off h gem = (.ok a, wl₂) →
        FieldsFit (wl1271TxFillHdr wl₂ v skb extra h a startTime) := by
  refine ⟨?_, fun wl₁ wl₂ v skb extra off h gem a t hconf heq =>
    wl1271TxFillHdr_fits (hconf ▸ hc) heq t⟩
  have hstep (wl' : Wl1271) (op : AggrOp)
      (hinv : wl'.toConf = wl.toConf ∧ BufferOk wl.toConf wl'.toAggr)
      (hfits : op.Fits wl') : (aggrStep wl' op).toConf = wl.toConf ∧
        BufferOk wl.toConf (aggrStep wl' op).toAggr := by
    obtain ⟨hconf, hok⟩ := hinv
    cases op with
    | txWork env =>
      obtain ⟨hq, hits⟩ := hfits
      rw [hconf] at hq hits
      exact ⟨(wlcoreTxWorkLocked_keep wl' env).conf.trans hconf,
        wlcoreTxWorkLocked_bufferOk hc hits hconf hq hok⟩
    | other wl'' => exact ⟨hconf, hok⟩
  exact (Along.induction hstep ⟨rfl, hstart⟩ hops).2

/-- A driver with one station vif, blocks to spend and an unused buffer. -/
def aggrDriver (c : Conf) : Wl1271 := { staDriver with toConf := c, txBlocksAvailable := 100 }

/-- Two data frames of different lengths, sent in one batch. -/
def aggrEnv : TxWorkEnv :=
  { iters :=
      [{ arrivals := [{ staFrame 1 with data := [8, 0, 1, 2, 3] },
          { staFrame 2 with data := [8, 0, 4] }] }, {}, {}] }

/-- The frames of a transfer as the firmware reads them. -/
def decodedWrites (c : Conf) (wl : Wl1271) : List (Option (List Decoded)) :=
  wl.busWrites.map fun w => decodeAggr c w.data w.len (w.frames.length + 1) 0

theorem aggr_format_twoFrames :
    (decodedWrites (chipConf .wl18xx) (run aggrStep (aggrDriver (chipConf .wl18xx))
        [.txWork aggrEnv])) =
      [some [⟨⟨0, 1, 2, [8, 0, 1, 2, 3]⟩, true⟩, ⟨⟨1, 1, 2, [8, 0, 4]⟩, false⟩]] ∧
    BufferOk (chipConf .wl18xx) (run aggrStep (aggrDriver (chipConf .wl18xx))
      [.txWork aggrEnv]).toAggr := by
  have hstart : BufferOk (chipConf .wl18xx) (aggrDriver (chipConf .wl18xx)).toAggr :=
    ⟨fun w hw => (by cases hw), Nat.zero_le _, rfl⟩
  have hqueued : Queued (FitsAggr (chipConf .wl18xx)) (none, aggrDriver (chipConf .wl18xx)) := by
    refine ⟨fun _ _ _ hs => (by cases hs), fun _ hs => (by cases hs), ?_⟩
    unfold FitsAggr
    decide +kernel
  have hfits : ∀ it ∈ aggrEnv.iters, IterFits (chipConf .wl18xx) it := by
    intro it hit
    simp only [aggrEnv, List.mem_cons, List.not_mem_nil, or_false] at hit
    rcases hit with rfl | rfl | rfl
    · refine ⟨fun skb hskb => ?_, by simp⟩
      simp only [List.mem_cons, List.not_mem_nil, or_false] at hskb
      rcases hskb with rfl | rfl <;> unfold FitsAggr <;> decide +kernel
    · exact ⟨by simp, by simp⟩
    · exact ⟨by simp, by simp⟩
  exact ⟨by decide +kernel,
    (aggr_format (aggrDriver (chipConf .wl18xx)) (chipConf_aggrConf .wl18xx) hstart
      [.txWork aggrEnv] ⟨⟨hqueued, hfits⟩, trivial⟩).1⟩

/-- wl18xx without `WLCORE_QUIRK_TX_PAD_LAST_FRAME`. -/
def noPadConf : Conf :=
  { chipConf .wl18xx with quirks := { identifyChip .wl18xx with txPadLastFrame := false } }

/-- Without the quirk the bit is clear in every frame, not only in the last one. -/
theorem notPadded_clear_in_first_frame :
    decodedWrites noPadConf (wlcoreTxWorkLocked (aggrDriver noPadConf) aggrEnv).2 =
      [some [⟨⟨0, 1, 2, [8, 0, 1, 2, 3]⟩, false⟩, ⟨⟨1, 1, 2, [8, 0, 4]⟩, false⟩]] := by
  decide +kernel

end TiWlan.Tx
