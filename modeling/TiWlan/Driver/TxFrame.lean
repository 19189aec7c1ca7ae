import TiWlan.Lib.Memory
import TiWlan.Driver.Queues
import TiWlan.Driver.Power

/-!
# Preparing a frame for the firmware

Models of `wlcore/tx.c`, lines 61–84 (Tx ids) and 175–425 (alignment, allocation,
the Tx descriptor, `wl1271_prepare_tx_frame`), with the chip operations that they
call: `wl12xx/main.c`, lines 1258–1311 and 1580–1590, and `wl18xx/main.c`, lines
881–911, 1229–1238 and 1287–1304.

The descriptor is the packed 16-byte `struct wl1271_tx_hw_descr`; `TxHwDescr.bytes`
is its layout in memory. `skb_push` prepends the descriptor (and the TKIP space) to
the frame, so the bytes that go to the aggregation buffer are computed by
`txFrameBytes`; the buffer of a frame in flight is otherwise not tracked, since
completion takes the private headers off again.
-/

namespace TiWlan.Driver

open TiWlan.Lib
open Function (update)

/-! ## Tx ids -/

/-- `find_first_zero_bit(wl->tx_frames_map, wl->num_tx_desc)`. -/
def findFirstZeroBit (map : TxId → Bool) (n : ℕ) : Option TxId :=
  (List.finRange 32).find? fun i => decide (i.val < n) && !map i

/-- `wl1271_alloc_tx_id` (tx.c:61); `none` is `-EBUSY`. -/
def wl1271AllocTxId (wl : Wl1271) (skb : Skb) : Option TxId × Wl1271 :=
  match findFirstZeroBit wl.txFramesMap wl.numTxDesc with
  | none => (none, wl)
  | some id =>
    (some id,
      { wl with
        txFramesMap := update wl.txFramesMap id true
        txFrames := update wl.txFrames id (some skb)
        txFramesCnt := wl.txFramesCnt + 1 })

/-- `wl1271_free_tx_id` (tx.c:75). -/
def wl1271FreeTxId (wl : Wl1271) (id : TxId) : Wl1271 :=
  if wl.txFramesMap id then
    { wl with
      fwTxBusy := if wl.txFramesCnt = wl.numTxDesc then false else wl.fwTxBusy
      txFramesMap := update wl.txFramesMap id false
      txFrames := update wl.txFrames id none
      txFramesCnt := wl.txFramesCnt - 1 }
  else wl

/-! ## Chip operations -/

/-- `WL1271_TX_ALIGN_TO` or `WL12XX_BUS_BLOCK_SIZE`: what
`wlcore_calc_packet_alignment` (tx.c:175) aligns to. -/
def packetAlignment (q : Quirks) : ℕ :=
  if q.txPadLastFrame || !q.txBlocksizeAlign then 4 else 256

/-- `wlcore_calc_packet_alignment` (tx.c:175). -/
def wlcoreCalcPacketAlignment (q : Quirks) (len : ℕ) : ℕ := alignUp len (packetAlignment q)

/-- `wl12xx_get_spare_blocks` (wl12xx/main.c:1580) and `wl18xx_get_spare_blocks`
(wl18xx/main.c:1229). -/
def wlcoreHwGetSpareBlocks (wl : Wl1271) (isGem : Bool) : ℕ :=
  match wl.chip with
  | .wl18xx => if wl.extraSpareVifCount ≠ 0 then 2 else 1
  | .wl127x | .wl128x => if isGem then 2 else 1

/-- `wl12xx_calc_tx_blocks` (wl12xx/main.c:1258) and `wl18xx_calc_tx_blocks`
(wl18xx/main.c:881). -/
def wlcoreHwCalcTxBlocks (c : Conf) (len spareBlks : ℕ) : ℕ :=
  match c.chip with
  | .wl18xx => divRoundUp len 268 + spareBlks
  | .wl127x | .wl128x => divRoundUp (wlcoreCalcPacketAlignment c.quirks len) 252 + spareBlks

/-! ## The Tx descriptor -/

/-- `struct wl1271_tx_hw_descr`. The two bytes of the memory union are
`extra_blocks, total_mem_blocks` on wl127x, `total_mem_blocks, extra_bytes` on wl128x
and `total_mem_blocks, ctrl` on wl18xx. -/
structure TxHwDescr where
  length : ℕ
  mem0 : ℕ
  mem1 : ℕ
  startTime : ℕ
  lifeTime : ℕ
  txAttr : ℕ
  id : ℕ
  tid : ℕ
  hlid : ℕ
  checksumData : ℕ
  deriving DecidableEq, Repr

/-- The byte of `x` at position `k`; storing it in a `u8` keeps the low byte. -/
def byteOf (x k : ℕ) : Byte := UInt8.ofNat (x / 256 ^ k)

/-- The descriptor in memory, multi-byte fields in little-endian order. -/
def TxHwDescr.bytes (d : TxHwDescr) : List Byte :=
  [byteOf d.length 0, byteOf d.length 1, byteOf d.mem0 0, byteOf d.mem1 0,
    byteOf d.startTime 0, byteOf d.startTime 1, byteOf d.startTime 2, byteOf d.startTime 3,
    byteOf d.lifeTime 0, byteOf d.lifeTime 1, byteOf d.txAttr 0, byteOf d.txAttr 1,
    byteOf d.id 0, byteOf d.tid 0, byteOf d.hlid 0, byteOf d.checksumData 0]

@[simp] theorem TxHwDescr.bytes_length (d : TxHwDescr) : d.bytes.length = txHwDescrSize := rfl

/-- `WL18XX_TX_CTRL_NOT_PADDED`. -/
def txCtrlNotPadded : ℕ := 0x80

/-- What `wl1271_tx_allocate` stores in the descriptor. -/
structure TxAlloc where
  id : TxId
  totalBlocks : ℕ
  spareBlocks : ℕ
  deriving DecidableEq, Repr

/-- The `rate_idx` that `wl1271_tx_fill_hdr` (tx.c:301–334) selects. -/
def txRateIdx (wl : Wl1271) (wlvif : Option VifId) (skb : Skb) (h : Hlid) : ℕ :=
  match wlvif with
  | none => 0
  | some v =>
    let fc := frameControl skb.data
    let w := wl.vifs v
    if wl12xxIsDummyPacket wl skb then 0
    else if w.bssType ≠ .apBss then
      if skb.protocolPae then w.basicRateIdx
      else if skb.noCckRate then w.p2pRateIdx
      else if ieee80211IsData fc then w.apRateIdx
      else w.basicRateIdx
    else if some h = w.apGlobalHlid then w.mgmtRateIdx
    else if some h = w.apBcastHlid ∨ skb.protocolPae ∨ ¬ ieee80211IsData fc then w.bcastRateIdx
    else w.ucastRateIdx skb.ac

/-- The session field of `tx_attr`: `SESSION_COUNTER_INVALID` for the dummy packet, the
vif's counter otherwise, and 0 without a vif. -/
def txSessionAttr (wl : Wl1271) (wlvif : Option VifId) (skb : Skb) : ℕ :=
  if wl12xxIsDummyPacket wl skb then 7
  else
    match wlvif with
    | none => 0
    | some v => (wl.vifs v).sessionCounter

/-- `tx_attr` as `wl1271_tx_fill_hdr` composes it. -/
def txAttrBits (session rateIdx : ℕ) (dummy hostEncrypt : Bool) : ℕ :=
  session <<< 2 ||| (if dummy then 1 <<< 13 else 0) ||| rateIdx <<< 5 |||
    (if hostEncrypt then 1 <<< 14 else 0)

/-- `wlcore_hw_set_tx_desc_blocks` and `wlcore_hw_set_tx_desc_data_len`: the length, the
memory union and the bits added to `tx_attr`, for an skb of `len` bytes. -/
def hwSetTxDesc (c : Conf) (a : TxAlloc) (len : ℕ) (d : TxHwDescr) : TxHwDescr :=
  let aligned := wlcoreCalcPacketAlignment c.quirks len
  match c.chip with
  | .wl127x =>
    { d with
      mem0 := a.spareBlocks
      mem1 := a.totalBlocks
      txAttr := d.txAttr ||| (aligned - len) <<< 10
      length := aligned >>> 2 }
  | .wl128x =>
    { d with mem0 := a.totalBlocks, mem1 := aligned - len, length := aligned >>> 2 }
  | .wl18xx =>
    { d with
      mem0 := a.totalBlocks
      mem1 := if c.quirks.txPadLastFrame then txCtrlNotPadded else 0
      length := len }

/-- `wl1271_tx_fill_hdr` (tx.c:244): the descriptor. `startTime` is the host time less
`wl->time_offset`. -/
def wl1271TxFillHdr (wl : Wl1271) (wlvif : Option VifId) (skb : Skb) (extra : ℕ)
    (h : Hlid) (a : TxAlloc) (startTime : ℕ) : TxHwDescr :=
  let fc := frameControl skb.data
  let isAp := match wlvif with
    | none => false
    | some v => decide ((wl.vifs v).bssType = .apBss)
  hwSetTxDesc wl.toConf a (txHwDescrSize + extra + skb.data.length)
    { length := 0, mem0 := 0, mem1 := 0
      startTime := startTime
      lifeTime := if wl12xxIsDummyPacket wl skb || !isAp then 2000 else 8000
      txAttr := txAttrBits (txSessionAttr wl wlvif skb) (txRateIdx wl wlvif skb h)
        (wl12xxIsDummyPacket wl skb) (ieee80211IsAuth fc && ieee80211HasProtected fc)
      id := a.id
      tid := skb.priority
      hlid := h
      checksumData := if wl.chip = .wl18xx then skb.checksumData else 0 }

/-- The bytes behind the descriptor: `skb_push` leaves `extra` bytes free before the
frame and the 802.11 header is moved to their front (tx.c:264). -/
def txFrameBytes (data : List Byte) (extra : ℕ) : List Byte :=
  if extra = 0 then data
  else
    let hdrlen := ieee80211Hdrlen (frameControl data)
    (List.range (data.length + extra)).map fun i =>
      if i < hdrlen then data.getD i 0 else data.getD (i - extra) 0

@[simp] theorem txFrameBytes_length (data : List Byte) (extra : ℕ) :
    (txFrameBytes data extra).length = data.length + extra := by
  unfold txFrameBytes
  split_ifs with h <;> simp [h]

/-! ## Allocation -/

/-- The branch of `wl1271_tx_allocate` in which the blocks are available. -/
def txAllocateCommit (wl : Wl1271) (wlvif : Option VifId) (skb : Skb) (h : Hlid)
    (a : TxAlloc) : Wl1271 :=
  let allocated := u32 (wl.txAllocatedBlocks + a.totalBlocks)
  let counted := !wl12xxIsDummyPacket wl skb && match wlvif with
    | none => false
    | some v => decide ((wl.vifs v).bssType = .apBss) && (wl.vifs v).staHlidMap h
  { wl with
    txBlocksAvailable := wl.txBlocksAvailable - a.totalBlocks
    txAllocatedBlocks := allocated
    -- the watchdog is armed if the firmware was empty before
    txWatchdogPending :=
      wl.txWatchdogPending || (allocated == a.totalBlocks && allocated != 0)
    txAllocatedPkts := update wl.txAllocatedPkts skb.ac (u32 (wl.txAllocatedPkts skb.ac + 1))
    allocatedPkts :=
      if counted then update wl.allocatedPkts h (u8 (wl.allocatedPkts h + 1))
      else wl.allocatedPkts
    fwHeld := wl.fwHeld ++ [⟨a.id, h, skb.ac, a.totalBlocks⟩] }

/-- `wl1271_tx_allocate` (tx.c:186). -/
def wl1271TxAllocate (wl : Wl1271) (wlvif : Option VifId) (skb : Skb) (extra bufOffset : ℕ)
    (h : Hlid) (isGem : Bool) : Except Errno TxAlloc × Wl1271 :=
  let totalLen := skb.data.length + txHwDescrSize + extra
  if wl.aggrBufSize < bufOffset + totalLen then (.error .eagain, wl)
  else
    let spareBlocks := wlcoreHwGetSpareBlocks wl isGem
    match wl1271AllocTxId wl skb with
    | (none, wl) => (.error .ebusy, wl)
    | (some id, wl) =>
      let totalBlocks := wlcoreHwCalcTxBlocks wl.toConf totalLen spareBlocks
      if totalBlocks ≤ wl.txBlocksAvailable then
        (.ok ⟨id, totalBlocks, spareBlocks⟩,
          txAllocateCommit wl wlvif skb h ⟨id, totalBlocks, spareBlocks⟩)
      else (.error .ebusy, wl1271FreeTxId wl id)

/-! ## `wl1271_prepare_tx_frame` -/

/-- The outcome of a firmware command: success, no memory for it, or a failure in
`wl1271_cmd_send`, which queues a recovery. -/
inductive CmdRet
  | ok
  | noMem
  | failed (e : Errno)
  deriving DecidableEq, Repr

/-- What the environment decides while one frame is prepared. -/
structure PrepEnv where
  /-- `wl12xx_cmd_set_default_wep_key` -/
  wepKey : CmdRet := .ok
  /-- `wl1271_acx_set_inconnection_sta` -/
  inconnectionSta : CmdRet := .ok
  /-- `ieee80211_find_sta` in `wl12xx_ps_link_start` -/
  staFound : Bool := true
  /-- the host time less `wl->time_offset` -/
  startTime : ℕ := 0

/-- A command failure queues a recovery. -/
def cmdEffect (wl : Wl1271) : CmdRet → Wl1271
  | .failed _ => wl12xxQueueRecoveryWork wl
  | _ => wl

/-- `extra`: the space for the TKIP header (tx.c:375). -/
def txExtraSpace (q : Quirks) (skb : Skb) : ℕ :=
  match skb.hwKey with
  | some key => if q.tkipHeaderSpace ∧ key.cipher = .tkip then 4 else 0
  | none => 0

/-- `is_gem` (tx.c:397). -/
def txIsGem (skb : Skb) : Bool :=
  match skb.hwKey with
  | some key => decide (key.cipher = .gem)
  | none => false

/-- The WEP part of `wl1271_prepare_tx_frame` (tx.c:380–395): switch the default key
when the frame uses another one. The vif is dereferenced for every WEP frame. -/
def prepareWepKey (wl : Wl1271) (env : PrepEnv) (wlvif : Option VifId) (skb : Skb) :
    Except Errno Unit × Wl1271 :=
  match skb.hwKey with
  | none => (.ok (), wl)
  | some key =>
    if key.cipher = .wep40 ∨ key.cipher = .wep104 then
      match wlvif with
      | none => (.error .einval, { wl with oops := true })
      | some v =>
        if (wl.vifs v).defaultKey = key.hwKeyIdx then (.ok (), wl)
        else
          match env.wepKey with
          | .ok => (.ok (), wl.setVif v fun w => { w with defaultKey := key.hwKeyIdx })
          | .noMem => (.error .enomem, wl)
          | .failed e => (.error e, wl12xxQueueRecoveryWork wl)
    else (.ok (), wl)

/-- The AP part of `wl1271_prepare_tx_frame` (tx.c:407–410). -/
def prepareAp (wl : Wl1271) (env : PrepEnv) (wlvif : Option VifId) (skb : Skb) (h : Hlid) :
    Wl1271 :=
  match wlvif with
  | none => wl
  | some v =>
    if !wl12xxIsDummyPacket wl skb ∧ (wl.vifs v).bssType = .apBss then
      let wl :=
        if ieee80211IsAuth (frameControl skb.data) then cmdEffect wl env.inconnectionSta
        else wl
      wl1271TxRegulateLink wl v h env.staFound
    else wl

/-- `memcpy` and `memset` into the aggregation buffer. -/
def Aggr.store (a : Aggr) (off : ℕ) (l : List Byte) : Aggr :=
  { a with aggrBuf := storeAt a.aggrBuf off l, aggrTop := max a.aggrTop (off + l.length) }

/-- ghost: a frame was placed at an offset; offset 0 begins a new batch. -/
def Aggr.log (a : Aggr) (off : ℕ) (f : AggrFrame) : Aggr :=
  { a with aggrFrames := (if off = 0 then [] else a.aggrFrames) ++ [f] }

/-- The bytes of one frame in the aggregation buffer: descriptor, frame, zero padding. -/
def placedBytes (q : Quirks) (d : TxHwDescr) (frame : List Byte) : List Byte :=
  let skbData := d.bytes ++ frame
  skbData ++ List.replicate (wlcoreCalcPacketAlignment q skbData.length - skbData.length) 0

/-- `wl1271_prepare_tx_frame` (tx.c:347): the aligned length, or the error. The skb and
the hlid are valid at its only call, so its first two tests are left out. -/
def wl1271PrepareTxFrame (wl : Wl1271) (env : PrepEnv) (wlvif : Option VifId) (skb : Skb)
    (bufOffset : ℕ) (h : Hlid) : Except Errno ℕ × Wl1271 :=
  let extra := txExtraSpace wl.quirks skb
  match prepareWepKey wl env wlvif skb with
  | (.error e, wl) => (.error e, wl)
  | (.ok (), wl) =>
    match wl1271TxAllocate wl wlvif skb extra bufOffset h (txIsGem skb) with
    | (.error e, wl) => (.error e, wl)
    | (.ok a, wl) =>
      let d := wl1271TxFillHdr wl wlvif skb extra h a env.startTime
      let frame := txFrameBytes skb.data extra
      let bytes := placedBytes wl.quirks d frame
      let wl := prepareAp wl env wlvif skb h
      (.ok bytes.length,
        { wl with
          toAggr :=
            (wl.toAggr.store bufOffset bytes).log bufOffset ⟨a.id, h, a.totalBlocks, frame⟩ })

/-- `wlcore_hw_pre_pkt_send`: `wl18xx_pre_pkt_send` (wl18xx/main.c:1287); the wl12xx
operation is not set and leaves everything alone. -/
def wlcoreHwPrePktSend (wl : Wl1271) (bufOffset lastLen : ℕ) : ℕ × Wl1271 :=
  if wl.chip = .wl18xx ∧ wl.quirks.txPadLastFrame then
    (alignUp bufOffset 256,
      if bufOffset < lastLen then { wl with aggrUnderrun := true }
      else
        let ctrl := bufOffset - lastLen + 3
        { wl with toAggr := wl.toAggr.store ctrl [wl.aggrBuf ctrl &&& 0x7f] })
  else (bufOffset, wl)

/-- A successful `wlcore_write_data(wl, REG_SLV_MEM_DATA, wl->aggr_buf, len, true)`. -/
def wlcoreWriteAggrBuf (wl : Wl1271) (len : ℕ) : Wl1271 :=
  { wl with busWrites := ⟨len, wl.aggrBuf, wl.aggrFrames⟩ :: wl.busWrites, aggrFrames := [] }

end TiWlan.Driver
