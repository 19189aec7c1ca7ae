import TiWlan.Driver.TxWork

/-!
# Completions and the firmware status

Models of `wl1271_tx_complete_packet` and `wlcore_tx_complete` (`wlcore/tx.c`, lines
838–977), `wl18xx_tx_complete_packet` and `wl18xx_tx_immediate_complete`
(`wl18xx/tx.c`, lines 31–132), `wlcore_fw_status` with the per-link update
(`wlcore/main.c`, lines 331–478) and `wl1271_flush_deferred_work` (lines 480–491).
The status that the driver reports to mac80211 (rates, acknowledgement) is left out.
-/

namespace TiWlan.Driver

open TiWlan.Lib
open Function (update)

/-! ## Completions -/

/-- `struct wl1271_tx_hw_res_descr`. -/
structure TxResult where
  /-- the `u8` descriptor id as the firmware reports it -/
  id : ℕ
  /-- `status == TX_SUCCESS` -/
  success : Bool
  /-- `tx_security_sequence_number_lsb` -/
  seqLsb : ℕ
  deriving DecidableEq, Repr

/-- The id check of both completion functions: the frame in the slot, if the id is below
`num_tx_desc` and the slot is in use. -/
def completedFrame (wl : Wl1271) (id : ℕ) : Option (TxId × Skb) :=
  if h : id < wl.numTxDesc then
    let slot : TxId := ⟨id, lt_of_lt_of_le h wl.numTxDesc_le⟩
    (wl.txFrames slot).map fun skb => (slot, skb)
  else none

/-- The ciphers whose sequence number is tracked (tx.c:889). -/
def tracksSeq (skb : Skb) : Bool :=
  match skb.hwKey with
  | some key => decide (key.cipher = .tkip ∨ key.cipher = .ccmp ∨ key.cipher = .gem)
  | none => false

/-- The sequence number update of `wl1271_tx_complete_packet` (tx.c:893–901). -/
def updateSecuritySeq (w : Wl12xxVif) (fwLsb : ℕ) : Wl12xxVif :=
  { w with
    txSecuritySeq := u64 (w.txSecuritySeq + u8 ((fwLsb : ℤ) - w.txSecurityLastSeqLsb))
    txSecurityLastSeqLsb := fwLsb }

/-- Hand the frame to `netstack_work` and free its id. -/
def deferFrame (wl : Wl1271) (slot : TxId) (skb : Skb) : Wl1271 :=
  wl1271FreeTxId
    { wl with
      deferredTxQueue := wl.deferredTxQueue ++ [skb]
      netstackWorkQueued := true } slot

/-- The vif part of `wl1271_tx_complete_packet`: the vif is dereferenced for the band of a
successful frame and for the sequence number. -/
def completeVif (wl : Wl1271) (r : TxResult) (skb : Skb) : Wl1271 :=
  match skb.vif with
  | none => { wl with oops := wl.oops || r.success || tracksSeq skb }
  | some v => if tracksSeq skb then wl.setVif v fun w => updateSecuritySeq w r.seqLsb else wl

/-- `wl1271_tx_complete_packet` (tx.c:838). -/
def wl1271TxCompletePacket (wl : Wl1271) (r : TxResult) : Wl1271 :=
  match completedFrame wl r.id with
  | none => wl
  | some (slot, skb) =>
    if wl12xxIsDummyPacket wl skb then wl1271FreeTxId wl slot
    else deferFrame (completeVif wl r skb) slot skb

/-- `wlcore_tx_complete` (tx.c:932), bus accesses succeeding: `fwCounter` is
`tx_result_fw_counter` and `queue` the results ring of `TX_HW_RESULT_QUEUE_LEN` entries. -/
def wlcoreTxComplete (wl : Wl1271) (fwCounter : ℕ) (queue : ℕ → TxResult) : Wl1271 :=
  (List.range (u32 ((fwCounter : ℤ) - wl.txResultsCount))).foldl (fun wl _ =>
    let wl' := wl1271TxCompletePacket wl (queue (wl.txResultsCount % 16))
    { wl' with txResultsCount := u32 (wl.txResultsCount + 1) }) wl

/-- `wl18xx_tx_complete_packet` (wl18xx/tx.c:31). -/
def wl18xxTxCompletePacket (wl : Wl1271) (txStatByte : ℕ) : Wl1271 :=
  match completedFrame wl (txStatByte &&& 0x7f) with
  | none => wl
  | some (slot, skb) =>
    if wl12xxIsDummyPacket wl skb then wl1271FreeTxId wl slot else deferFrame wl slot skb

/-- The loop of `wl18xx_tx_immediate_complete`: `n` is the number of entries from `i` up to
the firmware's index on the ring of `WL18XX_FW_MAX_TX_STATUS_DESC` entries. -/
def wl18xxReleaseLoop (released : ℕ → ℕ) : ℕ → ℕ → Wl1271 → Wl1271
  | 0, _, wl => wl
  | n + 1, i, wl =>
    let wl' := wl18xxTxCompletePacket wl (released i)
    wl18xxReleaseLoop released n ((i + 1) % 33)
      { wl' with txResultsCount := u32 (wl'.txResultsCount + 1) }

/-- `wl18xx_tx_immediate_complete` (wl18xx/tx.c:95). -/
def wl18xxTxImmediateComplete (wl : Wl1271) (fwReleaseIdx : ℕ) (released : ℕ → ℕ) : Wl1271 :=
  if wl.lastFwRlsIdx = fwReleaseIdx then wl
  else if 33 ≤ fwReleaseIdx then wl
  else
    let n := (fwReleaseIdx + 33 - wl.lastFwRlsIdx) % 33
    { wl18xxReleaseLoop released n wl.lastFwRlsIdx wl with lastFwRlsIdx := fwReleaseIdx }

/-- `wl1271_flush_deferred_work` (main.c:480); received frames are left out. -/
def wl1271FlushDeferredWork (wl : Wl1271) : Wl1271 :=
  { wl with deferredTxQueue := [], returned := wl.returned ++ wl.deferredTxQueue }

/-! ## The firmware status -/

/-- The fields of `struct wl_fw_status_1` and `struct wl_fw_status_2` that concern Tx. -/
structure FwStatus where
  /-- `counters.tx_released_pkts` -/
  txReleasedPkts : Ac → ℕ
  /-- `counters.tx_lnk_free_pkts` -/
  txLnkFreePkts : Hlid → ℕ
  totalReleasedBlks : ℕ
  txTotal : ℕ
  linkPsBitmap : Hlid → Bool
  /-- which stations `ieee80211_find_sta` knows -/
  staFound : Hlid → Bool

/-- `wl12xx_irq_ps_regulate_link` (main.c:331). -/
def wl12xxIrqPsRegulateLink (wl : Wl1271) (h : Hlid) (txPkts : ℕ) (staFound : Bool) : Wl1271 :=
  let fwPs := wl.apFwPsMap h
  if !fwPs ∨ txPkts < psStaMaxPackets then wl12xxPsLinkEnd wl h
  else if wl.activeStaCount ≠ 1 ∧ fwPs ∧ psStaMaxPackets ≤ txPkts then
    wl12xxPsLinkStart wl h true staFound
  else wl

/-- The loop body of `wl12xx_irq_update_links_status` for one station link. -/
def updateLinkStatus (st : FwStatus) (wl : Wl1271) (h : Hlid) : Wl1271 :=
  let cnt := u8 ((st.txLnkFreePkts h : ℤ) - wl.prevFreedPkts h)
  let allocated := u8 ((wl.allocatedPkts h : ℤ) - cnt)
  wl12xxIrqPsRegulateLink
    { wl with
      prevFreedPkts := update wl.prevFreedPkts h (st.txLnkFreePkts h)
      allocatedPkts := update wl.allocatedPkts h allocated }
    h allocated (st.staFound h)

/-- `wl12xx_irq_update_links_status` (main.c:356). -/
def wl12xxIrqUpdateLinksStatus (st : FwStatus) (wl : Wl1271) (v : VifId) : Wl1271 :=
  (allHlids.filter (wl.vifs v).staHlidMap).foldl (updateLinkStatus st)
    { wl with apFwPsMap := st.linkPsBitmap }

/-- `freed_blocks` of `wlcore_fw_status` (main.c:427–433): the difference of the two `u32`
counters, converted to `int`. -/
def freedBlocks (wl : Wl1271) (st : FwStatus) : ℤ :=
  if wl.txBlocksFreed ≤ st.totalReleasedBlks then
    s32 ((st.totalReleasedBlks : ℤ) - wl.txBlocksFreed)
  else s32 (0x100000000 - wl.txBlocksFreed + st.totalReleasedBlks)

/-- The block and packet accounting of `wlcore_fw_status` (main.c:416–466). -/
def fwStatusAccounting (wl : Wl1271) (st : FwStatus) : TxAccounting :=
  let freed := freedBlocks wl st
  let allocated := u32 (wl.txAllocatedBlocks - freed)
  let avail := s32 ((st.txTotal : ℤ) - allocated)
  let available := u32 (max (s32 wl.txBlocksAvailable) avail)
  { wl.toTxAccounting with
    txAllocatedPkts := fun q =>
      u32 ((wl.txAllocatedPkts q : ℤ) - u8 ((st.txReleasedPkts q : ℤ) - wl.txPktsFreed q))
    txPktsFreed := st.txReleasedPkts
    txBlocksFreed := st.totalReleasedBlks
    txAllocatedBlocks := allocated
    -- the watchdog restarts if blocks remain and is cancelled otherwise
    txWatchdogPending := if freed = 0 then wl.txWatchdogPending else allocated != 0
    txBlocksAvailable := available
    fwTxBusy := if wl.txBlocksAvailable < available then false else wl.fwTxBusy }

/-- `wlcore_fw_status` (main.c:389) with a status block that was read successfully. -/
def wlcoreFwStatus (wl : Wl1271) (st : FwStatus) : Wl1271 :=
  (wl.wlvifList.filter fun v => decide ((wl.vifs v).bssType = .apBss)).foldl
    (wl12xxIrqUpdateLinksStatus st) { wl with toTxAccounting := fwStatusAccounting wl st }

end TiWlan.Driver
