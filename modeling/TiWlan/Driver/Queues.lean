import TiWlan.Driver.Types

/-!
# Link queues, queue stopping and `op_tx`

Models of the functions that move frames between mac80211 and the link queues:

* the queue stop reasons (`wlcore/tx.c`, lines 1150–1241) and the low watermark
  (lines 453–466);
* `wl12xx_tx_get_hlid` (lines 133–173) and `wl1271_op_tx` (`wlcore/main.c`, lines
  1201–1265);
* `wl1271_ps_filter_frames`, `wl1271_tx_reset_link_queues` and the high-level power
  save of a link (`wlcore/ps.c`, lines 238–330);
* the scheduler `wl1271_skb_dequeue` and `wl1271_skb_queue_head` (`wlcore/tx.c`,
  lines 468–628).
-/

namespace TiWlan.Driver

open Function (update)

/-- `for (i = 0; i < NUM_TX_QUEUES; i++)`. -/
def allAcs : List Ac := [0, 1, 2, 3]

/-- `for (i = 0; i < WL12XX_MAX_LINKS; i++)`. -/
def allHlids : List Hlid := List.finRange 12

/-! ## Queue stop reasons -/

/-- `queue_stop_reasons[q]` is non-zero. -/
def TxStop.stopped (ts : TxStop) (q : Ac) : Bool :=
  ts.queueStopReasons q .watermark || ts.queueStopReasons q .fwRestart ||
    ts.queueStopReasons q .flush || ts.queueStopReasons q .spareBlk

/-- Write one bit of `queue_stop_reasons[q]`. -/
def TxStop.setReason (ts : TxStop) (q : Ac) (r : QueueStopReason) (b : Bool) : TxStop :=
  { ts with
    queueStopReasons := update ts.queueStopReasons q (update (ts.queueStopReasons q) r b) }

/-- `wlcore_stop_queue_locked` (tx.c:1150). -/
def TxStop.stopQueueLocked (ts : TxStop) (q : Ac) (r : QueueStopReason) : TxStop :=
  if ts.stopped q then ts.setReason q r true
  else { ts.setReason q r true with macQueueStopped := update ts.macQueueStopped q true }

/-- `wlcore_wake_queue` (tx.c:1174). -/
def TxStop.wakeQueue (ts : TxStop) (q : Ac) (r : QueueStopReason) : TxStop :=
  if (ts.setReason q r false).stopped q then ts.setReason q r false
  else { ts.setReason q r false with macQueueStopped := update ts.macQueueStopped q false }

/-- `wl1271_handle_tx_low_watermark` (tx.c:453) on the stop reasons. -/
def TxStop.handleTxLowWatermark (ts : TxStop) (count : Ac → ℤ) : TxStop :=
  allAcs.foldl (fun ts q =>
    if ts.queueStopReasons q .watermark ∧ count q ≤ txQueueLowWatermark then
      ts.wakeQueue q .watermark
    else ts) ts

/-- `wlcore_is_queue_stopped_by_reason` (tx.c:1232). -/
def wlcoreIsQueueStoppedByReason (wl : Wl1271) (q : Ac) (r : QueueStopReason) : Bool :=
  wl.queueStopReasons q r

/-- `wlcore_is_queue_stopped` (tx.c:1238). -/
def wlcoreIsQueueStopped (wl : Wl1271) (q : Ac) : Bool := wl.toTxStop.stopped q

/-- `wlcore_stop_queue_locked` and its locking wrapper `wlcore_stop_queue`. -/
def wlcoreStopQueue (wl : Wl1271) (q : Ac) (r : QueueStopReason) : Wl1271 :=
  { wl with toTxStop := wl.toTxStop.stopQueueLocked q r }

/-- `wlcore_wake_queue`. -/
def wlcoreWakeQueue (wl : Wl1271) (q : Ac) (r : QueueStopReason) : Wl1271 :=
  { wl with toTxStop := wl.toTxStop.wakeQueue q r }

/-- `wlcore_stop_queues` (tx.c:1193). -/
def wlcoreStopQueues (wl : Wl1271) (r : QueueStopReason) : Wl1271 :=
  { wl with toTxStop := allAcs.foldl (fun ts q => ts.stopQueueLocked q r) wl.toTxStop }

/-- `wlcore_wake_queues` (tx.c:1203). -/
def wlcoreWakeQueues (wl : Wl1271) (r : QueueStopReason) : Wl1271 :=
  { wl with toTxStop := allAcs.foldl (fun ts q => ts.wakeQueue q r) wl.toTxStop }

/-- `wl1271_handle_tx_low_watermark` (tx.c:453). -/
def wl1271HandleTxLowWatermark (wl : Wl1271) : Wl1271 :=
  { wl with toTxStop := wl.toTxStop.handleTxLowWatermark wl.txQueueCount }

/-! ## 802.11 headers -/

/-- `hdr->frame_control`. -/
def frameControl (data : List Byte) : ℕ := (data.getD 0 0).toNat + 256 * (data.getD 1 0).toNat

/-- `ieee80211_is_data`. -/
def ieee80211IsData (fc : ℕ) : Bool := fc &&& 0x000c == 0x0008

/-- `ieee80211_is_auth`. -/
def ieee80211IsAuth (fc : ℕ) : Bool := fc &&& 0x00fc == 0x00b0

/-- `ieee80211_has_protected`. -/
def ieee80211HasProtected (fc : ℕ) : Bool := fc &&& 0x4000 != 0

/-- `ieee80211_hdrlen` (net/wireless/util.c:262). -/
def ieee80211Hdrlen (fc : ℕ) : ℕ :=
  if ieee80211IsData fc then
    let hdrlen := if fc &&& 0x0300 == 0x0300 then 30 else 24
    if fc &&& 0x008c == 0x0088 then
      if fc &&& 0x8000 != 0 then hdrlen + 2 + 4 else hdrlen + 2
    else hdrlen
  else if fc &&& 0x000c == 0x0004 then
    if fc &&& 0x00e0 == 0x00c0 then 10 else 16
  else 24

/-- `is_multicast_ether_addr(ieee80211_get_DA(hdr))`: the address is `addr3` (offset
16) of a frame to the distribution system and `addr1` (offset 4) otherwise. -/
def isMulticastDa (data : List Byte) : Bool :=
  let addr0 := if frameControl data &&& 0x0100 != 0 then data.getD 16 0 else data.getD 4 0
  addr0.toNat &&& 1 == 1

/-! ## `op_tx` -/

/-- `wl12xx_tx_get_hlid_ap` (tx.c:133). -/
def wl12xxTxGetHlidAp (wlvif : Wl12xxVif) (skb : Skb) : Option Hlid :=
  match skb.sta with
  | some hlid => some hlid
  | none =>
    if !wlvif.apStarted then some systemHlid
    else if isMulticastDa skb.data then wlvif.apBcastHlid
    else wlvif.apGlobalHlid

/-- `wl12xx_tx_get_hlid` (tx.c:155); `none` is `WL12XX_INVALID_LINK_ID`. -/
def wl12xxTxGetHlid (wl : Wl1271) (skb : Skb) : Option Hlid :=
  match skb.vif with
  | none => some systemHlid
  | some v =>
    if wl12xxIsDummyPacket wl skb then some systemHlid
    else if (wl.vifs v).bssType = .apBss then wl12xxTxGetHlidAp (wl.vifs v) skb
    else if skb.offchan then (wl.vifs v).devHlid
    else (wl.vifs v).staHlid

/-- The link test of `op_tx`: `!wlvif || test_bit(hlid, wlvif->links_map)`. -/
def linkAdmits (wl : Wl1271) (skb : Skb) (h : Hlid) : Bool :=
  match skb.vif with
  | none => true
  | some v => (wl.vifs v).linksMap h

/-- `ieee80211_free_txskb` or `ieee80211_tx_status_ni` for each of `skbs`. -/
def Wl1271.giveBack (wl : Wl1271) (skbs : List Skb) : Wl1271 :=
  { wl with returned := wl.returned ++ skbs }

/-- `links[h].tx_queue[q] = l`. -/
def TxQueues.setQueue (t : TxQueues) (h : Hlid) (q : Ac) (l : List Skb) : TxQueues :=
  { t with txQueue := update t.txQueue h (update (t.txQueue h) q l) }

/-- `tx_queue_count[q]++`. -/
def TxQueues.incCount (t : TxQueues) (q : Ac) : TxQueues :=
  { t with txQueueCount := update t.txQueueCount q (t.txQueueCount q + 1) }

/-- `WARN_ON_ONCE(tx_queue_count[q] <= 0); tx_queue_count[q]--`. -/
def TxQueues.decCount (t : TxQueues) (q : Ac) : TxQueues :=
  { t with
    countWarned := t.countWarned || decide (t.txQueueCount q ≤ 0)
    txQueueCount := update t.txQueueCount q (t.txQueueCount q - 1) }

/-- `skb_queue_tail(&wl->links[h].tx_queue[q], skb); wl->tx_queue_count[q]++`. -/
def TxQueues.enqueue (t : TxQueues) (h : Hlid) (skb : Skb) : TxQueues :=
  (t.setQueue h skb.ac (t.txQueue h skb.ac ++ [skb])).incCount skb.ac

/-- The part of `op_tx` after the admission test: queue the frame, stop the queue at
the high watermark and schedule `tx_work`. -/
def opTxEnqueue (wl : Wl1271) (h : Hlid) (skb : Skb) : Wl1271 :=
  let t := wl.toTxQueues.enqueue h skb
  { wl with
    toTxQueues := t
    toTxStop :=
      if txQueueHighWatermark ≤ t.txQueueCount skb.ac ∧
          ¬ wlcoreIsQueueStoppedByReason wl skb.ac .watermark then
        wl.toTxStop.stopQueueLocked skb.ac .watermark
      else wl.toTxStop
    txWorkQueued := wl.txWorkQueued || (!wl.fwTxBusy && !wl.txPending) }

/-- The queue test of `op_tx`: stopped, but not by the watermark. -/
def opTxQueueBlocked (wl : Wl1271) (q : Ac) : Bool :=
  wlcoreIsQueueStopped wl q && !wlcoreIsQueueStoppedByReason wl q .watermark

/-- ghost: `op_tx` has received the frame. -/
def Wl1271.accept (wl : Wl1271) (skb : Skb) : Wl1271 :=
  { wl with accepted := wl.accepted ++ [skb] }

/-- The link on which `op_tx` queues a frame, if it does not drop it: the hlid is valid,
belongs to the vif, and the queue is not blocked. -/
def opTxLink (wl : Wl1271) (skb : Skb) : Option Hlid :=
  (wl12xxTxGetHlid wl skb).filter fun h => linkAdmits wl skb h && !opTxQueueBlocked wl skb.ac

/-- `wl1271_op_tx` (main.c:1201). -/
def wl1271OpTx (wl : Wl1271) (skb : Skb) : Wl1271 :=
  match opTxLink wl skb with
  | none => (wl.accept skb).giveBack [skb]
  | some h => opTxEnqueue (wl.accept skb) h skb

/-! ## Emptying a link -/

/-- The common body of `wl1271_ps_filter_frames` and `wl1271_tx_reset_link_queues`:
take every frame of the link, report the frames other than the dummy packet, correct
the counters and wake queues below the low watermark. -/
def drainLinkQueues (wl : Wl1271) (h : Hlid) : Wl1271 :=
  let freed := allAcs.flatMap (wl.txQueue h)
  wl1271HandleTxLowWatermark
    { wl with
      txQueue := update wl.txQueue h fun _ => []
      txQueueCount := fun q => wl.txQueueCount q - (wl.txQueue h q).length
      returned := wl.returned ++ freed.filter fun skb => !wl12xxIsDummyPacket wl skb }

/-- `wl1271_ps_filter_frames` (ps.c:238). -/
def wl1271PsFilterFrames (wl : Wl1271) (h : Hlid) : Wl1271 := drainLinkQueues wl h

/-- `wl1271_tx_reset_link_queues` (tx.c:979). -/
def wl1271TxResetLinkQueues (wl : Wl1271) (h : Hlid) : Wl1271 := drainLinkQueues wl h

/-- `wl12xx_ps_link_start` (ps.c:270); `staFound` is the result of
`ieee80211_find_sta`. -/
def wl12xxPsLinkStart (wl : Wl1271) (h : Hlid) (cleanQueues staFound : Bool) : Wl1271 :=
  if wl.apPsMap h then wl
  else if !staFound then wl
  else if cleanQueues then
    { wl1271PsFilterFrames wl h with apPsMap := update wl.apPsMap h true }
  else { wl with apPsMap := update wl.apPsMap h true }

/-- `wl12xx_ps_link_end` (ps.c:302), as far as the driver's own state goes. -/
def wl12xxPsLinkEnd (wl : Wl1271) (h : Hlid) : Wl1271 :=
  if !wl.apPsMap h then wl else { wl with apPsMap := update wl.apPsMap h false }

/-- `wl1271_tx_regulate_link` (tx.c:103). -/
def wl1271TxRegulateLink (wl : Wl1271) (v : VifId) (h : Hlid) (staFound : Bool) : Wl1271 :=
  if !(wl.vifs v).linksMap h then wl
  else if wl.activeStaCount ≠ 1 ∧ wl.apFwPsMap h ∧ psStaMaxPackets ≤ wl.allocatedPkts h then
    wl12xxPsLinkStart wl h true staFound
  else wl

/-! ## Scheduling -/

/-- `wl1271_select_queue` (tx.c:468): among the non-empty queues the one whose
category has the fewest packets in the firmware, in the order VO, VI, BE, BK. -/
def wl1271SelectQueue (wl : Wl1271) (queues : Ac → List Skb) : Option Ac :=
  ((List.range 4).foldl (fun (best : Option Ac × ℕ) i =>
      let ac := wl1271TxGetQueue i
      if !(queues ac).isEmpty ∧ wl.txAllocatedPkts ac < best.2 then
        (some ac, wl.txAllocatedPkts ac)
      else best)
    (none, 0xffffffff)).1

/-- `wl12xx_lnk_skb_dequeue` (tx.c:496). -/
def wl12xxLnkSkbDequeue (wl : Wl1271) (h : Hlid) : Option Skb × Wl1271 :=
  match wl1271SelectQueue wl (wl.txQueue h) with
  | none => (none, wl)
  | some q =>
    match wl.txQueue h q with
    | [] => (none, wl)
    | skb :: rest =>
      (some skb, { wl with toTxQueues := (wl.toTxQueues.setQueue h q rest).decCount skb.ac })

/-- The loop of `wl12xx_vif_skb_dequeue` over the remaining candidate links. -/
def vifSkbDequeueLoop (v : VifId) : List Hlid → Wl1271 → Option (Skb × Hlid) × Wl1271
  | [], wl => (none, wl.setVif v fun wlvif => { wlvif with lastTxHlid := 0 })
  | h :: hs, wl =>
    if !(wl.vifs v).linksMap h then vifSkbDequeueLoop v hs wl
    else
      match wl12xxLnkSkbDequeue wl h with
      | (none, wl) => vifSkbDequeueLoop v hs wl
      | (some skb, wl) =>
        (some (skb, h), wl.setVif v fun wlvif => { wlvif with lastTxHlid := h })

/-- `wl12xx_vif_skb_dequeue` (tx.c:519): round robin over the links of a vif, starting
after the last one served. -/
def wl12xxVifSkbDequeue (wl : Wl1271) (v : VifId) : Option (Skb × Hlid) × Wl1271 :=
  let start := (wl.vifs v).lastTxHlid + 1
  vifSkbDequeueLoop v (allHlids.map fun i => start + i) wl

/-- One pass over vifs in `wl1271_skb_dequeue`; with `stopAtLast` it ends after
`wl->last_wlvif`. -/
def vifPass (stopAtLast : Bool) : List VifId → Wl1271 → Option (Skb × Hlid) × Wl1271
  | [], wl => (none, wl)
  | v :: vs, wl =>
    match wl12xxVifSkbDequeue wl v with
    | (some r, wl) => (some r, { wl with lastWlvif := some v })
    | (none, wl) =>
      if stopAtLast ∧ wl.lastWlvif = some v then (none, wl) else vifPass stopAtLast vs wl

/-- The vifs after `wl->last_wlvif` in `wl->wlvif_list`
(`wl12xx_for_each_wlvif_continue`). -/
def vifsAfterLast (wl : Wl1271) : List VifId :=
  match wl.lastWlvif with
  | none => []
  | some l => (wl.wlvifList.dropWhile fun v => v != l).tail

/-- The pending dummy packet, tried last in `wl1271_skb_dequeue`. -/
def dummySkbDequeue (wl : Wl1271) : Option (Skb × Hlid) × Wl1271 :=
  if wl.dummyPacketPending then
    (some (wl.dummyPacket, systemHlid),
      { wl with
        toTxQueues :=
          { wl.toTxQueues with dummyPacketPending := false }.decCount wl.dummyPacket.ac })
  else (none, wl)

/-- `wl1271_skb_dequeue` (tx.c:552). -/
def wl1271SkbDequeue (wl : Wl1271) : Option (Skb × Hlid) × Wl1271 :=
  match vifPass false (vifsAfterLast wl) wl with
  | (some r, wl) => (some r, wl)
  | (none, wl) =>
    match wl12xxLnkSkbDequeue wl systemHlid with
    | (some skb, wl) => (some (skb, systemHlid), wl)
    | (none, wl) =>
      match vifPass true wl.wlvifList wl with
      | (some r, wl) => (some r, wl)
      | (none, wl) => dummySkbDequeue wl

/-- `skb_queue_head(&wl->links[h].tx_queue[q], skb); wl->tx_queue_count[q]++`. -/
def Wl1271.pushHead (wl : Wl1271) (h : Hlid) (skb : Skb) : Wl1271 :=
  { wl with
    toTxQueues :=
      (wl.toTxQueues.setQueue h skb.ac (skb :: wl.txQueue h skb.ac)).incCount skb.ac }

/-- The dummy packet is pending (again). -/
def Wl1271.pendDummy (wl : Wl1271) (skb : Skb) : Wl1271 :=
  { wl with
    toTxQueues := { wl.toTxQueues with dummyPacketPending := true }.incCount skb.ac }

/-- `wl1271_skb_queue_head` (tx.c:609). A frame of no vif reaches
`wlvif->last_tx_hlid = ...` through a NULL pointer. -/
def wl1271SkbQueueHead (wl : Wl1271) (wlvif : Option VifId) (skb : Skb) (h : Hlid) : Wl1271 :=
  if wl12xxIsDummyPacket wl skb then wl.pendDummy skb
  else
    match wlvif with
    | none => { wl.pushHead h skb with oops := true }
    | some v => (wl.pushHead h skb).setVif v fun wlvif => { wlvif with lastTxHlid := h + 11 }

end TiWlan.Driver
