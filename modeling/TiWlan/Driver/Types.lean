import Mathlib.Data.Fin.Basic
import Mathlib.Logic.Function.Basic
import TiWlan.Lib.MachInt

/-!
# The wlcore driver state

The part of `struct wl1271` and `struct wl12xx_vif` (`wlcore/wlcore_i.h`) that the
transmit path, the firmware status and interrupt handling, the power states, the
links and the keys work on.

* A host link id is `Hlid := Fin 12` (`WL12XX_MAX_LINKS`); a field that may hold
  `WL12XX_INVALID_LINK_ID` is an `Option Hlid`. An access category is `Ac := Fin 4`
  and a Tx descriptor id is `TxId := Fin 32`.
* `wl->links[h].f` is `wl.f h`. A bitmap is a `Bool` valued function. Each bit of
  `wl->flags` is a field of its own.
* An `skb` is a value with an identity `id`, which stands for its address; a vif
  pointer is a `VifId` into `wl.vifs`.
* Counters of unsigned type are `ℕ` with the wrap written out where the code can
  reach it; `int` counters are `ℤ`.

The record is split into parts along the groups of functions that change them, so
that "this function leaves the interrupt state alone" is an equation between parts.
Fields marked *ghost* do not exist in the driver; they record what it did.
-/

namespace TiWlan.Driver

/-! ## Constants and small types -/

/-- An access category: `CONF_TX_AC_BE = 0`, `BK = 1`, `VI = 2`, `VO = 3`. -/
abbrev Ac := Fin 4

/-- A host link id below `WL12XX_MAX_LINKS`. -/
abbrev Hlid := Fin 12

/-- A Tx descriptor id below `WLCORE_MAX_TX_DESCRIPTORS`. -/
abbrev TxId := Fin 32

/-- A rate policy index; `WL12XX_MAX_RATE_POLICIES` itself means "none". -/
abbrev RateIdx := Fin 17

/-- The address of a `struct wl12xx_vif`. -/
abbrev VifId := ℕ

abbrev Byte := UInt8

-- Numerals of the index types rest on these, in every module.
instance (priority := 2000) neZero_four : NeZero 4 := ⟨by decide⟩

instance (priority := 2000) neZero_five : NeZero 5 := ⟨by decide⟩

instance (priority := 2000) neZero_seven : NeZero 7 := ⟨by decide⟩

instance (priority := 2000) neZero_twelve : NeZero 12 := ⟨by decide⟩

instance (priority := 2000) neZero_seventeen : NeZero 17 := ⟨by decide⟩

/-- `WL12XX_SYSTEM_HLID`; `wl->system_hlid` never changes. -/
def systemHlid : Hlid := 0

/-- `WL1271_TX_QUEUE_LOW_WATERMARK`. -/
def txQueueLowWatermark : ℤ := 32

/-- `WL1271_TX_QUEUE_HIGH_WATERMARK`. -/
def txQueueHighWatermark : ℤ := 256

/-- `WL1271_PS_STA_MAX_PACKETS`. -/
def psStaMaxPackets : ℕ := 2

/-- `sizeof(struct wl1271_tx_hw_descr)`. -/
def txHwDescrSize : ℕ := 16

/-- `wl1271_tx_get_queue` (tx.h:194). -/
def wl1271TxGetQueue : ℕ → Ac
  | 0 => 3
  | 1 => 2
  | 2 => 0
  | 3 => 1
  | _ => 0

/-- The negative return values that the modelled code tells apart. -/
inductive Errno
  | eagain | ebusy | einval | enomem | eio | eopnotsupp
  deriving DecidableEq, Repr

/-- `enum wlcore_state`. -/
inductive WlcoreState
  | off | restarting | on
  deriving DecidableEq, Repr

/-- `enum wlcore_queue_stop_reason`. -/
inductive QueueStopReason
  | watermark | fwRestart | flush | spareBlk
  deriving DecidableEq, Repr

/-- `BSS_TYPE_STA_BSS`, `BSS_TYPE_IBSS`, `BSS_TYPE_AP_BSS` and `MAX_BSS_TYPE`. -/
inductive BssType
  | staBss | ibss | apBss | max
  deriving DecidableEq, Repr

/-- `enum plt_mode`. -/
inductive PltMode
  | off | on | femDetect
  deriving DecidableEq, Repr

/-- The chip families: `wl18xx`, and `wl12xx` with `chip.id == CHIP_ID_1283_PG20`
(`wl128x`) or not (`wl127x`). -/
inductive Chip
  | wl127x | wl128x | wl18xx
  deriving DecidableEq, Repr

/-- The cipher suites of `wlcore_set_key`. -/
inductive Cipher
  | wep40 | wep104 | tkip | ccmp | gem | unknown
  deriving DecidableEq, Repr

/-- `enum wl1271_cmd_key_type`. -/
inductive KeyType
  | none | wep | tkip | aes | gem
  deriving DecidableEq, Repr

/-- `struct ieee80211_key_conf`; `id` stands for its address. -/
structure KeyConf where
  id : ℕ
  cipher : Cipher
  keyidx : ℕ
  hwKeyIdx : ℕ := 0
  key : List Byte := []
  deriving DecidableEq, Repr

/-- An `sk_buff` with its `ieee80211_tx_info` control block. -/
structure Skb where
  /-- the address of the buffer -/
  id : ℕ
  /-- the 802.11 frame as `op_tx` receives it -/
  data : List Byte
  /-- `skb_get_queue_mapping` -/
  queueMapping : ℕ
  priority : ℕ := 0
  /-- `skb->protocol == cpu_to_be16(ETH_P_PAE)` -/
  protocolPae : Bool := false
  /-- what `wlcore_hw_set_tx_desc_csum` stores for this skb -/
  checksumData : ℕ := 0
  /-- `info->control.vif` -/
  vif : Option VifId := none
  /-- the `hlid` in the `drv_priv` of `info->control.sta` -/
  sta : Option Hlid := none
  /-- `info->control.hw_key` -/
  hwKey : Option KeyConf := none
  /-- `IEEE80211_TX_CTL_TX_OFFCHAN` -/
  offchan : Bool := false
  /-- `IEEE80211_TX_CTL_NO_CCK_RATE` -/
  noCckRate : Bool := false
  deriving DecidableEq, Repr

/-- The access category an skb is queued under. -/
def Skb.ac (skb : Skb) : Ac := wl1271TxGetQueue skb.queueMapping

/-- A packet that `wl1271_tx_allocate` handed over to the firmware. -/
structure HwPkt where
  id : TxId
  hlid : Hlid
  ac : Ac
  blocks : ℕ
  deriving DecidableEq, Repr

/-- `wl->quirks` and `wl->platform_quirks`, as far as the modelled code tests them. -/
structure Quirks where
  /-- `WLCORE_QUIRK_TX_BLOCKSIZE_ALIGN` -/
  txBlocksizeAlign : Bool
  /-- `WLCORE_QUIRK_TX_PAD_LAST_FRAME` -/
  txPadLastFrame : Bool
  /-- `WLCORE_QUIRK_TKIP_HEADER_SPACE` -/
  tkipHeaderSpace : Bool
  /-- `WLCORE_QUIRK_END_OF_TRANSACTION` -/
  endOfTransaction : Bool
  /-- `WL12XX_PLATFORM_QUIRK_EDGE_IRQ` -/
  edgeIrq : Bool
  deriving DecidableEq, Repr

/-- A key recorded before the AP is started (`struct wl1271_ap_key`). -/
structure ApKey where
  id : ℕ
  keyType : KeyType
  key : List Byte
  hlid : Option Hlid
  txSeq32 : ℕ
  txSeq16 : ℕ
  deriving DecidableEq, Repr

/-- A `CMD_SET_KEYS` command (`struct wl1271_cmd_set_keys`). -/
structure KeyCmd where
  /-- `KEY_ADD_OR_REPLACE`, otherwise `KEY_REMOVE` -/
  add : Bool
  hlid : Option Hlid
  keyId : ℕ
  keyType : KeyType
  key : List Byte
  txSeq32 : ℕ
  txSeq16 : ℕ
  deriving DecidableEq, Repr

/-- `struct wl12xx_vif`. -/
structure Wl12xxVif where
  /-- `WLVIF_FLAG_INITIALIZED` -/
  initialized : Bool
  /-- `WLVIF_FLAG_STA_ASSOCIATED` -/
  staAssociated : Bool
  /-- `WLVIF_FLAG_AP_STARTED` -/
  apStarted : Bool
  bssType : BssType
  /-- `wl12xx_wlvif_to_vif(wlvif)->dummy_p2p` -/
  dummyP2p : Bool
  devHlid : Option Hlid
  staHlid : Option Hlid
  apGlobalHlid : Option Hlid
  apBcastHlid : Option Hlid
  staHlidMap : Hlid → Bool
  linksMap : Hlid → Bool
  lastTxHlid : Hlid
  /-- `wlvif->session_counter`, at most `SESSION_COUNTER_MAX` -/
  sessionCounter : Fin 7
  basicRateIdx : RateIdx
  apRateIdx : RateIdx
  p2pRateIdx : RateIdx
  mgmtRateIdx : RateIdx
  bcastRateIdx : RateIdx
  ucastRateIdx : Ac → RateIdx
  defaultKey : ℕ
  encryptionType : KeyType
  recordedApKeys : List ApKey
  txSecuritySeq : ℕ
  txSecurityLastSeqLsb : ℕ

/-- A frame in the aggregation buffer: the descriptor id, the link, the number of memory blocks
and the bytes behind the descriptor. -/
structure AggrFrame where
  id : ℕ
  hlid : ℕ
  blocks : ℕ
  payload : List Byte
  deriving DecidableEq, Repr

/-- A transfer by `wlcore_write_data(wl, REG_SLV_MEM_DATA, wl->aggr_buf, len, true)`
that the bus carried out. -/
structure BusWrite where
  len : ℕ
  data : ℕ → Byte
  /-- ghost: the frames that were placed in the buffer for this transfer -/
  frames : List AggrFrame

/-! ## Parts of `struct wl1271` -/

/-- What probe and chip identification fix. -/
structure Conf where
  chip : Chip
  quirks : Quirks
  numTxDesc : ℕ
  /-- `BUG_ON(wl->num_tx_desc > WLCORE_MAX_TX_DESCRIPTORS)` in `wlcore_probe` -/
  numTxDesc_le : numTxDesc ≤ 32
  aggrBufSize : ℕ
  dummyPacket : Skb
  /-- `conf.recovery.no_recovery` -/
  noRecovery : Bool
  /-- `conf.recovery.bug_on_recovery` -/
  bugOnRecovery : Bool

/-- The places in which the driver keeps Tx frames, and their counters. -/
structure TxQueues where
  txQueue : Hlid → Ac → List Skb
  txQueueCount : Ac → ℤ
  /-- `WL1271_FLAG_DUMMY_PACKET_PENDING` -/
  dummyPacketPending : Bool
  deferredTxQueue : List Skb
  txFramesMap : TxId → Bool
  txFrames : TxId → Option Skb
  txFramesCnt : ℤ
  /-- ghost: the frames that `op_tx` received -/
  accepted : List Skb
  /-- ghost: the frames given to `ieee80211_tx_status_ni` or `ieee80211_free_txskb` -/
  returned : List Skb
  /-- ghost: a `WARN_ON_ONCE(wl->tx_queue_count[q] <= 0)` fired -/
  countWarned : Bool

/-- Accounting of what the firmware holds. -/
structure TxAccounting where
  /-- `WL1271_FLAG_FW_TX_BUSY` -/
  fwTxBusy : Bool
  txBlocksFreed : ℕ
  txBlocksAvailable : ℕ
  txAllocatedBlocks : ℕ
  txPktsFreed : Ac → ℕ
  txAllocatedPkts : Ac → ℕ
  allocatedPkts : Hlid → ℕ
  prevFreedPkts : Hlid → ℕ
  /-- `tx_watchdog_work` is pending -/
  txWatchdogPending : Bool
  /-- ghost: the packets in the firmware, oldest first -/
  fwHeld : List HwPkt

/-- Why the driver stopped the mac80211 queues. -/
structure TxStop where
  queueStopReasons : Ac → QueueStopReason → Bool
  /-- mac80211's queue of the category is stopped -/
  macQueueStopped : Ac → Bool

/-- Vifs, links and station power save. -/
structure VifLinks where
  vifs : VifId → Wl12xxVif
  wlvifList : List VifId
  lastWlvif : Option VifId
  linksMap : Hlid → Bool
  apPsMap : Hlid → Bool
  apFwPsMap : Hlid → Bool
  activeStaCount : ℤ

/-- Pending work items and the flags that steer them. -/
structure Work where
  /-- `WL1271_FLAG_TX_PENDING` -/
  txPending : Bool
  /-- `WL1271_FLAG_IRQ_RUNNING` -/
  irqRunning : Bool
  watchdogRecovery : Bool
  txWorkQueued : Bool
  netstackWorkQueued : Bool

/-- The power state and the interrupt line. -/
structure Power where
  state : WlcoreState
  plt : Bool
  pltMode : PltMode
  /-- `WL1271_FLAG_RECOVERY_IN_PROGRESS` -/
  recoveryInProgress : Bool
  /-- `WL1271_FLAG_INTENDED_FW_RECOVERY` -/
  intendedFwRecovery : Bool
  /-- `WL1271_FLAG_SUSPENDED` -/
  suspended : Bool
  /-- `WL1271_FLAG_PENDING_WORK` -/
  pendingWork : Bool
  wowEnabled : Bool
  recoveryWorkQueued : Bool
  /-- the disable depth that `disable_irq` and `enable_irq` count -/
  irqDepth : ℤ

/-- The aggregation buffer and the bus. -/
structure Aggr where
  aggrBuf : ℕ → Byte
  txPacketsCount : ℕ
  /-- ghost: the highest index of `aggr_buf` written so far, plus one -/
  aggrTop : ℕ
  /-- ghost: an index below zero was written -/
  aggrUnderrun : Bool
  /-- ghost: the frames placed in the buffer since its last transfer -/
  aggrFrames : List AggrFrame
  /-- ghost: the transfers of the aggregation buffer, latest first -/
  busWrites : List BusWrite

/-- The wl18xx private data and the results counter. -/
structure ChipPriv where
  /-- `wl->tx_results_count` -/
  txResultsCount : ℕ
  /-- `priv->last_fw_rls_idx` -/
  lastFwRlsIdx : ℕ
  /-- `priv->extra_spare_vif_count` -/
  extraSpareVifCount : ℤ
  /-- ghost: the spare count of the last `wl18xx_set_host_cfg_bitmap` -/
  fwSpareBlocks : ℕ

/-- `struct wl1271`. -/
structure Wl1271 extends
    Conf, TxQueues, TxAccounting, TxStop, VifLinks, Work, Power, Aggr, ChipPriv where
  /-- ghost: the key commands sent, latest first -/
  keyCmds : List KeyCmd
  /-- ghost: a NULL `wlvif` was dereferenced, or a `BUG_ON` was hit -/
  oops : Bool

/-- `wl12xx_is_dummy_packet` (tx.c:127). -/
def wl12xxIsDummyPacket (wl : Wl1271) (skb : Skb) : Bool := wl.dummyPacket.id == skb.id

/-- `wl1271_tx_total_queue_count` (tx.h:226). -/
def wl1271TxTotalQueueCount (wl : Wl1271) : ℤ :=
  wl.txQueueCount 0 + wl.txQueueCount 1 + wl.txQueueCount 2 + wl.txQueueCount 3

/-- Store into one vif. -/
def Wl1271.setVif (wl : Wl1271) (v : VifId) (f : Wl12xxVif → Wl12xxVif) : Wl1271 :=
  { wl with vifs := Function.update wl.vifs v (f (wl.vifs v)) }

/-- `wl->flags = 0`: every flag bit is cleared at once. -/
def Wl1271.clearFlags (wl : Wl1271) : Wl1271 :=
  { wl with
    dummyPacketPending := false
    fwTxBusy := false
    txPending := false
    irqRunning := false
    recoveryInProgress := false
    intendedFwRecovery := false
    suspended := false
    pendingWork := false }

end TiWlan.Driver
