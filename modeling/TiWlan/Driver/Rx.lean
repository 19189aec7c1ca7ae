import Mathlib.Data.Nat.Bitwise
import TiWlan.Driver.Types

/-!
# Reception

Model of `wlcore_rx` (`wlcore/rx.c`, lines 208–298) with `wlcore_rx_get_buf_size` and
`wlcore_rx_get_align_buf_size` (lines 41–57).

The status block announces packets in a ring of `num_rx_desc` descriptors, from the driver's
counter up to the firmware's. A first loop adds up the lengths of those that fit into the
aggregation buffer, one bus access reads them, and a second loop splits the data into packets for
`wl1271_rx_handle_data`, of which only the result is modelled. The loops are given fuel; `none`
means that it was used up.
-/

namespace TiWlan.Driver

open TiWlan.Lib

/-- The part of `struct wl1271` that fixes the descriptor ring and the buffer. -/
structure RxConf where
  /-- `WLCORE_QUIRK_RX_BLOCKSIZE_ALIGN` -/
  rxBlocksizeAlign : Bool
  /-- `WLCORE_QUIRK_END_OF_TRANSACTION` -/
  endOfTransaction : Bool
  numRxDesc : ℕ
  aggrBufSize : ℕ
  deriving DecidableEq, Repr

namespace RxConf

/-- `wlcore_rx_get_buf_size` (rx.c:41). -/
def getBufSize (c : RxConf) (rxPktDesc : ℕ) : ℕ :=
  if c.rxBlocksizeAlign then (rxPktDesc &&& 0xFFFF00) >>> 8 else (rxPktDesc &&& 0xFFF00) >>> 6

/-- `wlcore_rx_get_align_buf_size` (rx.c:52); `WL12XX_BUS_BLOCK_SIZE` is 256. -/
def getAlignBufSize (c : RxConf) (pktLen : ℕ) : ℕ :=
  if c.rxBlocksizeAlign then alignUp pktLen 256 else pktLen

/-- The aligned length that a descriptor announces. -/
def alignLen (c : RxConf) (rxPktDesc : ℕ) : ℕ := c.getAlignBufSize (c.getBufSize rxPktDesc)

end RxConf

/-- A call of `wl1271_rx_handle_data`: the descriptor, and where its data are in `aggr_buf`. -/
structure RxPkt where
  desc : ℕ
  offset : ℕ
  len : ℕ
  deriving DecidableEq, Repr

/-- A bus access of `wlcore_rx` with the packets split out of it; none if it fails. -/
structure RxRead where
  len : ℕ
  ok : Bool
  pkts : List RxPkt
  deriving DecidableEq, Repr

/-- What the environment decides. -/
structure RxEnv where
  /-- `wlcore_hw_prepare_read` for the `k`-th access -/
  prepareOk : ℕ → Bool := fun _ => true
  /-- `wlcore_read_data` for the `k`-th access -/
  readOk : ℕ → Bool := fun _ => true
  /-- the hlid of a descriptor for which `wl1271_rx_handle_data` returns 1 -/
  handleData : ℕ → Option ℕ := fun _ => none
  /-- the write of the driver's counter -/
  counterOk : Bool := true

section
variable (c : RxConf) (descs : ℕ → ℕ)

/-- The sizing loop (rx.c:224–234). -/
def rxSizeLoop (fwRxCounter : ℕ) : ℕ → ℕ → ℕ → Option ℕ
  | 0, _, _ => none
  | fuel + 1, rxCounter, bufSize =>
    if rxCounter = fwRxCounter then some bufSize
    else
      let alignPktLen := c.alignLen (descs rxCounter)
      if c.aggrBufSize < u32 (bufSize + alignPktLen) then some bufSize
      else
        rxSizeLoop fwRxCounter fuel (u32 (rxCounter + 1) % c.numRxDesc)
          (u32 (bufSize + alignPktLen))

/-- The splitting loop (rx.c:252–280): the packets, the local counter and `wl->rx_counter`. -/
def rxSplitLoop (bufSize : ℕ) : ℕ → ℕ → ℕ → ℕ → Option (List RxPkt × ℕ × ℕ)
  | 0, _, _, _ => none
  | fuel + 1, drvRxCounter, rxCounter, pktOffset =>
    if pktOffset < bufSize then
      let des := descs drvRxCounter
      (rxSplitLoop bufSize fuel (u32 (drvRxCounter + 1) % c.numRxDesc) (u32 (rxCounter + 1))
        (u32 (pktOffset + c.alignLen des))).map fun r =>
          (⟨drvRxCounter, pktOffset, c.getBufSize des⟩ :: r.1, r.2)
    else some ([], drvRxCounter, rxCounter)

/-- What the outer loop did: whether it got through, its bus accesses and `wl->rx_counter`. -/
structure RxRun where
  ok : Bool
  reads : List RxRead
  rxCounter : ℕ
  deriving DecidableEq, Repr

/-- The outer loop (rx.c:221–281); `k` counts the bus accesses. -/
def rxLoop (fwRxCounter : ℕ) (env : RxEnv) : ℕ → ℕ → ℕ → ℕ → Option RxRun
  | 0, _, _, _ => none
  | fuel + 1, drvRxCounter, rxCounter, k =>
    if drvRxCounter = fwRxCounter then some ⟨true, [], rxCounter⟩
    else
      match rxSizeLoop c descs fwRxCounter (c.numRxDesc + 1) drvRxCounter 0 with
      | none => none
      | some bufSize =>
        -- "received empty data"
        if bufSize = 0 then some ⟨true, [], rxCounter⟩
        else if !env.prepareOk k then some ⟨false, [], rxCounter⟩
        else if !env.readOk k then some ⟨false, [⟨bufSize, false, []⟩], rxCounter⟩
        else
          match rxSplitLoop c descs bufSize (c.numRxDesc + 1) drvRxCounter rxCounter 0 with
          | none => none
          | some (pkts, drvRxCounter, rxCounter) =>
            (rxLoop fwRxCounter env fuel drvRxCounter rxCounter (k + 1)).map fun r =>
              { r with reads := ⟨bufSize, true, pkts⟩ :: r.reads }

/-- The result of `wlcore_rx`. -/
structure RxResult extends RxRun where
  /-- the argument of `wl12xx_rearm_rx_streaming`, if it gets there -/
  activeHlids : Option (Hlid → Bool)

/-- The links of the packets that were data (rx.c:263–273). -/
def rxActiveHlids (env : RxEnv) (reads : List RxRead) (h : Hlid) : Bool :=
  reads.any fun r => r.pkts.any fun p => decide (env.handleData p.desc = some h.val)

/-- `wlcore_rx` (rx.c:208). -/
def wlcoreRx (rxCounter fwRxCounter : ℕ) (env : RxEnv) : Option RxResult :=
  (rxLoop c descs (fwRxCounter % c.numRxDesc) env (c.numRxDesc + 1) (rxCounter % c.numRxDesc)
    rxCounter 0).map fun r =>
      -- only the older chips want the counter
      if !r.ok ∨ (c.endOfTransaction ∧ !env.counterOk) then
        { r with ok := false, activeHlids := none }
      else { r with activeHlids := some (rxActiveHlids env r.reads) }

end

end TiWlan.Driver
