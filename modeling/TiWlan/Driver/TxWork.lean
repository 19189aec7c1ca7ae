import TiWlan.Driver.TxFrame

/-!
# The transmit loop

Models of `wlcore_tx_work_locked` and `wl1271_tx_work` (`wlcore/tx.c`, lines
683–815), `wl1271_tx_dummy_packet` (`wlcore/main.c`, lines 1267–1292) and
`wl1271_tx_flush` (`wlcore/tx.c`, lines 1088–1140).

The loop of `wlcore_tx_work_locked` runs as long as frames are found, and new frames
may arrive while it runs (`op_tx` only takes the spinlock). What the environment does
during one iteration is a `TxIter`; the loop recurses over a list of them and a run
that has used up the list is reported as `TxRet.running`, never as finished.
-/

namespace TiWlan.Driver

open Function (update)

/-- What the environment does in one iteration of the transmit loop. -/
structure TxIter where
  /-- frames that `op_tx` receives before the next dequeue -/
  arrivals : List Skb := []
  prep : PrepEnv := {}
  /-- the bus write of a full aggregation buffer succeeds -/
  busOk : Bool := true

/-- The environment of one call of `wlcore_tx_work_locked`. -/
structure TxWorkEnv where
  iters : List TxIter
  /-- the bus write after the loop succeeds -/
  busOk : Bool := true
  /-- the write of `WL12XX_HOST_WR_ACCESS` succeeds -/
  hostWrOk : Bool := true

/-- The local variables of the loop. -/
structure TxLocals where
  bufOffset : ℕ := 0
  lastLen : ℕ := 0
  sentPackets : Bool := false

/-- How the loop is left: at `out_ack`, at `out` after a bus error, or not yet. -/
inductive LoopExit
  | outAck | out | running
  deriving DecidableEq, Repr

/-- The result of `wlcore_tx_work_locked`. -/
inductive TxRet
  | ok | busError | running
  deriving DecidableEq, Repr

/-- The frame did not fit into the aggregation buffer: put it back and flush the buffer
(tx.c:716–734). -/
def txWorkEagain (wl : Wl1271) (it : TxIter) (wlvif : Option VifId) (skb : Skb) (h : Hlid)
    (l : TxLocals) : Option LoopExit × Wl1271 × TxLocals :=
  let wl := wl1271SkbQueueHead wl wlvif skb h
  let (len, wl) := wlcoreHwPrePktSend wl l.bufOffset l.lastLen
  if it.busOk then
    (none, wlcoreWriteAggrBuf wl len, { l with bufOffset := 0, sentPackets := true })
  else (some .out, wl, { l with bufOffset := len })

/-- One iteration for a dequeued frame (tx.c:702–768); `none` continues the loop. -/
def txWorkFrame (wl : Wl1271) (it : TxIter) (skb : Skb) (h : Hlid) (l : TxLocals) :
    Option LoopExit × Wl1271 × TxLocals :=
  let wlvif := if wl12xxIsDummyPacket wl skb then none else skb.vif
  let h := if wlvif.isSome then h else systemHlid
  match wl1271PrepareTxFrame wl it.prep wlvif skb l.bufOffset h with
  | (.error .eagain, wl) => txWorkEagain wl it wlvif skb h l
  | (.error .ebusy, wl) =>
    (some .outAck, { wl1271SkbQueueHead wl wlvif skb h with fwTxBusy := true }, l)
  | (.error _, wl) =>
    -- the firmware still expects the dummy packet, any other frame is dropped
    if wl12xxIsDummyPacket wl skb then
      (some .outAck, wl1271SkbQueueHead wl wlvif skb h, l)
    else (some .outAck, wl.giveBack [skb], l)
  | (.ok len, wl) =>
    (none, { wl with txPacketsCount := wl.txPacketsCount + 1 },
      { l with lastLen := len, bufOffset := l.bufOffset + len })

/-- One turn of the `while` loop. -/
def txWorkIter (wl : Wl1271) (it : TxIter) (l : TxLocals) :
    Option LoopExit × Wl1271 × TxLocals :=
  match wl1271SkbDequeue (it.arrivals.foldl wl1271OpTx wl) with
  | (none, wl) => (some .outAck, wl, l)
  | (some (skb, h), wl) => txWorkFrame wl it skb h l

/-- The `while` loop of `wlcore_tx_work_locked`. -/
def txWorkLoop : List TxIter → Wl1271 → TxLocals → LoopExit × Wl1271 × TxLocals
  | [], wl, l => (.running, wl, l)
  | it :: its, wl, l =>
    match txWorkIter wl it l with
    | (some e, wl, l) => (e, wl, l)
    | (none, wl, l) => txWorkLoop its wl l

/-- `out_ack` (tx.c:770–793): write what is left in the buffer, ring the firmware and
wake queues. -/
def txWorkOutAck (wl : Wl1271) (env : TxWorkEnv) (l : TxLocals) : TxRet × Wl1271 :=
  if 0 < l.bufOffset then
    let (len, wl) := wlcoreHwPrePktSend wl l.bufOffset l.lastLen
    if !env.busOk then (.busError, wl)
    else
      let wl := wlcoreWriteAggrBuf wl len
      if wl.quirks.endOfTransaction && !env.hostWrOk then (.busError, wl)
      else (.ok, wl1271HandleTxLowWatermark wl)
  else if l.sentPackets then
    if wl.quirks.endOfTransaction && !env.hostWrOk then (.busError, wl)
    else (.ok, wl1271HandleTxLowWatermark wl)
  else (.ok, wl)

/-- `wlcore_tx_work_locked` (tx.c:683). -/
def wlcoreTxWorkLocked (wl : Wl1271) (env : TxWorkEnv) : TxRet × Wl1271 :=
  if wl.state ≠ .on then (.ok, wl)
  else
    match txWorkLoop env.iters wl {} with
    | (.running, wl, _) => (.running, wl)
    | (.out, wl, _) => (.busError, wl)
    | (.outAck, wl, l) => txWorkOutAck wl env l

/-- `wl1271_tx_work` (tx.c:796). A failing `wl1271_ps_elp_wakeup` has queued a recovery
itself. -/
def wl1271TxWork (wl : Wl1271) (elpOk : Bool) (env : TxWorkEnv) : Wl1271 :=
  if !elpOk then wl12xxQueueRecoveryWork wl
  else
    match wlcoreTxWorkLocked wl env with
    | (.busError, wl) => wl12xxQueueRecoveryWork wl
    | (_, wl) => wl

/-- The workqueue takes the queued `tx_work` item and runs it. -/
def runTxWork (wl : Wl1271) (elpOk : Bool) (env : TxWorkEnv) : Wl1271 :=
  if wl.txWorkQueued then wl1271TxWork { wl with txWorkQueued := false } elpOk env else wl

/-- `wl1271_tx_dummy_packet` (main.c:1267). -/
def wl1271TxDummyPacket (wl : Wl1271) (env : TxWorkEnv) : TxRet × Wl1271 :=
  if wl.dummyPacketPending then (.ok, wl)
  else if !wl.fwTxBusy then wlcoreTxWorkLocked (wl.pendDummy wl.dummyPacket) env
  else (.ok, wl.pendDummy wl.dummyPacket)

/-! ## `wl1271_tx_flush` -/

/-- `wl->tx_frames_cnt == 0 && wl1271_tx_total_queue_count(wl) == 0`. -/
def txIdle (wl : Wl1271) : Bool :=
  decide (wl.txFramesCnt = 0) && decide (wl1271TxTotalQueueCount wl = 0)

/-- `wl1271_tx_reset_link_queues` for all links. -/
def resetAllLinkQueues (wl : Wl1271) : Wl1271 := allHlids.foldl wl1271TxResetLinkQueues wl

/-- The first locked section of `wl1271_tx_flush` (tx.c:1098–1104). -/
def txFlushBegin (wl : Wl1271) : Wl1271 :=
  if txIdle wl then wl else wlcoreStopQueues wl .flush

/-- The unlocked part of the loop (tx.c:1113–1115). -/
def txFlushPoll (wl : Wl1271) (elpOk : Bool) (env : TxWorkEnv) : Wl1271 :=
  if wl1271TxTotalQueueCount wl ≠ 0 then wl1271TxWork wl elpOk env else wl

/-- The end of `wl1271_tx_flush` (tx.c:1126–1136): after a timeout every link is emptied
by force. -/
def txFlushEnd (wl : Wl1271) (timedOut : Bool) : Wl1271 :=
  wlcoreWakeQueues (if timedOut then resetAllLinkQueues wl else wl) .flush

end TiWlan.Driver
