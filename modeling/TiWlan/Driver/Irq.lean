import TiWlan.Driver.Links

/-!
# The threaded interrupt handler

Models of `wlcore_irq_locked` and `wlcore_irq` (`wlcore/main.c`, lines 505–666) with
the Tx side of `wl1271_event_handle` (`wlcore/event.c`, lines 291–330). Reception is
represented by its result; of the events only the request for the dummy packet
touches the modelled state.
-/

namespace TiWlan.Driver

open Function (update)

/-- One mailbox of `wl1271_event_handle`. -/
structure EventEnv where
  /-- reading the mailbox succeeds -/
  readOk : Bool := true
  /-- `DUMMY_PACKET_EVENT_ID` is set -/
  dummy : Bool := false
  tx : TxWorkEnv := { iters := [] }
  /-- `ack_event` succeeds -/
  ackOk : Bool := true

/-- The bits of `fw_status_1->intr` that the handler tests; `others` are bits that only
keep the loop running. -/
structure IntrBits where
  watchdog : Bool := false
  swWatchdog : Bool := false
  data : Bool := false
  eventA : Bool := false
  eventB : Bool := false
  others : Bool := false
  deriving DecidableEq

/-- `intr & WLCORE_ALL_INTR_MASK` is zero. -/
def IntrBits.isZero (i : IntrBits) : Bool :=
  !i.watchdog && !i.swWatchdog && !i.data && !i.eventA && !i.eventB && !i.others

/-- What the environment does in one iteration of the interrupt loop. -/
structure IrqIter where
  /-- frames that `op_tx` receives before the stages of the iteration -/
  arrivals : ℕ → List Skb := fun _ => []
  /-- the status block, or a bus error -/
  status : Option FwStatus
  intr : IntrBits
  /-- `fw_release_idx` and `released_tx_desc` of wl18xx -/
  fwReleaseIdx : ℕ := 0
  released : ℕ → ℕ := fun _ => 0
  rxOk : Bool := true
  tx : TxWorkEnv := { iters := [] }
  /-- `fw_status_1->tx_results_counter` of wl12xx -/
  txResultsCounter : ℕ := 0
  /-- the results block of wl12xx, or a bus error -/
  results : Option (ℕ × (ℕ → TxResult)) := none
  /-- the length of `deferred_rx_queue` -/
  deferredRx : ℕ := 0
  mboxA : EventEnv := {}
  mboxB : EventEnv := {}

/-- The result of a stage of the handler: go on, an error, or still inside the transmit
loop. -/
inductive IrqRet
  | ok | error | running
  deriving DecidableEq, Repr

/-- `ret = f(wl); if (ret < 0) goto out;` followed by the next stage. -/
def andThen (r : IrqRet × Wl1271) (f : Wl1271 → IrqRet × Wl1271) : IrqRet × Wl1271 :=
  match r with
  | (.ok, wl) => f wl
  | (ret, wl) => (ret, wl)

/-- A transmit loop inside the handler. -/
def TxRet.toIrqRet : TxRet → IrqRet
  | .ok => .ok
  | .busError => .error
  | .running => .running

/-- A bus access that succeeds or ends the handler. -/
def busAccess (ok : Bool) (wl : Wl1271) : IrqRet × Wl1271 := (if ok then .ok else .error, wl)

/-- The dummy packet request in `wl1271_event_process` (event.c:231). -/
def eventDummy (env : EventEnv) (wl : Wl1271) : IrqRet × Wl1271 :=
  if env.dummy then
    ((wl1271TxDummyPacket wl env.tx).1.toIrqRet, (wl1271TxDummyPacket wl env.tx).2)
  else (.ok, wl)

/-- `wl1271_event_handle` (event.c:304). -/
def wl1271EventHandle (env : EventEnv) (wl : Wl1271) : IrqRet × Wl1271 :=
  andThen (busAccess env.readOk wl) fun wl =>
    andThen (eventDummy env wl) (busAccess env.ackOk)

/-- Frames that arrive before stage `k`. -/
def IrqIter.arrive (it : IrqIter) (k : ℕ) (wl : Wl1271) : Wl1271 :=
  (it.arrivals k).foldl wl1271OpTx wl

/-- `wlcore_hw_tx_immediate_compl`, which only wl18xx implements. -/
def wlcoreHwTxImmediateCompl (it : IrqIter) (wl : Wl1271) : Wl1271 :=
  if wl.chip = .wl18xx then wl18xxTxImmediateComplete wl it.fwReleaseIdx it.released else wl

/-- `wlcore_hw_tx_delayed_compl`: `wl12xx_tx_delayed_compl` (wl12xx/main.c:1335). -/
def wlcoreHwTxDelayedCompl (it : IrqIter) (wl : Wl1271) : IrqRet × Wl1271 :=
  if wl.chip = .wl18xx then (.ok, wl)
  else if it.txResultsCounter = wl.txResultsCount % 256 then (.ok, wl)
  else
    match it.results with
    | none => (.error, wl)
    | some (fwCounter, queue) => (.ok, wlcoreTxComplete wl fwCounter queue)

/-- Send frames if blocks were freed (main.c:573–589). -/
def irqTxWork (it : IrqIter) (wl : Wl1271) : IrqRet × Wl1271 :=
  if !wl.fwTxBusy ∧ 0 < wl1271TxTotalQueueCount wl then
    ((wlcoreTxWorkLocked wl it.tx).1.toIrqRet, (wlcoreTxWorkLocked wl it.tx).2)
  else (.ok, wl)

/-- Keep the deferred queues short: `WL1271_DEFERRED_QUEUE_LIMIT` (main.c:596–600). -/
def irqFlushDeferred (it : IrqIter) (wl : Wl1271) : IrqRet × Wl1271 :=
  (.ok, if 64 < wl.deferredTxQueue.length + it.deferredRx then wl1271FlushDeferredWork wl
    else wl)

/-- The `WL1271_ACX_INTR_DATA` branch (main.c:566–601). -/
def irqData (it : IrqIter) (wl : Wl1271) : IrqRet × Wl1271 :=
  if !it.intr.data then (.ok, wl)
  else
    andThen (busAccess it.rxOk wl) fun wl =>
      andThen (irqTxWork it (it.arrive 3 wl)) fun wl =>
        andThen (wlcoreHwTxDelayedCompl it (it.arrive 4 wl)) (irqFlushDeferred it)

/-- The branch for one mailbox (main.c:603–615). -/
def irqEvent (raised : Bool) (env : EventEnv) (wl : Wl1271) : IrqRet × Wl1271 :=
  if raised then wl1271EventHandle env wl else (.ok, wl)

/-- The branches for data and events (main.c:566–615). -/
def irqBody (it : IrqIter) (wl : Wl1271) : IrqRet × Wl1271 :=
  andThen (irqData it wl) fun wl =>
    andThen (irqEvent it.intr.eventA it.mboxA (it.arrive 5 wl)) fun wl =>
      irqEvent it.intr.eventB it.mboxB (it.arrive 6 wl)

/-- The beginning of an iteration (main.c:530–545): clear the flag, process the status block
and the immediate completions. -/
def irqStatus (it : IrqIter) (st : FwStatus) (wl : Wl1271) : Wl1271 :=
  let wl := it.arrive 0 { wl with irqRunning := false }
  let wl := it.arrive 1 (wlcoreFwStatus wl st)
  it.arrive 2 (wlcoreHwTxImmediateCompl it wl)

/-- One iteration of the loop; the second component tells whether the loop is done. -/
def irqIter (it : IrqIter) (wl : Wl1271) : IrqRet × Bool × Wl1271 :=
  match it.status with
  | none => (.error, true, { wl with irqRunning := false })
  | some st =>
    if it.intr.isZero then (.ok, true, irqStatus it st wl)
    else if it.intr.watchdog || it.intr.swWatchdog then
      (.error, true, { irqStatus it st wl with watchdogRecovery := true })
    else
      match irqBody it (irqStatus it st wl) with
      | (ret, wl) => (ret, decide (ret ≠ .ok), wl)

/-- The loop of `wlcore_irq_locked`; a run that has used up its list of iterations before
the loop ends is reported as `running`. -/
def irqLoop : ℕ → List IrqIter → Wl1271 → IrqRet × Wl1271
  | 0, _, wl => (.ok, wl)
  | _ + 1, [], wl => (.running, wl)
  | n + 1, it :: its, wl =>
    match irqIter it wl with
    | (ret, true, wl) => (ret, wl)
    | (_, false, wl) => irqLoop n its wl

/-- What the environment does during one run of the handler. -/
structure IrqEnv where
  elpOk : Bool := true
  iters : List IrqIter

/-- `wlcore_irq_locked` (main.c:505). -/
def wlcoreIrqLocked (wl : Wl1271) (env : IrqEnv) : IrqRet × Wl1271 :=
  if wl.state ≠ .on then (.ok, wl)
  else if !env.elpOk then (.error, wl12xxQueueRecoveryWork wl)
  else irqLoop (if wl.quirks.edgeIrq then 1 else 256) env.iters wl

/-- The end of `wlcore_irq` (main.c:650–660): clear `TX_PENDING` and queue `tx_work` if
frames are left and the firmware can take them. -/
def irqFinish (wl : Wl1271) : Wl1271 :=
  { wl with
    txPending := false
    txWorkQueued :=
      wl.txWorkQueued || (!wl.fwTxBusy && decide (0 < wl1271TxTotalQueueCount wl)) }

/-- `wlcore_irq` (main.c:634); the flag tells whether it returned. -/
def wlcoreIrq (wl : Wl1271) (env : IrqEnv) : Bool × Wl1271 :=
  match wlcoreIrqLocked { wl with txPending := true, txWorkQueued := false } env with
  | (.running, wl) => (false, wl)
  | (.error, wl) => (true, irqFinish (wl12xxQueueRecoveryWork wl))
  | (.ok, wl) => (true, irqFinish wl)

end TiWlan.Driver
