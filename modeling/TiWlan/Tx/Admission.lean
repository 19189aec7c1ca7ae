import TiWlan.Lib.Run
import TiWlan.Driver.Keys

/-!
# Admission by `op_tx` while a queue is stopped

`wl1271_op_tx` (`wlcore/main.c`, lines 1219–1236) drops a frame whose queue is stopped
"for any reason but watermark", since "watermark is a soft stop". The test it makes is
`stopped && !stopped_by(WATERMARK)`, so a queue that is stopped by the watermark *and*
for a hard reason (`FW_RESTART`, `FLUSH`, `SPARE_BLK`) still takes frames.

Main results:

* `opTx_admits_nothing_iff`: a call at a hard-stopped queue leaves the queues of that
  category alone, and frees the frame, exactly if the watermark does not stop the queue
  or the frame's link is refused;
* `hardStop_run_iff`: the same over all calls of a run;
* `hardStop_admits_with_watermark`: a run in which a flush is in progress and a frame is
  queued.
-/

namespace TiWlan.Tx

open TiWlan.Lib TiWlan.Driver
open Function (update update_self)

/-- The queue is stopped for a reason other than the watermark. -/
def HardStopped (wl : Wl1271) (q : Ac) : Prop :=
  wl.queueStopReasons q .fwRestart ∨ wl.queueStopReasons q .flush ∨
    wl.queueStopReasons q .spareBlk

/-- The frame has a valid link that belongs to its vif. -/
def LinkAdmits (wl : Wl1271) (skb : Skb) : Prop :=
  ∃ h, wl12xxTxGetHlid wl skb = some h ∧ linkAdmits wl skb h

theorem HardStopped.stopped {wl : Wl1271} {q : Ac} (h : HardStopped wl q) :
    wlcoreIsQueueStopped wl q = true := by
  unfold wlcoreIsQueueStopped TxStop.stopped
  rcases h with h | h | h <;> simp [h]

/-! ## One call -/

theorem opTxLink_eq_none {wl : Wl1271} {skb : Skb} :
    opTxLink wl skb = none ↔ ¬ LinkAdmits wl skb ∨ opTxQueueBlocked wl skb.ac := by
  simp only [opTxLink, LinkAdmits, Option.filter_eq_none_iff]
  cases hb : opTxQueueBlocked wl skb.ac <;> simp

theorem opTxEnqueue_txQueue (wl : Wl1271) (h : Hlid) (skb : Skb) :
    (opTxEnqueue wl h skb).txQueue h skb.ac = wl.txQueue h skb.ac ++ [skb] := by
  show update wl.txQueue h _ h skb.ac = _
  rw [update_self, update_self]

/-- No queue of the frame's category grows and the frame is given back. -/
def AdmitsNothing (wl : Wl1271) (skb : Skb) : Prop :=
  (∀ h, (wl1271OpTx wl skb).txQueue h skb.ac = wl.txQueue h skb.ac) ∧
    (wl1271OpTx wl skb).returned = wl.returned ++ [skb]

/-- At a hard-stopped queue a call admits nothing exactly if the watermark does not stop
the queue as well, or the link refuses the frame. -/
theorem opTx_admits_nothing_iff {wl : Wl1271} {skb : Skb} (h : HardStopped wl skb.ac) :
    AdmitsNothing wl skb ↔
      wl.queueStopReasons skb.ac .watermark = false ∨ ¬ LinkAdmits wl skb := by
  have hnone : opTxLink wl skb = none ↔
      wl.queueStopReasons skb.ac .watermark = false ∨ ¬ LinkAdmits wl skb := by
    rw [opTxLink_eq_none, or_comm]
    simp [opTxQueueBlocked, h.stopped, wlcoreIsQueueStoppedByReason]
  rw [← hnone]
  unfold AdmitsNothing wl1271OpTx
  cases opTxLink wl skb with
  | none => exact iff_of_true ⟨fun _ => rfl, rfl⟩ rfl
  | some h' =>
    -- an accepted frame makes its queue longer
    refine iff_of_false ?_ (by simp)
    rintro ⟨hqueue, -⟩
    have hgrow := hqueue h'
    rw [opTxEnqueue_txQueue] at hgrow
    exact absurd (congrArg List.length hgrow) (by simp [Wl1271.accept])

/-! ## Runs -/

/-- A transmit loop during which no frame arrives: every call of `op_tx` is an operation
of its own here. -/
def quietTx (env : TxWorkEnv) : TxWorkEnv :=
  { env with iters := env.iters.map fun it => { it with arrivals := [] } }

/-- The removal of an interface during which no frame arrives. -/
def quietRemove (env : RemoveEnv) : RemoveEnv :=
  { env with stopDev := { env.stopDev with tx := quietTx env.stopDev.tx } }

/-- The operations that stop and wake queues. -/
inductive StopOp
  | opTx (skb : Skb)
  | stopQueue (q : Ac) (r : QueueStopReason)
  | wakeQueue (q : Ac) (r : QueueStopReason)
  | stopQueues (r : QueueStopReason)
  | wakeQueues (r : QueueStopReason)
  | flushBegin
  | flushPoll (elpOk : Bool) (env : TxWorkEnv)
  | flushEnd (timedOut : Bool)
  | setKeyBegin (k : KeyConf)
  | setKeyEnd (cmd : SetKeyCmd) (v : VifId) (sta : Option KeySta) (k : KeyConf) (elpOk : Bool)
      (env : SetKeyEnv)
  | recoveryWork (env : VifId → RemoveEnv)

/-- One operation. -/
def stopStep (wl : Wl1271) : StopOp → Wl1271
  | .opTx skb => wl1271OpTx wl skb
  | .stopQueue q r => wlcoreStopQueue wl q r
  | .wakeQueue q r => wlcoreWakeQueue wl q r
  | .stopQueues r => wlcoreStopQueues wl r
  | .wakeQueues r => wlcoreWakeQueues wl r
  | .flushBegin => txFlushBegin wl
  | .flushPoll elpOk env => txFlushPoll wl elpOk (quietTx env)
  | .flushEnd timedOut => txFlushEnd wl timedOut
  | .setKeyBegin k => opSetKeyBegin wl k
  | .setKeyEnd cmd v sta k elpOk env => opSetKeyEnd wl cmd v sta k elpOk env
  | .recoveryWork env => wl1271RecoveryWork wl fun v => quietRemove (env v)

/-- Every call of `op_tx` at a hard-stopped queue admits nothing. -/
def StopOp.HardStopHolds (wl : Wl1271) (op : StopOp) : Prop :=
  ∀ skb, op = .opTx skb → HardStopped wl skb.ac → AdmitsNothing wl skb

/-- No frame is offered to a hard-stopped queue on a valid link while the watermark stops
that queue too. -/
def StopOp.NoWatermark (wl : Wl1271) (op : StopOp) : Prop :=
  ∀ skb, op = .opTx skb → HardStopped wl skb.ac →
    wl.queueStopReasons skb.ac .watermark = false ∨ ¬ LinkAdmits wl skb

/-- In every run, hard-stopped queues admit nothing exactly if no frame is offered to one
that the watermark stops too. -/
theorem hardStop_run_iff (wl : Wl1271) (ops : List StopOp) :
    Along stopStep StopOp.HardStopHolds wl ops ↔ Along stopStep StopOp.NoWatermark wl ops := by
  have hcall (wl : Wl1271) (op : StopOp) (_ : True) :
      StopOp.HardStopHolds wl op ↔ StopOp.NoWatermark wl op := by
    constructor
    · intro h skb hop hhard
      exact (opTx_admits_nothing_iff hhard).mp (h skb hop hhard)
    · intro h skb hop hhard
      exact (opTx_admits_nothing_iff hhard).mpr (h skb hop hhard)
  exact Along.congr_of_inv (fun _ _ _ _ => trivial) hcall trivial

/-- A driver with one associated station vif on link 1. -/
def staDriver : Wl1271 :=
  { (wlcoreProbe (chipConf .wl128x)).setVif 0 fun w =>
      { w with
        initialized := true, bssType := .staBss, staHlid := some 1
        linksMap := fun h => decide (h = 1) } with
    wlvifList := [0]
    linksMap := fun h => decide (h = 0 ∨ h = 1)
    state := .on }

/-- The same with a second associated station vif on link 2. -/
def twoStaDriver : Wl1271 :=
  { staDriver.setVif 1 fun w =>
      { w with
        initialized := true, bssType := .staBss, staHlid := some 2
        linksMap := fun h => decide (h = 2) } with
    wlvifList := [0, 1]
    linksMap := fun h => decide (h = 0 ∨ h = 1 ∨ h = 2) }

/-- A best-effort frame of the first vif. -/
def staFrame (n : ℕ) : Skb := { id := n, data := [], queueMapping := 2, vif := some 0 }

/-- The watermark stops the queue, then a flush (with a frame in flight) stops all queues:
the frame offered next is queued all the same. -/
theorem hardStop_admits_with_watermark :
    let wl := run stopStep staDriver
      [.opTx (staFrame 1), .stopQueue 0 .watermark, .flushBegin]
    HardStopped wl 0 ∧ wl.txQueue 1 0 = [staFrame 1] ∧
      (wl1271OpTx wl (staFrame 2)).txQueue 1 0 = [staFrame 1, staFrame 2] ∧
      (wl1271OpTx wl (staFrame 2)).returned = [] := by
  refine ⟨Or.inr (Or.inl ?_), ?_, ?_, ?_⟩ <;> rfl

end TiWlan.Tx
