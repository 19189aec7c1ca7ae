import TiWlan.Lib.Run
import TiWlan.Tx.Conservation
import TiWlan.Tx.Flow

/-!
# Queued frames keep moving

A queued frame is sent by `tx_work` or by the interrupt thread. `wl1271_op_tx` queues
`tx_work` unless the firmware is busy or the interrupt thread is about to do it
(`wlcore/main.c`, lines 1250–1260), and `wlcore_irq` queues it at its end if frames are left
(lines 650–660). `wl1271_op_resume` (lines 1779–1839) runs `wlcore_irq_locked` without that
end.

`NoStall` says that a driver at rest that is on and has frames queued has `tx_work` queued, or
waits for a firmware that is busy for a reason.

Main results:

* `flowStep_resting`: the invariant `Resting` of the driver between two operations;
* `noStall_run`: no state of a run is stalled if every `op_resume` that runs the postponed
  interrupt work finds `tx_work` queued, or the firmware not busy and no request for the dummy
  packet;
* `noStall_fails_after_resume`: otherwise a stalled state can be reached.
-/

namespace TiWlan.Tx

open TiWlan.Lib TiWlan.Driver
open Function (update)

variable {skb : Skb} {env : TxWorkEnv} {wl : Wl1271}

/-- If the device is on and frames are queued, then `tx_work` is queued, or the firmware is busy
with all descriptors in use or blocks allocated. -/
def NoStall (wl : Wl1271) : Prop :=
  wl.state = .on → 0 < wl1271TxTotalQueueCount wl →
    wl.txWorkQueued = true ∨
      wl.fwTxBusy = true ∧ (wl.txFramesCnt = wl.numTxDesc ∨ 0 < wl.txAllocatedBlocks)

/-! ## The operations -/

/-- The entry points of the data path, each run to its end. -/
inductive FlowOp
  | opTx (skb : Skb)
  | txDummyPacket (env : TxWorkEnv)
  | txWork (elpOk : Bool) (env : TxWorkEnv)
  | irq (env : IrqEnv)
  | hardirq
  | suspendEnter (configure : CmdRet)
  | resume (env : ResumeEnv)
  | flushBegin
  | flushPoll (elpOk : Bool) (env : TxWorkEnv)
  | flushEnd (timedOut : Bool)
  | resetLinkQueues (h : Hlid)
  | psLinkStart (h : Hlid) (cleanQueues staFound : Bool)
  | psLinkEnd (h : Hlid)
  | queueRecovery

/-- `wl1271_tx_dummy_packet` in the interrupt thread, which queues a recovery after a bus
error. -/
def txDummyOrRecover (wl : Wl1271) (env : TxWorkEnv) : Wl1271 :=
  match wl1271TxDummyPacket wl env with
  | (.busError, wl) => wl12xxQueueRecoveryWork wl
  | (_, wl) => wl

/-- One operation. -/
def flowStep (wl : Wl1271) : FlowOp → Wl1271
  | .opTx skb => wl1271OpTx wl skb
  | .txDummyPacket env => txDummyOrRecover wl env
  | .txWork elpOk env => runTxWork wl elpOk env
  | .irq env => (wlcoreIrq wl env).2
  | .hardirq => (wl12xxHardirq wl).2
  | .suspendEnter configure => suspendEnter wl configure
  | .resume env => (wl1271OpResume wl env).2
  | .flushBegin => txFlushBegin wl
  | .flushPoll elpOk env => txFlushPoll wl elpOk env
  | .flushEnd timedOut => txFlushEnd wl timedOut
  | .resetLinkQueues h => wl1271TxResetLinkQueues wl h
  | .psLinkStart h cleanQueues staFound => wl12xxPsLinkStart wl h cleanQueues staFound
  | .psLinkEnd h => wl12xxPsLinkEnd wl h
  | .queueRecovery => wl12xxQueueRecoveryWork wl

/-- The frames, the firmware and the memory are as assumed, and the operation returns. -/
def FlowOp.Assumed (c : Conf) (T : ℕ) (vs : List VifId) (wl : Wl1271) : FlowOp → Prop
  | .opTx skb => (flowAssume c T vs True).frame skb
  | .txDummyPacket env => TxEnvOk c T vs env ∧ (wl1271TxDummyPacket wl env).1 ≠ .running
  | .txWork _ env =>
    TxEnvOk c T vs env ∧ (wlcoreTxWorkLocked { wl with txWorkQueued := false } env).1 ≠ .running
  | .flushPoll _ env => TxEnvOk c T vs env ∧ (wlcoreTxWorkLocked wl env).1 ≠ .running
  | .irq env =>
    IrqAssumed (flowAssume c T vs True) env { wl with txPending := true, txWorkQueued := false } ∧
      (wlcoreIrq wl env).1 = true
  | .resume env =>
    IrqAssumed (flowAssume c T vs True) env.irq (resumeWake wl) ∧ (wl1271OpResume wl env).1 = true
  | _ => True

/-- No mailbox that the handler reads asks for the dummy packet. -/
def NoDummyRequest (env : IrqEnv) : Prop :=
  ∀ it ∈ env.iters, it.mboxA.dummy = false ∧ it.mboxB.dummy = false

/-- An `op_resume` that runs the postponed interrupt work finds `tx_work` queued, or it finds the
firmware not busy and is not asked for the dummy packet. -/
def FlowOp.ResumeSafe (wl : Wl1271) : FlowOp → Prop
  | .resume env =>
    wl.pendingWork = true → wl.recoveryInProgress = false →
      wl.txWorkQueued = true ∨ wl.fwTxBusy = false ∧ NoDummyRequest env.irq
  | _ => True

/-! ## The driver at rest -/

/-- The driver between two operations. -/
structure Resting (c : Conf) (T : ℕ) (vs : List VifId) (wl : Wl1271) : Prop where
  flow : FlowInv c T vs (none, wl)
  notPending : wl.txPending = false
  moving : wl.txWorkQueued = true ∨ Settled wl

section
variable {c : Conf} {T : ℕ} {vs : List VifId} {wl wl' : Wl1271}

theorem Resting.noStall (h : Resting c T vs wl) : NoStall wl := by
  intro hon hqueued
  rcases h.moving with hwork | hoff | hzero | hbusy
  · exact Or.inl hwork
  · exact absurd hon hoff
  · omega
  · have hnum : wl.numTxDesc = c.numTxDesc := congrArg Conf.numTxDesc h.flow.ledger.conf
    refine Or.inr ⟨hbusy, ?_⟩
    rw [hnum]
    exact (h.flow.busy hbusy).resolve_left (not_not.mpr hon)

/-- Steps of the data path that do not disturb a settled driver. -/
theorem Resting.of_reach (hT : T < 2 ^ 31) (h : Resting c T vs wl)
    (hr : Reach (flowAssume c T vs True) (none, wl) (none, wl'))
    (hs : Settled wl → wl'.txWorkQueued = true ∨ Settled wl') : Resting c T vs wl' := by
  refine ⟨flow_reach hT hr h.flow, hr.workKeep.txPending.trans h.notPending, ?_⟩
  rcases h.moving with hwork | hsettled
  · exact Or.inl (hr.workKeep.txWorkQueued hwork)
  · exact hs hsettled

/-- The invariant of the data path only reads some parts of the state. -/
theorem FlowInv.congr {hand : Option Skb} (h : FlowInv c T vs (hand, wl))
    (hc : wl'.toConf = wl.toConf) (ht : wl'.toTxQueues = wl.toTxQueues)
    (ha : wl'.toTxAccounting = wl.toTxAccounting) (hv : wl'.toVifLinks = wl.toVifLinks)
    (hst : wl.state ≠ .on → wl'.state ≠ .on) : FlowInv c T vs (hand, wl') := by
  obtain ⟨⟨hconf, hslots, hcounts, hcons⟩, ⟨hqueue, hhand, hdummy⟩, hlist, hserved, hacct, hbusy⟩ := h
  dsimp only at hconf hslots hcounts hcons hqueue hdummy hlist hserved hacct hbusy
  refine ⟨⟨hc.trans hconf, ht ▸ hslots, ht ▸ hcounts, ht ▸ hcons⟩, ⟨?_, hhand, ?_⟩, ?_, ?_,
    ha ▸ hacct, ?_⟩
  · show ∀ h q, ∀ skb ∈ wl'.toTxQueues.txQueue h q, Sendable c T skb
    rw [ht]
    exact hqueue
  · show Sendable c T wl'.toConf.dummyPacket
    rw [hc]
    exact hdummy
  · show wl'.toVifLinks.wlvifList = vs
    rw [hv]
    exact hlist
  · intro h q hne
    show h = systemHlid ∨ ∃ v ∈ wl'.toVifLinks.wlvifList, (wl'.toVifLinks.vifs v).linksMap h = true
    rw [hv]
    refine hserved h q ?_
    change wl'.toTxQueues.txQueue h q ≠ [] at hne
    rwa [ht] at hne
  · intro hflag
    change wl'.toTxAccounting.fwTxBusy = true at hflag
    show wl'.state ≠ .on ∨ wl'.toTxQueues.txFramesCnt = c.numTxDesc ∨
      0 < wl'.toTxAccounting.txAllocatedBlocks
    rw [ha] at hflag ⊢
    rw [ht]
    exact (hbusy hflag).imp_left hst

/-- Steps that only touch the power state. -/
theorem Resting.congr (h : Resting c T vs wl) (hc : wl'.toConf = wl.toConf)
    (ht : wl'.toTxQueues = wl.toTxQueues) (ha : wl'.toTxAccounting = wl.toTxAccounting)
    (hv : wl'.toVifLinks = wl.toVifLinks) (hp : wl'.txPending = wl.txPending)
    (hq : wl'.txWorkQueued = wl.txWorkQueued) (hst : wl.state ≠ .on → wl'.state ≠ .on) :
    Resting c T vs wl' := by
  refine ⟨h.flow.congr hc ht ha hv hst, hp.trans h.notPending, ?_⟩
  rw [hq]
  refine h.moving.imp_right ?_
  rintro (hoff | hrest)
  · exact Or.inl (hst hoff)
  · refine Or.inr ?_
    unfold wl1271TxTotalQueueCount at hrest ⊢
    rw [ht, ha]
    exact hrest

/-! ## The operations one by one -/

theorem opTx_resting (hT : T < 2 ^ 31) (h : Resting c T vs wl)
    (hs : (flowAssume c T vs True).frame skb) : Resting c T vs (wl1271OpTx wl skb) := by
  refine h.of_reach hT (.single (.opTx hs)) ?_
  intro hsettled
  unfold wl1271OpTx
  split
  · exact Or.inr hsettled
  · -- the frame is queued: the firmware is busy or `tx_work` is queued
    show (wl.txWorkQueued || (!wl.fwTxBusy && !wl.txPending)) = true ∨ _
    rw [h.notPending]
    cases hbusy : wl.fwTxBusy with
    | false => simp
    | true => exact Or.inr (Or.inr (Or.inr hbusy))

/-- A transmit loop that returned, or ended in a recovery, leaves the driver settled. -/
theorem wl1271TxWork_settled (hT : T < 2 ^ 31) (henv : TxEnvOk c T vs env)
    (h : FlowInv c T vs (none, wl)) (hret : (wlcoreTxWorkLocked wl env).1 ≠ .running)
    (elpOk : Bool) :
    Settled (wl1271TxWork wl elpOk env) := by
  have hsettled := wlcoreTxWorkLocked_settled hT henv h
  unfold wl1271TxWork
  split
  · exact Or.inl wl.toPower.queueRecoveryWork_not_on
  · split <;> rename_i heq
    · exact Or.inl (Power.queueRecoveryWork_not_on _)
    · rename_i r wl₁ hbus
      rw [heq] at hsettled hret
      refine hsettled ?_
      cases r with
      | ok => rfl
      | busError => exact (hbus rfl).elim
      | running => exact absurd rfl hret

theorem runTxWork_resting (hT : T < 2 ^ 31) (h : Resting c T vs wl) (henv : TxEnvOk c T vs env)
    (hret : (wlcoreTxWorkLocked { wl with txWorkQueued := false } env).1 ≠ .running)
    (elpOk : Bool) :
    Resting c T vs (runTxWork wl elpOk env) := by
  unfold runTxWork
  split
  · have hflow : FlowInv c T vs (none, { wl with txWorkQueued := false }) :=
      h.flow.congr rfl rfl rfl rfl id
    have hr : Reach (flowAssume c T vs True) (none, { wl with txWorkQueued := false }) (none, _) :=
      wl1271TxWork_reach henv.offers _ elpOk
    exact ⟨flow_reach hT hr hflow, hr.workKeep.txPending.trans h.notPending,
      Or.inr (wl1271TxWork_settled hT henv hflow hret elpOk)⟩
  · exact h

theorem txFlushPoll_resting (hT : T < 2 ^ 31) (h : Resting c T vs wl) (henv : TxEnvOk c T vs env)
    (hret : (wlcoreTxWorkLocked wl env).1 ≠ .running) (elpOk : Bool) :
    Resting c T vs (txFlushPoll wl elpOk env) := by
  have hr : Reach (flowAssume c T vs True) (none, wl) (none, txFlushPoll wl elpOk env) :=
    txFlushPoll_reach henv.offers wl elpOk
  refine h.of_reach hT hr ?_
  intro hsettled
  unfold txFlushPoll
  split
  · exact Or.inr (wl1271TxWork_settled hT henv h.flow hret elpOk)
  · exact Or.inr hsettled

theorem txDummyOrRecover_resting (hT : T < 2 ^ 31) (h : Resting c T vs wl)
    (henv : TxEnvOk c T vs env) (hret : (wl1271TxDummyPacket wl env).1 ≠ .running) :
    Resting c T vs (txDummyOrRecover wl env) := by
  have hr : Reach (flowAssume c T vs True) (none, wl) (none, (wl1271TxDummyPacket wl env).2) :=
    wl1271TxDummyPacket_reach henv.offers trivial wl
  have hdone (hok : (wl1271TxDummyPacket wl env).1 = .ok) (hsettled : Settled wl) :
      Settled (wl1271TxDummyPacket wl env).2 := by
    unfold wl1271TxDummyPacket at hok ⊢
    split_ifs at hok ⊢ with hp hbusy
    · exact hsettled
    · have hpend := flow_reach (D := True) hT (.single (.pend (by simpa using hp) trivial)) h.flow
      exact wlcoreTxWorkLocked_settled hT henv hpend hok
    · refine Or.inr (Or.inr ?_)
      show wl.fwTxBusy = true
      simpa using hbusy
  unfold txDummyOrRecover
  split <;> rename_i heq
  · rename_i wl₁
    rw [heq] at hr
    refine h.of_reach hT (hr.trans (.queueRecovery wl₁)) ?_
    exact fun _ => Or.inr (Or.inl wl₁.toPower.queueRecoveryWork_not_on)
  · rename_i r wl₁ hbus
    rw [heq] at hr hret hdone
    refine h.of_reach hT hr (fun hsettled => Or.inr (hdone ?_ hsettled))
    cases r with
    | ok => rfl
    | busError => exact (hbus rfl).elim
    | running => exact absurd rfl hret

/-- The end of the interrupt thread queues `tx_work` for what is left. -/
theorem irqFinish_resting (h : FlowInv c T vs (none, wl)) : Resting c T vs (irqFinish wl) := by
  refine ⟨h.congr rfl rfl rfl rfl id, rfl, ?_⟩
  have hcounts := h.ledger.counts
  have htotal : 0 ≤ wl1271TxTotalQueueCount wl := by
    have h0 := count_nonneg hcounts 0
    have h1 := count_nonneg hcounts 1
    have h2 := count_nonneg hcounts 2
    have h3 := count_nonneg hcounts 3
    unfold wl1271TxTotalQueueCount
    dsimp only at h0 h1 h2 h3
    omega
  cases hbusy : wl.fwTxBusy with
  | true => exact Or.inr (Or.inr (Or.inr hbusy))
  | false =>
    by_cases hzero : wl1271TxTotalQueueCount wl = 0
    · exact Or.inr (Or.inr (Or.inl hzero))
    · refine Or.inl ?_
      have hpos : 0 < wl1271TxTotalQueueCount wl := by omega
      show (wl.txWorkQueued || (!wl.fwTxBusy && decide (0 < wl1271TxTotalQueueCount wl))) = true
      simp [hbusy, hpos]

theorem wlcoreIrq_resting (hT : T < 2 ^ 31) (h : Resting c T vs wl) {env : IrqEnv}
    (henv : IrqAssumed (flowAssume c T vs True) env
      { wl with txPending := true, txWorkQueued := false })
    (hret : (wlcoreIrq wl env).1 = true) : Resting c T vs (wlcoreIrq wl env).2 := by
  have hflow : FlowInv c T vs (none, { wl with txPending := true, txWorkQueued := false }) :=
    h.flow.congr rfl rfl rfl rfl id
  have hlocked := flow_reach hT (wlcoreIrqLocked_reach henv) hflow
  unfold wlcoreIrq at hret ⊢
  split at hret <;> rename_i heq <;> rw [heq] at hlocked
  · cases hret
  · exact irqFinish_resting (flow_reach (D := True) hT (.queueRecovery _) hlocked)
  · exact irqFinish_resting hlocked

/-- Emptying queues leaves a settled driver settled. -/
theorem settled_of_counts (h : FlowInv c T vs (none, wl)) (h' : FlowInv c T vs (none, wl'))
    (hstate : wl.state ≠ .on → wl'.state ≠ .on) (hbusy : wl'.fwTxBusy = wl.fwTxBusy)
    (hle : ∀ q, wl'.txQueueCount q ≤ wl.txQueueCount q) (hs : Settled wl) : Settled wl' := by
  rcases hs with hoff | hzero | hflag
  · exact Or.inl (hstate hoff)
  · refine Or.inr (Or.inl ?_)
    have hz (q : Ac) : wl'.txQueueCount q = 0 := by
      have hq := count_eq_zero_of_total h.ledger.counts hzero q
      have hn := count_nonneg h'.ledger.counts q
      have hl := hle q
      dsimp only at hq hn
      omega
    simp [wl1271TxTotalQueueCount, hz]
  · exact Or.inr (Or.inr (hbusy.trans hflag))

theorem drain_resting (hT : T < 2 ^ 31) (h : Resting c T vs wl) (l : Hlid) :
    Resting c T vs (drainLinkQueues wl l) := by
  have hr : Reach (flowAssume c T vs True) (none, wl) (none, drainLinkQueues wl l) := .single (.drain l)
  refine h.of_reach hT hr ?_
  intro hsettled
  refine Or.inr (settled_of_counts h.flow (flow_reach hT hr h.flow) id rfl ?_ hsettled)
  intro q
  show wl.txQueueCount q - (wl.txQueue l q).length ≤ wl.txQueueCount q
  omega

theorem resetAllLinkQueues_resting (hT : T < 2 ^ 31) (h : Resting c T vs wl) :
    Resting c T vs (resetAllLinkQueues wl) := by
  unfold resetAllLinkQueues
  induction allHlids generalizing wl with
  | nil => exact h
  | cons l ls ih => exact ih (drain_resting hT h l)

theorem txFlushEnd_resting (hT : T < 2 ^ 31) (h : Resting c T vs wl) (timedOut : Bool) :
    Resting c T vs (txFlushEnd wl timedOut) := by
  unfold txFlushEnd
  split
  · exact (resetAllLinkQueues_resting hT h).congr rfl rfl rfl rfl rfl rfl id
  · exact h.congr rfl rfl rfl rfl rfl rfl id

theorem wl12xxPsLinkStart_resting (hT : T < 2 ^ 31) (h : Resting c T vs wl) (l : Hlid)
    (clean found : Bool) : Resting c T vs (wl12xxPsLinkStart wl l clean found) := by
  have hr : Reach (flowAssume c T vs True) (none, wl) (none, wl12xxPsLinkStart wl l clean found) :=
    wl12xxPsLinkStart_reach wl l clean found
  have hflow := flow_reach hT hr h.flow
  refine h.of_reach hT hr fun hsettled => ?_
  unfold wl12xxPsLinkStart at hflow ⊢
  split_ifs at hflow ⊢
  · exact Or.inr hsettled
  · exact Or.inr hsettled
  · refine Or.inr (settled_of_counts h.flow hflow id rfl ?_ hsettled)
    intro q
    show wl.txQueueCount q - (wl.txQueue l q).length ≤ wl.txQueueCount q
    omega
  · exact Or.inr hsettled

theorem wl12xxPsLinkEnd_resting (hT : T < 2 ^ 31) (h : Resting c T vs wl) (l : Hlid) :
    Resting c T vs (wl12xxPsLinkEnd wl l) := by
  refine h.of_reach hT (wl12xxPsLinkEnd_reach wl l) fun hsettled => Or.inr ?_
  unfold wl12xxPsLinkEnd
  split <;> exact hsettled

theorem queueRecovery_resting (h : Resting c T vs wl) :
    Resting c T vs (wl12xxQueueRecoveryWork wl) :=
  h.congr rfl rfl rfl rfl rfl rfl fun _ => wl.toPower.queueRecoveryWork_not_on

theorem cmdEffect_resting (h : Resting c T vs wl) (r : CmdRet) :
    Resting c T vs (cmdEffect wl r) := by
  cases r with
  | failed e => exact queueRecovery_resting h
  | ok => exact h
  | noMem => exact h

theorem suspendEnter_resting (h : Resting c T vs wl) (configure : CmdRet) :
    Resting c T vs (suspendEnter wl configure) := by
  dsimp only [suspendEnter]
  split
  · have hwow : Resting c T vs { wl with wowEnabled := true } :=
      h.congr rfl rfl rfl rfl rfl rfl id
    exact cmdEffect_resting hwow configure
  · exact h.congr rfl rfl rfl rfl rfl rfl id

theorem wl12xxHardirq_resting (h : Resting c T vs wl) : Resting c T vs (wl12xxHardirq wl).2 := by
  unfold wl12xxHardirq
  split_ifs
  · exact h
  · exact h.congr rfl rfl rfl rfl rfl rfl id
  · exact h.congr rfl rfl rfl rfl rfl rfl id

/-- The driver has nothing to send and the firmware is not busy, or `tx_work` is queued. Frames that
arrive then queue `tx_work` themselves. -/
def Unblocked (s : Option Skb × Wl1271) : Prop :=
  s.2.txWorkQueued = true ∨
    s.1 = none ∧ wl1271TxTotalQueueCount s.2 = 0 ∧ s.2.fwTxBusy = false

theorem unblocked_opTx (hpending : wl.txPending = false) (hzero : wl1271TxTotalQueueCount wl = 0)
    (hbusy : wl.fwTxBusy = false) : Unblocked (none, wl1271OpTx wl skb) := by
  unfold wl1271OpTx
  split
  · exact Or.inr ⟨rfl, hzero, hbusy⟩
  · refine Or.inl ?_
    show (wl.txWorkQueued || (!wl.fwTxBusy && !wl.txPending)) = true
    rw [hbusy, hpending]
    simp

theorem unblocked_free (hzero : wl1271TxTotalQueueCount wl = 0) (hbusy : wl.fwTxBusy = false)
    (i : TxId) : Unblocked (none, wl1271FreeTxId wl i) := by
  refine Or.inr ⟨rfl, ?_⟩
  unfold wl1271FreeTxId
  split
  · refine ⟨hzero, ?_⟩
    show (if wl.txFramesCnt = wl.numTxDesc then false else wl.fwTxBusy) = false
    rw [hbusy, ite_self]
  · exact ⟨hzero, hbusy⟩

/-- Without a request for the dummy packet, an unblocked driver stays so. -/
theorem unblocked_atom {s s' : Option Skb × Wl1271} (hatom : TxAtom (flowAssume c T vs False) s s')
    (h : FlowInv c T vs s) (hpending : s.2.txPending = false) (hu : Unblocked s) :
    Unblocked s' := by
  rcases hu with hwork | ⟨hhand, hzero, hbusy⟩
  · exact Or.inl (hatom.workKeep.txWorkQueued hwork)
  -- with nothing queued and nothing in hand, only a few steps are possible
  cases hatom with
  | opTx hp => exact unblocked_opTx hpending hzero hbusy
  | @take wl l q skb rest hq =>
    have hnil := queue_nil_of_total h.ledger.counts hzero l q
    dsimp only at hnil
    rw [hnil] at hq
    cases hq
  | @takeDummy wl hp =>
    have hlen := h.ledger.counts.count wl.dummyPacket.ac
    have hq0 := count_eq_zero_of_total h.ledger.counts hzero wl.dummyPacket.ac
    have hconf : wl.dummyPacket = c.dummyPacket := congrArg Conf.dummyPacket h.ledger.conf
    dsimp only at hlen hq0
    simp only [pendingDummy, hp, hconf, and_self, if_true] at hlen hq0
    omega
  | pend hp hd => exact hd.elim
  | @drain hand wl l =>
    refine Or.inr ⟨hhand, ?_, hbusy⟩
    have hlen (q : Ac) : (wl.txQueue l q).length = 0 :=
      List.length_eq_zero_iff.mpr (queue_nil_of_total h.ledger.counts hzero l q)
    have hsame : wl1271TxTotalQueueCount (drainLinkQueues wl l) = wl1271TxTotalQueueCount wl := by
      show (wl.txQueueCount 0 - (wl.txQueue l 0).length) + (wl.txQueueCount 1 -
        (wl.txQueue l 1).length) + (wl.txQueueCount 2 - (wl.txQueue l 2).length) +
        (wl.txQueueCount 3 - (wl.txQueue l 3).length) = _
      simp [hlen, wl1271TxTotalQueueCount]
    exact hsame.trans hzero
  | @complete wl slot skb hs hd =>
    have hzero' : wl1271TxTotalQueueCount { wl with
        deferredTxQueue := wl.deferredTxQueue ++ [skb], netstackWorkQueued := true } = 0 := hzero
    exact unblocked_free hzero' hbusy slot
  | completeDummy hs hd => exact unblocked_free hzero hbusy _
  | flushDeferred => exact Or.inr ⟨rfl, hzero, hbusy⟩
  | @status wl st hst =>
    refine Or.inr ⟨rfl, hzero, ?_⟩
    show (if wl.txBlocksAvailable < (fwStatusAccounting wl st).txBlocksAvailable then false
      else wl.fwTxBusy) = false
    rw [show wl.fwTxBusy = false from hbusy, ite_self]
  | @other hand wl wl' hk ht ha hw =>
    obtain ⟨_, _, hacct⟩ := ha
    refine Or.inr ⟨hhand, ?_, ?_⟩
    · unfold wl1271TxTotalQueueCount at hzero ⊢
      rw [ht]
      exact hzero
    · show wl'.toTxAccounting.fwTxBusy = false
      rw [hacct]
      exact hbusy
  | _ => cases hhand

theorem unblocked_reach (hT : T < 2 ^ 31) {s s' : Option Skb × Wl1271}
    (hr : Reach (flowAssume c T vs False) s s') (h : FlowInv c T vs s)
    (hpending : s.2.txPending = false) (hu : Unblocked s) : Unblocked s' := by
  have hall : FlowInv c T vs s' ∧ s'.2.txPending = false ∧ Unblocked s' := by
    refine hr.invariant (I := fun t => FlowInv c T vs t ∧ t.2.txPending = false ∧ Unblocked t) ?_
      ⟨h, hpending, hu⟩
    rintro t t' hatom ⟨hflow, hp, hub⟩
    exact ⟨flow_atom hT hatom hflow, hatom.workKeep.txPending.trans hp,
      unblocked_atom hatom hflow hp hub⟩
  exact hall.2.2

/-- A handler that is not asked for the dummy packet. -/
theorem irqAssumed_noDummy {env : IrqEnv} (h : IrqAssumed (flowAssume c T vs True) env wl)
    (hno : NoDummyRequest env) : IrqAssumed (flowAssume c T vs False) env wl where
  offers it hit :=
    have ho := h.offers it hit
    ⟨ho.arrivals, ho.tx, ⟨ho.mboxA.tx, by simp [(hno it hit).1]⟩,
      ⟨ho.mboxB.tx, by simp [(hno it hit).2]⟩⟩
  reads := .mono (P := flowAssume c T vs True) (Q := flowAssume c T vs False)
    (fun _ _ hst => hst) h.reads

/-- The postponed interrupt work does not queue `tx_work` for frames that it leaves behind, so
either it is queued already or no such frame may be left. -/
theorem resumeIrqWork_resting (hT : T < 2 ^ 31) (h : Resting c T vs wl) {env : IrqEnv}
    (henv : IrqAssumed (flowAssume c T vs True) env wl)
    (hsafe : wl.recoveryInProgress = false →
      wl.txWorkQueued = true ∨ wl.fwTxBusy = false ∧ NoDummyRequest env)
    (hret : (resumeIrqWork wl env).1 = true) : Resting c T vs (resumeIrqWork wl env).2 := by
  unfold resumeIrqWork at hret ⊢
  split_ifs at hret ⊢ with hrec
  · exact h.congr rfl rfl rfl rfl rfl rfl id
  · have hr := wlcoreIrqLocked_reach henv
    have hlocked : Resting c T vs (wlcoreIrqLocked wl env).2 := by
      refine h.of_reach hT hr fun hsettled => ?_
      rcases hsafe (by simpa using hrec) with hwork | ⟨hbusy, hno⟩
      · exact Or.inl (hr.workKeep.txWorkQueued hwork)
      · rcases hsettled with hoff | hzero | hflag
        · refine Or.inr (Or.inl ?_)
          rw [congrArg Power.state (hr.keep.power.eq_of_not_on hoff)]
          exact hoff
        · have hr' := wlcoreIrqLocked_reach (irqAssumed_noDummy henv hno)
          exact (unblocked_reach hT hr' h.flow h.notPending
            (Or.inr ⟨rfl, hzero, hbusy⟩)).imp_right fun hu => Or.inr (Or.inl hu.2.1)
        · rw [hbusy] at hflag
          cases hflag
    split at hret <;> rename_i heq <;> rw [heq] at hlocked
    · cases hret
    · exact (queueRecovery_resting hlocked).congr rfl rfl rfl rfl rfl rfl id
    · exact hlocked.congr rfl rfl rfl rfl rfl rfl id

theorem resumeFinish_resting (h : Resting c T vs wl) (pendingRecovery : Bool) (configure : CmdRet) :
    Resting c T vs (resumeFinish wl pendingRecovery configure) := by
  unfold resumeFinish
  split
  · exact h.congr rfl rfl rfl rfl rfl rfl id
  · exact (cmdEffect_resting h configure).congr rfl rfl rfl rfl rfl rfl id

theorem wl1271OpResume_resting (hT : T < 2 ^ 31) (h : Resting c T vs wl) {env : ResumeEnv}
    (henv : IrqAssumed (flowAssume c T vs True) env.irq (resumeWake wl))
    (hsafe : wl.pendingWork = true → wl.recoveryInProgress = false →
      wl.txWorkQueued = true ∨ wl.fwTxBusy = false ∧ NoDummyRequest env.irq)
    (hret : (wl1271OpResume wl env).1 = true) : Resting c T vs (wl1271OpResume wl env).2 := by
  have hwake : Resting c T vs (resumeWake wl) := h.congr rfl rfl rfl rfl rfl rfl id
  dsimp only [wl1271OpResume] at hret ⊢
  by_cases hp : wl.pendingWork = true
  · rw [if_pos hp] at hret ⊢
    cases hdone : (resumeIrqWork (resumeWake wl) env.irq).1 with
    | true =>
      rw [if_pos rfl]
      exact resumeFinish_resting (resumeIrqWork_resting hT hwake henv (hsafe hp) hdone) _ _
    | false => simp [hdone] at hret
  · rw [if_neg hp]
    exact resumeFinish_resting hwake _ _

/-- One operation keeps the driver at rest in order. -/
theorem flowStep_resting (hT : T < 2 ^ 31) (h : Resting c T vs wl) {op : FlowOp}
    (hop : op.Assumed c T vs wl) (hsafe : op.ResumeSafe wl) : Resting c T vs (flowStep wl op) := by
  cases op with
  | opTx skb => exact opTx_resting hT h hop
  | txDummyPacket env => exact txDummyOrRecover_resting hT h hop.1 hop.2
  | txWork elpOk env => exact runTxWork_resting hT h hop.1 hop.2 elpOk
  | irq env => exact wlcoreIrq_resting hT h hop.1 hop.2
  | hardirq => exact wl12xxHardirq_resting h
  | suspendEnter configure => exact suspendEnter_resting h configure
  | resume env => exact wl1271OpResume_resting hT h hop.1 hsafe hop.2
  | flushBegin =>
    show Resting c T vs (txFlushBegin wl)
    unfold txFlushBegin
    split
    · exact h
    · exact h.congr rfl rfl rfl rfl rfl rfl id
  | flushPoll elpOk env => exact txFlushPoll_resting hT h hop.1 hop.2 elpOk
  | flushEnd timedOut => exact txFlushEnd_resting hT h timedOut
  | resetLinkQueues l => exact drain_resting hT h l
  | psLinkStart l clean found => exact wl12xxPsLinkStart_resting hT h l clean found
  | psLinkEnd l => exact wl12xxPsLinkEnd_resting hT h l
  | queueRecovery => exact queueRecovery_resting h

/-! ## Runs -/

/-- The driver after a boot, with a firmware pool of `T` blocks and the vifs `vs`: no frame is
queued or in flight, and none was counted. -/
structure Booted (c : Conf) (T : ℕ) (vs : List VifId) (wl : Wl1271) : Prop where
  conf : wl.toConf = c
  queues : wl.toTxQueues = (wlcoreProbe c).toTxQueues
  list : wl.wlvifList = vs
  available : wl.txBlocksAvailable = T
  allocated : wl.txAllocatedBlocks = 0
  pkts : ∀ q, wl.txAllocatedPkts q = 0
  notBusy : wl.fwTxBusy = false
  notPending : wl.txPending = false

theorem Booted.resting (h : Booted c T vs wl) (hdummy : Sendable c T c.dummyPacket) :
    Resting c T vs wl := by
  have hempty (l : Hlid) (q : Ac) : wl.txQueue l q = [] := by rw [h.queues]; rfl
  refine ⟨⟨(probe_ledger c).congr h.conf h.queues, ⟨?_, ?_, ?_⟩, h.list, ?_, ⟨?_, ?_⟩, ?_⟩,
    h.notPending, Or.inr (Or.inr (Or.inl ?_))⟩
  · intro l q skb hskb
    rw [hempty] at hskb
    cases hskb
  · intro skb hskb
    cases hskb
  · show Sendable c T wl.toConf.dummyPacket
    rw [h.conf]
    exact hdummy
  · intro l q hne
    exact absurd (hempty l q) hne
  · show wl.txBlocksAvailable + wl.txAllocatedBlocks = T
    rw [h.available, h.allocated, add_zero]
  · simp [h.pkts]
  · intro hbusy
    rw [h.notBusy] at hbusy
    cases hbusy
  · unfold wl1271TxTotalQueueCount
    rw [h.queues]
    rfl

/-- In every run of a booted driver, under an honest firmware and with frames that fit into its
pool, no state is stalled if every `op_resume` is safe. -/
theorem noStall_run (c : Conf) (T : ℕ) (vs : List VifId) (wl : Wl1271) (ops : List FlowOp)
    (hT : T < 2 ^ 31) (hdummy : Sendable c T c.dummyPacket) (hboot : Booted c T vs wl)
    (hops : Along flowStep (fun wl op => op.Assumed c T vs wl ∧ op.ResumeSafe wl) wl ops) (n : ℕ) :
    NoStall (run flowStep wl (ops.take n)) := by
  have hstep (wl : Wl1271) (op : FlowOp) (h : Resting c T vs wl)
      (hop : op.Assumed c T vs wl ∧ op.ResumeSafe wl) : Resting c T vs (flowStep wl op) :=
    flowStep_resting hT h hop.1 hop.2
  exact (Along.induction hstep (hboot.resting hdummy) (hops.take n)).noStall

end

/-- A booted station driver whose firmware has nine Tx blocks. -/
def flowDriver : Wl1271 := { staDriver with txBlocksAvailable := 9, irqDepth := 0 }

theorem flowDriver_booted : Booted (chipConf .wl128x) 9 [0] flowDriver :=
  ⟨rfl, rfl, rfl, rfl, rfl, fun _ => rfl, rfl, rfl⟩

theorem dummyPacket_sendable :
    Sendable (chipConf .wl128x) 9 (chipConf .wl128x).dummyPacket :=
  ⟨by decide +kernel, fun hkey => absurd rfl hkey⟩

theorem staFrame_assumed {n : ℕ} (hn : n ≠ 0) (d : Prop) :
    (flowAssume (chipConf .wl128x) 9 [0] d).frame (staFrame n) := by
  refine ⟨hn, ⟨?_, fun hkey => absurd rfl hkey⟩, ?_⟩
  · show maxBlocks (chipConf .wl128x) (staFrame 0) ≤ 9
    decide +kernel
  · intro v hv
    cases hv
    simp

/-- The status block of that firmware after it has released `n` best-effort frames of three
blocks. -/
def releasedStatus (n : ℕ) : FwStatus :=
  { txReleasedPkts := fun q => if q = 0 then n else 0, txLnkFreePkts := fun _ => 0
    totalReleasedBlks := 3 * n, txTotal := 9
    linkPsBitmap := fun _ => false, staFound := fun _ => true }

/-- An iteration of the interrupt handler that only reads a status block. -/
def statusIter (n : ℕ) : IrqIter := { status := some (releasedStatus n), intr := {} }

theorem statusIter_offers (n : ℕ) :
    IrqOffers (flowAssume (chipConf .wl128x) 9 [0] True) (statusIter n) :=
  ⟨fun _ _ hs => (nomatch hs), fun _ hi => (nomatch hi),
    ⟨fun _ hi => (nomatch hi), fun hd => (nomatch hd)⟩,
    ⟨fun _ hi => (nomatch hi), fun hd => (nomatch hd)⟩⟩

theorem statusIter_reads {k n : ℕ}
    (h : HonestStatus 9 { wl with irqRunning := false } (releasedStatus k)) :
    StatusReads (flowAssume (chipConf .wl128x) 9 [0] True) n [statusIter k] wl := by
  refine StatusReads.cons (fun st hst => ?_) (fun n => StatusReads.nil n _) n
  obtain rfl : releasedStatus k = st := Option.some.inj hst
  exact h

theorem statusIter_assumed {k : ℕ}
    (h : HonestStatus 9 { wl with irqRunning := false } (releasedStatus k)) :
    IrqAssumed (flowAssume (chipConf .wl128x) 9 [0] True) { iters := [statusIter k] } wl := by
  refine ⟨?_, statusIter_reads h⟩
  intro it hit
  rw [List.mem_singleton.mp hit]
  exact statusIter_offers k

/-- Transmit loops without arrivals. -/
theorem txEnvOk_quiet (n : ℕ) :
    TxEnvOk (chipConf .wl128x) 9 [0] { iters := List.replicate n {} } := by
  constructor
  · intro it hit skb hskb
    rw [List.eq_of_mem_replicate hit] at hskb
    cases hskb
  · intro it hit
    rw [List.eq_of_mem_replicate hit]
    simp

/-- Three frames fill the pool, the fourth waits. The interrupt thread learns that the first was
released and queues `tx_work`; a suspend comes in between. -/
def fullPoolOps : List FlowOp :=
  [.opTx (staFrame 1), .opTx (staFrame 2), .opTx (staFrame 3), .opTx (staFrame 4),
   .txWork true { iters := [{}, {}, {}, {}] }, .irq { iters := [statusIter 1] },
   .suspendEnter .ok, .hardirq, .resume { irq := { iters := [statusIter 2] } }]

theorem fullPoolOps_ok :
    Along flowStep (fun wl op => op.Assumed (chipConf .wl128x) 9 [0] wl ∧ op.ResumeSafe wl)
      flowDriver fullPoolOps := by
  refine ⟨⟨staFrame_assumed (by decide) _, trivial⟩, ⟨staFrame_assumed (by decide) _, trivial⟩,
    ⟨staFrame_assumed (by decide) _, trivial⟩, ⟨staFrame_assumed (by decide) _, trivial⟩,
    ⟨⟨txEnvOk_quiet 4, ?_⟩, trivial⟩, ⟨⟨statusIter_assumed ?_, ?_⟩, trivial⟩,
    ⟨trivial, trivial⟩, ⟨trivial, trivial⟩, ⟨⟨statusIter_assumed ?_, ?_⟩, ?_⟩, trivial⟩
  · decide +kernel
  · refine ⟨rfl, ?_, ?_, ?_⟩ <;> decide +kernel
  · decide +kernel
  · refine ⟨rfl, ?_, ?_, ?_⟩ <;> decide +kernel
  · decide +kernel
  · exact fun _ _ => Or.inl (by decide +kernel)

/-- The fourth frame is still queued at the end of that run, and `tx_work` is queued for it. -/
theorem noStall_run_fullPool :
    (run flowStep flowDriver fullPoolOps).state = .on ∧
      wl1271TxTotalQueueCount (run flowStep flowDriver fullPoolOps) = 1 ∧
      NoStall (run flowStep flowDriver (fullPoolOps.take 9)) :=
  ⟨by decide +kernel, by decide +kernel,
    noStall_run (chipConf .wl128x) 9 [0] flowDriver fullPoolOps (by decide) dummyPacket_sendable
      flowDriver_booted fullPoolOps_ok 9⟩

/-- An iteration in which the firmware asks for the dummy packet. -/
def dummyRequestIter : IrqIter :=
  { status := some (releasedStatus 0), intr := { eventA := true }
    mboxA := { dummy := true, tx := { iters := [{}] } } }

theorem dummyRequest_assumed
    (h₀ : HonestStatus 9 { wl with irqRunning := false } (releasedStatus 0))
    (h₁ : HonestStatus 9 { (irqIter dummyRequestIter wl).2.2 with irqRunning := false }
      (releasedStatus 1)) :
    IrqAssumed (flowAssume (chipConf .wl128x) 9 [0] True)
      { iters := [dummyRequestIter, statusIter 1] } wl := by
  refine ⟨?_, StatusReads.cons (fun st hst => ?_) (fun _ => statusIter_reads h₁) _⟩
  · intro it hit
    rcases List.mem_cons.mp hit with rfl | hit
    · exact ⟨fun _ _ hs => (nomatch hs), fun _ hi => (nomatch hi),
        ⟨(txEnvOk_quiet 1).offers, fun _ => trivial⟩,
        ⟨fun _ hi => (nomatch hi), fun hd => (nomatch hd)⟩⟩
    · rw [List.mem_singleton.mp hit]
      exact statusIter_offers 1
  · obtain rfl : releasedStatus 0 = st := Option.some.inj hst
    exact h₀

/-- The firmware holds a frame across the suspend. It asks for the dummy packet while there are
too few blocks for it, and then releases the frame. -/
def dummyAtResumeOps : List FlowOp :=
  [.opTx (staFrame 1), .txWork true { iters := [{}, {}] }, .flushBegin, .flushEnd true,
   .suspendEnter .ok, .hardirq, .resume { irq := { iters := [dummyRequestIter, statusIter 1] } }]

/-- In that run all assumptions hold, and at its end the dummy packet is pending, the firmware is
not busy and `tx_work` is not queued. -/
theorem noStall_fails_after_resume :
    Booted (chipConf .wl128x) 9 [0] flowDriver ∧
      Along flowStep (FlowOp.Assumed (chipConf .wl128x) 9 [0]) flowDriver dummyAtResumeOps ∧
      ¬ NoStall (run flowStep flowDriver dummyAtResumeOps) := by
  refine ⟨flowDriver_booted, ⟨staFrame_assumed (by decide) _, ⟨txEnvOk_quiet 2, ?_⟩, trivial,
    trivial, trivial, trivial, ⟨dummyRequest_assumed ?_ ?_, ?_⟩, trivial⟩, ?_⟩
  · decide +kernel
  · refine ⟨rfl, ?_, ?_, ?_⟩ <;> decide +kernel
  · refine ⟨rfl, ?_, ?_, ?_⟩ <;> decide +kernel
  · decide +kernel
  · unfold NoStall
    decide +kernel

end TiWlan.Tx
