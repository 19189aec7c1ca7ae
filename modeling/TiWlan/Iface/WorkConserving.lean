import TiWlan.Iface.Links
import TiWlan.Tx.Turns

/-!
# The scheduler is work-conserving

`wl1271_skb_dequeue` (`wlcore/tx.c`, lines 552–607) scans `wlvif_list` from behind `last_wlvif` to
the end, and then from the front up to `last_wlvif`. Both scans together see every vif because
`last_wlvif` is never a vif that left the list: a removal (`wlcore/main.c`, lines 2365–2496) clears
the pointer if it is to the vif that it unlinks.

The system is the driver with a frame in hand. Between `wl1271_skb_dequeue` and
`wl1271_skb_queue_head` the mutex is held, so that only `op_tx` can run.

Results:
* `LastListed.step`: every operation keeps `last_wlvif` on the list.
* `step_ledger`: every operation keeps the frames counted, and the dummy packet out of the queues.
* `dequeue_workConserving`: in every state, nothing is found exactly when there is nothing, and the
  dummy packet only comes after every frame.
-/

namespace TiWlan.Iface

open TiWlan.Lib TiWlan.Driver TiWlan.Link TiWlan.Tx
open Function (update)

/-! ## The last vif that was served -/

/-- `last_wlvif` is `NULL` or on `wlvif_list`. -/
def LastListed (wl : Wl1271) : Prop := ∀ v, wl.lastWlvif = some v → v ∈ wl.wlvifList

namespace LastListed

variable {wl wl' : Wl1271} {W : Wlcore} {v : VifId}

theorem of_last (h : LastListed wl) (hlist : wl'.wlvifList = wl.wlvifList)
    (hlast : LastKeep wl.toVifLinks wl'.toVifLinks) : LastListed wl' := by
  intro u hu
  rw [hlist]
  rcases hlast.listed hu with hu | hu
  · exact h u hu
  · exact hu

theorem of_driver (h : LastListed wl) (hk : DriverKeep wl wl') : LastListed wl' :=
  h.of_last hk.list hk.last

theorem of_tx (h : LastListed wl) (hk : TxKeep wl wl') : LastListed wl' :=
  h.of_last hk.wlvifList hk.last

theorem of_quiet (h : LastListed wl) (hk : QuietKeep wl wl') : LastListed wl' :=
  h.of_last (congrArg VifLinks.wlvifList hk.links) (Or.inl (congrArg VifLinks.lastWlvif hk.links))

/-- The vif that is unlinked is not the last one any more. -/
theorem removed (h : LastListed wl) (hr : Removed v wl wl') : LastListed wl' := by
  intro u hu
  obtain ⟨huv, hu⟩ := hr.last u hu
  have hmem : u ∈ wl.wlvifList := by
    rcases hu with hu | hu
    · exact h u hu
    · exact hu
  rw [hr.list]
  exact (List.mem_erase_of_ne huv).mpr hmem

theorem listInterface (h : LastListed W.toWl1271) : LastListed (W.listInterface v).toWl1271 :=
  fun u hu => List.mem_cons_of_mem v (h u hu)

theorem opStop (h : LastListed wl) : LastListed (Driver.wlcoreOpStopLocked wl) := by
  have hin : LastListed (opStopCancel (opStopOff wl)) := h
  have hout := hin.of_tx (wl12xxTxReset_keep _)
  rcases wlcoreOpStopLocked_cases wl with ⟨-, p, heq⟩ | ⟨-, wl₁, p, hwl, heq⟩ <;> rw [heq]
  · exact h
  · rw [hwl] at hout
    exact hout

theorem addInterface (h : LastListed W.toWl1271) (type : Option BssType) (dummyP2p : Bool)
    (env : Wlcore.AddEnv) :
    LastListed (W.wl1271OpAddInterface v type dummyP2p env).2.toWl1271 := by
  refine wl1271OpAddInterface_induction (I := fun W => LastListed W.toWl1271)
    (fun _ hk => h.of_driver (hk .any).driver) (fun _ => h) (fun W₁ W₂ hi => ?_)
    fun _ _ _ h₂ => h₂.listInterface
  have h₁ : LastListed W₁.toWl1271 := h.of_last hi.init.list (Or.inl hi.init.last)
  exact h₁.of_last hi.keep.list hi.keep.last

/-- One operation. -/
theorem step (h : LastListed W.toWl1271) (hlisted : Listing W) (op : Wlcore.Op) :
    LastListed (W.step op).toWl1271 := by
  refine step_induction (A := .any) (I := fun W => LastListed W.toWl1271) h hlisted
    (fun _ hp => h.of_driver (step_keep W hp).driver)
    (fun v type dummyP2p env _ => h.addInterface type dummyP2p env)
    (fun W v env _ h hl hv hstate => ?_) (fun W h _ => ?_) (fun _ _ h hk => h.of_quiet hk)
    fun _ _ h hk => h.of_driver hk.driver
  · exact h.removed (wl1271OpRemoveInterfaceLocked_removed (hl.initialized v hv) hstate env)
  · dsimp only [Wlcore.wlcoreOpStopLocked]
    split <;> exact h.opStop

end LastListed

/-- In every state of every run `wlvif_list` has every initialized vif once and no other, and
`last_wlvif` does not outlive its vif. -/
theorem wlvifList_run (c : Conf) (ops : List Wlcore.Op) :
    (run Wlcore.step (Wlcore.probe c) ops).wlvifList.Nodup ∧
      (∀ v, v ∈ (run Wlcore.step (Wlcore.probe c) ops).wlvifList ↔
        ((run Wlcore.step (Wlcore.probe c) ops).vifs v).initialized = true) ∧
      LastListed (run Wlcore.step (Wlcore.probe c) ops).toWl1271 := by
  have hprobe : Listing (Wlcore.probe c) ∧ LastListed (Wlcore.probe c).toWl1271 :=
    ⟨probe_listing c, fun _ hv => by cases hv⟩
  have hstep (W : Wlcore) (op : Wlcore.Op) (_ : op ∈ ops)
      (h : Listing W ∧ LastListed W.toWl1271) :
      Listing (W.step op) ∧ LastListed (W.step op).toWl1271 :=
    ⟨step_listing op h.1, h.2.step h.1 op⟩
  obtain ⟨hlisted, hlast⟩ := run_induction_mem hstep hprobe
  exact ⟨hlisted.nodup, fun v => ⟨hlisted.initialized v, hlisted.listed v⟩, hlast⟩

/-! ## The frames in the queues -/

/-- The environment offers only frames of its own: mac80211 does not know the dummy packet. -/
def OffersForeign (c : Conf) (W : Wlcore) : Wlcore.Op → Prop
  | .removeInterface _ env _ => Offers (NotDummy c) env.stopDev.tx
  | .recoveryWork env => ∀ v, Offers (NotDummy c) (env v).stopDev.tx
  | op => OpAssumed (foreignAssume c) W op

section
variable {c : Conf} {W : Wlcore} {v : VifId}

theorem addInterface_ledger (h : Ledger c (none, W.toWl1271)) (type : Option BssType)
    (dummyP2p : Bool) (env : Wlcore.AddEnv) :
    Ledger c (none, (W.wl1271OpAddInterface v type dummyP2p env).2.toWl1271) := by
  refine wl1271OpAddInterface_induction (I := fun W => Ledger c (none, W.toWl1271))
    (fun _ hk => ledger_linkReach (A := foreignAssume c) (fun _ hp => hp) (hk _).reach h)
    (fun _ => h.congr rfl rfl) (fun W₁ W₂ hi => ?_) fun _ _ _ h₂ => h₂.congr rfl rfl
  have h₁ : Ledger c (none, W₁.toWl1271) := h.congr hi.init.conf hi.init.queues
  refine ledger_linkReach (A := foreignAssume c) (fun _ hp => hp) (hi.role _).reach ?_
  unfold Wlcore.addInterfaceBoot
  split
  · exact (initFwLoop_frames h₁ (env.attempts.take 3)).1
  · exact h₁

/-- One operation. -/
theorem step_ledger {op : Wlcore.Op} (hop : OffersForeign c W op)
    (h : Ledger c (none, W.toWl1271)) (hlisted : Listing W) :
    Ledger c (none, (W.step op).toWl1271) := by
  have hreach {wl wl' : Wl1271} (hl : LinkReach (foreignAssume c) wl wl')
      (h : Ledger c (none, wl)) : Ledger c (none, wl') := ledger_linkReach (fun _ hp => hp) hl h
  refine step_induction (A := foreignAssume c) (I := fun W => Ledger c (none, W.toWl1271)) h
    hlisted (fun p hp => ?_) (fun v type dummyP2p env _ => addInterface_ledger h type dummyP2p env)
    (fun W v env hrem h hl hv hstate => removeInterface_ledger h (hl.initialized v hv) hstate ?_)
    (fun W h _ => ?_) (fun W wl h hk => h.congr hk.conf hk.queues) fun _ _ h hk => hreach hk.reach h
  · have hassumed : OpAssumed (foreignAssume c) W op := by
      cases op <;> first | exact hop | cases hp
    exact hreach (step_reach _ hp hassumed).reach h
  · cases op with
    | removeInterface u env' needFwChange => exact hrem.2 ▸ hop
    | recoveryWork envs =>
      rw [show env = envs v from hrem]
      exact hop v
    | _ => exact hrem.elim
  · dsimp only [Wlcore.wlcoreOpStopLocked]
    split <;> exact opStop_ledger h

end

/-! ## Runs with a frame in hand -/

/-- The driver and the frame that the transmit loop has dequeued. -/
structure Sched where
  hand : Option (Skb × Hlid)
  dev : Wlcore

/-- Links are taken and given back under the mutex. -/
inductive LinkOp
  | allocateLink (v : VifId) (r : RoleLink)
  | freeLink (v : VifId) (r : RoleLink)
  | allocateSta (v : VifId)
  | freeSta (v : VifId) (h : Hlid)

def linkStep (wl : Wl1271) : LinkOp → Wl1271
  | .allocateLink v r => (allocateRoleLink wl v r).2
  | .freeLink v r => freeRoleLink wl v r
  | .allocateSta v => (wl1271AllocateSta wl v).2
  | .freeSta v h => wl1271FreeSta wl v h

inductive SchedOp
  /-- an operation of the driver, under the mutex -/
  | op (op : Wlcore.Op)
  | link (op : LinkOp)
  /-- `op_tx`, at any time -/
  | opTx (skb : Skb)
  | dequeue
  /-- the frame in hand is put back -/
  | requeue
  /-- the transmit loop goes on with the frame in hand: it is sent, put back or dropped -/
  | send (it : TxIter) (l : TxLocals)

/-- An operation that takes the mutex. -/
def Sched.locked (s : Sched) (f : Wlcore → Wlcore) : Sched :=
  if s.hand.isSome then s else { s with dev := f s.dev }

def schedStep (s : Sched) : SchedOp → Sched
  | .op o => s.locked fun W => W.step o
  | .link o => s.locked fun W => W.onDriver fun wl => linkStep wl o
  | .opTx skb => { s with dev := s.dev.onDriver fun wl => wl1271OpTx wl skb }
  | .dequeue =>
    if s.hand.isSome then s
    else
      let (r, wl) := wl1271SkbDequeue s.dev.toWl1271
      ⟨r, { s.dev with toWl1271 := wl }⟩
  | .requeue =>
    match s.hand with
    | none => s
    | some (skb, h) =>
      ⟨none, s.dev.onDriver fun wl =>
        wl1271SkbQueueHead wl (frameVif wl skb) skb (frameLink wl skb h)⟩
  | .send it l =>
    match s.hand with
    | none => s
    | some (skb, h) => ⟨none, s.dev.onDriver fun wl => (txWorkFrame wl it skb h l).2.1⟩

/-- mac80211 does not offer the dummy packet. -/
def SchedOp.Foreign (c : Conf) (s : Sched) : SchedOp → Prop
  | .op o => OffersForeign c s.dev o
  | .opTx skb => NotDummy c skb
  | _ => True

/-- The invariant: interfaces are listed, `last_wlvif` is one of them, frames are counted, and the
frame in hand came from a link that the scheduler looks at. -/
structure SchedInv (c : Conf) (s : Sched) : Prop where
  listed : Listing s.dev
  last : LastListed s.dev.toWl1271
  ledger : Ledger c (s.hand.map Prod.fst, s.dev.toWl1271)
  served : ∀ skb h, s.hand = some (skb, h) → Served s.dev.toWl1271 h

section
variable {c : Conf} {s : Sched}

theorem linkStep_reach (wl : Wl1271) (op : LinkOp) :
    LinkReach (foreignAssume c) wl (linkStep wl op) := by
  cases op with
  | allocateLink v r =>
    show LinkReach (foreignAssume c) wl (allocateRoleLink wl v r).2
    cases heq : allocateRoleLink wl v r with
    | mk b wl' =>
      cases b with
      | false =>
        rw [allocateRoleLink_false heq]
        exact .refl wl
      | true => exact .single (.take trivial (Or.inr trivial) heq)
  | freeLink v r => exact .single (.give trivial r)
  | allocateSta v =>
    show LinkReach (foreignAssume c) wl (wl1271AllocateSta wl v).2
    cases heq : wl1271AllocateSta wl v with
    | mk b wl' =>
      cases b with
      | none =>
        rw [wl1271AllocateSta_none heq]
        exact .refl wl
      | some h => exact .single (.addSta trivial heq)
  | freeSta v h => exact .single (.freeSta trivial h)

/-- Under the mutex there is no frame in hand. -/
theorem SchedInv.locked (h : SchedInv c s) {f : Wlcore → Wlcore} (hlisted : Listing (f s.dev))
    (hlast : LastListed (f s.dev).toWl1271)
    (hledger : Ledger c (none, s.dev.toWl1271) → Ledger c (none, (f s.dev).toWl1271)) :
    SchedInv c (s.locked f) := by
  obtain ⟨hand, W⟩ := s
  cases hand with
  | none => exact ⟨hlisted, hlast, hledger h.ledger, fun _ _ hl => by cases hl⟩
  | some p => exact h

/-- A function of the data path. -/
theorem SchedInv.tx (h : SchedInv c s) {wl : Wl1271} {hand : Option (Skb × Hlid)}
    (hk : TxKeep s.dev.toWl1271 wl) (hledger : Ledger c (hand.map Prod.fst, wl))
    (hserved : ∀ skb l, hand = some (skb, l) → Served wl l) :
    SchedInv c ⟨hand, { s.dev with toWl1271 := wl }⟩ :=
  ⟨h.listed.of_driver (.of_tx hk), h.last.of_tx hk, hledger, hserved⟩

theorem SchedInv.dequeue (h : SchedInv c s) : SchedInv c (schedStep s .dequeue) := by
  obtain ⟨hand, W⟩ := s
  cases hand with
  | none =>
    have hreach := wl1271SkbDequeue_reach (P := .frames (NotDummy c)) W.toWl1271
    have hledger := ledger_reach (P := .frames (NotDummy c)) (fun _ hp => hp) hreach h.ledger
    apply h.tx (wl1271SkbDequeue_keep W.toWl1271) hledger
    intro skb l hl
    exact wl1271SkbDequeue_served (Prod.ext hl rfl)
  | some p => exact h

/-- The frame in hand goes somewhere. -/
theorem SchedInv.done (h : SchedInv c s) {skb : Skb} {l : Hlid} (hhand : s.hand = some (skb, l))
    {wl : Wl1271}
    (hreach : Reach (.frames (NotDummy c)) (some skb, s.dev.toWl1271) (none, wl)) :
    SchedInv c ⟨none, { s.dev with toWl1271 := wl }⟩ := by
  have hledger := h.ledger
  rw [hhand] at hledger
  exact h.tx hreach.keep (ledger_reach (fun _ hp => hp) hreach hledger) fun _ _ hl => by cases hl

theorem SchedInv.step (h : SchedInv c s) {op : SchedOp} (hop : op.Foreign c s) :
    SchedInv c (schedStep s op) := by
  cases op with
  | op o =>
    exact h.locked (f := fun W => W.step o) (step_listing o h.listed) (h.last.step h.listed o)
      fun hledger => step_ledger hop hledger h.listed
  | link o =>
    have hreach := linkStep_reach (c := c) s.dev.toWl1271 o
    exact h.locked (f := fun W => W.onDriver fun wl => linkStep wl o)
      (h.listed.of_driver hreach.driver) (h.last.of_driver hreach.driver)
      (ledger_linkReach (fun _ hp => hp) hreach)
  | opTx skb =>
    have hk := wl1271OpTx_keep s.dev.toWl1271 skb
    exact h.tx hk (ledger_opTx h.ledger hop) fun p l hl => (h.served p l hl).of_keep hk
  | dequeue => exact h.dequeue
  | requeue =>
    dsimp only [schedStep]
    split
    · exact h
    · rename_i skb l hhand
      have hserved : Served s.dev.toWl1271 (frameLink s.dev.toWl1271 skb l) := by
        unfold frameLink
        split
        · exact h.served skb l hhand
        · exact Or.inl rfl
      exact h.done hhand (wl1271SkbQueueHead_reach hserved _ skb)
  | send it loc =>
    dsimp only [schedStep]
    split
    · exact h
    · rename_i skb l hhand
      exact h.done hhand (txWorkFrame_reach (h.served skb l hhand) it skb loc)

end

/-! ## The scheduler -/

/-- Every queue of the system link and of every link of a listed vif is empty. -/
def NoFrames (wl : Wl1271) : Prop := ∀ h, Served wl h → LinkIdle wl.toTxQueues h

theorem dequeue_none_iff {wl : Wl1271} (hp : Selectable wl.toTxAccounting) :
    (wl1271SkbDequeue wl).1 = none ↔ NoFrames wl ∧ wl.dummyPacketPending = false := by
  have htaken := wl1271SkbDequeue_taken wl
  have hiff : NoFrames wl ↔ AllIdle wl := (allIdle_iff hp).symm
  rw [hiff]
  generalize wl1271SkbDequeue wl = r at htaken
  cases htaken with
  | frame hserved hwork hqueue htaken => simpa using fun hidle => absurd hwork (hidle _ hserved)
  | dummy hidle hpending htaken => simp [hpending]
  | none hidle hpending hsame => simp [hidle, hpending]

/-- The dummy packet comes after every frame. -/
theorem dequeue_dummy {c : Conf} {hand : Option Skb} {wl : Wl1271} (h : Ledger c (hand, wl))
    (hp : Selectable wl.toTxAccounting) {skb : Skb} {l : Hlid}
    (heq : (wl1271SkbDequeue wl).1 = some (skb, l)) (hd : wl12xxIsDummyPacket wl skb = true) :
    NoFrames wl := by
  have htaken := wl1271SkbDequeue_taken wl
  generalize wl1271SkbDequeue wl = r at htaken heq
  cases htaken with
  | @frame p k q rest wl' hserved hwork hqueue htaken =>
    obtain ⟨rfl, rfl⟩ : p = skb ∧ k = l := by simpa using heq
    have hmem : p ∈ wl.txQueue k q := by simp [hqueue]
    exact absurd (h.isDummy_iff.mp hd) (h.counts.queued k q p hmem).2
  | dummy hidle hpending htaken => exact (allIdle_iff hp).mp hidle
  | none hidle hpending hsame => cases heq

/-- The state after a run of a driver that was just probed. -/
def schedRun (c : Conf) (ops : List SchedOp) : Sched := run schedStep ⟨none, Wlcore.probe c⟩ ops

/-- In every state of every run, `last_wlvif` is `NULL` or listed. With counters below 2³² - 1,
`wl1271_skb_dequeue` finds nothing exactly if no queue that it is responsible for has a frame and
the dummy packet is not pending, and it returns the dummy packet only if no queue has a frame. -/
theorem dequeue_workConserving (c : Conf) (ops : List SchedOp)
    (hops : Along schedStep (fun s op => op.Foreign c s) ⟨none, Wlcore.probe c⟩ ops)
    (hp : Selectable (schedRun c ops).dev.toTxAccounting) :
    LastListed (schedRun c ops).dev.toWl1271 ∧
      ((wl1271SkbDequeue (schedRun c ops).dev.toWl1271).1 = none ↔
        NoFrames (schedRun c ops).dev.toWl1271 ∧
          (schedRun c ops).dev.dummyPacketPending = false) ∧
      ∀ skb h, (wl1271SkbDequeue (schedRun c ops).dev.toWl1271).1 = some (skb, h) →
        wl12xxIsDummyPacket (schedRun c ops).dev.toWl1271 skb = true →
        NoFrames (schedRun c ops).dev.toWl1271 := by
  have hprobe : SchedInv c ⟨none, Wlcore.probe c⟩ :=
    ⟨probe_listing c, fun _ hv => (by cases hv), probe_ledger c, fun _ _ hl => (by cases hl)⟩
  have hstep (s : Sched) (op : SchedOp) (h : SchedInv c s) (hop : op.Foreign c s) :
      SchedInv c (schedStep s op) := h.step hop
  have hinv : SchedInv c (schedRun c ops) := Along.induction hstep hprobe hops
  exact ⟨hinv.last, dequeue_none_iff hp, fun _ _ => dequeue_dummy hinv.ledger hp⟩

/-- A station joins, a frame is dequeued and put back while another one arrives; a second interface
comes and goes. -/
def schedOps : List SchedOp :=
  [.op (.addInterface 0 (some .staBss) false { attempts := [.boots 10] }),
    .op (.bssInfoChanged 0 true (.join .ok) {}),
    .opTx (staFrame 5),
    .dequeue,
    .opTx (staFrame 6),
    .requeue,
    .op (.addInterface 1 (some .staBss) false {}),
    .link (.allocateLink 1 .sta),
    .op (.removeInterface 1 {} false)]

theorem dequeue_workConserving_requeued :
    ((wl1271SkbDequeue (schedRun (chipConf .wl128x) schedOps).dev.toWl1271).1.map
        fun p => p.1.id) = some 5 ∧
      ¬ (NoFrames (schedRun (chipConf .wl128x) schedOps).dev.toWl1271 ∧
        (schedRun (chipConf .wl128x) schedOps).dev.dummyPacketPending = false) := by
  have hfirst : ((wl1271SkbDequeue (schedRun (chipConf .wl128x) schedOps).dev.toWl1271).1.map
      fun p => p.1.id) = some 5 := by decide +kernel
  have hops : Along schedStep (fun s op => op.Foreign (chipConf .wl128x) s)
      ⟨none, Wlcore.probe (chipConf .wl128x)⟩ schedOps := by
    refine ⟨trivial, ⟨fun _ => trivial, fun _ _ _ => Or.inr trivial⟩, ?_, trivial, ?_, trivial,
      trivial, trivial, ?_, trivial⟩
    · show (staFrame 5).id ≠ (chipConf .wl128x).dummyPacket.id
      decide
    · show (staFrame 6).id ≠ (chipConf .wl128x).dummyPacket.id
      decide
    · exact fun _ hit => absurd hit List.not_mem_nil
  have hp : Selectable (schedRun (chipConf .wl128x) schedOps).dev.toTxAccounting := by
    unfold Selectable
    decide +kernel
  refine ⟨hfirst, fun hidle => ?_⟩
  have hnone := (dequeue_workConserving (chipConf .wl128x) schedOps hops hp).2.1.mpr hidle
  rw [hnone] at hfirst
  cases hfirst

/-- While interfaces come and go and devices recover, and also between a dequeue and what follows
it: every frame is held or in hand exactly as often as `op_tx` received it, the counters are those
of the queues and of the descriptors, and no warning of the dequeue functions has fired. -/
theorem frames_conserved (c : Conf) (ops : List SchedOp)
    (hops : Along schedStep (fun s op => op.Foreign c s) ⟨none, Wlcore.probe c⟩ ops) :
    (∀ skb, NotDummy c skb →
        heldCopies (schedRun c ops).dev.toTxQueues skb +
            ((schedRun c ops).hand.map Prod.fst).toList.count skb =
          (schedRun c ops).dev.accepted.count skb) ∧
      (∀ q, (schedRun c ops).dev.txQueueCount q =
        queueLen (schedRun c ops).dev.toTxQueues q +
          pendingDummy c.dummyPacket (schedRun c ops).dev.toTxQueues q) ∧
      (schedRun c ops).dev.txFramesCnt = usedSlots (schedRun c ops).dev.toTxQueues ∧
      (schedRun c ops).dev.countWarned = false := by
  have hprobe : SchedInv c ⟨none, Wlcore.probe c⟩ :=
    ⟨probe_listing c, fun _ hv => (by cases hv), probe_ledger c, fun _ _ hl => (by cases hl)⟩
  have hstep (s : Sched) (op : SchedOp) (h : SchedInv c s) (hop : op.Foreign c s) :
      SchedInv c (schedStep s op) := h.step hop
  have hledger : Ledger c _ := (Along.induction hstep hprobe hops).ledger
  exact ⟨hledger.conserved, hledger.counts.count, hledger.slots.cnt, hledger.counts.warned⟩

/-- The frame of the station is in hand, and nowhere else. -/
theorem frames_conserved_inHand :
    (schedRun (chipConf .wl128x) (schedOps.take 4)).hand.map Prod.fst = some (staFrame 5) ∧
      heldCopies (schedRun (chipConf .wl128x) (schedOps.take 4)).dev.toTxQueues (staFrame 5) =
        0 := by
  have hhand : (schedRun (chipConf .wl128x) (schedOps.take 4)).hand.map Prod.fst =
      some (staFrame 5) := by decide +kernel
  have honce : (schedRun (chipConf .wl128x) (schedOps.take 4)).dev.accepted.count (staFrame 5) =
      1 := by decide +kernel
  have hforeign : NotDummy (chipConf .wl128x) (staFrame 5) := by
    show (5 : ℕ) ≠ 0
    decide
  have h := (frames_conserved (chipConf .wl128x) (schedOps.take 4) ⟨trivial,
    ⟨fun _ => trivial, fun _ _ _ => Or.inr trivial⟩, hforeign, trivial, trivial⟩).1 _ hforeign
  rw [hhand, honce] at h
  exact ⟨hhand, by simpa using h⟩

end TiWlan.Iface
