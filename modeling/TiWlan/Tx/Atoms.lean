import TiWlan.Driver.Keep
import TiWlan.Lib.Tally
import Mathlib.Logic.Relation

/-!
# Atomic steps of the data path

Whatever the data path does to frames and to the firmware accounting is a chain of a few
atomic steps: a frame is offered by `op_tx`, taken from a queue, put back, given a
descriptor, dropped, completed, and so on. Between being taken and being placed again a
frame is *in hand*, so the steps relate pairs of the frame in hand and the driver state.

`TxAtom` lists the steps and `Reach` is their closure; there is one lemma `f_reach` per
function `f` from `op_tx` to the threaded interrupt handler. An invariant of the atomic
steps is thereby an invariant of every function of the data path (`Reach.invariant`).
-/

namespace TiWlan.Tx

open TiWlan.Lib TiWlan.Driver
open Function (update)

variable {P : Assume} {st : FwStatus} {h : Hlid} {it : IrqIter} {its : List IrqIter}
  {vs : List VifId} {skb : Skb} {env : TxWorkEnv} {wl' : Wl1271} (wl : Wl1271) (r : TxResult)

/-- The memory blocks that `wl1271_tx_allocate` computes for a frame. -/
def frameBlocks (wl : Wl1271) (skb : Skb) : ℕ :=
  wlcoreHwCalcTxBlocks wl.toConf
    (skb.data.length + txHwDescrSize + txExtraSpace wl.quirks skb)
    (wlcoreHwGetSpareBlocks wl (txIsGem skb))

/-- Why `FW_TX_BUSY` is set while the frame `skb` is in hand: a recovery was queued, there is
no free descriptor, or there are too few blocks. -/
def BusyReason (wl : Wl1271) (skb : Skb) : Prop :=
  wl.state ≠ .on ∨ findFirstZeroBit wl.txFramesMap wl.numTxDesc = none ∨
    wl.txBlocksAvailable < frameBlocks wl skb

/-- A link that the scheduler looks at: the system link, or a link of a listed vif. -/
def Served (wl : Wl1271) (h : Hlid) : Prop :=
  h = systemHlid ∨ ∃ v ∈ wl.wlvifList, (wl.vifs v).linksMap h = true

theorem Served.of_keep {wl : Wl1271} (hs : Served wl h) (hk : TxKeep wl wl') : Served wl' h := by
  rcases hs with hs | ⟨v, hv, hl⟩
  · exact Or.inl hs
  · refine Or.inr ⟨v, hk.wlvifList.symm ▸ hv, ?_⟩
    rw [hk.vifLinksMap]
    exact hl

/-- The accounting changed at most in the per-link counters. -/
def AcctKeep (a a' : TxAccounting) : Prop :=
  ∃ p f, a' = { a with allocatedPkts := p, prevFreedPkts := f }

theorem AcctKeep.refl (a : TxAccounting) : AcctKeep a a := ⟨_, _, rfl⟩

/-- `TX_PENDING` is left alone, and a queued `tx_work` stays queued. -/
structure WorkKeep (w w' : Work) : Prop where
  txPending : w'.txPending = w.txPending
  txWorkQueued : w.txWorkQueued = true → w'.txWorkQueued = true

/-- What is assumed of the frames that `op_tx` receives, of a status block that is read in a given
state, and whether the firmware may ask for the dummy packet. -/
structure Assume where
  frame : Skb → Prop
  status : Wl1271 → FwStatus → Prop
  dummy : Prop

/-- Something is assumed of the frames only. -/
def Assume.frames (F : Skb → Prop) : Assume := ⟨F, fun _ _ => True, True⟩

/-- Nothing is assumed. -/
def Assume.any : Assume := .frames fun _ => True

/-- The atomic steps, under assumptions on the environment. -/
inductive TxAtom (P : Assume) : Option Skb × Wl1271 → Option Skb × Wl1271 → Prop
  /-- `op_tx` queues or drops a frame -/
  | opTx {wl : Wl1271} {skb : Skb} (hp : P.frame skb) :
      TxAtom P (none, wl) (none, wl1271OpTx wl skb)
  /-- the head of a queue is taken -/
  | take {wl : Wl1271} {h : Hlid} {q : Ac} {skb : Skb} {rest : List Skb}
      (hq : wl.txQueue h q = skb :: rest) :
      TxAtom P (none, wl)
        (some skb, { wl with toTxQueues := (wl.toTxQueues.setQueue h q rest).decCount skb.ac })
  /-- the pending dummy packet is taken -/
  | takeDummy {wl : Wl1271} (hp : wl.dummyPacketPending = true) :
      TxAtom P (none, wl)
        (some wl.dummyPacket,
          { wl with
            toTxQueues :=
              { wl.toTxQueues with dummyPacketPending := false }.decCount wl.dummyPacket.ac })
  /-- the frame in hand goes back to the head of a queue -/
  | putBack {wl : Wl1271} {h : Hlid} {skb : Skb} (hd : wl12xxIsDummyPacket wl skb = false)
      (hs : Served wl h) :
      TxAtom P (some skb, wl) (none, wl.pushHead h skb)
  /-- the dummy packet in hand becomes pending again -/
  | pendAgain {wl : Wl1271} {skb : Skb} (hd : wl12xxIsDummyPacket wl skb = true) :
      TxAtom P (some skb, wl) (none, wl.pendDummy skb)
  /-- the firmware asks for the dummy packet -/
  | pend {wl : Wl1271} (hp : wl.dummyPacketPending = false) (hd : P.dummy) :
      TxAtom P (none, wl) (none, wl.pendDummy wl.dummyPacket)
  /-- the frame in hand is dropped -/
  | drop {wl : Wl1271} {skb : Skb} (hd : wl12xxIsDummyPacket wl skb = false) :
      TxAtom P (some skb, wl) (none, wl.giveBack [skb])
  /-- the frame in hand gets a descriptor and blocks -/
  | commit {wl wl' : Wl1271} {skb : Skb} {v : Option VifId} {h : Hlid} {a : TxAlloc}
      (hid : wl1271AllocTxId wl skb = (some a.id, wl'))
      (hb : a.totalBlocks ≤ wl.txBlocksAvailable) (hpos : 0 < a.totalBlocks) :
      TxAtom P (some skb, wl) (none, txAllocateCommit wl' v skb h a)
  /-- a descriptor is allocated and freed again for lack of blocks -/
  | release {wl wl' : Wl1271} {skb : Skb} {id : TxId}
      (hid : wl1271AllocTxId wl skb = (some id, wl')) :
      TxAtom P (some skb, wl) (some skb, wl1271FreeTxId wl' id)
  /-- `FW_TX_BUSY` is set -/
  | busy {wl : Wl1271} {skb : Skb} (hb : BusyReason wl skb) :
      TxAtom P (some skb, wl) (some skb, { wl with fwTxBusy := true })
  /-- the queues of a link are emptied -/
  | drain {hand : Option Skb} {wl : Wl1271} (h : Hlid) :
      TxAtom P (hand, wl) (hand, drainLinkQueues wl h)
  /-- a frame is completed -/
  | complete {wl : Wl1271} {slot : TxId} {skb : Skb} (hs : wl.txFrames slot = some skb)
      (hd : wl12xxIsDummyPacket wl skb = false) :
      TxAtom P (none, wl) (none, deferFrame wl slot skb)
  /-- the dummy packet is completed -/
  | completeDummy {wl : Wl1271} {slot : TxId} {skb : Skb} (hs : wl.txFrames slot = some skb)
      (hd : wl12xxIsDummyPacket wl skb = true) :
      TxAtom P (none, wl) (none, wl1271FreeTxId wl slot)
  /-- the completed frames are given back -/
  | flushDeferred {wl : Wl1271} : TxAtom P (none, wl) (none, wl1271FlushDeferredWork wl)
  /-- a status block is accounted for -/
  | status {wl : Wl1271} {st : FwStatus} (hst : P.status wl st) :
      TxAtom P (none, wl) (none, { wl with toTxAccounting := fwStatusAccounting wl st })
  /-- something that concerns neither the frames nor the firmware's memory -/
  | other {hand : Option Skb} {wl wl' : Wl1271} (hk : TxKeep wl wl')
      (ht : wl'.toTxQueues = wl.toTxQueues) (ha : AcctKeep wl.toTxAccounting wl'.toTxAccounting)
      (hw : WorkKeep wl.toWork wl'.toWork) :
      TxAtom P (hand, wl) (hand, wl')

/-- Chains of atomic steps. -/
def Reach (P : Assume) : Option Skb × Wl1271 → Option Skb × Wl1271 → Prop :=
  Relation.ReflTransGen (TxAtom P)

namespace Reach

variable {P : Assume} {hand : Option Skb} {wl wl' : Wl1271}
  {s s' s'' : Option Skb × Wl1271}

theorem refl (s : Option Skb × Wl1271) : Reach P s s := Relation.ReflTransGen.refl

theorem trans (h : Reach P s s') (h' : Reach P s' s'') : Reach P s s'' :=
  Relation.ReflTransGen.trans h h'

theorem single (h : TxAtom P s s') : Reach P s s' := Relation.ReflTransGen.single h

/-- Steps that only touch the stop reasons, the vifs, the buffer and the like. -/
theorem of_keep (hk : TxKeep wl wl') (ht : wl'.toTxQueues = wl.toTxQueues)
    (ha : wl'.toTxAccounting = wl.toTxAccounting) (hp : wl'.txPending = wl.txPending)
    (hq : wl'.txWorkQueued = wl.txWorkQueued) : Reach P (hand, wl) (hand, wl') :=
  single (.other hk ht (ha ▸ .refl _) ⟨hp, fun h => hq.trans h⟩)

theorem queueRecovery (wl : Wl1271) : Reach P (hand, wl) (hand, wl12xxQueueRecoveryWork wl) :=
  of_keep (.queueRecovery wl) rfl rfl rfl rfl

theorem foldl {α : Type} {f : Wl1271 → α → Wl1271} {l : List α}
    (hf : ∀ wl, ∀ a ∈ l, Reach P (hand, wl) (hand, f wl a)) (wl : Wl1271) :
    Reach P (hand, wl) (hand, l.foldl f wl) :=
  foldl_rel (R := fun wl wl' => Reach P (hand, wl) (hand, wl')) (fun _ => refl _) trans hf wl

/-- What the atomic steps preserve, the functions preserve. -/
theorem invariant {I : Option Skb × Wl1271 → Prop}
    (hstep : ∀ s s', TxAtom P s s' → I s → I s') (h : Reach P s s') (hs : I s) : I s' := by
  induction h with
  | refl => exact hs
  | tail _ hatom ih => exact hstep _ _ hatom ih

end Reach

/-! ## What is known of the queued frames -/

/-- The queued frames, the frame in hand and the dummy packet are as `op_tx` offers them. -/
structure Queued (P : Skb → Prop) (s : Option Skb × Wl1271) : Prop where
  queue : ∀ h q, ∀ skb ∈ s.2.txQueue h q, P skb
  hand : ∀ skb, s.1 = some skb → P skb
  dummy : P s.2.dummyPacket

theorem setQueue_apply (t : TxQueues) (l : Hlid) (q : Ac) (xs : List Skb) (l' : Hlid) (q' : Ac) :
    (t.setQueue l q xs).txQueue l' q' = if l' = l ∧ q' = q then xs else t.txQueue l' q' :=
  update_update_apply t.txQueue l q xs l' q'

/-- A queue whose frames are known is written. -/
theorem forall_setQueue {P : Hlid → Ac → Skb → Prop} {t : TxQueues}
    (h : ∀ l q, ∀ skb ∈ t.txQueue l q, P l q skb) {l : Hlid} {q : Ac} {xs : List Skb}
    (hxs : ∀ skb ∈ xs, P l q skb) :
    ∀ l' q', ∀ skb ∈ (t.setQueue l q xs).txQueue l' q', P l' q' skb := by
  intro l' q' skb hskb
  rw [setQueue_apply] at hskb
  split at hskb
  · rename_i hlane
    obtain ⟨rfl, rfl⟩ := hlane
    exact hxs skb hskb
  · exact h l' q' skb hskb

/-- The queues of one link are emptied. -/
theorem clear_sublist (queues : Hlid → Ac → List Skb) (k l : Hlid) (q : Ac) :
    (update queues k (fun _ => []) l q).Sublist (queues l q) := by
  by_cases hl : l = k
  · subst hl
    rw [Function.update_self]
    exact List.nil_sublist _
  · rw [Function.update_of_ne hl]

theorem queued_atom {F : Skb → Prop} (hP : ∀ skb, P.frame skb → F skb) {s s' : Option Skb × Wl1271}
    (hatom : TxAtom P s s') (h : Queued F s) : Queued F s' := by
  obtain ⟨hqueue, hhand, hdummy⟩ := h
  have hnone {wl : Wl1271} (hq : ∀ h q, ∀ skb ∈ wl.txQueue h q, F skb)
      (hd : F wl.dummyPacket) : Queued F (none, wl) := ⟨hq, fun _ hs => by simp at hs, hd⟩
  cases hatom with
  | @opTx wl skb hp =>
    refine hnone ?_ ?_ <;> unfold wl1271OpTx <;> split
    · exact hqueue
    · refine forall_setQueue (P := fun _ _ => F) hqueue fun s hs => ?_
      rcases List.mem_append.mp hs with hs | hs
      · exact hqueue _ _ s hs
      · exact List.mem_singleton.mp hs ▸ hP skb hp
    · exact hdummy
    · exact hdummy
  | @take wl l q skb rest hq =>
    refine ⟨forall_setQueue (P := fun _ _ => F) hqueue fun s hs => hqueue l q s ?_,
      fun s hs => ?_, hdummy⟩
    · rw [hq]; exact List.mem_cons_of_mem _ hs
    · cases hs; exact hqueue l q skb (by rw [hq]; simp)
  | takeDummy hp => exact ⟨hqueue, fun s hs => by cases hs; exact hdummy, hdummy⟩
  | @putBack wl l skb hd hs =>
    refine hnone (forall_setQueue (P := fun _ _ => F) hqueue fun s hs => ?_) hdummy
    rcases List.mem_cons.mp hs with rfl | hs
    · exact hhand _ rfl
    · exact hqueue _ _ s hs
  | @drain hand wl l =>
    refine ⟨fun l' q s hs => ?_, hhand, hdummy⟩
    exact hqueue l' q s ((clear_sublist wl.txQueue l l' q).subset hs)
  | pendAgain | pend | drop | flushDeferred | status => exact hnone hqueue hdummy
  | commit hid hb hpos =>
    obtain ⟨-, rfl⟩ := allocTxId_some hid
    exact hnone hqueue hdummy
  | release hid =>
    obtain ⟨-, rfl⟩ := allocTxId_some hid
    unfold wl1271FreeTxId
    split <;> exact ⟨hqueue, hhand, hdummy⟩
  | busy hb => exact ⟨hqueue, hhand, hdummy⟩
  | complete hs hd =>
    unfold deferFrame wl1271FreeTxId
    split <;> exact hnone hqueue hdummy
  | completeDummy hs hd =>
    unfold wl1271FreeTxId
    split <;> exact hnone hqueue hdummy
  | @other hand wl wl' hk ht ha hw =>
    refine ⟨?_, hhand, ?_⟩
    · rw [show wl'.txQueue = wl.txQueue from congrArg TxQueues.txQueue ht]
      exact hqueue
    · rw [show wl'.dummyPacket = wl.dummyPacket from congrArg Conf.dummyPacket hk.conf]
      exact hdummy

theorem queued_reach {F : Skb → Prop} (hP : ∀ skb, P.frame skb → F skb) {s s' : Option Skb × Wl1271}
    (hreach : Reach P s s') (h : Queued F s) : Queued F s' :=
  hreach.invariant (fun _ _ => queued_atom hP) h

/-! ## The frame of the atomic steps -/

theorem TxAtom.keep {s s' : Option Skb × Wl1271} (hatom : TxAtom P s s') : TxKeep s.2 s'.2 := by
  cases hatom with
  | opTx hp => exact wl1271OpTx_keep _ _
  | take | takeDummy | putBack | pendAgain | pend | drop | busy | status =>
    exact .of_parts rfl rfl rfl rfl rfl
  | commit hid hb hpos =>
    obtain ⟨-, rfl⟩ := allocTxId_some hid
    exact .of_parts rfl rfl rfl rfl rfl
  | @release wl wl' skb id hid =>
    obtain ⟨-, rfl⟩ := allocTxId_some hid
    have hkeep : TxKeep wl (claimTxId wl id skb) := .of_parts rfl rfl rfl rfl rfl
    exact hkeep.trans (wl1271FreeTxId_keep _ _)
  | drain h => exact drainLinkQueues_keep _ h
  | complete hs hd => exact deferFrame_keep _ _ _
  | completeDummy hs hd => exact wl1271FreeTxId_keep _ _
  | flushDeferred => exact wl1271FlushDeferredWork_keep _
  | other hk ht ha hw => exact hk

theorem TxAtom.workKeep {s s' : Option Skb × Wl1271} (hatom : TxAtom P s s') :
    WorkKeep s.2.toWork s'.2.toWork := by
  cases hatom with
  | @opTx wl skb hp =>
    unfold wl1271OpTx
    split
    · exact ⟨rfl, id⟩
    · refine ⟨rfl, fun hq => ?_⟩
      have hq' : wl.txWorkQueued = true := hq
      show (wl.txWorkQueued || _) = true
      rw [hq', Bool.true_or]
  | commit hid hb hpos =>
    obtain ⟨-, rfl⟩ := allocTxId_some hid
    exact ⟨rfl, id⟩
  | release hid =>
    obtain ⟨-, rfl⟩ := allocTxId_some hid
    unfold wl1271FreeTxId
    split <;> exact ⟨rfl, id⟩
  | complete hs hd =>
    unfold deferFrame wl1271FreeTxId
    split <;> exact ⟨rfl, id⟩
  | completeDummy hs hd =>
    unfold wl1271FreeTxId
    split <;> exact ⟨rfl, id⟩
  | other hk ht ha hw => exact hw
  | _ => exact ⟨rfl, id⟩

theorem Reach.keep {s s' : Option Skb × Wl1271} (hreach : Reach P s s') : TxKeep s.2 s'.2 :=
  hreach.invariant (I := fun t => TxKeep s.2 t.2)
    (fun _ _ hatom hkeep => hkeep.trans hatom.keep) (.refl _)

theorem Reach.workKeep {s s' : Option Skb × Wl1271} (hreach : Reach P s s') :
    WorkKeep s.2.toWork s'.2.toWork := by
  refine hreach.invariant (I := fun t => WorkKeep s.2.toWork t.2.toWork) ?_ ⟨rfl, id⟩
  intro _ _ hatom hkeep
  have hwork := hatom.workKeep
  exact ⟨hwork.txPending.trans hkeep.txPending,
    fun hq => hwork.txWorkQueued (hkeep.txWorkQueued hq)⟩

section
variable {P : Assume} {hand : Option Skb}

/-! ## Links in power save -/

theorem wl12xxPsLinkStart_reach (h : Hlid) (clean found : Bool) :
    Reach P (hand, wl) (hand, wl12xxPsLinkStart wl h clean found) := by
  unfold wl12xxPsLinkStart
  split_ifs
  · exact .refl _
  · exact .refl _
  · exact (Reach.single (.drain h)).trans (.of_keep (.psMaps _ _ _) rfl rfl rfl rfl)
  · exact .of_keep (.psMaps _ _ _) rfl rfl rfl rfl

theorem wl12xxPsLinkEnd_reach (h : Hlid) : Reach P (hand, wl) (hand, wl12xxPsLinkEnd wl h) := by
  unfold wl12xxPsLinkEnd
  split_ifs
  · exact .refl _
  · exact .of_keep (.psMaps _ _ _) rfl rfl rfl rfl

theorem wl1271TxRegulateLink_reach (v : VifId) (h : Hlid) (found : Bool) :
    Reach P (hand, wl) (hand, wl1271TxRegulateLink wl v h found) := by
  unfold wl1271TxRegulateLink
  split_ifs
  · exact .refl _
  · exact wl12xxPsLinkStart_reach ..
  · exact .refl _

theorem resetAllLinkQueues_reach : Reach P (hand, wl) (hand, resetAllLinkQueues wl) :=
  .foldl (f := wl1271TxResetLinkQueues) (fun _ h _ => .single (.drain h)) wl

/-! ## Dequeueing -/

/-- The frame in hand after a dequeue. -/
def dequeued (r : Option (Skb × Hlid) × Wl1271) : Option Skb × Wl1271 := (r.1.map Prod.fst, r.2)

theorem wl12xxLnkSkbDequeue_reach (h : Hlid) : Reach P (none, wl) (wl12xxLnkSkbDequeue wl h) := by
  unfold wl12xxLnkSkbDequeue
  split
  · exact .refl _
  · split
    · exact .refl _
    · rename_i hq
      exact .single (.take hq)

theorem vifSkbDequeueLoop_reach (v : VifId) (hs : List Hlid) (wl : Wl1271) :
    Reach P (none, wl) (dequeued (vifSkbDequeueLoop v hs wl)) := by
  induction hs generalizing wl with
  | nil => exact .of_keep (.setLastTxHlid _ _ _) rfl rfl rfl rfl
  | cons h hs ih =>
    unfold vifSkbDequeueLoop
    split_ifs
    · exact ih wl
    · have hlnk := wl12xxLnkSkbDequeue_reach (P := P) wl h
      split <;> rename_i heq <;> rw [heq] at hlnk
      · exact hlnk.trans (ih _)
      · exact hlnk.trans (.of_keep (.setLastTxHlid _ _ _) rfl rfl rfl rfl)

theorem vifPass_reach {stopAtLast : Bool} {wl : Wl1271} (hvs : ∀ v ∈ vs, v ∈ wl.wlvifList) :
    Reach P (none, wl) (dequeued (vifPass stopAtLast vs wl)) := by
  induction vs generalizing wl with
  | nil => exact .refl _
  | cons v vs ih =>
    have hvif := vifSkbDequeueLoop_reach (P := P) v
      (allHlids.map fun i => (wl.vifs v).lastTxHlid + 1 + i) wl
    unfold vifPass wl12xxVifSkbDequeue
    split <;> rename_i heq <;> rw [heq] at hvif
    · exact hvif.trans
        (.of_keep (.setLastWlvif (hvif.keep.wlvifList ▸ hvs v (by simp))) rfl rfl rfl rfl)
    · split_ifs
      · exact hvif
      · exact hvif.trans (ih fun u hu => hvif.keep.wlvifList ▸ hvs u (by simp [hu]))

theorem dummySkbDequeue_reach : Reach P (none, wl) (dequeued (dummySkbDequeue wl)) := by
  unfold dummySkbDequeue
  split_ifs with hp
  · exact .single (.takeDummy hp)
  · exact .refl _

theorem wl1271SkbDequeue_reach : Reach P (none, wl) (dequeued (wl1271SkbDequeue wl)) := by
  have h₁ : Reach P (none, wl) (dequeued (vifPass false (vifsAfterLast wl) wl)) :=
    vifPass_reach fun _ => mem_of_mem_vifsAfterLast
  unfold wl1271SkbDequeue
  split <;> rename_i heq <;> rw [heq] at h₁
  · exact h₁
  rename_i wl₁
  have h₂ := h₁.trans (wl12xxLnkSkbDequeue_reach wl₁ systemHlid)
  split <;> rename_i heq <;> rw [heq] at h₂
  · exact h₂
  rename_i wl₂
  have hpass : Reach P (none, wl₂) (dequeued (vifPass true wl₂.wlvifList wl₂)) :=
    vifPass_reach fun _ => id
  have h₃ := h₂.trans hpass
  split <;> rename_i heq <;> rw [heq] at h₃
  · exact h₃
  · exact h₃.trans (dummySkbDequeue_reach _)

theorem vifSkbDequeueLoop_linksMap {v : VifId} {hs : List Hlid} {wl : Wl1271}
    (heq : vifSkbDequeueLoop v hs wl = (some (skb, h), wl')) : (wl.vifs v).linksMap h = true := by
  induction hs generalizing wl with
  | nil => cases heq
  | cons h₀ hs ih =>
    have hkeep := (wl12xxLnkSkbDequeue_reach (P := .any) wl h₀).keep
    unfold vifSkbDequeueLoop at heq
    split_ifs at heq with hlink
    · exact ih heq
    · split at heq <;> rename_i hlnk <;> rw [hlnk] at hkeep
      · rw [← hkeep.vifLinksMap]
        exact ih heq
      · cases heq
        simpa using hlink

theorem vifPass_served {b : Bool} {wl : Wl1271} (hvs : ∀ v ∈ vs, v ∈ wl.wlvifList)
    (heq : vifPass b vs wl = (some (skb, h), wl')) : Served wl' h := by
  induction vs generalizing wl with
  | nil => cases heq
  | cons v vs ih =>
    have hv := hvs v (by simp)
    unfold vifPass wl12xxVifSkbDequeue at heq
    have hkeep : TxKeep wl (vifSkbDequeueLoop v
        (allHlids.map fun i => (wl.vifs v).lastTxHlid + 1 + i) wl).2 :=
      (vifSkbDequeueLoop_reach (P := .any) v _ wl).keep
    split at heq <;> rename_i hvif <;> rw [hvif] at hkeep
    · cases heq
      have hs : Served wl h := Or.inr ⟨v, hv, vifSkbDequeueLoop_linksMap hvif⟩
      exact (hs.of_keep hkeep).of_keep (.setLastWlvif (hkeep.wlvifList ▸ hv))
    · split_ifs at heq
      · cases heq
      · refine ih (fun v' hv' => ?_) heq
        rw [hkeep.wlvifList]
        exact hvs v' (by simp [hv'])

/-- The link of a dequeued frame is one that the scheduler looks at. -/
theorem wl1271SkbDequeue_served {wl : Wl1271} (heq : wl1271SkbDequeue wl = (some (skb, h), wl')) :
    Served wl' h := by
  unfold wl1271SkbDequeue at heq
  split at heq
  · rename_i hpass
    cases heq
    exact vifPass_served (fun _ => mem_of_mem_vifsAfterLast) hpass
  · split at heq
    · cases heq
      exact Or.inl rfl
    · split at heq
      · rename_i hpass
        cases heq
        exact vifPass_served (fun _ hv => hv) hpass
      · unfold dummySkbDequeue at heq
        split_ifs at heq
        · cases heq
          exact Or.inl rfl
        · cases heq

theorem wl1271SkbQueueHead_reach {wl : Wl1271} (hs : Served wl h) (v : Option VifId) (skb : Skb) :
    Reach P (some skb, wl) (none, wl1271SkbQueueHead wl v skb h) := by
  unfold wl1271SkbQueueHead
  split_ifs with hd
  · exact .single (.pendAgain hd)
  · rw [Bool.not_eq_true] at hd
    have hback : Reach P (some skb, wl) (none, wl.pushHead h skb) := .single (.putBack hd hs)
    split
    · exact hback.trans (.of_keep (.of_parts rfl rfl rfl rfl rfl) rfl rfl rfl rfl)
    · exact hback.trans (.of_keep (.setLastTxHlid _ _ _) rfl rfl rfl rfl)

/-! ## Preparing a frame -/

theorem cmdEffect_reach (r : CmdRet) : Reach P (hand, wl) (hand, cmdEffect wl r) := by
  cases r with
  | failed e => exact .queueRecovery wl
  | ok => exact .refl _
  | noMem => exact .refl _

theorem prepareAp_reach (env : PrepEnv) (v : Option VifId) (skb : Skb) (h : Hlid) :
    Reach P (hand, wl) (hand, prepareAp wl env v skb h) := by
  dsimp only [prepareAp]
  split
  · exact .refl _
  · split_ifs
    · exact (cmdEffect_reach wl _).trans (wl1271TxRegulateLink_reach _ _ h _)
    · exact wl1271TxRegulateLink_reach ..
    · exact .refl _

theorem prepareWepKey_reach (env : PrepEnv) (v : Option VifId) (skb : Skb) :
    Reach P (hand, wl) (hand, (prepareWepKey wl env v skb).2) := by
  unfold prepareWepKey
  split
  · exact .refl _
  · split_ifs
    · split
      · exact .of_keep (.of_parts rfl rfl rfl rfl rfl) rfl rfl rfl rfl
      · split_ifs
        · exact .refl _
        · split
          · exact .of_keep (.setDefaultKey _ _ _) rfl rfl rfl rfl
          · exact .refl _
          · exact .queueRecovery wl
    · exact .refl _

/-- A WEP command that fails takes the device out of `WLCORE_STATE_ON`. -/
theorem prepareWepKey_error {wl : Wl1271} {env : PrepEnv} {v : Option VifId} {e : Errno}
    (h : prepareWepKey wl env v skb = (.error e, wl')) (he : e = .eagain ∨ e = .ebusy) :
    wl'.state ≠ .on := by
  unfold prepareWepKey at h
  split at h
  · cases h
  · split_ifs at h
    · split at h
      · rcases he with rfl | rfl <;> cases h
      · split_ifs at h
        · cases h
        · split at h
          · cases h
          · rcases he with rfl | rfl <;> cases h
          · cases h
            exact wl.toPower.queueRecoveryWork_not_on
    · cases h

theorem wlcoreHwGetSpareBlocks_le (gem : Bool) : wlcoreHwGetSpareBlocks wl gem ≤ 2 := by
  unfold wlcoreHwGetSpareBlocks
  split <;> split_ifs <;> decide

/-- Every frame needs a spare block. -/
theorem calcTxBlocks_pos (c : Conf) (len : ℕ) (isGem : Bool) :
    0 < wlcoreHwCalcTxBlocks c len (wlcoreHwGetSpareBlocks wl isGem) := by
  have hspare : 0 < wlcoreHwGetSpareBlocks wl isGem := by
    unfold wlcoreHwGetSpareBlocks
    split <;> split <;> omega
  unfold wlcoreHwCalcTxBlocks
  split <;> omega

/-- `wl1271_tx_allocate` places the frame, has no room for it in the aggregation buffer, or
finds the firmware busy. -/
theorem allocated_reach {wl : Wl1271} {v : Option VifId} {skb : Skb} {off : ℕ} {h : Hlid}
    {r : Except Errno TxAlloc × Wl1271} (P : Assume)
    (hpath : TxAllocated wl v skb (txExtraSpace wl.quirks skb) off h (txIsGem skb) r) :
    (∃ a wl', r = (.ok a, wl') ∧ Reach P (some skb, wl) (none, wl')) ∨
      r = (.error .eagain, wl) ∨
      ∃ wl', r = (.error .ebusy, wl') ∧ Reach P (some skb, wl) (some skb, wl') ∧
        BusyReason wl' skb := by
  cases hpath with
  | full => exact Or.inr (Or.inl rfl)
  | noId _ hnone => exact Or.inr (Or.inr ⟨_, rfl, .refl _, Or.inr (Or.inl hnone)⟩)
  | handed _ hid hspare htotal hb =>
    refine Or.inl ⟨_, _, rfl, .single (.commit (by rw [wl1271AllocTxId, hid]) hb ?_)⟩
    rw [htotal, hspare]
    exact calcTxBlocks_pos ..
  | noBlocks _ hid hb =>
    refine Or.inr (Or.inr ⟨_, rfl, .single (.release ?_), Or.inr (Or.inr ?_)⟩)
    · rw [wl1271AllocTxId, hid]
    · unfold wl1271FreeTxId
      split_ifs <;> exact hb

/-- The outcome of preparing a frame that is in hand. -/
theorem wl1271PrepareTxFrame_reach (P : Assume) (wl : Wl1271) (env : PrepEnv)
    (v : Option VifId) (skb : Skb) (off : ℕ) (h : Hlid) :
    (∃ n wl', wl1271PrepareTxFrame wl env v skb off h = (.ok n, wl') ∧
        Reach P (some skb, wl) (none, wl')) ∨
      ∃ e wl', wl1271PrepareTxFrame wl env v skb off h = (.error e, wl') ∧
        Reach P (some skb, wl) (some skb, wl') ∧ (e = .ebusy → BusyReason wl' skb) := by
  have hwep : Reach P (some skb, wl) (some skb, (prepareWepKey wl env v skb).2) :=
    prepareWepKey_reach wl env v skb
  have hquirks : (prepareWepKey wl env v skb).2.quirks = wl.quirks :=
    congrArg Conf.quirks hwep.keep.conf
  dsimp only [wl1271PrepareTxFrame]
  cases heq : prepareWepKey wl env v skb with
  | mk r wl₁ =>
    rw [heq] at hwep hquirks
    cases r with
    | error e =>
      exact Or.inr ⟨e, wl₁, rfl, hwep, fun he => Or.inl (prepareWepKey_error heq (Or.inr he))⟩
    | ok u =>
      dsimp only at hquirks ⊢
      rw [← hquirks]
      rcases allocated_reach P (wl1271TxAllocate_path wl₁ v skb _ off h _) with
        ⟨a, wl₂, ha, hr⟩ | ha | ⟨wl₂, ha, hr, hb⟩ <;> rw [ha]
      · refine Or.inl ⟨_, _, rfl, (hwep.trans hr).trans ?_⟩
        exact (prepareAp_reach wl₂ env v skb h).trans
          (.of_keep (.of_parts rfl rfl rfl rfl rfl) rfl rfl rfl rfl)
      · exact Or.inr ⟨_, _, rfl, hwep, fun he => by cases he⟩
      · exact Or.inr ⟨_, _, rfl, hwep.trans hr, fun _ => hb⟩

/-! ## The transmit loop -/

/-- The frames that arrive during a call of `wlcore_tx_work_locked`. -/
def Offers (F : Skb → Prop) (env : TxWorkEnv) : Prop :=
  ∀ it ∈ env.iters, ∀ skb ∈ it.arrivals, F skb

theorem arrivals_reach {l : List Skb} (hl : ∀ skb ∈ l, P.frame skb) (wl : Wl1271) :
    Reach P (none, wl) (none, l.foldl wl1271OpTx wl) :=
  .foldl (f := wl1271OpTx) (fun _ skb hskb => .single (.opTx (hl skb hskb))) wl

theorem wlcoreHwPrePktSend_reach (off lastLen : ℕ) :
    Reach P (hand, wl) (hand, (wlcoreHwPrePktSend wl off lastLen).2) := by
  dsimp only [wlcoreHwPrePktSend]
  split
  · dsimp only
    split <;> exact .of_keep (.of_parts rfl rfl rfl rfl rfl) rfl rfl rfl rfl
  · exact .refl _

theorem txWorkEagain_reach {wl : Wl1271} (hs : Served wl h) (it : TxIter) (v : Option VifId)
    (skb : Skb) (l : TxLocals) :
    Reach P (some skb, wl) (none, (txWorkEagain wl it v skb h l).2.1) := by
  have hback := (wl1271SkbQueueHead_reach (P := P) hs v skb).trans
    (wlcoreHwPrePktSend_reach _ l.bufOffset l.lastLen)
  dsimp only [txWorkEagain]
  split
  · exact hback.trans (.of_keep (.of_parts rfl rfl rfl rfl rfl) rfl rfl rfl rfl)
  · exact hback

/-- Setting `FW_TX_BUSY` and putting the frame back commute. -/
theorem queueHead_busy_reach {wl : Wl1271} (hb : BusyReason wl skb) (hs : Served wl h)
    (v : Option VifId) :
    Reach P (some skb, wl) (none, { wl1271SkbQueueHead wl v skb h with fwTxBusy := true }) := by
  have heq : { wl1271SkbQueueHead wl v skb h with fwTxBusy := true } =
      wl1271SkbQueueHead { wl with fwTxBusy := true } v skb h := by
    by_cases hd : wl12xxIsDummyPacket wl skb
    · have hd' : wl12xxIsDummyPacket { wl with fwTxBusy := true } skb = true := hd
      simp only [wl1271SkbQueueHead, hd, hd', if_true]
      rfl
    · have hd' : ¬ wl12xxIsDummyPacket { wl with fwTxBusy := true } skb = true := hd
      simp only [wl1271SkbQueueHead, hd, hd']
      cases v <;> rfl
  rw [heq]
  have hs' : Served { wl with fwTxBusy := true } h := hs
  exact (Reach.single (.busy hb)).trans (wl1271SkbQueueHead_reach hs' v skb)

theorem txWorkFrame_reach {wl : Wl1271} (hs : Served wl h) (it : TxIter) (skb : Skb)
    (l : TxLocals) :
    Reach P (some skb, wl) (none, (txWorkFrame wl it skb h l).2.1) := by
  dsimp only [txWorkFrame]
  generalize (if wl12xxIsDummyPacket wl skb = true then none else skb.vif) = v
  have hs' : Served wl (if v.isSome = true then h else systemHlid) := by
    split
    · exact hs
    · exact Or.inl rfl
  generalize (if v.isSome = true then h else systemHlid) = h' at hs' ⊢
  rcases wl1271PrepareTxFrame_reach P wl it.prep v skb l.bufOffset h' with
    ⟨n, wl₁, heq, hr⟩ | ⟨e, wl₁, heq, hr, hb⟩ <;> rw [heq]
  · exact hr.trans (.of_keep (.of_parts rfl rfl rfl rfl rfl) rfl rfl rfl rfl)
  · have hs₁ : Served wl₁ h' := hs'.of_keep hr.keep
    have hother : Reach P (some skb, wl) (none,
        (if wl12xxIsDummyPacket wl₁ skb = true then
            ((some LoopExit.outAck : Option LoopExit), wl1271SkbQueueHead wl₁ v skb h', l)
          else (some .outAck, wl₁.giveBack [skb], l)).2.1) := by
      split
      · exact hr.trans (wl1271SkbQueueHead_reach hs₁ v skb)
      · rename_i hd
        exact hr.trans (.single (.drop (by simpa using hd)))
    cases e with
    | eagain => exact hr.trans (txWorkEagain_reach hs₁ it v skb l)
    | ebusy => exact hr.trans (queueHead_busy_reach (hb rfl) hs₁ v)
    | einval | enomem | eio | eopnotsupp => exact hother

theorem txWorkIter_reach {it : TxIter} (hit : ∀ skb ∈ it.arrivals, P.frame skb) (wl : Wl1271)
    (l : TxLocals) : Reach P (none, wl) (none, (txWorkIter wl it l).2.1) := by
  have hdeq := (arrivals_reach hit wl).trans (wl1271SkbDequeue_reach _)
  unfold txWorkIter
  split <;> rename_i heq <;> rw [heq] at hdeq
  · exact hdeq
  · exact hdeq.trans (txWorkFrame_reach (wl1271SkbDequeue_served heq) it _ l)

theorem txWorkLoop_reach {its : List TxIter} (hits : ∀ it ∈ its, ∀ skb ∈ it.arrivals, P.frame skb)
    (wl : Wl1271) (l : TxLocals) : Reach P (none, wl) (none, (txWorkLoop its wl l).2.1) := by
  induction its generalizing wl l with
  | nil => exact .refl _
  | cons it its ih =>
    have hit := txWorkIter_reach (hits it (by simp)) wl l
    unfold txWorkLoop
    split <;> rename_i heq <;> rw [heq] at hit
    · exact hit
    · exact hit.trans (ih (fun it h => hits it (by simp [h])) _ _)

theorem txWorkOutAck_reach (env : TxWorkEnv) (l : TxLocals) :
    Reach P (none, wl) (none, (txWorkOutAck wl env l).2) := by
  have hsend : Reach P (none, wl) (none, (wlcoreHwPrePktSend wl l.bufOffset l.lastLen).2) :=
    wlcoreHwPrePktSend_reach wl l.bufOffset l.lastLen
  dsimp only [txWorkOutAck]
  split_ifs
  · exact hsend
  · exact hsend.trans (.of_keep (.of_parts rfl rfl rfl rfl rfl) rfl rfl rfl rfl)
  · exact hsend.trans (.of_keep (.of_parts rfl rfl rfl rfl rfl) rfl rfl rfl rfl)
  · exact .refl _
  · exact .of_keep (.of_parts rfl rfl rfl rfl rfl) rfl rfl rfl rfl
  · exact .refl _

theorem wlcoreTxWorkLocked_reach (henv : Offers P.frame env) (wl : Wl1271) :
    Reach P (none, wl) (none, (wlcoreTxWorkLocked wl env).2) := by
  have hloop := txWorkLoop_reach henv wl {}
  unfold wlcoreTxWorkLocked
  split_ifs
  · exact .refl _
  · split <;> rename_i heq <;> rw [heq] at hloop
    · exact hloop
    · exact hloop
    · exact hloop.trans (txWorkOutAck_reach _ env _)

theorem wl1271TxWork_reach (henv : Offers P.frame env) (wl : Wl1271) (elpOk : Bool) :
    Reach P (none, wl) (none, wl1271TxWork wl elpOk env) := by
  have hwork := wlcoreTxWorkLocked_reach henv wl
  unfold wl1271TxWork
  split_ifs
  · exact .queueRecovery wl
  · split <;> rename_i heq <;> rw [heq] at hwork
    · exact hwork.trans (.queueRecovery _)
    · exact hwork

theorem wl1271TxDummyPacket_reach (henv : Offers P.frame env) (hd : P.dummy) (wl : Wl1271) :
    Reach P (none, wl) (none, (wl1271TxDummyPacket wl env).2) := by
  unfold wl1271TxDummyPacket
  split_ifs with hp _
  · exact .refl _
  · exact (Reach.single (.pend (by simpa using hp) hd)).trans (wlcoreTxWorkLocked_reach henv _)
  · exact .single (.pend (by simpa using hp) hd)

theorem txFlushBegin_reach : Reach P (none, wl) (none, txFlushBegin wl) := by
  unfold txFlushBegin
  split_ifs
  · exact .refl _
  · exact .of_keep (.of_parts rfl rfl rfl rfl rfl) rfl rfl rfl rfl

theorem txFlushPoll_reach (henv : Offers P.frame env) (wl : Wl1271) (elpOk : Bool) :
    Reach P (none, wl) (none, txFlushPoll wl elpOk env) := by
  unfold txFlushPoll
  split_ifs
  · exact wl1271TxWork_reach henv wl elpOk
  · exact .refl _

theorem txFlushEnd_reach (timedOut : Bool) : Reach P (none, wl) (none, txFlushEnd wl timedOut) := by
  unfold txFlushEnd
  split_ifs
  · exact (resetAllLinkQueues_reach wl).trans
      (.of_keep (.of_parts rfl rfl rfl rfl rfl) rfl rfl rfl rfl)
  · exact .of_keep (.of_parts rfl rfl rfl rfl rfl) rfl rfl rfl rfl

/-! ## Completions -/

theorem completedFrame_some {wl : Wl1271} {id : ℕ} {slot : TxId}
    (h : completedFrame wl id = some (slot, skb)) : wl.txFrames slot = some skb := by
  unfold completedFrame at h
  split_ifs at h
  obtain ⟨skb', hskb, heq⟩ := Option.map_eq_some_iff.mp h
  cases heq
  exact hskb

theorem completeVif_parts (skb : Skb) :
    (completeVif wl r skb).toTxQueues = wl.toTxQueues ∧
      (completeVif wl r skb).toTxAccounting = wl.toTxAccounting ∧
      (completeVif wl r skb).toWork = wl.toWork := by
  unfold completeVif
  split
  · exact ⟨rfl, rfl, rfl⟩
  · split_ifs <;> exact ⟨rfl, rfl, rfl⟩

theorem wl1271TxCompletePacket_reach : Reach P (none, wl) (none, wl1271TxCompletePacket wl r) := by
  unfold wl1271TxCompletePacket
  split
  · exact .refl _
  · rename_i slot skb heq
    have hslot := completedFrame_some heq
    split_ifs with hd
    · exact .single (.completeDummy hslot hd)
    · obtain ⟨ht, ha, hw⟩ := completeVif_parts wl r skb
      have hkeep := completeVif_keep wl r skb
      have hvif : Reach P (none, wl) (none, completeVif wl r skb) :=
        .of_keep hkeep ht ha (congrArg Work.txPending hw) (congrArg Work.txWorkQueued hw)
      refine hvif.trans (.single (.complete ?_ ?_))
      · rw [show (completeVif wl r skb).txFrames = wl.txFrames from congrArg TxQueues.txFrames ht]
        exact hslot
      · unfold wl12xxIsDummyPacket at hd ⊢
        rw [hkeep.conf]
        simpa using hd

theorem wlcoreTxComplete_reach (fwCounter : ℕ) (queue : ℕ → TxResult) :
    Reach P (none, wl) (none, wlcoreTxComplete wl fwCounter queue) := by
  refine .foldl (fun wl _ _ => ?_) wl
  exact (wl1271TxCompletePacket_reach wl _).trans
    (.of_keep (.of_parts rfl rfl rfl rfl rfl) rfl rfl rfl rfl)

theorem wl18xxTxCompletePacket_reach (b : ℕ) :
    Reach P (none, wl) (none, wl18xxTxCompletePacket wl b) := by
  unfold wl18xxTxCompletePacket
  split
  · exact .refl _
  · rename_i slot skb heq
    have hslot := completedFrame_some heq
    split_ifs with hd
    · exact .single (.completeDummy hslot hd)
    · exact .single (.complete hslot (by simpa using hd))

theorem wl18xxReleaseLoop_reach (released : ℕ → ℕ) (n i : ℕ) (wl : Wl1271) :
    Reach P (none, wl) (none, wl18xxReleaseLoop released n i wl) := by
  induction n generalizing i wl with
  | zero => exact .refl _
  | succ n ih =>
    have hone := wl18xxTxCompletePacket_reach (P := P) wl (released i)
    have hcount (wl' : Wl1271) : Reach P (none, wl')
        (none, { wl' with txResultsCount := u32 (wl'.txResultsCount + 1) }) :=
      .of_keep (.of_parts rfl rfl rfl rfl rfl) rfl rfl rfl rfl
    exact (hone.trans (hcount _)).trans (ih _ _)

theorem wl18xxTxImmediateComplete_reach (idx : ℕ) (released : ℕ → ℕ) :
    Reach P (none, wl) (none, wl18xxTxImmediateComplete wl idx released) := by
  dsimp only [wl18xxTxImmediateComplete]
  split_ifs
  · exact .refl _
  · exact .refl _
  · exact (wl18xxReleaseLoop_reach released _ _ wl).trans
      (.of_keep (.of_parts rfl rfl rfl rfl rfl) rfl rfl rfl rfl)

/-! ## The firmware status -/

theorem wl12xxIrqPsRegulateLink_reach (h : Hlid) (n : ℕ) (found : Bool) :
    Reach P (none, wl) (none, wl12xxIrqPsRegulateLink wl h n found) := by
  dsimp only [wl12xxIrqPsRegulateLink]
  split_ifs
  · exact wl12xxPsLinkEnd_reach wl h
  · exact wl12xxPsLinkStart_reach wl h true found
  · exact .refl _

theorem updateLinkStatus_reach (st : FwStatus) (wl : Wl1271) (h : Hlid) :
    Reach P (none, wl) (none, updateLinkStatus st wl h) := by
  have hcnt (p f : Hlid → ℕ) :
      Reach P (none, wl) (none, { wl with prevFreedPkts := f, allocatedPkts := p }) :=
    .single (.other (.of_parts rfl rfl rfl rfl rfl) rfl ⟨p, f, rfl⟩ ⟨rfl, id⟩)
  exact (hcnt _ _).trans (wl12xxIrqPsRegulateLink_reach _ h _ _)

theorem wl12xxIrqUpdateLinksStatus_reach (st : FwStatus) (wl : Wl1271) (v : VifId) :
    Reach P (none, wl) (none, wl12xxIrqUpdateLinksStatus st wl v) := by
  have hps : Reach P (none, wl) (none, { wl with apFwPsMap := st.linkPsBitmap }) :=
    .of_keep (.psMaps _ _ _) rfl rfl rfl rfl
  exact hps.trans
    (.foldl (f := updateLinkStatus st) (fun wl h _ => updateLinkStatus_reach st wl h) _)

theorem wlcoreFwStatus_reach {wl : Wl1271} (hst : P.status wl st) :
    Reach P (none, wl) (none, wlcoreFwStatus wl st) :=
  (Reach.single (.status hst)).trans
    (.foldl (f := wl12xxIrqUpdateLinksStatus st)
      (fun wl v _ => wl12xxIrqUpdateLinksStatus_reach st wl v) _)

/-! ## The interrupt handler -/

/-- The frames that arrive while a mailbox is handled, and its request for the dummy packet. -/
structure EventOffers (P : Assume) (env : EventEnv) : Prop where
  tx : Offers P.frame env.tx
  dummy : env.dummy = true → P.dummy

/-- The frames that arrive during one iteration of `wlcore_irq_locked`. -/
structure IrqOffers (P : Assume) (it : IrqIter) : Prop where
  arrivals : ∀ k, ∀ skb ∈ it.arrivals k, P.frame skb
  tx : Offers P.frame it.tx
  mboxA : EventOffers P it.mboxA
  mboxB : EventOffers P it.mboxB

theorem arrive_reach (hit : IrqOffers P it) (k : ℕ) (wl : Wl1271) :
    Reach P (none, wl) (none, it.arrive k wl) := arrivals_reach (hit.arrivals k) wl

theorem andThen_reach {wl : Wl1271} {r : IrqRet × Wl1271} {f : Wl1271 → IrqRet × Wl1271}
    (hr : Reach P (none, wl) (none, r.2)) (hf : ∀ wl', Reach P (none, wl') (none, (f wl').2)) :
    Reach P (none, wl) (none, (andThen r f).2) := by
  obtain ⟨ret, wl'⟩ := r
  cases ret
  · exact hr.trans (hf wl')
  · exact hr
  · exact hr

theorem busAccess_reach (ok : Bool) (wl : Wl1271) :
    Reach P (none, wl) (none, (busAccess ok wl).2) := .refl _

theorem wl1271EventHandle_reach {env : EventEnv} (henv : EventOffers P env) (wl : Wl1271) :
    Reach P (none, wl) (none, (wl1271EventHandle env wl).2) := by
  refine andThen_reach (busAccess_reach _ _) fun wl₁ => ?_
  refine andThen_reach ?_ (busAccess_reach _)
  unfold eventDummy
  split_ifs with hd
  · exact wl1271TxDummyPacket_reach henv.tx (henv.dummy hd) wl₁
  · exact .refl _

theorem irqEvent_reach {env : EventEnv} (henv : EventOffers P env) (raised : Bool)
    (wl : Wl1271) : Reach P (none, wl) (none, (irqEvent raised env wl).2) := by
  unfold irqEvent
  split_ifs
  · exact wl1271EventHandle_reach henv wl
  · exact .refl _

theorem wlcoreHwTxImmediateCompl_reach (it : IrqIter) (wl : Wl1271) :
    Reach P (none, wl) (none, wlcoreHwTxImmediateCompl it wl) := by
  unfold wlcoreHwTxImmediateCompl
  split_ifs
  · exact wl18xxTxImmediateComplete_reach ..
  · exact .refl _

theorem wlcoreHwTxDelayedCompl_reach (it : IrqIter) (wl : Wl1271) :
    Reach P (none, wl) (none, (wlcoreHwTxDelayedCompl it wl).2) := by
  unfold wlcoreHwTxDelayedCompl
  split_ifs
  · exact .refl _
  · exact .refl _
  · split
    · exact .refl _
    · exact wlcoreTxComplete_reach ..

theorem irqTxWork_reach (hit : IrqOffers P it) (wl : Wl1271) :
    Reach P (none, wl) (none, (irqTxWork it wl).2) := by
  unfold irqTxWork
  split_ifs
  · exact wlcoreTxWorkLocked_reach hit.tx wl
  · exact .refl _

theorem irqFlushDeferred_reach (it : IrqIter) (wl : Wl1271) :
    Reach P (none, wl) (none, (irqFlushDeferred it wl).2) := by
  dsimp only [irqFlushDeferred]
  split_ifs
  · exact .single .flushDeferred
  · exact .refl _

theorem irqData_reach (hit : IrqOffers P it) (wl : Wl1271) :
    Reach P (none, wl) (none, (irqData it wl).2) := by
  unfold irqData
  split_ifs
  · exact .refl _
  · refine andThen_reach (busAccess_reach _ _) fun wl₁ => ?_
    refine andThen_reach ((arrive_reach hit 3 wl₁).trans (irqTxWork_reach hit _)) fun wl₂ => ?_
    exact andThen_reach ((arrive_reach hit 4 wl₂).trans (wlcoreHwTxDelayedCompl_reach it _))
      (irqFlushDeferred_reach it)

theorem irqBody_reach (hit : IrqOffers P it) (wl : Wl1271) :
    Reach P (none, wl) (none, (irqBody it wl).2) := by
  refine andThen_reach (irqData_reach hit wl) fun wl₁ => ?_
  refine andThen_reach ((arrive_reach hit 5 wl₁).trans (irqEvent_reach hit.mboxA _ _))
    fun wl₂ => ?_
  exact (arrive_reach hit 6 wl₂).trans (irqEvent_reach hit.mboxB _ _)

/-- Every status block that the interrupt loop reads is as assumed in the state in which it is
read. -/
def StatusReads (P : Assume) : ℕ → List IrqIter → Wl1271 → Prop
  | 0, _, _ => True
  | _ + 1, [], _ => True
  | n + 1, it :: its, wl =>
    (∀ st ∈ it.status, P.status (it.arrive 0 { wl with irqRunning := false }) st) ∧
      StatusReads P n its (irqIter it wl).2.2

theorem StatusReads.nil (n : ℕ) (wl : Wl1271) : StatusReads P n [] wl := by
  cases n <;> trivial

theorem StatusReads.cons {wl : Wl1271}
    (hst : ∀ st ∈ it.status, P.status (it.arrive 0 { wl with irqRunning := false }) st)
    (hrest : ∀ n, StatusReads P n its (irqIter it wl).2.2) (n : ℕ) :
    StatusReads P n (it :: its) wl := by
  cases n with
  | zero => trivial
  | succ n => exact ⟨hst, hrest n⟩

theorem StatusReads.mono {Q : Assume} (hPQ : ∀ wl st, P.status wl st → Q.status wl st) {n : ℕ}
    {wl : Wl1271} (h : StatusReads P n its wl) : StatusReads Q n its wl := by
  induction n generalizing its wl with
  | zero => trivial
  | succ n ih =>
    cases its with
    | nil => trivial
    | cons it its => exact ⟨fun st hst => hPQ _ st (h.1 st hst), ih h.2⟩

theorem irqStatus_reach (hit : IrqOffers P it) {wl : Wl1271}
    (hst : P.status (it.arrive 0 { wl with irqRunning := false }) st) :
    Reach P (none, wl) (none, irqStatus it st wl) := by
  have h₀ : Reach P (none, wl) (none, { wl with irqRunning := false }) :=
    .of_keep (.of_parts rfl rfl rfl rfl rfl) rfl rfl rfl rfl
  have h₁ := h₀.trans (arrive_reach hit 0 _)
  have h₂ := (h₁.trans (wlcoreFwStatus_reach hst)).trans (arrive_reach hit 1 _)
  exact (h₂.trans (wlcoreHwTxImmediateCompl_reach it _)).trans (arrive_reach hit 2 _)

theorem irqIter_reach (hit : IrqOffers P it) {wl : Wl1271}
    (hst : ∀ st ∈ it.status, P.status (it.arrive 0 { wl with irqRunning := false }) st) :
    Reach P (none, wl) (none, (irqIter it wl).2.2) := by
  unfold irqIter
  split
  · exact .of_keep (.of_parts rfl rfl rfl rfl rfl) rfl rfl rfl rfl
  · rename_i st heq
    have hst := irqStatus_reach hit (hst st heq)
    split_ifs
    · exact hst
    · exact hst.trans (.of_keep (.of_parts rfl rfl rfl rfl rfl) rfl rfl rfl rfl)
    · exact hst.trans (irqBody_reach hit _)

theorem irqLoop_reach (hits : ∀ it ∈ its, IrqOffers P it) {n : ℕ} {wl : Wl1271}
    (hst : StatusReads P n its wl) : Reach P (none, wl) (none, (irqLoop n its wl).2) := by
  induction n generalizing its wl with
  | zero => exact .refl _
  | succ n ih =>
    cases its with
    | nil => exact .refl _
    | cons it its =>
      have hit := irqIter_reach (hits it (by simp)) hst.1
      have hrest := hst.2
      unfold irqLoop
      split <;> rename_i heq <;> rw [heq] at hit hrest
      · exact hit
      · exact hit.trans (ih (fun it h => hits it (by simp [h])) hrest)

/-- The frames that arrive and the status blocks that are read in one run of the handler are as
assumed. -/
structure IrqAssumed (P : Assume) (env : IrqEnv) (wl : Wl1271) : Prop where
  offers : ∀ it ∈ env.iters, IrqOffers P it
  reads : StatusReads P (if wl.quirks.edgeIrq then 1 else 256) env.iters wl

theorem wlcoreIrqLocked_reach {env : IrqEnv} {wl : Wl1271} (henv : IrqAssumed P env wl) :
    Reach P (none, wl) (none, (wlcoreIrqLocked wl env).2) := by
  unfold wlcoreIrqLocked
  split
  · exact .refl _
  · split
    · exact .queueRecovery wl
    · exact irqLoop_reach henv.offers henv.reads

end

end TiWlan.Tx
