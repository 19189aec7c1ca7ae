import TiWlan.Tx.Prepare
import TiWlan.Tx.Turns

/-!
# Frames are sent in the order in which they came

`op_tx` (`wlcore/main.c`, lines 1201–1265) appends a frame to a queue of its link, the transmit
loop (`wlcore/tx.c`, lines 683–794) takes the first frame of a queue, and puts it back to the front
(lines 609–628) if the buffer or the firmware is full. A link and a category together are a *lane*.
The invariant `InOrder` is that the frames of a lane that were copied, followed by those that
are queued, are among those that `op_tx` accepted, in the same order.

Results:
* `InOrder.shrink` and `InOrder.copy`: dropping frames, and copying the first frame of a lane.
* `txWorkIter_inOrder`: one turn of the loop, however it ends.
* `copied_in_order`: every run of `op_tx` and of the loop, with frames being dropped and everything
  else changing in between.
-/

namespace TiWlan.Tx

open TiWlan.Lib TiWlan.Driver
open Function (update update_self)

variable {l : Hlid} {skb : Skb} {wl₁ : Wl1271}

/-! ## Lanes -/

/-- The frame is not the dummy packet. -/
def foreign (c : Conf) (skb : Skb) : Bool := skb.id != c.dummyPacket.id

/-- The frames of a lane that `op_tx` accepted. -/
def acceptedOn (c : Conf) (h : Hlid) (q : Ac) (log : List TxEvent) : List Skb :=
  log.filterMap fun
    | .accept skb k => if k = h ∧ skb.ac = q ∧ foreign c skb then some skb else none
    | _ => none

/-- The frames of a lane that were copied into the aggregation buffer. -/
def copiedOn (c : Conf) (h : Hlid) (q : Ac) (log : List TxEvent) : List Skb :=
  log.filterMap fun
    | .copy skb k _ => if k = h ∧ skb.ac = q ∧ foreign c skb then some skb else none
    | _ => none

/-- The frames of a lane that are queued. -/
def queuedOn (c : Conf) (h : Hlid) (q : Ac) (wl : Wl1271) : List Skb :=
  (wl.txQueue h q).filter (foreign c)

section
variable (c : Conf) (h : Hlid) (q : Ac) (log log' : List TxEvent)

@[simp] theorem acceptedOn_append :
    acceptedOn c h q (log ++ log') = acceptedOn c h q log ++ acceptedOn c h q log' :=
  List.filterMap_append

@[simp] theorem copiedOn_append :
    copiedOn c h q (log ++ log') = copiedOn c h q log ++ copiedOn c h q log' :=
  List.filterMap_append

@[simp] theorem acceptedOn_nil : acceptedOn c h q [] = [] := rfl

@[simp] theorem copiedOn_nil : copiedOn c h q [] = [] := rfl

@[simp] theorem acceptedOn_dequeue (r : Option (Skb × Hlid)) :
    acceptedOn c h q (.dequeue r :: log) = acceptedOn c h q log := rfl

@[simp] theorem copiedOn_dequeue (r : Option (Skb × Hlid)) :
    copiedOn c h q (.dequeue r :: log) = copiedOn c h q log := rfl

@[simp] theorem acceptedOn_write (off : ℕ) (ok : Bool) :
    acceptedOn c h q (.write off ok :: log) = acceptedOn c h q log := rfl

@[simp] theorem copiedOn_write (off : ℕ) (ok : Bool) :
    copiedOn c h q (.write off ok :: log) = copiedOn c h q log := rfl

@[simp] theorem acceptedOn_copy (skb : Skb) (k : Hlid) (f : AggrFrame) :
    acceptedOn c h q (.copy skb k f :: log) = acceptedOn c h q log := rfl

@[simp] theorem copiedOn_accept (skb : Skb) (k : Hlid) :
    copiedOn c h q (.accept skb k :: log) = copiedOn c h q log := rfl

end

/-- The invariant. A frame is queued in its category, and on the system link if it has no vif. -/
structure InOrder (c : Conf) (log : List TxEvent) (wl : Wl1271) : Prop where
  conf : wl.toConf = c
  category : ∀ h q, ∀ skb ∈ wl.txQueue h q, skb.ac = q
  system : ∀ h q, ∀ skb ∈ wl.txQueue h q, skb.vif = none → h = systemHlid
  order : ∀ h q, (copiedOn c h q log ++ queuedOn c h q wl).Sublist (acceptedOn c h q log)

section
variable {c : Conf} {log : List TxEvent} {wl wl' : Wl1271}

/-- Frames are dropped. -/
theorem InOrder.shrink (h : InOrder c log wl) (hconf : wl'.toConf = wl.toConf)
    (hqueue : ∀ l q, (wl'.txQueue l q).Sublist (wl.txQueue l q)) : InOrder c log wl' := by
  refine ⟨hconf.trans h.conf, fun l q skb hs => ?_, fun l q skb hs => ?_, fun l q => ?_⟩
  · exact h.category l q skb ((hqueue l q).subset hs)
  · exact h.system l q skb ((hqueue l q).subset hs)
  · have hsub : (queuedOn c l q wl').Sublist (queuedOn c l q wl) := (hqueue l q).filter _
    exact (hsub.append_left _).trans (h.order l q)

/-- Something happens that is neither an arrival nor a copy. -/
theorem InOrder.silent (h : InOrder c log wl) {ev : List TxEvent}
    (haccepted : ∀ l q, acceptedOn c l q ev = []) (hcopied : ∀ l q, copiedOn c l q ev = []) :
    InOrder c (log ++ ev) wl := by
  refine ⟨h.conf, h.category, h.system, fun l q => ?_⟩
  rw [copiedOn_append, acceptedOn_append, haccepted, hcopied, List.append_nil, List.append_nil]
  exact h.order l q

theorem InOrder.isDummy (h : InOrder c log wl) (skb : Skb) :
    wl12xxIsDummyPacket wl skb = !foreign c skb := by
  unfold wl12xxIsDummyPacket foreign
  rw [h.conf, bne, Bool.not_not, BEq.comm]

/-- The loop handles a queued frame with the link from which it came. -/
theorem InOrder.frameLink (h : InOrder c log wl) {q : Ac} (hmem : skb ∈ wl.txQueue l q)
    (hforeign : foreign c skb = true) : Tx.frameLink wl skb l = l := by
  unfold Tx.frameLink frameVif
  rw [h.isDummy, hforeign]
  cases hvif : skb.vif with
  | some v => rfl
  | none => exact (h.system l q skb hmem hvif).symm

theorem copiedOn_frame (c : Conf) (h : Hlid) (q : Ac) (skb : Skb) (k : Hlid) (f : AggrFrame) :
    copiedOn c h q [.copy skb k f] = if k = h ∧ skb.ac = q ∧ foreign c skb then [skb] else [] := by
  unfold copiedOn
  split_ifs with hlane <;> simp [hlane]

theorem acceptedOn_frame (c : Conf) (h : Hlid) (q : Ac) (skb : Skb) (k : Hlid) :
    acceptedOn c h q [.accept skb k] =
      if k = h ∧ skb.ac = q ∧ foreign c skb then [skb] else [] := by
  unfold acceptedOn
  split_ifs with hlane <;> simp [hlane]

/-- The first frame of a lane is copied; more frames may be dropped. -/
theorem InOrder.copy (h : InOrder c log wl) {q : Ac} {rest : List Skb}
    (hhead : wl.txQueue l q = skb :: rest) (hconf : wl'.toConf = wl.toConf)
    (hrest : (wl'.txQueue l q).Sublist rest)
    (hqueue : ∀ l q, (wl'.txQueue l q).Sublist (wl.txQueue l q)) (f : AggrFrame) :
    InOrder c (log ++ [.copy skb (Tx.frameLink wl skb l) f]) wl' := by
  have hshrink := h.shrink hconf hqueue
  have hmem : skb ∈ wl.txQueue l q := by simp [hhead]
  refine ⟨hshrink.conf, hshrink.category, hshrink.system, fun l' q' => ?_⟩
  rw [copiedOn_append, acceptedOn_append, acceptedOn_copy, acceptedOn_nil, List.append_nil,
    copiedOn_frame]
  split
  · rename_i hlane
    obtain ⟨rfl, rfl, hforeign⟩ := hlane
    rw [h.frameLink hmem hforeign] at *
    obtain rfl : q = skb.ac := (h.category l q skb hmem).symm
    have hlane := h.order l skb.ac
    have hqueued : queuedOn c l skb.ac wl = skb :: rest.filter (foreign c) := by
      unfold queuedOn
      rw [hhead, List.filter_cons_of_pos hforeign]
    rw [hqueued] at hlane
    rw [List.append_assoc]
    refine List.Sublist.trans ?_ hlane
    exact ((hrest.filter _).cons_cons skb).append_left _
  · rw [List.append_nil]
    exact hshrink.order l' q'

/-- The dummy packet is in no lane. -/
theorem InOrder.copyDummy (h : InOrder c log wl) (hskb : foreign c skb = false)
    (hconf : wl'.toConf = wl.toConf) (hqueue : ∀ l q, (wl'.txQueue l q).Sublist (wl.txQueue l q))
    (l : Hlid) (f : AggrFrame) : InOrder c (log ++ [.copy skb l f]) wl' := by
  refine (h.shrink hconf hqueue).silent (fun _ _ => rfl) fun l' q' => ?_
  rw [copiedOn_frame]
  simp [hskb]

/-- `op_tx` appends the frame to its lane, or drops it. -/
theorem InOrder.opTx (h : InOrder c log wl) (skb : Skb) :
    InOrder c (log ++ opTxEvents wl skb) (wl1271OpTx wl skb) := by
  unfold opTxEvents wl1271OpTx
  cases hlink : opTxLink wl skb with
  | none =>
    rw [List.append_nil]
    exact ⟨h.conf, h.category, h.system, h.order⟩
  | some k =>
    have hqueue : (opTxEnqueue (wl.accept skb) k skb).txQueue =
        (wl.toTxQueues.setQueue k skb.ac (wl.txQueue k skb.ac ++ [skb])).txQueue := rfl
    have hmem {s : Skb} (hs : s ∈ wl.txQueue k skb.ac ++ [skb]) :
        s ∈ wl.txQueue k skb.ac ∨ s = skb := by simpa using hs
    have hsystem : skb.vif = none → k = systemHlid := by
      intro hvif
      unfold opTxLink wl12xxTxGetHlid at hlink
      rw [hvif] at hlink
      simp only [Option.filter_eq_some_iff, Option.some.injEq] at hlink
      exact hlink.1.symm
    refine ⟨h.conf, ?_, ?_, fun l q => ?_⟩
    · rw [hqueue]
      refine forall_setQueue (P := fun _ q s => s.ac = q) h.category fun s hs => ?_
      rcases hmem hs with hs | rfl
      · exact h.category k skb.ac s hs
      · rfl
    · rw [hqueue]
      refine forall_setQueue (P := fun l _ s => s.vif = none → l = systemHlid) h.system
        fun s hs => ?_
      rcases hmem hs with hs | rfl
      · exact h.system k skb.ac s hs
      · exact hsystem
    · have hlane := h.order l q
      unfold queuedOn at hlane ⊢
      rw [copiedOn_append, acceptedOn_append, copiedOn_accept, copiedOn_nil, List.append_nil,
        acceptedOn_frame, hqueue, setQueue_apply]
      by_cases hk : l = k ∧ q = skb.ac
      · obtain ⟨rfl, rfl⟩ := hk
        rw [if_pos ⟨rfl, rfl⟩, List.filter_append, ← List.append_assoc]
        refine hlane.append ?_
        by_cases hforeign : foreign c skb = true
        · simp [hforeign]
        · simp [hforeign]
      · rw [if_neg hk, if_neg fun hl => hk ⟨hl.1.symm, hl.2.1.symm⟩, List.append_nil]
        exact hlane

theorem InOrder.arrivals (h : InOrder c log wl) (skbs : List Skb) :
    InOrder c (log ++ arrivalEvents wl skbs) (skbs.foldl wl1271OpTx wl) := by
  induction skbs generalizing log wl with
  | nil =>
    rw [arrivalEvents, List.append_nil]
    exact h
  | cons skb skbs ih =>
    rw [arrivalEvents, ← List.append_assoc]
    exact ih (h.opTx skb)

/-! ## One turn -/

/-- What a turn knows of the frame that it took: it was the first of a lane, or it is the dummy
packet. -/
structure TookFrom (c : Conf) (wl : Wl1271) (skb : Skb) (l : Hlid) (wl₁ : Wl1271) : Prop where
  conf : wl₁.toConf = wl.toConf
  shrink : ∀ l' q, (wl₁.txQueue l' q).Sublist (wl.txQueue l' q)
  lane : foreign c skb = true → ∃ q rest, wl.txQueue l q = skb :: rest ∧
    wl₁.txQueue = update wl.txQueue l (update (wl.txQueue l) q rest)

theorem InOrder.took (h : InOrder c log wl) (hdeq : wl1271SkbDequeue wl = (some (skb, l), wl₁)) :
    TookFrom c wl skb l wl₁ := by
  have hk := wl1271SkbDequeue_keep wl
  have htaken := wl1271SkbDequeue_taken wl
  rw [hdeq] at hk htaken
  generalize hr : (some (skb, l), wl₁) = r at htaken
  cases htaken with
  | @frame p k q rest wl' hserved hwork hqueue htaken =>
    cases hr
    have hqueues : wl₁.txQueue = update wl.txQueue l (update (wl.txQueue l) q rest) := by
      rw [htaken]
      rfl
    refine ⟨hk.conf, fun l' q' => ?_, fun _ => ⟨q, rest, hqueue, hqueues⟩⟩
    rw [hqueues, update_update_apply]
    split
    · rename_i hlane
      rw [hlane.1, hlane.2, hqueue]
      exact List.sublist_cons_self _ _
    · exact List.Sublist.refl _
  | dummy hidle hpending htaken =>
    cases hr
    refine ⟨hk.conf, fun l' q' => ?_, fun hforeign => ?_⟩
    · rw [htaken]
      exact List.Sublist.refl _
    · unfold foreign at hforeign
      rw [h.conf] at hforeign
      simp at hforeign
  | none hidle hpending hsame => cases hr

/-- The lanes shrink further while the frame is prepared. -/
theorem Prepared.shrink {off n : ℕ} {k : Hlid} {wl₂ : Wl1271} (hp : Prepared wl₁ skb off k n wl₂)
    (l : Hlid) (q : Ac) : (wl₂.txQueue l q).Sublist (wl₁.txQueue l q) := by
  rcases hp.wait with hsame | hsame
  · rw [hsame.queue]
  · rw [hsame.queue]
    exact clear_sublist wl₁.txQueue k l q

theorem TookFrom.rest (ht : TookFrom c wl skb l wl₁) (hforeign : foreign c skb = true) :
    ∃ q rest, wl.txQueue l q = skb :: rest ∧ wl₁.txQueue l q = rest := by
  obtain ⟨q, rest, hqueue, hqueues⟩ := ht.lane hforeign
  refine ⟨q, rest, hqueue, ?_⟩
  rw [hqueues, update_self, update_self]

/-- A frame that is put back is where it was; the dummy packet is pending instead. -/
theorem InOrder.putBack (h : InOrder c log wl) {wl₂ : Wl1271} (ht : TookFrom c wl skb l wl₁)
    (hsame : WaitSame wl₁ wl₂) (v : Option VifId) (l' : Hlid) (q' : Ac) :
    ((wl1271SkbQueueHead wl₂ v skb (Tx.frameLink wl₁ skb l)).txQueue l' q').Sublist
      (wl.txQueue l' q') := by
  have hconf₂ : wl₂.toConf = wl.toConf := hsame.conf.trans ht.conf
  have hdummy : wl12xxIsDummyPacket wl₂ skb = !foreign c skb := by
    rw [← h.isDummy]
    unfold wl12xxIsDummyPacket
    rw [hconf₂]
  cases hforeign : foreign c skb with
  | false =>
    simp only [hforeign, Bool.not_false] at hdummy
    have hpend : (wl1271SkbQueueHead wl₂ v skb (Tx.frameLink wl₁ skb l)).txQueue = wl₂.txQueue := by
      unfold wl1271SkbQueueHead
      rw [if_pos hdummy]
      rfl
    rw [hpend, hsame.queue]
    exact ht.shrink l' q'
  | true =>
    simp only [hforeign, Bool.not_true] at hdummy
    obtain ⟨q, rest, hqueue, hqueues⟩ := ht.lane hforeign
    have hmem : skb ∈ wl.txQueue l q := by simp [hqueue]
    have hlink : Tx.frameLink wl₁ skb l = l := by
      rw [frameLink_congr ht.conf, h.frameLink hmem hforeign]
    have hpush : (wl1271SkbQueueHead wl₂ v skb (Tx.frameLink wl₁ skb l)).txQueue =
        update wl₂.txQueue l (update (wl₂.txQueue l) skb.ac (skb :: wl₂.txQueue l skb.ac)) := by
      rw [hlink]
      unfold wl1271SkbQueueHead
      rw [if_neg (by simp [hdummy])]
      split <;> rfl
    rw [hpush, hsame.queue, hqueues, h.category l q skb hmem]
    simp [← hqueue]

/-- One turn of the loop. -/
theorem txWorkIter_inOrder (h : InOrder c log wl) (it : TxIter) (loc : TxLocals) :
    InOrder c (log ++ iterEvents wl it loc) (txWorkIter wl it loc).2.1 := by
  obtain ⟨ev, hev, hcase⟩ := txWorkIter_cases wl it loc
  have h := h.arrivals it.arrivals
  rw [hev, ← List.append_assoc]
  generalize log ++ arrivalEvents wl it.arrivals = log at h ⊢
  generalize it.arrivals.foldl wl1271OpTx wl = wl at h hcase
  generalize txWorkIter _ it loc = r at hcase ⊢
  cases hcase with
  | @idle wl₁ hdeq =>
    have hnone := wl1271SkbDequeue_taken wl
    have hk := wl1271SkbDequeue_keep wl
    rw [hdeq] at hnone hk
    cases hnone with
    | none hidle hpending hsame =>
      refine (h.shrink hk.conf fun l q => ?_).silent (fun _ _ => rfl) fun _ _ => rfl
      rw [hsame.queues]
  | @frame skb l wl₁ ev r hdeq hframe =>
    have ht := h.took hdeq
    have hdequeued : InOrder c (log ++ [.dequeue (some (skb, l))]) wl :=
      h.silent (fun _ _ => rfl) fun _ _ => rfl
    rw [List.append_cons]
    generalize log ++ [.dequeue (some (skb, l))] = log at hdequeued ⊢
    have hback {wl₂ : Wl1271} (hsame : WaitSame wl₁ wl₂) (v : Option VifId) :
        InOrder c log (wl1271SkbQueueHead wl₂ v skb (Tx.frameLink wl₁ skb l)) :=
      hdequeued.shrink ((wl1271SkbQueueHead_keep _ _ _ _).conf.trans (hsame.conf.trans ht.conf))
        (h.putBack ht hsame v)
    cases hframe with
    | @copied n wl₂ hprep =>
      have hp := wl1271PrepareTxFrame_ok hprep
      have hk := wl1271PrepareTxFrame_keep wl₁ it.prep (frameVif wl₁ skb) skb loc.bufOffset
        (Tx.frameLink wl₁ skb l)
      rw [hprep] at hk
      have hconf : wl₂.toConf = wl.toConf := hk.conf.trans ht.conf
      have hqueue (l' : Hlid) (q : Ac) : (wl₂.txQueue l' q).Sublist (wl.txQueue l' q) :=
        (hp.shrink l' q).trans (ht.shrink l' q)
      cases hforeign : foreign c skb with
      | false =>
        refine hdequeued.copyDummy hforeign ?_ ?_ _ _
        · exact hconf
        · exact hqueue
      | true =>
        obtain ⟨q, rest, hhead, hrest⟩ := ht.rest hforeign
        rw [frameLink_congr ht.conf]
        refine hdequeued.copy hhead ?_ ?_ ?_ _
        · exact hconf
        · exact hrest ▸ hp.shrink l q
        · exact hqueue
    | @full wl₂ hprep =>
      have hput := hback (wl1271PrepareTxFrame_error_wait hprep).1 (frameVif wl₁ skb)
      have hwait := txWorkEagain_wait wl₂ it (frameVif wl₁ skb) skb (Tx.frameLink wl₁ skb l) loc
      refine (hput.shrink hwait.conf fun l' q => ?_).silent (fun _ _ => rfl) fun _ _ => rfl
      rw [hwait.queue]
    | busy hprep =>
      have hput := hback (wl1271PrepareTxFrame_error_wait hprep).1 (frameVif wl₁ skb)
      rw [List.append_nil]
      exact hput.shrink rfl fun _ _ => List.Sublist.refl _
    | kept heagain hebusy hprep hd =>
      rw [List.append_nil]
      exact hback (wl1271PrepareTxFrame_error_wait hprep).1 (frameVif wl₁ skb)
    | @dropped e wl₂ heagain hebusy hprep hd =>
      have hsame := (wl1271PrepareTxFrame_error_wait hprep).1
      rw [List.append_nil]
      refine hdequeued.shrink (hsame.conf.trans ht.conf) fun l' q => ?_
      show (wl₂.txQueue l' q).Sublist _
      rw [hsame.queue]
      exact ht.shrink l' q

theorem acceptedOn_outAck (c : Conf) (env : TxWorkEnv) (l : TxLocals) (h : Hlid) (q : Ac) :
    acceptedOn c h q (outAckEvents env l) = [] := by
  unfold outAckEvents
  split <;> simp

theorem copiedOn_outAck (c : Conf) (env : TxWorkEnv) (l : TxLocals) (h : Hlid) (q : Ac) :
    copiedOn c h q (outAckEvents env l) = [] := by
  unfold outAckEvents
  split <;> simp

/-- One call of `wlcore_tx_work_locked`. -/
theorem InOrder.txWork (h : InOrder c log wl) (env : TxWorkEnv) :
    InOrder c (log ++ txWorkEvents wl env) (wlcoreTxWorkLocked wl env).2 := by
  have hloop := txWorkLoop_induction (I := fun log wl _ => InOrder c log wl)
    (Q := fun log _ wl _ => InOrder c log wl) (l := {}) env.iters
    (fun log wl l it _ wl' l' h hiter => by
      have hturn := txWorkIter_inOrder h it l
      rwa [hiter] at hturn)
    (fun log wl l it _ e wl' l' h hiter => by
      have hturn := txWorkIter_inOrder h it l
      rwa [hiter] at hturn)
    (fun _ _ _ h => h) h
  unfold wlcoreTxWorkLocked txWorkEvents
  split
  · rw [List.append_nil]
    exact h
  · cases hres : txWorkLoop env.iters wl {} with
    | mk e r =>
      obtain ⟨wl', l⟩ := r
      rw [hres] at hloop
      rw [← List.append_assoc]
      cases e with
      | running => simpa using hloop
      | out => simpa using hloop
      | outAck =>
        have hqueue : (txWorkOutAck wl' env l).2.txQueue = wl'.txQueue := by
          rcases txWorkOutAck_wait wl' env l with hsame | hsame <;> exact hsame.queue
        refine InOrder.silent (hloop.shrink (txWorkOutAck_keep wl' env l).conf fun k q => ?_)
          (acceptedOn_outAck c env l) (copiedOn_outAck c env l)
        rw [hqueue]

end

/-! ## Runs -/

inductive OrderOp
  | opTx (skb : Skb)
  | txWork (env : TxWorkEnv)
  /-- the firmware asks for the dummy packet -/
  | txDummyPacket (env : TxWorkEnv)
  /-- the frames of a link are filtered, or its queues reset -/
  | drain (h : Hlid)
  /-- anything happens to the rest of the driver -/
  | other (wl : Wl1271)

def orderStep (wl : Wl1271) : OrderOp → Wl1271
  | .opTx skb => wl1271OpTx wl skb
  | .txWork env => (wlcoreTxWorkLocked wl env).2
  | .txDummyPacket env => (wl1271TxDummyPacket wl env).2
  | .drain h => drainLinkQueues wl h
  | .other wl' => { wl' with toConf := wl.toConf, txQueue := wl.txQueue }

/-- What is seen of an operation. -/
def orderEvents (wl : Wl1271) : OrderOp → List TxEvent
  | .opTx skb => opTxEvents wl skb
  | .txWork env => txWorkEvents wl env
  | .txDummyPacket env =>
    if wl.dummyPacketPending || wl.fwTxBusy then []
    else txWorkEvents (wl.pendDummy wl.dummyPacket) env
  | .drain _ => []
  | .other _ => []

theorem InOrder.step {c : Conf} {log : List TxEvent} {wl : Wl1271} (h : InOrder c log wl)
    (op : OrderOp) : InOrder c (log ++ orderEvents wl op) (orderStep wl op) := by
  cases op with
  | opTx skb => exact h.opTx skb
  | txWork env => exact h.txWork env
  | txDummyPacket env =>
    have hpend : InOrder c log (wl.pendDummy wl.dummyPacket) :=
      ⟨h.conf, h.category, h.system, h.order⟩
    dsimp only [orderStep, orderEvents, wl1271TxDummyPacket]
    cases hp : wl.dummyPacketPending with
    | true => simpa using h
    | false =>
      cases hb : wl.fwTxBusy with
      | true => simpa using hpend
      | false => simpa using hpend.txWork env
  | drain l =>
    show InOrder c (log ++ []) (drainLinkQueues wl l)
    rw [List.append_nil]
    exact h.shrink rfl (clear_sublist wl.txQueue l)
  | other wl' =>
    show InOrder c (log ++ []) { wl' with toConf := wl.toConf, txQueue := wl.txQueue }
    rw [List.append_nil]
    exact ⟨h.conf, h.category, h.system, h.order⟩

/-- In every run of `op_tx` and of the transmit loop, the frames of a link and a category are copied
into the aggregation buffer in the order in which `op_tx` accepted them. -/
theorem copied_in_order (c : Conf) (ops : List OrderOp) (h : Hlid) (q : Ac) :
    (copiedOn c h q (observe orderStep orderEvents (wlcoreProbe c) ops)).Sublist
      (acceptedOn c h q (observe orderStep orderEvents (wlcoreProbe c) ops)) := by
  have hprobe : InOrder c [] (wlcoreProbe c) :=
    ⟨rfl, fun _ _ _ hs => (by cases hs), fun _ _ _ hs => (by cases hs),
      fun _ _ => List.Sublist.refl _⟩
  have hrun : InOrder c ([] ++ observe orderStep orderEvents (wlcoreProbe c) ops)
      (run orderStep (wlcoreProbe c) ops) := by
    refine observe_induction ?_ ops hprobe
    intro log wl op h
    exact h.step op
  rw [List.nil_append] at hrun
  exact (List.sublist_append_left _ _).trans (hrun.order h q)

-- Two frames that arrive together leave in this order.
example :
    (copiedOn (chipConf .wl18xx) 1 0 (observe orderStep orderEvents (wlcoreProbe (chipConf .wl18xx))
      [.other (aggrDriver (chipConf .wl18xx)), .txWork aggrEnv])).map Skb.id = [1, 2] := by
  decide +kernel

end TiWlan.Tx
