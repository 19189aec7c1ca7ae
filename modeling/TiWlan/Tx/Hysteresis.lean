import TiWlan.Tx.VifLess

/-!
# When a queue is stopped

`op_tx` stops a queue at the high watermark (`wlcore/main.c`, lines 1240–1253), and
`wl1271_handle_tx_low_watermark` (`wlcore/tx.c`, lines 453–466) wakes it at the low one. The upper
mark is tested where a frame is queued. The lower one is tested at the end of the transmit loop if
something was sent (lines 770–792), and where the queues of a link are emptied. The queues can also
be stopped for other reasons (lines 1150–1241).

A turn of the loop that sends nothing puts its frame back, so that the queues are as long as before.
That is why no test is needed after such a turn; `TurnInv` says it as an invariant of the loop.

Results:
* `handleTxLowWatermark_reason`: which queues the low watermark wakes.
* `txWorkIter_turnInv`: one turn of the loop.
* `queueStop_hysteresis`: the stop reasons and mac80211 agree in every run, and a queue that the
  watermark stops is longer than the low watermark.
-/

namespace TiWlan.Tx

open TiWlan.Lib TiWlan.Driver
open Function (update update_of_ne update_self)

variable {r : QueueStopReason} {l : TxLocals} {env : TxWorkEnv} {wl : Wl1271} (ts : TxStop)

/-! ## Stop reasons -/

/-- mac80211's queues are stopped exactly if there is a reason. -/
def StopExact (ts : TxStop) : Prop := ∀ q, ts.macQueueStopped q = ts.stopped q

/-- A queue that the watermark stops is longer than the low watermark. -/
def AboveLow (ts : TxStop) (count : Ac → ℤ) : Prop :=
  ∀ q, ts.queueStopReasons q .watermark = true → txQueueLowWatermark < count q

section
variable (ts : TxStop) (q : Ac) (r : QueueStopReason)

theorem setReason_reason (b : Bool) (q' : Ac) (r' : QueueStopReason) :
    (ts.setReason q r b).queueStopReasons q' r' =
      if q' = q ∧ r' = r then b else ts.queueStopReasons q' r' :=
  update_update_apply ts.queueStopReasons q r b q' r'

theorem stopQueueLocked_reason (q' : Ac) (r' : QueueStopReason) :
    (ts.stopQueueLocked q r).queueStopReasons q' r' =
      if q' = q ∧ r' = r then true else ts.queueStopReasons q' r' := by
  unfold TxStop.stopQueueLocked
  split <;> exact setReason_reason ts q r true q' r'

theorem wakeQueue_reason (q' : Ac) (r' : QueueStopReason) :
    (ts.wakeQueue q r).queueStopReasons q' r' =
      if q' = q ∧ r' = r then false else ts.queueStopReasons q' r' := by
  unfold TxStop.wakeQueue
  split <;> exact setReason_reason ts q r false q' r'

theorem stopped_iff : ts.stopped q = true ↔ ∃ r, ts.queueStopReasons q r = true := by
  unfold TxStop.stopped
  constructor
  · intro h
    by_contra hnone
    simp only [not_exists, Bool.not_eq_true] at hnone
    simp [hnone] at h
  · rintro ⟨r, hr⟩
    cases r <;> simp [hr]

theorem stopped_setReason_of_ne (b : Bool) {q' : Ac} (hq : q' ≠ q) :
    (ts.setReason q r b).stopped q' = ts.stopped q' := by
  simp [TxStop.stopped, setReason_reason, hq]

theorem stopped_setReason_true : (ts.setReason q r true).stopped q = true :=
  (stopped_iff _ q).mpr ⟨r, by simp [setReason_reason]⟩

/-- A reason that remains was there before. -/
theorem stopped_of_setReason_false (h : (ts.setReason q r false).stopped q = true) :
    ts.stopped q = true := by
  obtain ⟨r', hr'⟩ := (stopped_iff _ q).mp h
  rw [setReason_reason] at hr'
  split at hr'
  · cases hr'
  · exact (stopped_iff ts q).mpr ⟨r', hr'⟩

variable {ts}

theorem StopExact.stopQueueLocked (h : StopExact ts) : StopExact (ts.stopQueueLocked q r) := by
  intro q'
  unfold TxStop.stopQueueLocked
  by_cases hq : q' = q
  · subst hq
    split
    · rename_i hstopped
      exact (h q').trans (hstopped.trans (stopped_setReason_true ts q' r).symm)
    · show update ts.macQueueStopped q' true q' = _
      rw [update_self]
      exact (stopped_setReason_true ts q' r).symm
  · split
    · exact (h q').trans (stopped_setReason_of_ne ts q r true hq).symm
    · show update ts.macQueueStopped q true q' = _
      rw [update_of_ne hq]
      exact (h q').trans (stopped_setReason_of_ne ts q r true hq).symm

theorem StopExact.wakeQueue (h : StopExact ts) : StopExact (ts.wakeQueue q r) := by
  intro q'
  unfold TxStop.wakeQueue
  by_cases hq : q' = q
  · subst hq
    split
    · rename_i hother
      exact (h q').trans ((stopped_of_setReason_false ts q' r hother).trans hother.symm)
    · rename_i hnone
      show update ts.macQueueStopped q' false q' = (ts.setReason q' r false).stopped q'
      rw [update_self]
      simpa using hnone
  · split
    · exact (h q').trans (stopped_setReason_of_ne ts q r false hq).symm
    · show update ts.macQueueStopped q false q' = _
      rw [update_of_ne hq]
      exact (h q').trans (stopped_setReason_of_ne ts q r false hq).symm

/-- The low watermark is one test for each queue. -/
theorem StopExact.lowWatermark (h : StopExact ts) (count : Ac → ℤ) :
    StopExact (ts.handleTxLowWatermark count) := by
  unfold TxStop.handleTxLowWatermark
  generalize allAcs = qs
  induction qs generalizing ts with
  | nil => exact h
  | cons q qs ih =>
    rw [List.foldl_cons]
    refine ih ?_
    split
    · exact h.wakeQueue q .watermark
    · exact h

end

/-- The queues that are not longer than the low watermark are woken, and no others. -/
theorem handleTxLowWatermark_reason (count : Ac → ℤ) (q : Ac) :
    (ts.handleTxLowWatermark count).queueStopReasons q .watermark = true ↔
      ts.queueStopReasons q .watermark = true ∧ txQueueLowWatermark < count q := by
  have hfold (qs : List Ac) (ts : TxStop) :
      (qs.foldl (fun ts q =>
          if ts.queueStopReasons q .watermark ∧ count q ≤ txQueueLowWatermark then
            ts.wakeQueue q .watermark
          else ts) ts).queueStopReasons q .watermark = true ↔
        ts.queueStopReasons q .watermark = true ∧
          (q ∈ qs → txQueueLowWatermark < count q) := by
    induction qs generalizing ts with
    | nil => simp
    | cons q' qs ih =>
      rw [List.foldl_cons, ih]
      by_cases hq : q = q'
      · subst hq
        split_ifs with hlow
        · simp [wakeQueue_reason, not_lt.mpr hlow.2]
        · simp only [not_and, not_le] at hlow
          simp only [List.mem_cons, true_or, true_imp_iff]
          exact ⟨fun h => ⟨h.1, hlow h.1⟩, fun h => ⟨h.1, fun _ => h.2⟩⟩
      · have hstep : (if ts.queueStopReasons q' .watermark ∧ count q' ≤ txQueueLowWatermark then
            ts.wakeQueue q' .watermark else ts).queueStopReasons q .watermark =
            ts.queueStopReasons q .watermark := by
          split
          · simp [wakeQueue_reason, hq]
          · rfl
        rw [hstep]
        simp [hq]
  have hmem : q ∈ allAcs := by fin_cases q <;> decide
  exact (hfold allAcs ts).trans (by simp [hmem])

/-- After the test, the watermark stops long queues only. -/
theorem aboveLow_lowWatermark (count : Ac → ℤ) :
    AboveLow (ts.handleTxLowWatermark count) count := fun q h =>
  ((handleTxLowWatermark_reason ts count q).mp h).2

section
variable {ts : TxStop} {count : Ac → ℤ} {q : Ac} {r : QueueStopReason}

theorem AboveLow.stopQueueLocked (h : AboveLow ts count) (hr : r ≠ .watermark) :
    AboveLow (ts.stopQueueLocked q r) count := by
  intro q' hq'
  rw [stopQueueLocked_reason, if_neg (fun hc => hr hc.2.symm)] at hq'
  exact h q' hq'

theorem AboveLow.wakeQueue (h : AboveLow ts count) : AboveLow (ts.wakeQueue q r) count := by
  intro q' hq'
  rw [wakeQueue_reason] at hq'
  split at hq'
  · cases hq'
  · exact h q' hq'

/-- A queue may become longer. -/
theorem AboveLow.mono (h : AboveLow ts count) {count' : Ac → ℤ} (hle : ∀ q, count q ≤ count' q) :
    AboveLow ts count' := fun q hq => lt_of_lt_of_le (h q hq) (hle q)

end

/-! ## The driver between two operations -/

/-- What holds while nothing is in progress. -/
structure StopInv (wl : Wl1271) : Prop where
  exact : StopExact wl.toTxStop
  low : AboveLow wl.toTxStop wl.txQueueCount

section
variable {wl wl' : Wl1271}

theorem StopExact.wait (h : StopExact wl.toTxStop) (hsame : WaitSame wl wl') :
    StopExact wl'.toTxStop := hsame.stop ▸ h

theorem AboveLow.wait (h : AboveLow wl.toTxStop wl.txQueueCount) (hsame : WaitSame wl wl') :
    AboveLow wl'.toTxStop wl'.txQueueCount := by
  rw [hsame.stop, hsame.count]
  exact h

theorem StopInv.wait (h : StopInv wl) (hsame : WaitSame wl wl') : StopInv wl' :=
  ⟨h.exact.wait hsame, h.low.wait hsame⟩

/-- The low watermark is tested. -/
theorem stopInv_lowWatermark (h : StopExact wl.toTxStop) :
    StopInv (wl1271HandleTxLowWatermark wl) :=
  ⟨h.lowWatermark _, aboveLow_lowWatermark _ _⟩

/-- The queues of a link are emptied, and the low watermark is tested. -/
theorem stopInv_drain (h : StopExact wl.toTxStop) (l : Hlid) : StopInv (drainLinkQueues wl l) :=
  ⟨h.lowWatermark _, aboveLow_lowWatermark _ _⟩

theorem incCount_le (t : TxQueues) (q q' : Ac) :
    t.txQueueCount q' ≤ (t.incCount q).txQueueCount q' := by
  show _ ≤ update t.txQueueCount q (t.txQueueCount q + 1) q'
  by_cases hq : q' = q
  · subst hq
    rw [update_self]
    omega
  · rw [update_of_ne hq]

theorem StopInv.pendDummy (h : StopInv wl) (skb : Skb) : StopInv (wl.pendDummy skb) :=
  ⟨h.exact, h.low.mono (incCount_le _ skb.ac)⟩

theorem StopExact.opTx (h : StopExact wl.toTxStop) (skb : Skb) :
    StopExact (wl1271OpTx wl skb).toTxStop := by
  unfold wl1271OpTx
  split
  · exact h
  · unfold opTxEnqueue
    dsimp only
    split
    · exact h.stopQueueLocked _ _
    · exact h

/-- A queue is stopped at the high watermark, far above the low one. -/
theorem AboveLow.opTx (h : AboveLow wl.toTxStop wl.txQueueCount) (skb : Skb) :
    AboveLow (wl1271OpTx wl skb).toTxStop (wl1271OpTx wl skb).txQueueCount := by
  unfold wl1271OpTx
  split
  · exact h
  · rename_i l _
    have hmono : AboveLow wl.toTxStop (wl.toTxQueues.enqueue l skb).txQueueCount :=
      h.mono (incCount_le _ skb.ac)
    unfold opTxEnqueue
    dsimp only
    split
    · rename_i hhigh
      intro q hq
      rw [stopQueueLocked_reason] at hq
      by_cases hqs : q = skb.ac
      · subst hqs
        have hle : txQueueHighWatermark ≤ (wl.toTxQueues.enqueue l skb).txQueueCount skb.ac :=
          hhigh.1
        have hmarks : txQueueLowWatermark < txQueueHighWatermark := by decide
        exact lt_of_lt_of_le hmarks hle
      · rw [if_neg (fun hc => hqs hc.1)] at hq
        exact hmono q hq
    · exact hmono

theorem StopInv.opTx (h : StopInv wl) (skb : Skb) : StopInv (wl1271OpTx wl skb) :=
  ⟨h.exact.opTx skb, h.low.opTx skb⟩

end

/-! ## One turn of the loop -/

/-- Allocations, firmware commands and bus accesses succeed. -/
structure EnvSucceeds (env : TxWorkEnv) : Prop where
  wepKey : ∀ it ∈ env.iters, it.prep.wepKey = .ok
  iterBus : ∀ it ∈ env.iters, it.busOk = true
  bus : env.busOk = true
  hostWr : env.hostWrOk = true

section
variable {wl wl' : Wl1271} {env : PrepEnv} {v : Option VifId} {skb : Skb} {off : ℕ} {h : Hlid}

theorem prepareWepKey_succeeds (henv : env.wepKey = .ok) (wl : Wl1271) (u : VifId) (skb : Skb) :
    (prepareWepKey wl env (some u) skb).1 = .ok () := by
  unfold prepareWepKey
  cases skb.hwKey with
  | none => rfl
  | some key =>
    dsimp only
    split_ifs
    · rfl
    · rw [henv]
    · rfl

/-- If the commands succeed, a frame is not dropped. -/
theorem prepare_dropped_oops (henv : env.wepKey = .ok) {e : Errno}
    (heq : wl1271PrepareTxFrame wl env v skb off h = (.error e, wl')) (heagain : e ≠ .eagain)
    (hebusy : e ≠ .ebusy) : wl'.oops = true := by
  cases v with
  | none =>
    cases hwep : usesWep skb with
    | true =>
      unfold wl1271PrepareTxFrame at heq
      rw [prepareWepKey_noVif, if_pos hwep] at heq
      cases heq
      rfl
    | false =>
      rcases prepare_noVif wl env skb off h hwep with
        ⟨-, n, wl₁, hprep, -⟩ | ⟨-, e', wl₁, hprep, he, -⟩
      · cases hprep.symm.trans heq
      · cases hprep.symm.trans heq
        exact absurd he (by simp [heagain, hebusy])
  | some u =>
    have hkey := prepareWepKey_succeeds henv wl u skb
    have hquirks : (prepareWepKey wl env (some u) skb).2.quirks = wl.quirks :=
      congrArg Conf.quirks (prepareWepKey_keep wl env (some u) skb).conf
    dsimp only [wl1271PrepareTxFrame] at heq
    cases hwep : prepareWepKey wl env (some u) skb with
    | mk r wl₁ =>
      rw [hwep] at hkey heq hquirks
      dsimp only at hkey hquirks
      subst hkey
      dsimp only at heq
      rw [← hquirks] at heq
      rcases allocated_room (wl1271TxAllocate_path wl₁ (some u) skb _ off h _) with
        ⟨-, a, wl₂, halloc⟩ | ⟨-, e', wl₂, halloc, he⟩
      · simp only [halloc] at heq
        cases heq
      · simp only [halloc] at heq
        cases heq
        exact absurd he (by simp [heagain, hebusy])

theorem prepare_oops_mono (wl : Wl1271) (env : PrepEnv) (v : Option VifId) (skb : Skb) (off : ℕ)
    (h : Hlid) (hoops : (wl1271PrepareTxFrame wl env v skb off h).2.oops = false) :
    wl.oops = false := by
  cases v with
  | some u => rwa [prepare_vif_oops] at hoops
  | none =>
    cases hwep : usesWep skb with
    | true =>
      unfold wl1271PrepareTxFrame at hoops
      rw [prepareWepKey_noVif, if_pos hwep] at hoops
      cases hoops
    | false =>
      rcases prepare_noVif wl env skb off h hwep with
        ⟨-, n, wl₁, hprep, hwl₁⟩ | ⟨-, e', wl₁, hprep, -, hwl₁⟩ <;> rw [hprep] at hoops <;>
        exact hwl₁.symm.trans hoops

end

theorem arrivals_oops (skbs : List Skb) (wl : Wl1271) :
    (skbs.foldl wl1271OpTx wl).oops = wl.oops := by
  refine foldl_oops (fun wl skb => ?_) skbs wl
  unfold wl1271OpTx
  split <;> rfl

/-- An absent vif that was read is not forgotten. -/
theorem txWorkIter_oops_mono (wl : Wl1271) (it : TxIter) (l : TxLocals)
    (hoops : (txWorkIter wl it l).2.1.oops = false) : wl.oops = false := by
  rw [← arrivals_oops it.arrivals wl]
  have hchosen := (wl1271SkbDequeue_chosen (it.arrivals.foldl wl1271OpTx wl)).oops
  unfold txWorkIter at hoops
  split at hoops <;> rename_i heq <;> rw [heq] at hchosen
  · exact hchosen.symm.trans hoops
  · rename_i skb h wl₁
    rw [txWorkFrame_oops_eq wl₁ it skb h l rfl] at hoops
    simp only [Bool.or_eq_false_iff] at hoops
    exact hchosen.symm.trans (prepare_oops_mono _ _ _ _ _ _ hoops.1)

/-- What a turn keeps: a queue may fall below the low watermark only if something was sent, since
then it is tested at `out_ack`. -/
structure TurnInv (wl : Wl1271) (l : TxLocals) : Prop where
  exact : StopExact wl.toTxStop
  low : AboveLow wl.toTxStop wl.txQueueCount ∨ 0 < l.bufOffset ∨ l.sentPackets = true

section
variable {wl wl₁ wl₂ : Wl1271} {skb : Skb} {h : Hlid}

theorem wl1271SkbQueueHead_count (wl : Wl1271) (v : Option VifId) (skb : Skb) (h : Hlid) :
    (wl1271SkbQueueHead wl v skb h).txQueueCount =
      update wl.txQueueCount skb.ac (wl.txQueueCount skb.ac + 1) := by
  unfold wl1271SkbQueueHead
  split
  · rfl
  · split <;> rfl

theorem wl1271SkbQueueHead_stop (wl : Wl1271) (v : Option VifId) (skb : Skb) (h : Hlid) :
    (wl1271SkbQueueHead wl v skb h).toTxStop = wl.toTxStop := by
  unfold wl1271SkbQueueHead
  split
  · rfl
  · split <;> rfl

theorem dequeue_count (hdeq : wl1271SkbDequeue wl = (some (skb, h), wl₁)) :
    wl₁.txQueueCount = update wl.txQueueCount skb.ac (wl.txQueueCount skb.ac - 1) := by
  have htaken := wl1271SkbDequeue_taken wl
  rw [hdeq] at htaken
  generalize hr : (some (skb, h), wl₁) = r at htaken
  cases htaken with
  | frame hserved hwork hqueue htaken =>
    cases hr
    rw [htaken]
    rfl
  | dummy hidle hpending htaken =>
    cases hr
    rw [htaken]
    rfl
  | none hidle hpending hsame => cases hr

/-- A frame that is put back leaves the queues as long as they were. -/
theorem putBack_count (hdeq : wl1271SkbDequeue wl = (some (skb, h), wl₁)) (hsame : WaitSame wl₁ wl₂)
    (v : Option VifId) (l : Hlid) :
    (wl1271SkbQueueHead wl₂ v skb l).txQueueCount = wl.txQueueCount := by
  rw [wl1271SkbQueueHead_count, hsame.count, dequeue_count hdeq]
  simp

end

theorem TurnInv.arrivals (h : TurnInv wl l) (skbs : List Skb) :
    TurnInv (skbs.foldl wl1271OpTx wl) l := by
  induction skbs generalizing wl with
  | nil => exact h
  | cons skb skbs ih => exact ih ⟨h.exact.opTx skb, h.low.imp_left fun hlow => hlow.opTx skb⟩

/-- A frame that is put back without anything being sent changes nothing. -/
theorem TurnInv.putBack {wl₁ wl₂ : Wl1271} {skb : Skb} {h : Hlid} (hinv : TurnInv wl l)
    (hdeq : wl1271SkbDequeue wl = (some (skb, h), wl₁)) (hsame : WaitSame wl₁ wl₂)
    (v : Option VifId) (h' : Hlid) : TurnInv (wl1271SkbQueueHead wl₂ v skb h') l := by
  have hchosen := (wl1271SkbDequeue_chosen wl).stop
  rw [hdeq] at hchosen
  have hstop : (wl1271SkbQueueHead wl₂ v skb h').toTxStop = wl.toTxStop :=
    (wl1271SkbQueueHead_stop ..).trans (hsame.stop.trans hchosen)
  refine ⟨hstop ▸ hinv.exact, ?_⟩
  rw [hstop, putBack_count hdeq hsame]
  exact hinv.low

theorem txWorkIter_turnInv {wl' : Wl1271} {it : TxIter} {l' : TxLocals} {e : Option LoopExit}
    (hwep : it.prep.wepKey = .ok) (hbus : it.busOk = true) (h : TurnInv wl l)
    (hiter : txWorkIter wl it l = (e, wl', l')) (hoops : wl'.oops = false) :
    TurnInv wl' l' ∧ e ≠ some .out := by
  obtain ⟨ev, -, hcase⟩ := txWorkIter_cases wl it l
  have h := h.arrivals it.arrivals
  rw [hiter] at hcase
  generalize it.arrivals.foldl wl1271OpTx wl = wl at h hcase
  have hchosen := (wl1271SkbDequeue_chosen wl).stop
  generalize hr : (e, wl', l') = r at hcase
  cases hcase with
  | @idle wl₁ hdeq =>
    cases hr
    have htaken := wl1271SkbDequeue_taken wl
    rw [hdeq] at htaken hchosen
    cases htaken with
    | none hidle hpending hsame =>
      dsimp only at hchosen
      refine ⟨⟨hchosen ▸ h.exact, ?_⟩, by simp⟩
      rw [hchosen, hsame.queues]
      exact h.low
  | @frame skb k wl₁ ev r hdeq hframe =>
    rw [hdeq] at hchosen
    have hexact : StopExact wl₁.toTxStop := hchosen ▸ h.exact
    cases hframe with
    | @copied n wl₂ hprep =>
      cases hr
      have hp := wl1271PrepareTxFrame_ok hprep
      have hexact₂ : StopExact wl₂.toTxStop := by
        rcases hp.wait with hsame | hsame
        · exact hexact.wait hsame
        · exact (stopInv_drain hexact _).exact.wait hsame
      refine ⟨⟨hexact₂, Or.inr (Or.inl ?_)⟩, by simp⟩
      have hsize := hp.size
      show 0 < l.bufOffset + n
      omega
    | @full wl₂ hprep =>
      have hsame := (wl1271PrepareTxFrame_error_wait hprep).1
      have hwait := txWorkEagain_wait wl₂ it (frameVif wl₁ skb) skb (frameLink wl₁ skb k) l
      have hback := h.putBack hdeq hsame (frameVif wl₁ skb) (frameLink wl₁ skb k)
      have hinv := hback.exact.wait hwait
      rw [← hr] at hinv
      dsimp only [txWorkEagain] at hr
      rw [if_pos hbus] at hr
      cases hr
      exact ⟨⟨hinv, Or.inr (Or.inr rfl)⟩, by simp⟩
    | busy hprep =>
      cases hr
      have hback := h.putBack hdeq (wl1271PrepareTxFrame_error_wait hprep).1 (frameVif wl₁ skb)
        (frameLink wl₁ skb k)
      exact ⟨⟨hback.exact, hback.low⟩, by simp⟩
    | kept heagain hebusy hprep hd =>
      cases hr
      exact ⟨h.putBack hdeq (wl1271PrepareTxFrame_error_wait hprep).1 _ _, by simp⟩
    | dropped heagain hebusy hprep hd =>
      cases hr
      have hdrop := prepare_dropped_oops hwep hprep heagain hebusy
      exact absurd (hdrop.symm.trans hoops) (by decide)

/-! ## One call -/

/-- Something was sent: the low watermark is tested. Otherwise nothing has changed. -/
theorem TurnInv.outAck (h : TurnInv wl l) (henv : EnvSucceeds env) :
    StopInv (txWorkOutAck wl env l).2 := by
  have hsend := wlcoreHwPrePktSend_wait wl l.bufOffset l.lastLen
  have hwrite (n : ℕ) : WaitSame wl
      (wlcoreWriteAggrBuf (wlcoreHwPrePktSend wl l.bufOffset l.lastLen).2 n) :=
    hsend.trans ⟨rfl, rfl, rfl, rfl, rfl⟩
  have htest : StopInv (wl1271HandleTxLowWatermark wl) := stopInv_lowWatermark h.exact
  dsimp only [txWorkOutAck]
  rw [henv.bus, henv.hostWr]
  simp only [Bool.not_true, Bool.and_false, Bool.false_eq_true, if_false]
  split_ifs with hoff hsent
  · exact htest.wait (hwrite _).lowWatermark
  · exact htest
  · refine ⟨h.exact, h.low.resolve_right ?_⟩
    simp [hoff, hsent]

/-- The invariant, for a driver that has not crashed. -/
def StopSafe (wl : Wl1271) : Prop := wl.oops = false → StopInv wl

theorem wlcoreTxWorkLocked_stopSafe (henv : EnvSucceeds env)
    (hret : (wlcoreTxWorkLocked wl env).1 ≠ .running) (h : StopSafe wl) :
    StopSafe (wlcoreTxWorkLocked wl env).2 := by
  have hstart : wl.oops = false → TurnInv wl {} := fun hoops =>
    ⟨(h hoops).exact, Or.inl (h hoops).low⟩
  have hturn {wl : Wl1271} {l : TxLocals} {it : TxIter} (hit : it ∈ env.iters)
      {e : Option LoopExit} {wl' : Wl1271} {l' : TxLocals} (h : wl.oops = false → TurnInv wl l)
      (hiter : txWorkIter wl it l = (e, wl', l')) (hoops : wl'.oops = false) :
      TurnInv wl' l' ∧ e ≠ some .out := by
    have hmono := txWorkIter_oops_mono wl it l (by rw [hiter]; exact hoops)
    exact txWorkIter_turnInv (henv.wepKey it hit) (henv.iterBus it hit) (h hmono) hiter hoops
  have hloop := @txWorkLoop_induction (fun _ wl l => wl.oops = false → TurnInv wl l)
    (fun _ e wl l => wl.oops = false → TurnInv wl l ∧ e ≠ .out) env.iters
    (fun _ wl l it hit wl' l' h hiter hoops => (hturn hit h hiter hoops).1)
    (fun _ wl l it hit e wl' l' h hiter hoops =>
      (hturn hit h hiter hoops).imp_right fun hne he => hne (congrArg some he))
    (fun _ _ _ h hoops => ⟨h hoops, by decide⟩) [] wl {} hstart
  unfold wlcoreTxWorkLocked at hret ⊢
  split at hret
  · rename_i hoff
    rw [if_pos hoff]
    exact h
  · rename_i hon
    rw [if_neg hon]
    intro hoops
    cases hres : txWorkLoop env.iters wl {} with
    | mk e r =>
      obtain ⟨wl', l⟩ := r
      rw [hres] at hloop hret hoops
      cases e with
      | running => exact absurd rfl hret
      | out => exact absurd rfl (hloop hoops).2
      | outAck =>
        have hend : wl'.oops = false := (txWorkOutAck_oops wl' env l).symm.trans hoops
        exact (hloop hend).1.outAck henv

theorem StopSafe.queueRecovery (h : StopSafe wl) :
    StopSafe (wl12xxQueueRecoveryWork wl) := fun hoops => (h hoops).wait (.queueRecovery wl)

theorem wl1271TxWork_stopSafe (henv : EnvSucceeds env)
    (hret : (wlcoreTxWorkLocked wl env).1 ≠ .running) (h : StopSafe wl) (elpOk : Bool) :
    StopSafe (wl1271TxWork wl elpOk env) := by
  have hwork := wlcoreTxWorkLocked_stopSafe henv hret h
  unfold wl1271TxWork
  split
  · exact h.queueRecovery
  · split <;> rename_i heq <;> rw [heq] at hwork
    · exact hwork.queueRecovery
    · exact hwork

/-! ## Runs -/

/-- The operations of the data path that change the length of a queue, and the requests to stop
and wake queues for other reasons. -/
inductive QueueOp
  | opTx (skb : Skb)
  | txDummyPacket (env : TxWorkEnv)
  | txWork (elpOk : Bool) (env : TxWorkEnv)
  | psFilterFrames (h : Hlid)
  | resetLinkQueues (h : Hlid)
  | flushBegin
  | flushPoll (elpOk : Bool) (env : TxWorkEnv)
  | flushEnd (timedOut : Bool)
  | stopQueue (q : Ac) (r : QueueStopReason)
  | wakeQueue (q : Ac) (r : QueueStopReason)
  | stopQueues (r : QueueStopReason)
  | wakeQueues (r : QueueStopReason)
  /-- everything but the configuration, the frames and the stop reasons may become what it is in
  `x` -/
  | other (x : Wl1271)

def queueStep (wl : Wl1271) : QueueOp → Wl1271
  | .opTx skb => wl1271OpTx wl skb
  | .txDummyPacket env => (wl1271TxDummyPacket wl env).2
  | .txWork elpOk env => wl1271TxWork wl elpOk env
  | .psFilterFrames h => wl1271PsFilterFrames wl h
  | .resetLinkQueues h => wl1271TxResetLinkQueues wl h
  | .flushBegin => txFlushBegin wl
  | .flushPoll elpOk env => txFlushPoll wl elpOk env
  | .flushEnd timedOut => txFlushEnd wl timedOut
  | .stopQueue q r => wlcoreStopQueue wl q r
  | .wakeQueue q r => wlcoreWakeQueue wl q r
  | .stopQueues r => wlcoreStopQueues wl r
  | .wakeQueues r => wlcoreWakeQueues wl r
  | .other x =>
    { x with
      toConf := wl.toConf, toTxQueues := wl.toTxQueues, toTxStop := wl.toTxStop, oops := wl.oops }

/-- The transmit loop returns, with everything that it asks of its environment succeeding. The
watermark is the business of the driver itself. -/
def QueueOp.Succeeds (wl : Wl1271) : QueueOp → Prop
  | .txDummyPacket env => EnvSucceeds env ∧ (wl1271TxDummyPacket wl env).1 ≠ .running
  | .txWork _ env | .flushPoll _ env =>
    EnvSucceeds env ∧ (wlcoreTxWorkLocked wl env).1 ≠ .running
  | .stopQueue _ r | .wakeQueue _ r | .stopQueues r | .wakeQueues r => r ≠ .watermark
  | _ => True

section
variable {wl : Wl1271}

theorem StopInv.stopQueue (h : StopInv wl) (q : Ac) (hr : r ≠ .watermark) :
    StopInv (wlcoreStopQueue wl q r) :=
  ⟨h.exact.stopQueueLocked q r, h.low.stopQueueLocked hr⟩

theorem StopInv.wakeQueue (h : StopInv wl) (q : Ac) (r : QueueStopReason) :
    StopInv (wlcoreWakeQueue wl q r) :=
  ⟨h.exact.wakeQueue q r, h.low.wakeQueue⟩

theorem StopInv.stopQueues (h : StopInv wl) (hr : r ≠ .watermark) :
    StopInv (wlcoreStopQueues wl r) := by
  have hfold := List.foldlRecOn allAcs (fun ts q => TxStop.stopQueueLocked ts q r)
    (motive := fun ts => StopExact ts ∧ AboveLow ts wl.txQueueCount) ⟨h.exact, h.low⟩
    fun ts hts q _ => ⟨hts.1.stopQueueLocked q r, hts.2.stopQueueLocked hr⟩
  exact ⟨hfold.1, hfold.2⟩

theorem StopInv.wakeQueues (h : StopInv wl) (r : QueueStopReason) :
    StopInv (wlcoreWakeQueues wl r) := by
  have hfold := List.foldlRecOn allAcs (fun ts q => TxStop.wakeQueue ts q r)
    (motive := fun ts => StopExact ts ∧ AboveLow ts wl.txQueueCount) ⟨h.exact, h.low⟩
    fun ts hts q _ => ⟨hts.1.wakeQueue q r, hts.2.wakeQueue⟩
  exact ⟨hfold.1, hfold.2⟩

theorem StopInv.resetAllLinkQueues (h : StopInv wl) : StopInv (resetAllLinkQueues wl) := by
  unfold Driver.resetAllLinkQueues
  exact List.foldlRecOn allHlids wl1271TxResetLinkQueues (motive := StopInv) h
    fun _ hwl l _ => stopInv_drain hwl.exact l

theorem resetAllLinkQueues_oops (wl : Wl1271) : (resetAllLinkQueues wl).oops = wl.oops := by
  have hlink (wl : Wl1271) (h : Hlid) : (wl1271TxResetLinkQueues wl h).oops = wl.oops := rfl
  exact foldl_oops hlink allHlids wl

theorem queueStep_stopSafe (h : StopSafe wl) {op : QueueOp} (hop : op.Succeeds wl) :
    StopSafe (queueStep wl op) := by
  cases op with
  | opTx skb =>
    intro hoops
    have hsame : (wl1271OpTx wl skb).oops = wl.oops := arrivals_oops [skb] wl
    exact (h (hsame.symm.trans hoops)).opTx skb
  | txDummyPacket env =>
    obtain ⟨henv, hret⟩ := hop
    show StopSafe (wl1271TxDummyPacket wl env).2
    unfold wl1271TxDummyPacket at hret ⊢
    have hpend : StopSafe (wl.pendDummy wl.dummyPacket) := fun hoops => (h hoops).pendDummy _
    split_ifs at hret ⊢
    · exact h
    · exact wlcoreTxWorkLocked_stopSafe henv hret hpend
    · exact hpend
  | txWork elpOk env => exact wl1271TxWork_stopSafe hop.1 hop.2 h elpOk
  | psFilterFrames l => exact fun hoops => stopInv_drain (h hoops).exact l
  | resetLinkQueues l => exact fun hoops => stopInv_drain (h hoops).exact l
  | flushBegin =>
    show StopSafe (txFlushBegin wl)
    unfold txFlushBegin
    split
    · exact h
    · exact fun hoops => (h hoops).stopQueues (by decide)
  | flushPoll elpOk env =>
    show StopSafe (txFlushPoll wl elpOk env)
    unfold txFlushPoll
    split
    · exact wl1271TxWork_stopSafe hop.1 hop.2 h elpOk
    · exact h
  | flushEnd timedOut =>
    show StopSafe (txFlushEnd wl timedOut)
    unfold txFlushEnd
    split
    · intro hoops
      have hreset : wl.oops = false := (resetAllLinkQueues_oops wl).symm.trans hoops
      exact (h hreset).resetAllLinkQueues.wakeQueues .flush
    · exact fun hoops => (h hoops).wakeQueues .flush
  | stopQueue q r => exact fun hoops => (h hoops).stopQueue q hop
  | wakeQueue q r => exact fun hoops => (h hoops).wakeQueue q r
  | stopQueues r => exact fun hoops => (h hoops).stopQueues hop
  | wakeQueues r => exact fun hoops => (h hoops).wakeQueues r
  | other x => exact fun hoops => ⟨(h hoops).exact, (h hoops).low⟩

end

/-- In every run that does not crash, mac80211's queue is stopped exactly if there is a reason to
stop it, and a queue that the watermark stops is longer than the low watermark. -/
theorem queueStop_hysteresis (c : Conf) (ops : List QueueOp)
    (hops : Along queueStep (fun wl op => op.Succeeds wl) (wlcoreProbe c) ops)
    (hoops : (run queueStep (wlcoreProbe c) ops).oops = false) (q : Ac) :
    ((run queueStep (wlcoreProbe c) ops).macQueueStopped q = true ↔
        ∃ r, (run queueStep (wlcoreProbe c) ops).queueStopReasons q r = true) ∧
      ((run queueStep (wlcoreProbe c) ops).queueStopReasons q .watermark = true →
        txQueueLowWatermark < (run queueStep (wlcoreProbe c) ops).txQueueCount q) := by
  have hprobe : StopSafe (wlcoreProbe c) := fun _ => ⟨fun _ => rfl, fun _ hq => (by cases hq)⟩
  have hstep (wl : Wl1271) (op : QueueOp) (h : StopSafe wl) (hop : op.Succeeds wl) :
      StopSafe (queueStep wl op) := queueStep_stopSafe h hop
  have hrun : StopSafe (run queueStep (wlcoreProbe c) ops) := Along.induction hstep hprobe hops
  have hinv := hrun hoops
  refine ⟨?_, hinv.low q⟩
  rw [hinv.exact q]
  exact stopped_iff _ q

/-- One frame is sent and one has to wait, while a flush is in progress. -/
def flushingOps : List QueueOp :=
  [.other { staDriver with txBlocksAvailable := 2 }, .opTx (staFrame 1), .opTx (staFrame 2),
    .flushBegin, .flushPoll true { iters := [{}, {}] }]

theorem queueStop_hysteresis_flushing :
    (run queueStep (wlcoreProbe (chipConf .wl128x)) flushingOps).macQueueStopped 0 = true ∧
      ∃ r, (run queueStep (wlcoreProbe (chipConf .wl128x)) flushingOps).queueStopReasons 0 r =
        true := by
  have hops : Along queueStep (fun wl op => op.Succeeds wl) (wlcoreProbe (chipConf .wl128x))
      flushingOps := by
    refine ⟨trivial, trivial, trivial, trivial, ⟨⟨?_, ?_, rfl, rfl⟩, by decide +kernel⟩, trivial⟩
    · simp
    · simp
  have hstopped : (run queueStep (wlcoreProbe (chipConf .wl128x)) flushingOps).macQueueStopped 0 =
      true := by decide +kernel
  exact ⟨hstopped,
    (queueStop_hysteresis (chipConf .wl128x) flushingOps hops (by decide +kernel) 0).1.mp hstopped⟩

end TiWlan.Tx
