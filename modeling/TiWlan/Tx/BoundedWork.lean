import TiWlan.Tx.Prepare
import TiWlan.Tx.Turns

/-!
# The transmit loop ends

`wlcore_tx_work_locked` (`wlcore/tx.c`, lines 683–794) goes on as long as frames are found, puts a
frame back and goes on when the buffer is full, and frames may arrive all the time. The number of
queued frames is no bound. What is used up are the descriptor ids: a frame that is copied takes one
(`wl1271_tx_allocate`, lines 186–242), and none comes back before the loop ends. A frame is only put
back when the buffer has been written to since its last transfer, so that there are no more
transfers than copied frames.

Results:
* `txWorkLoop_bounded`: with `n` free ids there are at most `2 n + 1` turns and `n` transfers, and
  no transfer is of an empty buffer.
* `txWorkLoop_sent`: if the bus works, the frames that were copied are in the transfers and in the
  buffer.
* `txWork_bounded`: one call of `wlcore_tx_work_locked`.
-/

namespace TiWlan.Tx

open TiWlan.Driver
open Function (update)

variable {h : Hlid} {ev log : List TxEvent} {its : List TxIter} {e : LoopExit} {skb : Skb}
  {l : TxLocals} {wl' wl₁ : Wl1271} (wl : Wl1271) (skbs : List Skb)

/-! ## Free descriptor ids -/

/-- The number of descriptor ids that `wl1271_alloc_tx_id` can still give out. -/
def freeIds (wl : Wl1271) : ℕ :=
  (Finset.univ.filter fun i : TxId => i.val < wl.numTxDesc ∧ wl.txFramesMap i = false).card

theorem freeIds_le : freeIds wl ≤ wl.numTxDesc := by
  have hle := Finset.card_le_card_of_injOn (t := Finset.range wl.numTxDesc)
    (s := Finset.univ.filter fun i : TxId => i.val < wl.numTxDesc ∧ wl.txFramesMap i = false)
    Fin.val (fun i hi => by simpa using (Finset.mem_filter.mp hi).2.1)
    (fun i _ j _ hij => Fin.ext hij)
  rwa [Finset.card_range] at hle

theorem freeIds_congr {wl : Wl1271} (hconf : wl'.toConf = wl.toConf)
    (hmap : wl'.txFramesMap = wl.txFramesMap) : freeIds wl' = freeIds wl := by
  unfold freeIds
  rw [hconf, hmap]

/-- An id is taken. -/
theorem freeIds_alloc {wl : Wl1271} {i : TxId}
    (hid : findFirstZeroBit wl.txFramesMap wl.numTxDesc = some i) (hconf : wl'.toConf = wl.toConf)
    (hmap : wl'.txFramesMap = update wl.txFramesMap i true) : freeIds wl' + 1 = freeIds wl := by
  obtain ⟨hlt, hfree⟩ := findFirstZeroBit_some hid
  have hmem : i ∈ Finset.univ.filter fun i : TxId =>
      i.val < wl.numTxDesc ∧ wl.txFramesMap i = false := by simp [hlt, hfree]
  have herase : (Finset.univ.filter fun j : TxId =>
      j.val < wl'.numTxDesc ∧ wl'.txFramesMap j = false) =
      (Finset.univ.filter fun j : TxId =>
        j.val < wl.numTxDesc ∧ wl.txFramesMap j = false).erase i := by
    ext j
    simp only [Finset.mem_filter, Finset.mem_univ, true_and, Finset.mem_erase]
    rw [hconf, hmap]
    by_cases hj : j = i
    · subst hj
      simp
    · rw [Function.update_of_ne hj]
      simp [hj]
  unfold freeIds
  rw [herase, Finset.card_erase_add_one hmem]

theorem arrivals_slots : (skbs.foldl wl1271OpTx wl).txFramesMap = wl.txFramesMap := by
  induction skbs generalizing wl with
  | nil => rfl
  | cons skb skbs ih =>
    rw [List.foldl_cons, ih]
    unfold wl1271OpTx
    split <;> rfl

theorem wl1271SkbDequeue_slots : (wl1271SkbDequeue wl).2.txFramesMap = wl.txFramesMap := by
  have htaken := wl1271SkbDequeue_taken wl
  generalize wl1271SkbDequeue wl = r at htaken
  cases htaken with
  | frame hserved hwork hqueue htaken => rw [htaken]; rfl
  | dummy hidle hpending htaken => rw [htaken]; rfl
  | none hidle hpending hsame => rw [hsame.queues]

/-- Before a frame is prepared, neither an id nor the buffer is touched. -/
structure Found (wl wl' : Wl1271) : Prop where
  conf : wl'.toConf = wl.toConf
  slots : wl'.txFramesMap = wl.txFramesMap
  aggr : wl'.toAggr = wl.toAggr

theorem found_dequeue : Found wl (wl1271SkbDequeue (skbs.foldl wl1271OpTx wl)).2 :=
  ⟨(wl1271SkbDequeue_keep _).conf.trans (TxKeep.foldl wl1271OpTx_keep skbs wl).conf,
    (wl1271SkbDequeue_slots _).trans (arrivals_slots wl skbs),
    (wl1271SkbDequeue_aggr _).trans (arrivals_aggr wl skbs)⟩

theorem Found.freeIds {wl : Wl1271} (h : Found wl wl') : Tx.freeIds wl' = Tx.freeIds wl :=
  freeIds_congr h.conf h.slots

/-! ## A turn that goes on -/

/-- The frames in the buffer were transferred. -/
def Written (a a' : Aggr) : Prop :=
  ∃ w : BusWrite, w.frames = a.aggrFrames ∧ a'.busWrites = w :: a.busWrites

theorem wlcoreHwPrePktSend_queues (off lastLen : ℕ) :
    (wlcoreHwPrePktSend wl off lastLen).2.toTxQueues = wl.toTxQueues := by
  unfold wlcoreHwPrePktSend
  split
  · dsimp only
    split <;> rfl
  · rfl

theorem written_flush (off lastLen len : ℕ) :
    Written wl.toAggr (wlcoreWriteAggrBuf (wlcoreHwPrePktSend wl off lastLen).2 len).toAggr := by
  have hsend : (wlcoreHwPrePktSend wl off lastLen).2.aggrFrames = wl.aggrFrames ∧
      (wlcoreHwPrePktSend wl off lastLen).2.busWrites = wl.busWrites := by
    unfold wlcoreHwPrePktSend
    split
    · dsimp only
      split <;> exact ⟨rfl, rfl⟩
    · exact ⟨rfl, rfl⟩
  exact ⟨⟨len, _, _⟩, hsend.1, congrArg (_ :: ·) hsend.2⟩

/-- How a turn goes on: a frame was copied, or the buffer was written to the bus. -/
inductive GoesOn (wl : Wl1271) (it : TxIter) (l : TxLocals) :
    List TxEvent → Wl1271 → TxLocals → Prop
  | copied {r : Option (Skb × Hlid)} {skb : Skb} {h : Hlid} {f : AggrFrame} {wl' : Wl1271}
      {l' : TxLocals} (hid : freeIds wl' + 1 = freeIds wl) (hoff : 0 < l'.bufOffset)
      (hframes : wl'.aggrFrames = (if l.bufOffset = 0 then [] else wl.aggrFrames) ++ [f])
      (hwrites : wl'.busWrites = wl.busWrites) :
      GoesOn wl it l (arrivalEvents wl it.arrivals ++ [.dequeue r, .copy skb h f]) wl' l'
  | full {r : Option (Skb × Hlid)} {wl' : Wl1271} {l' : TxLocals}
      (hids : freeIds wl' = freeIds wl) (hpos : 0 < l.bufOffset) (hoff : l'.bufOffset = 0)
      (hwritten : Written wl.toAggr wl'.toAggr) :
      GoesOn wl it l (arrivalEvents wl it.arrivals ++ [.dequeue r, .write l.bufOffset true]) wl' l'

theorem wl1271SkbQueueHead_slots (v : Option VifId) (skb : Skb) (h : Hlid) :
    (wl1271SkbQueueHead wl v skb h).txFramesMap = wl.txFramesMap := by
  unfold wl1271SkbQueueHead
  split
  · rfl
  · split <;> rfl

/-- A full buffer on a bus that works. -/
theorem txWorkEagain_written {wl : Wl1271} {it : TxIter} {v : Option VifId} {l' : TxLocals}
    (heq : txWorkEagain wl it v skb h l = (none, wl', l')) :
    it.busOk = true ∧ freeIds wl' = freeIds wl ∧ l'.bufOffset = 0 ∧
      Written wl.toAggr wl'.toAggr := by
  have hsend := wlcoreHwPrePktSend_queues (wl1271SkbQueueHead wl v skb h) l.bufOffset l.lastLen
  have hconf := (wlcoreHwPrePktSend_keep (wl1271SkbQueueHead wl v skb h) l.bufOffset
    l.lastLen).conf.trans (wl1271SkbQueueHead_keep wl v skb h).conf
  have hwritten := written_flush (wl1271SkbQueueHead wl v skb h) l.bufOffset l.lastLen
  rw [wl1271SkbQueueHead_aggr] at hwritten
  dsimp only [txWorkEagain] at heq
  split at heq
  · rename_i hbus
    cases heq
    refine ⟨hbus, freeIds_congr hconf ?_, rfl, hwritten _⟩
    exact (congrArg TxQueues.txFramesMap hsend).trans (wl1271SkbQueueHead_slots wl v skb h)
  · cases heq

section
variable {c : Conf} {wl wl' : Wl1271} {it : TxIter} {l l' : TxLocals}

/-- The frame that is dequeued fits into an empty buffer. -/
theorem dequeue_fits (hq : Queued (FitsAggr c) (none, wl)) (hit : IterFits c it)
    (hdeq : wl1271SkbDequeue (it.arrivals.foldl wl1271OpTx wl) = (some (skb, h), wl₁)) :
    FitsAggr c skb := by
  have hreach := (arrivals_reach (P := .frames (FitsAggr c)) hit.arrivals wl).trans
    (wl1271SkbDequeue_reach _)
  rw [hdeq] at hreach
  exact (queued_reach (fun _ hs => hs) hreach hq).hand skb rfl

/-- The buffer is only full when something is in it. -/
theorem full_offset_pos (hconf : wl.toConf = c) (hq : Queued (FitsAggr c) (none, wl))
    (hit : IterFits c it) {wl₂ : Wl1271}
    (hdeq : wl1271SkbDequeue (it.arrivals.foldl wl1271OpTx wl) = (some (skb, h), wl₁))
    (hprep : wl1271PrepareTxFrame wl₁ it.prep (frameVif wl₁ skb) skb l.bufOffset
      (frameLink wl₁ skb h) = (.error .eagain, wl₂)) : 0 < l.bufOffset := by
  have hfound := found_dequeue wl it.arrivals
  rw [hdeq] at hfound
  exact wl1271PrepareTxFrame_eagain (hfound.conf.trans hconf) (dequeue_fits hq hit hdeq) hit.wepKey
    hprep

theorem txWorkIter_goesOn (hconf : wl.toConf = c) (hq : Queued (FitsAggr c) (none, wl))
    (hit : IterFits c it) (hiter : txWorkIter wl it l = (none, wl', l')) :
    GoesOn wl it l (iterEvents wl it l) wl' l' := by
  obtain ⟨ev, hev, hcase⟩ := txWorkIter_cases wl it l
  have hfound := found_dequeue wl it.arrivals
  rw [hev, hiter] at *
  generalize hr : ((none : Option LoopExit), wl', l') = r at hcase
  cases hcase with
  | idle hdeq => cases hr
  | @frame skb h wl₁ ev r hdeq hframe =>
    rw [hdeq] at hfound
    cases hframe with
    | @copied n wl₂ hprep =>
      cases hr
      have hp := wl1271PrepareTxFrame_ok hprep
      have hk := wl1271PrepareTxFrame_keep wl₁ it.prep (frameVif wl₁ skb) skb l.bufOffset
        (frameLink wl₁ skb h)
      rw [hprep] at hk
      obtain ⟨i, hid, hmap⟩ := hp.id
      obtain ⟨id, blocks, hframes⟩ := hp.buffer
      have hlast : lastCopied wl₂ = ⟨id, frameLink wl₁ skb h, blocks,
          txFrameBytes skb.data (txExtraSpace wl₁.quirks skb)⟩ := by
        unfold lastCopied
        rw [hframes]
        simp
      rw [hlast]
      refine .copied ?_ ?_ ?_ ?_
      · rw [← hfound.freeIds]
        have halloc : freeIds { wl₂ with txPacketsCount := wl₂.txPacketsCount + 1 } + 1 =
            freeIds wl₁ := freeIds_alloc hid hk.conf hmap
        exact halloc
      · have hsize := hp.size
        show 0 < l.bufOffset + n
        omega
      · rw [← hfound.aggr]
        exact hframes
      · rw [← hfound.aggr]
        exact hp.writes
    | @full wl₂ hprep =>
      have hpos := full_offset_pos hconf hq hit hdeq hprep
      have haggr := wl1271PrepareTxFrame_error_aggr hprep
      obtain ⟨hwait, hslots⟩ := wl1271PrepareTxFrame_error_wait hprep
      obtain ⟨hbus, hids, hoff, hwritten⟩ := txWorkEagain_written hr.symm
      rw [haggr, hfound.aggr] at hwritten
      rw [hbus]
      refine .full ?_ hpos hoff hwritten
      rw [hids, freeIds_congr hwait.conf (hslots rfl), hfound.freeIds]
    | busy | kept | dropped => cases hr

/-- How a turn ends the loop: at `out_ack` with the buffer as it is, or at `out` after a transfer
that failed. -/
inductive Ends (wl : Wl1271) (it : TxIter) (l : TxLocals) :
    List TxEvent → LoopExit → Wl1271 → TxLocals → Prop
  | outAck {r : Option (Skb × Hlid)} {wl' : Wl1271} (haggr : wl'.toAggr = wl.toAggr) :
      Ends wl it l (arrivalEvents wl it.arrivals ++ [.dequeue r]) .outAck wl' l
  | out {r : Option (Skb × Hlid)} {wl' : Wl1271} {l' : TxLocals} (hpos : 0 < l.bufOffset)
      (hbus : it.busOk = false) :
      Ends wl it l (arrivalEvents wl it.arrivals ++ [.dequeue r, .write l.bufOffset false]) .out
        wl' l'

theorem txWorkIter_ends (hconf : wl.toConf = c) (hq : Queued (FitsAggr c) (none, wl))
    (hit : IterFits c it) (hiter : txWorkIter wl it l = (some e, wl', l')) :
    Ends wl it l (iterEvents wl it l) e wl' l' := by
  obtain ⟨ev, hev, hcase⟩ := txWorkIter_cases wl it l
  have hfound := found_dequeue wl it.arrivals
  rw [hev]
  rw [hiter] at hcase
  generalize hr : (some e, wl', l') = r at hcase
  cases hcase with
  | idle hdeq =>
    cases hr
    rw [hdeq] at hfound
    exact .outAck hfound.aggr
  | @frame skb h wl₁ ev r hdeq hframe =>
    rw [hdeq] at hfound
    cases hframe with
    | copied hprep => cases hr
    | full hprep =>
      have hpos := full_offset_pos hconf hq hit hdeq hprep
      dsimp only [txWorkEagain] at hr
      split at hr
      · cases hr
      · rename_i hbus
        cases hr
        have hbus : it.busOk = false := by simpa using hbus
        rw [hbus]
        exact .out hpos hbus
    | busy hprep =>
      cases hr
      exact .outAck ((wl1271SkbQueueHead_aggr _ _ _ _).trans
        ((wl1271PrepareTxFrame_error_aggr hprep).trans hfound.aggr))
    | kept heagain hebusy hprep hd =>
      cases hr
      exact .outAck ((wl1271SkbQueueHead_aggr _ _ _ _).trans
        ((wl1271PrepareTxFrame_error_aggr hprep).trans hfound.aggr))
    | dropped heagain hebusy hprep hd =>
      cases hr
      exact .outAck ((wl1271PrepareTxFrame_error_aggr hprep).trans hfound.aggr)

end

/-! ## How many turns -/

/-- The buffer is in use. -/
def inUse (l : TxLocals) : ℕ := if 0 < l.bufOffset then 1 else 0

/-- No transfer so far was of an empty buffer. -/
def NoEmptyWrite (log : List TxEvent) : Prop := ∀ off ok, .write off ok ∈ log → 0 < off

/-- The invariant of the loop. A turn that goes on takes an id or makes a transfer; the transfers
and the buffer in use are paid for by ids. -/
structure Counted (wl₀ : Wl1271) (log : List TxEvent) (wl : Wl1271) (l : TxLocals) : Prop where
  conf : wl.toConf = wl₀.toConf
  fits : Queued (FitsAggr wl₀.toConf) (none, wl)
  turns : dequeues log + freeIds wl = freeIds wl₀ + writes log
  paid : writes log + inUse l + freeIds wl ≤ freeIds wl₀
  nonempty : NoEmptyWrite log

/-- What is left of it after the loop. -/
structure CountedEnd (wl₀ : Wl1271) (log : List TxEvent) (e : LoopExit) (l : TxLocals) : Prop where
  turns : dequeues log ≤ 2 * freeIds wl₀ + 1
  running : e = .running → dequeues log ≤ 2 * freeIds wl₀
  paid : writes log ≤ freeIds wl₀
  outAck : e = .outAck → writes log + inUse l ≤ freeIds wl₀
  nonempty : NoEmptyWrite log

theorem NoEmptyWrite.append (h : NoEmptyWrite log) (h' : NoEmptyWrite ev) :
    NoEmptyWrite (log ++ ev) := by
  intro off ok hmem
  rcases List.mem_append.mp hmem with hmem | hmem
  · exact h off ok hmem
  · exact h' off ok hmem

theorem noEmptyWrite_turn {wl : Wl1271} {skbs : List Skb} (h : NoEmptyWrite ev) :
    NoEmptyWrite (arrivalEvents wl skbs ++ ev) := by
  refine NoEmptyWrite.append (fun off ok hmem => ?_) h
  obtain ⟨_, -, _, hev⟩ := arrivalEvents_mem hmem
  cases hev

section
variable {wl₀ wl wl' : Wl1271} {log : List TxEvent} {it : TxIter} {l l' : TxLocals}

theorem Counted.goesOn (h : Counted wl₀ log wl l) (hit : IterFits wl₀.toConf it)
    (hiter : txWorkIter wl it l = (none, wl', l')) :
    Counted wl₀ (log ++ iterEvents wl it l) wl' l' := by
  have hk := txWorkIter_keep wl it l
  have hreach := txWorkIter_reach (P := .frames (FitsAggr wl₀.toConf)) hit.arrivals wl l
  have hgo := txWorkIter_goesOn h.conf h.fits hit hiter
  rw [hiter] at hk hreach
  have hconf : wl'.toConf = wl₀.toConf := hk.conf.trans h.conf
  have hfits := queued_reach (fun _ hs => hs) hreach h.fits
  have hturns := h.turns
  have hpaid := h.paid
  generalize iterEvents wl it l = ev at hgo
  cases hgo with
  | @copied r skb k f _ _ hid hoff hframes hwrites =>
    have huse : inUse l' = 1 := if_pos hoff
    refine ⟨hconf, hfits, ?_, ?_, h.nonempty.append (noEmptyWrite_turn ?_)⟩
    · simp
      omega
    · simp
      omega
    · intro off ok hmem
      simp at hmem
  | @full r _ _ hids hpos hoff hwritten =>
    have huse : inUse l = 1 := if_pos hpos
    have huse' : inUse l' = 0 := if_neg (by omega)
    refine ⟨hconf, hfits, ?_, ?_, h.nonempty.append (noEmptyWrite_turn ?_)⟩
    · simp
      omega
    · simp
      omega
    · intro off ok hmem
      simp only [List.mem_cons, TxEvent.write.injEq, List.not_mem_nil, or_false] at hmem
      rcases hmem with hmem | ⟨rfl, -⟩
      · cases hmem
      · exact hpos

theorem Counted.ends (h : Counted wl₀ log wl l) (hit : IterFits wl₀.toConf it)
    (hiter : txWorkIter wl it l = (some e, wl', l')) :
    CountedEnd wl₀ (log ++ iterEvents wl it l) e l' := by
  have hend := txWorkIter_ends h.conf h.fits hit hiter
  have hturns := h.turns
  have hpaid := h.paid
  generalize iterEvents wl it l = ev at hend
  cases hend with
  | outAck haggr =>
    refine ⟨?_, fun he => (by cases he), ?_, fun _ => ?_, h.nonempty.append (noEmptyWrite_turn ?_)⟩
    · simp
      omega
    · simp
      omega
    · simp
      omega
    · intro off ok hmem
      simp at hmem
  | out hpos hbus =>
    have huse : inUse l = 1 := if_pos hpos
    refine ⟨?_, fun he => (by cases he), ?_, fun he => (by cases he),
      h.nonempty.append (noEmptyWrite_turn ?_)⟩
    · simp
      omega
    · simp
      omega
    · intro off ok hmem
      simp only [List.mem_cons, TxEvent.write.injEq, List.not_mem_nil, or_false] at hmem
      rcases hmem with hmem | ⟨rfl, -⟩
      · cases hmem
      · exact hpos

theorem Counted.running (h : Counted wl₀ log wl l) : CountedEnd wl₀ log .running l := by
  have hturns := h.turns
  have hpaid := h.paid
  exact ⟨by omega, fun _ => by omega, by omega, fun he => (by cases he), h.nonempty⟩

/-- At most two turns for every free id, and one more. -/
theorem txWorkLoop_bounded (hits : ∀ it ∈ its, IterFits wl.toConf it)
    (hq : Queued (FitsAggr wl.toConf) (none, wl)) :
    CountedEnd wl (loopEvents its wl {}) (txWorkLoop its wl {}).1 (txWorkLoop its wl {}).2.2 := by
  have hstart : Counted wl [] wl {} := by
    refine ⟨rfl, hq, by simp, ?_, fun _ _ hmem => (by cases hmem)⟩
    show 0 + 0 + freeIds wl ≤ freeIds wl
    omega
  have hloop := txWorkLoop_induction (I := Counted wl) (Q := fun log e _ l => CountedEnd wl log e l)
    its (fun _ _ _ it hit _ _ h hiter => h.goesOn (hits it hit) hiter)
    (fun _ _ _ it hit _ _ _ h hiter => h.ends (hits it hit) hiter) (fun _ _ _ h => h.running) hstart
  rwa [List.nil_append] at hloop

end

/-! ## What was sent -/

/-- The frames that were copied into the buffer. -/
def copies (log : List TxEvent) : List AggrFrame :=
  log.filterMap fun
    | .copy _ _ f => some f
    | _ => none

@[simp] theorem copies_append (log log' : List TxEvent) :
    copies (log ++ log') = copies log ++ copies log' := List.filterMap_append

@[simp] theorem copies_nil : copies [] = [] := rfl

@[simp] theorem copies_dequeue (r : Option (Skb × Hlid)) (log : List TxEvent) :
    copies (.dequeue r :: log) = copies log := rfl

@[simp] theorem copies_copy (skb : Skb) (h : Hlid) (f : AggrFrame) (log : List TxEvent) :
    copies (.copy skb h f :: log) = f :: copies log := rfl

@[simp] theorem copies_write (off : ℕ) (ok : Bool) (log : List TxEvent) :
    copies (.write off ok :: log) = copies log := rfl

@[simp] theorem copies_arrivals : copies (arrivalEvents wl skbs) = [] := by
  refine List.filterMap_eq_nil_iff.mpr fun ev hev => ?_
  obtain ⟨_, -, _, rfl⟩ := arrivalEvents_mem hev
  rfl

/-- The frames that are in the buffer. -/
def waiting (a : Aggr) (l : TxLocals) : List AggrFrame :=
  if 0 < l.bufOffset then a.aggrFrames else []

/-- The transfers since `a₀`, latest first, and the frames that they carried. -/
def Transferred (a₀ a : Aggr) (n : ℕ) (fs : List AggrFrame) : Prop :=
  ∃ ws : List BusWrite, a.busWrites = ws ++ a₀.busWrites ∧ ws.length = n ∧
    ws.reverse.flatMap BusWrite.frames = fs

/-- What was copied is what was transferred and what is in the buffer. -/
def SentSoFar (a₀ : Aggr) (log : List TxEvent) (a : Aggr) (l : TxLocals) : Prop :=
  ∃ fs, Transferred a₀ a (writes log) fs ∧ copies log = fs ++ waiting a l

theorem Transferred.write {a₀ a a' : Aggr} {n : ℕ} {fs : List AggrFrame}
    (h : Transferred a₀ a n fs) (hw : Written a a') :
    Transferred a₀ a' (n + 1) (fs ++ a.aggrFrames) := by
  obtain ⟨ws, hws, rfl, rfl⟩ := h
  obtain ⟨w, hframes, hwrites⟩ := hw
  refine ⟨w :: ws, ?_, rfl, ?_⟩
  · rw [hwrites, hws]
    rfl
  · simp [hframes]

section
variable {c : Conf} {a₀ : Aggr} {wl wl' : Wl1271} {log : List TxEvent} {it : TxIter}
  {l l' : TxLocals}

theorem SentSoFar.goesOn (h : SentSoFar a₀ log wl.toAggr l) (hconf : wl.toConf = c)
    (hq : Queued (FitsAggr c) (none, wl)) (hit : IterFits c it)
    (hiter : txWorkIter wl it l = (none, wl', l')) :
    SentSoFar a₀ (log ++ iterEvents wl it l) wl'.toAggr l' := by
  have hgo := txWorkIter_goesOn hconf hq hit hiter
  obtain ⟨fs, htrans, hcopies⟩ := h
  generalize iterEvents wl it l = ev at hgo
  cases hgo with
  | @copied r skb k f _ _ hid hoff hframes hwrites =>
    obtain ⟨ws, hws, hlen, hflat⟩ := htrans
    refine ⟨fs, ⟨ws, hwrites.trans hws, ?_, hflat⟩, ?_⟩
    · simp [hlen]
    · have hwaiting : waiting wl'.toAggr l' = waiting wl.toAggr l ++ [f] := by
        unfold waiting
        rw [if_pos hoff, hframes]
        rcases Nat.eq_zero_or_pos l.bufOffset with hzero | hpos
        · simp [hzero]
        · rw [if_neg (by omega), if_pos hpos]
      simp [hwaiting, hcopies]
  | full hids hpos hoff hwritten =>
    have hwaiting : waiting wl.toAggr l = wl.aggrFrames := if_pos hpos
    have hempty : waiting wl'.toAggr l' = [] := if_neg (by omega)
    refine ⟨fs ++ wl.aggrFrames, ?_, ?_⟩
    · simpa using htrans.write hwritten
    · simp [hempty, hcopies, hwaiting]

/-- On a bus that works the loop does not end at `out`. -/
theorem SentSoFar.ends (h : SentSoFar a₀ log wl.toAggr l) (hconf : wl.toConf = c)
    (hq : Queued (FitsAggr c) (none, wl)) (hit : IterFits c it) (hbus : it.busOk = true)
    (hiter : txWorkIter wl it l = (some e, wl', l')) :
    e = .outAck ∧ SentSoFar a₀ (log ++ iterEvents wl it l) wl'.toAggr l' := by
  have hend := txWorkIter_ends hconf hq hit hiter
  obtain ⟨fs, htrans, hcopies⟩ := h
  generalize iterEvents wl it l = ev at hend
  cases hend with
  | outAck haggr =>
    refine ⟨rfl, fs, ?_, ?_⟩
    · rw [haggr]
      simpa using htrans
    · rw [haggr]
      simpa using hcopies
  | out hpos hfail =>
    rw [hbus] at hfail
    cases hfail

end

/-- The loop on a bus that works. -/
theorem txWorkLoop_sent {wl : Wl1271} (hits : ∀ it ∈ its, IterFits wl.toConf it)
    (hbus : ∀ it ∈ its, it.busOk = true) (hq : Queued (FitsAggr wl.toConf) (none, wl)) :
    (txWorkLoop its wl {}).1 ≠ .out ∧
      SentSoFar wl.toAggr (loopEvents its wl {}) (txWorkLoop its wl {}).2.1.toAggr
        (txWorkLoop its wl {}).2.2 := by
  have hstart : wl.toConf = wl.toConf ∧ Queued (FitsAggr wl.toConf) (none, wl) ∧
      SentSoFar wl.toAggr [] wl.toAggr {} := ⟨rfl, hq, [], ⟨[], rfl, rfl, rfl⟩, rfl⟩
  have hloop := txWorkLoop_induction
    (I := fun log wl' l => wl'.toConf = wl.toConf ∧ Queued (FitsAggr wl.toConf) (none, wl') ∧
      SentSoFar wl.toAggr log wl'.toAggr l)
    (Q := fun log e wl' l => e ≠ .out ∧ SentSoFar wl.toAggr log wl'.toAggr l) its
    (fun log wl' l it hit wl'' l' h hiter => by
      obtain ⟨hconf, hq, hsent⟩ := h
      have hk := txWorkIter_keep wl' it l
      have hreach := txWorkIter_reach (P := .frames (FitsAggr wl.toConf)) (hits it hit).arrivals
        wl' l
      rw [hiter] at hk hreach
      exact ⟨hk.conf.trans hconf, queued_reach (fun _ hs => hs) hreach hq,
        hsent.goesOn hconf hq (hits it hit) hiter⟩)
    (fun log wl' l it hit e wl'' l' h hiter => by
      obtain ⟨hconf, hq, hsent⟩ := h
      obtain ⟨rfl, hsent⟩ := hsent.ends hconf hq (hits it hit) (hbus it hit) hiter
      exact ⟨by decide, hsent⟩)
    (fun _ _ _ h => ⟨by decide, h.2.2⟩) hstart
  rwa [List.nil_append] at hloop

/-! ## One call -/

section
variable (wl : Wl1271) (env : TxWorkEnv) (l : TxLocals)

theorem txWorkOutAck_ret : (txWorkOutAck wl env l).1 ≠ .running := by
  dsimp only [txWorkOutAck]
  split_ifs <;> simp

@[simp] theorem dequeues_outAck : dequeues (outAckEvents env l) = 0 := by
  unfold outAckEvents
  split <;> simp

theorem writes_outAck : writes (outAckEvents env l) = inUse l := by
  unfold outAckEvents inUse
  split <;> simp

theorem noEmptyWrite_outAck : NoEmptyWrite (outAckEvents env l) := by
  unfold outAckEvents
  split
  · intro off ok hmem
    simp only [List.mem_cons, TxEvent.write.injEq, List.not_mem_nil, or_false] at hmem
    omega
  · intro off ok hmem
    cases hmem

end

/-- What is left in the buffer goes to the bus. -/
theorem SentSoFar.outAck {a₀ : Aggr} {wl : Wl1271} (h : SentSoFar a₀ log wl.toAggr l)
    {env : TxWorkEnv} (hbus : env.busOk = true) :
    Transferred a₀ (txWorkOutAck wl env l).2.toAggr (writes (log ++ outAckEvents env l))
      (copies (log ++ outAckEvents env l)) := by
  obtain ⟨fs, htrans, hcopies⟩ := h
  unfold txWorkOutAck outAckEvents
  by_cases hpos : 0 < l.bufOffset
  · have hwaiting : waiting wl.toAggr l = wl.aggrFrames := if_pos hpos
    have hwrite := htrans.write (written_flush wl l.bufOffset l.lastLen
      (wlcoreHwPrePktSend wl l.bufOffset l.lastLen).1)
    rw [if_pos hpos, if_pos hpos]
    simp only [hbus, Bool.not_true, Bool.false_eq_true, if_false]
    simp only [writes_append, writes_write, writes_nil, copies_append, copies_write, copies_nil,
      List.append_nil, hcopies, hwaiting]
    split <;> exact hwrite
  · have hempty : waiting wl.toAggr l = [] := if_neg hpos
    rw [if_neg hpos, if_neg hpos]
    simp only [List.append_nil, hcopies, hempty]
    split_ifs <;> exact htrans

/-- If all frames fit into the buffer one by one, a call of `wlcore_tx_work_locked` ends within
`2 * num_tx_desc + 2` turns, whatever is queued and whatever arrives. It calls
`wl1271_skb_dequeue` at most that often, hands the buffer to the bus at most `num_tx_desc + 1`
times and never when it is empty. If the bus works, the transfers that it made carried exactly the
frames that it copied, in that order. -/
theorem txWork_bounded (wl : Wl1271) (env : TxWorkEnv)
    (hq : Queued (FitsAggr wl.toConf) (none, wl))
    (hits : ∀ it ∈ env.iters, IterFits wl.toConf it) :
    (2 * wl.numTxDesc + 2 ≤ env.iters.length → (wlcoreTxWorkLocked wl env).1 ≠ .running) ∧
      dequeues (txWorkEvents wl env) ≤ 2 * wl.numTxDesc + 2 ∧
      writes (txWorkEvents wl env) ≤ wl.numTxDesc + 1 ∧
      NoEmptyWrite (txWorkEvents wl env) ∧
      ((∀ it ∈ env.iters, it.busOk = true) → env.busOk = true →
        (wlcoreTxWorkLocked wl env).1 ≠ .running →
        Transferred wl.toAggr (wlcoreTxWorkLocked wl env).2.toAggr (writes (txWorkEvents wl env))
          (copies (txWorkEvents wl env))) := by
  have hbounded := txWorkLoop_bounded hits hq
  have hids := freeIds_le wl
  have hsent (hbus : ∀ it ∈ env.iters, it.busOk = true) := txWorkLoop_sent hits hbus hq
  have hrunning : (txWorkLoop env.iters wl {}).1 = .running →
      dequeues (loopEvents env.iters wl {}) = env.iters.length := loopEvents_running
  unfold wlcoreTxWorkLocked txWorkEvents
  split
  · exact ⟨fun _ => by simp, by simp, by simp, fun _ _ hmem => (by cases hmem),
      fun _ _ _ => ⟨[], rfl, rfl, rfl⟩⟩
  · cases hres : txWorkLoop env.iters wl {} with
    | mk e r =>
      obtain ⟨wl', l⟩ := r
      rw [hres] at hbounded hsent hrunning
      have hturns := hbounded.turns
      have hpaid := hbounded.paid
      cases e with
      | running =>
        have hfew := hbounded.running rfl
        have hall := hrunning rfl
        refine ⟨fun hlen => by omega, ?_, ?_, ?_, fun _ _ hne => absurd rfl hne⟩
        · simp
          omega
        · simp
          omega
        · simpa using hbounded.nonempty
      | out =>
        refine ⟨fun _ => by simp, ?_, ?_, ?_, fun hbus => absurd rfl (hsent hbus).1⟩
        · simp
          omega
        · simp
          omega
        · simpa using hbounded.nonempty
      | outAck =>
        have hlast : writes (loopEvents env.iters wl {}) + inUse l ≤ freeIds wl :=
          hbounded.outAck rfl
        refine ⟨fun _ => txWorkOutAck_ret wl' env l, ?_, ?_, ?_, fun hbus hok _ => ?_⟩
        · simp
          omega
        · have hwrites := writes_outAck env l
          simp
          omega
        · exact hbounded.nonempty.append (noEmptyWrite_outAck env l)
        · exact (hsent hbus).2.outAck hok

/-- Two descriptors and a buffer of one block. -/
def tinyConf : Conf :=
  { chipConf .wl128x with
    numTxDesc := 2
    numTxDesc_le := by decide
    aggrBufSize := 256
    dummyPacket := { wl12xxAllocDummyPacket with data := [] } }

/-- Three frames arrive at once. -/
def tinyEnv : TxWorkEnv :=
  { iters := [{ arrivals := [staFrame 1, staFrame 2, staFrame 3] }, {}, {}, {}, {}, {}] }

/-- The second and the third frame find the buffer full, and in the end there is no descriptor. -/
theorem txWork_bounded_tiny :
    dequeues (txWorkEvents (aggrDriver tinyConf) tinyEnv) = 5 ∧
      writes (txWorkEvents (aggrDriver tinyConf) tinyEnv) = 2 ∧
      (wlcoreTxWorkLocked (aggrDriver tinyConf) tinyEnv).1 ≠ .running ∧
      Transferred (aggrDriver tinyConf).toAggr
        (wlcoreTxWorkLocked (aggrDriver tinyConf) tinyEnv).2.toAggr 2
        (copies (txWorkEvents (aggrDriver tinyConf) tinyEnv)) := by
  have hqueued : Queued (FitsAggr tinyConf) (none, aggrDriver tinyConf) := by
    refine ⟨fun _ _ _ hs => (by cases hs), fun _ hs => (by cases hs), ?_⟩
    unfold FitsAggr
    decide
  have hfits : ∀ it ∈ tinyEnv.iters, IterFits tinyConf it := by
    intro it hit
    simp only [tinyEnv, List.mem_cons, List.not_mem_nil, or_false] at hit
    rcases hit with rfl | rfl | rfl | rfl | rfl | rfl
    · refine ⟨fun skb hskb => ?_, by simp⟩
      simp only [List.mem_cons, List.not_mem_nil, or_false] at hskb
      rcases hskb with rfl | rfl | rfl <;> unfold FitsAggr <;> decide
    all_goals exact ⟨by simp, by simp⟩
  have hbus : ∀ it ∈ tinyEnv.iters, it.busOk = true := by
    intro it hit
    simp only [tinyEnv, List.mem_cons, List.not_mem_nil, or_false] at hit
    rcases hit with rfl | rfl | rfl | rfl | rfl | rfl <;> rfl
  have hwrites : writes (txWorkEvents (aggrDriver tinyConf) tinyEnv) = 2 := by decide +kernel
  obtain ⟨hends, -, -, -, hsent⟩ := txWork_bounded (aggrDriver tinyConf) tinyEnv hqueued hfits
  have hret : (wlcoreTxWorkLocked (aggrDriver tinyConf) tinyEnv).1 ≠ .running := hends (by decide)
  have hsent := hsent hbus rfl hret
  rw [hwrites] at hsent
  exact ⟨by decide +kernel, hwrites, hret, hsent⟩

end TiWlan.Tx
