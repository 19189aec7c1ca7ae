import TiWlan.Tx.Dequeue

/-!
# One turn of the transmit loop

A turn of the `while` loop of `wlcore_tx_work_locked` (`wlcore/tx.c`, lines 700–768) dequeues one
frame and prepares it. `IterCase` lists the ways in which a turn ends, and `TxEvent` records what
can be seen of the loop from outside: the frames that `op_tx` queues meanwhile, the calls of
`wl1271_skb_dequeue`, the frames that are copied into the aggregation buffer, and the transfers of
the buffer.

Results:
* `txWorkIter_cases`: every turn is one of the cases.
* `txWorkLoop_induction`: what every turn keeps, together with the events so far, holds after the
  loop.
* `loopEvents_running`: a loop that is still running has made one call of `wl1271_skb_dequeue` for
  every turn.
-/

namespace TiWlan.Tx

open TiWlan.Driver

variable {l : TxLocals} {wl : Wl1271}

/-! ## Events -/

/-- What the transmit loop and `op_tx` do, as seen from outside. -/
inductive TxEvent
  /-- `op_tx` puts the frame into a queue of the link -/
  | accept (skb : Skb) (h : Hlid)
  /-- `wl1271_skb_dequeue` returns -/
  | dequeue (r : Option (Skb × Hlid))
  /-- the frame is copied into the aggregation buffer, for a link -/
  | copy (skb : Skb) (h : Hlid) (f : AggrFrame)
  /-- the aggregation buffer is handed to the bus, filled up to an offset -/
  | write (offset : ℕ) (ok : Bool)

/-- The vif with which the loop handles a frame (tx.c:704–708). -/
def frameVif (wl : Wl1271) (skb : Skb) : Option VifId :=
  if wl12xxIsDummyPacket wl skb then none else skb.vif

/-- The link with which the loop handles a frame that it dequeued from link `h` (tx.c:709). -/
def frameLink (wl : Wl1271) (skb : Skb) (h : Hlid) : Hlid :=
  if (frameVif wl skb).isSome then h else systemHlid

theorem frameLink_congr {wl' : Wl1271} (hconf : wl'.toConf = wl.toConf) (skb : Skb) (h : Hlid) :
    frameLink wl' skb h = frameLink wl skb h := by
  unfold frameLink frameVif wl12xxIsDummyPacket
  rw [hconf]

def opTxEvents (wl : Wl1271) (skb : Skb) : List TxEvent :=
  match opTxLink wl skb with
  | none => []
  | some h => [.accept skb h]

def arrivalEvents : Wl1271 → List Skb → List TxEvent
  | _, [] => []
  | wl, skb :: skbs => opTxEvents wl skb ++ arrivalEvents (wl1271OpTx wl skb) skbs

/-- The frame that was copied last. -/
def lastCopied (wl : Wl1271) : AggrFrame := wl.aggrFrames.getLastD ⟨0, 0, 0, []⟩

/-- The events of `txWorkFrame`. -/
def frameEvents (wl : Wl1271) (it : TxIter) (skb : Skb) (h : Hlid) (l : TxLocals) :
    List TxEvent :=
  match wl1271PrepareTxFrame wl it.prep (frameVif wl skb) skb l.bufOffset (frameLink wl skb h) with
  | (.ok _, wl') => [.copy skb (frameLink wl skb h) (lastCopied wl')]
  | (.error .eagain, _) => [.write l.bufOffset it.busOk]
  | (.error _, _) => []

/-- The events of `wl1271_skb_dequeue` and of what follows in the same turn. -/
def turnEvents (it : TxIter) (l : TxLocals) : Option (Skb × Hlid) × Wl1271 → List TxEvent
  | (none, _) => [.dequeue none]
  | (some (skb, h), wl) => .dequeue (some (skb, h)) :: frameEvents wl it skb h l

/-- The events of `txWorkIter`. -/
def iterEvents (wl : Wl1271) (it : TxIter) (l : TxLocals) : List TxEvent :=
  arrivalEvents wl it.arrivals ++
    turnEvents it l (wl1271SkbDequeue (it.arrivals.foldl wl1271OpTx wl))

/-- The events of `txWorkLoop`. -/
def loopEvents : List TxIter → Wl1271 → TxLocals → List TxEvent
  | [], _, _ => []
  | it :: its, wl, l =>
    iterEvents wl it l ++
      match txWorkIter wl it l with
      | (some _, _, _) => []
      | (none, wl, l) => loopEvents its wl l

/-- The events of `txWorkOutAck`. -/
def outAckEvents (env : TxWorkEnv) (l : TxLocals) : List TxEvent :=
  if 0 < l.bufOffset then [.write l.bufOffset env.busOk] else []

/-- The events of `wlcore_tx_work_locked`. -/
def txWorkEvents (wl : Wl1271) (env : TxWorkEnv) : List TxEvent :=
  if wl.state ≠ .on then []
  else
    loopEvents env.iters wl {} ++
      match txWorkLoop env.iters wl {} with
      | (.outAck, _, l) => outAckEvents env l
      | _ => []

/-! ## The cases of a turn -/

/-- How a turn for the frame `skb` of link `h` ends, with its events. -/
inductive FrameCase (wl : Wl1271) (it : TxIter) (skb : Skb) (h : Hlid) (l : TxLocals) :
    List TxEvent → Option LoopExit × Wl1271 × TxLocals → Prop
  /-- the frame is in the buffer, and the loop goes on -/
  | copied {n : ℕ} {wl' : Wl1271}
      (hprep : wl1271PrepareTxFrame wl it.prep (frameVif wl skb) skb l.bufOffset
        (frameLink wl skb h) = (.ok n, wl')) :
      FrameCase wl it skb h l [.copy skb (frameLink wl skb h) (lastCopied wl')]
        (none, { wl' with txPacketsCount := wl'.txPacketsCount + 1 },
          { l with lastLen := n, bufOffset := l.bufOffset + n })
  /-- the buffer is full: the frame goes back, the buffer to the bus -/
  | full {wl' : Wl1271}
      (hprep : wl1271PrepareTxFrame wl it.prep (frameVif wl skb) skb l.bufOffset
        (frameLink wl skb h) = (.error .eagain, wl')) :
      FrameCase wl it skb h l [.write l.bufOffset it.busOk]
        (txWorkEagain wl' it (frameVif wl skb) skb (frameLink wl skb h) l)
  /-- the firmware is full -/
  | busy {wl' : Wl1271}
      (hprep : wl1271PrepareTxFrame wl it.prep (frameVif wl skb) skb l.bufOffset
        (frameLink wl skb h) = (.error .ebusy, wl')) :
      FrameCase wl it skb h l []
        (some .outAck,
          { wl1271SkbQueueHead wl' (frameVif wl skb) skb (frameLink wl skb h) with
            fwTxBusy := true }, l)
  /-- any other error: the dummy packet is kept -/
  | kept {e : Errno} {wl' : Wl1271} (heagain : e ≠ .eagain) (hebusy : e ≠ .ebusy)
      (hprep : wl1271PrepareTxFrame wl it.prep (frameVif wl skb) skb l.bufOffset
        (frameLink wl skb h) = (.error e, wl')) (hd : wl12xxIsDummyPacket wl' skb = true) :
      FrameCase wl it skb h l []
        (some .outAck, wl1271SkbQueueHead wl' (frameVif wl skb) skb (frameLink wl skb h), l)
  /-- any other error: the frame is dropped -/
  | dropped {e : Errno} {wl' : Wl1271} (heagain : e ≠ .eagain) (hebusy : e ≠ .ebusy)
      (hprep : wl1271PrepareTxFrame wl it.prep (frameVif wl skb) skb l.bufOffset
        (frameLink wl skb h) = (.error e, wl')) (hd : wl12xxIsDummyPacket wl' skb = false) :
      FrameCase wl it skb h l [] (some .outAck, wl'.giveBack [skb], l)

theorem txWorkFrame_cases (wl : Wl1271) (it : TxIter) (skb : Skb) (h : Hlid) (l : TxLocals) :
    FrameCase wl it skb h l (frameEvents wl it skb h l) (txWorkFrame wl it skb h l) := by
  have hvif : (if wl12xxIsDummyPacket wl skb then none else skb.vif) = frameVif wl skb := rfl
  have hlink : (if (frameVif wl skb).isSome then h else systemHlid) = frameLink wl skb h := rfl
  unfold txWorkFrame
  simp only [hvif, hlink]
  unfold frameEvents
  cases hprep : wl1271PrepareTxFrame wl it.prep (frameVif wl skb) skb l.bufOffset
      (frameLink wl skb h) with
  | mk r wl' =>
    cases r with
    | ok n => exact .copied hprep
    | error e =>
      have hother (heagain : e ≠ .eagain) (hebusy : e ≠ .ebusy) : FrameCase wl it skb h l []
          (if wl12xxIsDummyPacket wl' skb then
            (some .outAck, wl1271SkbQueueHead wl' (frameVif wl skb) skb (frameLink wl skb h), l)
          else (some .outAck, wl'.giveBack [skb], l)) := by
        split
        · rename_i hd
          exact .kept heagain hebusy hprep hd
        · rename_i hd
          exact .dropped heagain hebusy hprep (by simpa using hd)
      cases e with
      | eagain => exact .full hprep
      | ebusy => exact .busy hprep
      | einval | enomem | eio | eopnotsupp => exact hother (by decide) (by decide)

/-- A turn after the arrivals: nothing is dequeued, or a frame. -/
inductive IterCase (wl : Wl1271) (it : TxIter) (l : TxLocals) :
    List TxEvent → Option LoopExit × Wl1271 × TxLocals → Prop
  | idle {wl' : Wl1271} (hdeq : wl1271SkbDequeue wl = (none, wl')) :
      IterCase wl it l [.dequeue none] (some .outAck, wl', l)
  | frame {skb : Skb} {h : Hlid} {wl' : Wl1271} {ev : List TxEvent}
      {r : Option LoopExit × Wl1271 × TxLocals}
      (hdeq : wl1271SkbDequeue wl = (some (skb, h), wl')) (hframe : FrameCase wl' it skb h l ev r) :
      IterCase wl it l (.dequeue (some (skb, h)) :: ev) r

theorem txWorkIter_cases (wl : Wl1271) (it : TxIter) (l : TxLocals) :
    ∃ ev, iterEvents wl it l = arrivalEvents wl it.arrivals ++ ev ∧
      IterCase (it.arrivals.foldl wl1271OpTx wl) it l ev (txWorkIter wl it l) := by
  refine ⟨_, rfl, ?_⟩
  unfold txWorkIter
  cases hdeq : wl1271SkbDequeue (it.arrivals.foldl wl1271OpTx wl) with
  | mk r wl' =>
    cases r with
    | none => exact .idle hdeq
    | some p =>
      obtain ⟨skb, h⟩ := p
      exact .frame hdeq (txWorkFrame_cases wl' it skb h l)

/-- A turn leaves the loop at `out_ack` or at `out`. -/
theorem txWorkIter_exit (wl : Wl1271) (it : TxIter) (l : TxLocals) :
    (txWorkIter wl it l).1 ≠ some .running := by
  obtain ⟨ev, -, hcase⟩ := txWorkIter_cases wl it l
  generalize txWorkIter wl it l = r at hcase
  cases hcase with
  | idle hdeq => simp
  | frame hdeq hframe =>
    cases hframe with
    | full hprep =>
      dsimp only [txWorkEagain]
      split <;> simp
    | _ => simp

/-! ## The loop -/

/-- What holds after the loop: what the turns keep, and what the last turn makes of it. -/
theorem txWorkLoop_induction {I : List TxEvent → Wl1271 → TxLocals → Prop}
    {Q : List TxEvent → LoopExit → Wl1271 → TxLocals → Prop} (its : List TxIter)
    (hgo : ∀ log wl l, ∀ it ∈ its, ∀ wl' l', I log wl l →
      txWorkIter wl it l = (none, wl', l') → I (log ++ iterEvents wl it l) wl' l')
    (hend : ∀ log wl l, ∀ it ∈ its, ∀ e wl' l', I log wl l →
      txWorkIter wl it l = (some e, wl', l') → Q (log ++ iterEvents wl it l) e wl' l')
    (hrun : ∀ log wl l, I log wl l → Q log .running wl l)
    {log : List TxEvent} {wl : Wl1271} {l : TxLocals} (h : I log wl l) :
    Q (log ++ loopEvents its wl l) (txWorkLoop its wl l).1 (txWorkLoop its wl l).2.1
      (txWorkLoop its wl l).2.2 := by
  induction its generalizing log wl l with
  | nil =>
    rw [loopEvents, List.append_nil]
    exact hrun log wl l h
  | cons it its ih =>
    have hmem : it ∈ it :: its := List.mem_cons_self
    unfold loopEvents txWorkLoop
    cases hiter : txWorkIter wl it l with
    | mk e r =>
      obtain ⟨wl', l'⟩ := r
      cases e with
      | some e =>
        simp only [List.append_nil]
        exact hend log wl l it hmem e wl' l' h hiter
      | none =>
        simp only [← List.append_assoc]
        exact ih (fun log wl l it hit => hgo log wl l it (List.mem_cons_of_mem _ hit))
          (fun log wl l it hit => hend log wl l it (List.mem_cons_of_mem _ hit))
          (hgo log wl l it hmem wl' l' h hiter)

/-! ## Counting -/

/-- The calls of `wl1271_skb_dequeue`. -/
def dequeues (log : List TxEvent) : ℕ :=
  log.countP fun
    | .dequeue _ => true
    | _ => false

/-- The transfers of the aggregation buffer. -/
def writes (log : List TxEvent) : ℕ :=
  log.countP fun
    | .write _ _ => true
    | _ => false

@[simp] theorem dequeues_nil : dequeues [] = 0 := rfl

section
variable (skb : Skb) (h : Hlid) (f : AggrFrame) (r : Option (Skb × Hlid)) (off : ℕ) (ok : Bool)
  (log : List TxEvent)

@[simp] theorem dequeues_dequeue : dequeues (.dequeue r :: log) = dequeues log + 1 := by
  simp [dequeues]

@[simp] theorem dequeues_copy : dequeues (.copy skb h f :: log) = dequeues log := by
  simp [dequeues]

@[simp] theorem dequeues_write : dequeues (.write off ok :: log) = dequeues log := by
  simp [dequeues]

@[simp] theorem writes_nil : writes [] = 0 := rfl

@[simp] theorem writes_dequeue : writes (.dequeue r :: log) = writes log := by
  simp [writes]

@[simp] theorem writes_copy : writes (.copy skb h f :: log) = writes log := by
  simp [writes]

@[simp] theorem writes_write : writes (.write off ok :: log) = writes log + 1 := by
  simp [writes]

end

@[simp] theorem dequeues_append (log log' : List TxEvent) :
    dequeues (log ++ log') = dequeues log + dequeues log' := List.countP_append

@[simp] theorem writes_append (log log' : List TxEvent) :
    writes (log ++ log') = writes log + writes log' := List.countP_append

theorem arrivalEvents_mem {skbs : List Skb} {ev : TxEvent} (h : ev ∈ arrivalEvents wl skbs) :
    ∃ skb ∈ skbs, ∃ l, ev = .accept skb l := by
  induction skbs generalizing wl with
  | nil => cases h
  | cons skb skbs ih =>
    rcases List.mem_append.mp h with h | h
    · unfold opTxEvents at h
      split at h
      · cases h
      · rename_i l _
        exact ⟨skb, by simp, l, List.mem_singleton.mp h⟩
    · obtain ⟨s, hs, l, rfl⟩ := ih h
      exact ⟨s, by simp [hs], l, rfl⟩

@[simp] theorem dequeues_arrivals (wl : Wl1271) (skbs : List Skb) :
    dequeues (arrivalEvents wl skbs) = 0 := by
  refine List.countP_eq_zero.mpr fun ev hev => ?_
  obtain ⟨_, -, _, rfl⟩ := arrivalEvents_mem hev
  simp

@[simp] theorem writes_arrivals (wl : Wl1271) (skbs : List Skb) :
    writes (arrivalEvents wl skbs) = 0 := by
  refine List.countP_eq_zero.mpr fun ev hev => ?_
  obtain ⟨_, -, _, rfl⟩ := arrivalEvents_mem hev
  simp

theorem FrameCase.dequeues {it : TxIter} {skb : Skb} {h : Hlid} {ev : List TxEvent}
    {r : Option LoopExit × Wl1271 × TxLocals} (hc : FrameCase wl it skb h l ev r) :
    Tx.dequeues ev = 0 := by
  cases hc <;> simp

/-- A turn calls `wl1271_skb_dequeue` once. -/
theorem dequeues_iter (wl : Wl1271) (it : TxIter) (l : TxLocals) :
    dequeues (iterEvents wl it l) = 1 := by
  obtain ⟨ev, hev, hcase⟩ := txWorkIter_cases wl it l
  have hone : dequeues ev = 1 := by
    generalize txWorkIter wl it l = r at hcase
    cases hcase with
    | idle hdeq => simp
    | frame hdeq hframe => simp [hframe.dequeues]
  rw [hev, dequeues_append, dequeues_arrivals, hone]

theorem loopEvents_running {its : List TxIter} (h : (txWorkLoop its wl l).1 = .running) :
    dequeues (loopEvents its wl l) = its.length := by
  induction its generalizing wl l with
  | nil => rfl
  | cons it its ih =>
    unfold loopEvents
    unfold txWorkLoop at h
    have hone := dequeues_iter wl it l
    have hexit := txWorkIter_exit wl it l
    cases hiter : txWorkIter wl it l with
    | mk e r =>
      obtain ⟨wl', l'⟩ := r
      rw [hiter] at h hexit
      cases e with
      | some e => exact absurd (congrArg some h) hexit
      | none =>
        simp only [dequeues_append, hone, ih h, List.length_cons]
        omega

end TiWlan.Tx
