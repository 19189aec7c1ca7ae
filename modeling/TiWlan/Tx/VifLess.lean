import TiWlan.Tx.Conservation
import TiWlan.Tx.BoundedWork
import TiWlan.Tx.Order

/-!
# Frames without a vif

A frame that is injected through a monitor interface reaches `wl1271_op_tx` (`wlcore/main.c`,
lines 1201–1265) with `info->control.vif == NULL`. `op_tx` and the transmit loop (`wlcore/tx.c`,
lines 700–768) test for that and use the system link. Three places on the way of such a frame read
the vif without a test: the WEP key in `wl1271_prepare_tx_frame` (line 389),
`wl1271_skb_queue_head` (line 621), and `wl1271_tx_complete_packet` for a successful frame (line
874) or one with a tracked sequence number (lines 894–901). The completion of wl18xx
(`wl18xx/tx.c`, lines 31–93) reads no vif.

A run consists of single turns of the transmit loop, so that what a turn requires can be said about
the state in which it begins; `wlcoreTxWorkLocked_turns` is the connection to whole calls.

Results:
* `txWorkFrame_oops`: what one turn does with a frame.
* `loopStep_oops`: exactly the steps that are not `Handled` read an absent vif.
* `vifLess_handled_iff`: the same for whole runs, in which the frame always is in one place.
* `vifLess_oops`: a frame that was sent successfully, and one for which the firmware has no blocks.
-/

namespace TiWlan.Tx

open TiWlan.Lib TiWlan.Driver
open Function (update)

/-! ## Preparing a frame -/

/-- The frame is encrypted with WEP. -/
def usesWep (skb : Skb) : Bool :=
  match skb.hwKey with
  | some key => decide (key.cipher = .wep40 ∨ key.cipher = .wep104)
  | none => false

/-- The frame fits into the rest of the aggregation buffer, and the firmware has a descriptor and
memory blocks for it. -/
structure Room (wl : Wl1271) (skb : Skb) (off : ℕ) : Prop where
  buffer : off + (skb.data.length + txHwDescrSize + txExtraSpace wl.quirks skb) ≤ wl.aggrBufSize
  descriptor : findFirstZeroBit wl.txFramesMap wl.numTxDesc ≠ none
  blocks : frameBlocks wl skb ≤ wl.txBlocksAvailable

section
variable (wl : Wl1271) (env : PrepEnv) (skb : Skb) (off : ℕ) (h : Hlid)

theorem prepareWepKey_noVif : prepareWepKey wl env none skb =
    if usesWep skb then (.error .einval, { wl with oops := true }) else (.ok (), wl) := by
  unfold prepareWepKey usesWep
  cases skb.hwKey with
  | none => rfl
  | some key => by_cases hwep : key.cipher = .wep40 ∨ key.cipher = .wep104 <;> simp [hwep]

theorem prepareWepKey_vif_oops (v : VifId) :
    (prepareWepKey wl env (some v) skb).2.oops = wl.oops := by
  unfold prepareWepKey
  cases skb.hwKey with
  | none => rfl
  | some key =>
    dsimp only
    split_ifs
    · rfl
    · cases env.wepKey <;> rfl
    · rfl

theorem freeTxId_oops (id : TxId) : (wl1271FreeTxId wl id).oops = wl.oops := by
  unfold wl1271FreeTxId
  split <;> rfl

theorem wl1271TxAllocate_oops (v : Option VifId) (extra : ℕ) (gem : Bool) :
    (wl1271TxAllocate wl v skb extra off h gem).2.oops = wl.oops := by
  obtain ⟨_, _, _, _, _, _, _, _, _, _, heq⟩ := wl1271TxAllocate_frame wl v skb extra off h gem
  rw [heq]

theorem wl12xxPsLinkStart_oops (clean found : Bool) :
    (wl12xxPsLinkStart wl h clean found).oops = wl.oops := by
  unfold wl12xxPsLinkStart
  split_ifs <;> rfl

theorem prepareAp_oops (v : Option VifId) : (prepareAp wl env v skb h).oops = wl.oops := by
  have hregulate (wl : Wl1271) (u : VifId) :
      (wl1271TxRegulateLink wl u h env.staFound).oops = wl.oops := by
    unfold wl1271TxRegulateLink
    split_ifs
    · rfl
    · exact wl12xxPsLinkStart_oops wl h _ _
    · rfl
  unfold prepareAp
  split
  · rfl
  · split
    · refine (hregulate _ _).trans ?_
      split
      · cases env.inconnectionSta <;> rfl
      · rfl
    · rfl

theorem prepare_vif_oops (v : VifId) :
    (wl1271PrepareTxFrame wl env (some v) skb off h).2.oops = wl.oops := by
  have hwep := prepareWepKey_vif_oops wl env skb v
  dsimp only [wl1271PrepareTxFrame]
  split <;> rename_i wl₁ heq <;> rw [heq] at hwep
  · exact hwep
  · have halloc := wl1271TxAllocate_oops wl₁ skb off h (some v) (txExtraSpace wl.quirks skb)
      (txIsGem skb)
    split <;> rename_i wl₂ heq₂ <;> rw [heq₂] at halloc
    · exact halloc.trans hwep
    · exact (prepareAp_oops wl₂ env skb h (some v)).trans (halloc.trans hwep)

/-- `wl1271_tx_allocate` succeeds if there is room; otherwise the frame has to wait. -/
theorem allocated_room {wl : Wl1271} {v : Option VifId} {skb : Skb} {off : ℕ} {h : Hlid}
    {r : Except Errno TxAlloc × Wl1271}
    (hpath : TxAllocated wl v skb (txExtraSpace wl.quirks skb) off h (txIsGem skb) r) :
    (Room wl skb off ∧ ∃ a wl', r = (.ok a, wl')) ∨
      ¬ Room wl skb off ∧ ∃ e wl', r = (.error e, wl') ∧ (e = .eagain ∨ e = .ebusy) := by
  cases hpath with
  | full hfull =>
    exact Or.inr ⟨fun hroom => hfull.not_ge hroom.buffer, _, _, rfl, Or.inl rfl⟩
  | noId _ hnone => exact Or.inr ⟨fun hroom => hroom.descriptor hnone, _, _, rfl, Or.inr rfl⟩
  | noBlocks _ _ hblocks =>
    exact Or.inr ⟨fun hroom => hblocks.not_ge hroom.blocks, _, _, rfl, Or.inr rfl⟩
  | handed hbuf hid hspare htotal hblocks =>
    refine Or.inl ⟨⟨hbuf, by simp [hid], ?_⟩, _, _, rfl⟩
    rwa [htotal, hspare] at hblocks

/-- Without a vif and without a WEP key, only room matters. -/
theorem prepare_noVif (hwep : usesWep skb = false) :
    (Room wl skb off ∧ ∃ n wl', wl1271PrepareTxFrame wl env none skb off h = (.ok n, wl') ∧
        wl'.oops = wl.oops) ∨
      ¬ Room wl skb off ∧ ∃ e wl', wl1271PrepareTxFrame wl env none skb off h = (.error e, wl') ∧
        (e = .eagain ∨ e = .ebusy) ∧ wl'.oops = wl.oops := by
  have hoops := wl1271TxAllocate_oops wl skb off h none (txExtraSpace wl.quirks skb) (txIsGem skb)
  unfold wl1271PrepareTxFrame
  rw [prepareWepKey_noVif, if_neg (by simp [hwep])]
  rcases allocated_room (wl1271TxAllocate_path wl none skb _ off h _) with
    ⟨hroom, a, wl', heq⟩ | ⟨hroom, e, wl', heq, he⟩ <;> rw [heq] at hoops
  · refine Or.inl ⟨hroom, ?_⟩
    simp only [heq]
    exact ⟨_, _, rfl, hoops⟩
  · refine Or.inr ⟨hroom, e, wl', ?_, he, hoops⟩
    simp only [heq]

end

/-! ## One turn -/

theorem wl1271SkbQueueHead_oops (wl : Wl1271) (v : Option VifId) (skb : Skb) (h : Hlid) :
    (wl1271SkbQueueHead wl v skb h).oops =
      (wl.oops || (v.isNone && !wl12xxIsDummyPacket wl skb)) := by
  unfold wl1271SkbQueueHead
  cases hd : wl12xxIsDummyPacket wl skb <;> cases v <;> simp [Wl1271.pendDummy, Wl1271.setVif,
    Wl1271.pushHead]

theorem txWorkEagain_oops (wl : Wl1271) (it : TxIter) (v : Option VifId) (skb : Skb) (h : Hlid)
    (l : TxLocals) :
    (txWorkEagain wl it v skb h l).2.1.oops = (wl1271SkbQueueHead wl v skb h).oops := by
  have hsend : (wlcoreHwPrePktSend (wl1271SkbQueueHead wl v skb h) l.bufOffset l.lastLen).2.oops =
      (wl1271SkbQueueHead wl v skb h).oops := by
    unfold wlcoreHwPrePktSend
    split
    · dsimp only
      split <;> rfl
    · rfl
  dsimp only [txWorkEagain]
  split <;> exact hsend

/-- The errors after which the frame is put back into its queue. -/
def waits : Except Errno ℕ → Bool
  | .error .eagain | .error .ebusy => true
  | _ => false

/-- The turn reads an absent vif while it prepares the frame, or when it puts it back. -/
theorem txWorkFrame_oops_eq (wl : Wl1271) (it : TxIter) (skb : Skb) (h : Hlid) (l : TxLocals)
    {r : Except Errno ℕ} {wl' : Wl1271}
    (heq : wl1271PrepareTxFrame wl it.prep (frameVif wl skb) skb l.bufOffset (frameLink wl skb h) =
      (r, wl')) :
    (txWorkFrame wl it skb h l).2.1.oops =
      (wl'.oops || (waits r && (frameVif wl skb).isNone && !wl12xxIsDummyPacket wl skb)) := by
  have hcase := txWorkFrame_cases wl it skb h l
  have hdummy : wl12xxIsDummyPacket wl' skb = wl12xxIsDummyPacket wl skb := by
    have hkeep := (wl1271PrepareTxFrame_keep wl it.prep (frameVif wl skb) skb l.bufOffset
      (frameLink wl skb h)).conf
    rw [heq] at hkeep
    unfold wl12xxIsDummyPacket
    rw [hkeep]
  generalize txWorkFrame wl it skb h l = res at hcase ⊢
  generalize frameEvents wl it skb h l = ev at hcase
  cases hcase with
  | copied hprep =>
    cases heq.symm.trans hprep
    simp [waits]
  | full hprep =>
    cases heq.symm.trans hprep
    rw [txWorkEagain_oops, wl1271SkbQueueHead_oops, hdummy]
    simp [waits]
  | busy hprep =>
    cases heq.symm.trans hprep
    simp [wl1271SkbQueueHead_oops, hdummy, waits]
  | kept heagain hebusy hprep hd =>
    cases heq.symm.trans hprep
    rw [wl1271SkbQueueHead_oops, hd, ← hdummy, hd]
    simp
  | @dropped e wl' heagain hebusy hprep hd =>
    cases heq.symm.trans hprep
    have hdrop : waits (.error e) = false := by
      cases e <;> simp_all [waits]
    simp [Wl1271.giveBack, hdrop]

/-- The frame's vif is there, or is not needed: there is no WEP key, and the frame will not be put
back. The dummy packet may be put back. -/
def TurnHandles (wl : Wl1271) (skb : Skb) (off : ℕ) : Prop :=
  frameVif wl skb = none →
    usesWep skb = false ∧ (wl12xxIsDummyPacket wl skb = true ∨ Room wl skb off)

theorem txWorkFrame_oops {wl : Wl1271} (hoops : wl.oops = false) (it : TxIter) (skb : Skb)
    (h : Hlid) (l : TxLocals) :
    (txWorkFrame wl it skb h l).2.1.oops = false ↔ TurnHandles wl skb l.bufOffset := by
  obtain ⟨r, wl', heq⟩ : ∃ r wl', wl1271PrepareTxFrame wl it.prep (frameVif wl skb) skb l.bufOffset
      (frameLink wl skb h) = (r, wl') := ⟨_, _, rfl⟩
  rw [txWorkFrame_oops_eq wl it skb h l heq]
  unfold TurnHandles
  cases hv : frameVif wl skb with
  | some v =>
    have hprep := prepare_vif_oops wl it.prep skb l.bufOffset (frameLink wl skb h) v
    rw [← hv, heq] at hprep
    have hsame : wl'.oops = false := hprep.trans hoops
    simp [hsame]
  | none =>
    rw [hv] at heq
    cases hwep : usesWep skb with
    | true =>
      unfold wl1271PrepareTxFrame at heq
      rw [prepareWepKey_noVif, if_pos hwep] at heq
      cases heq
      simp
    | false =>
      rcases prepare_noVif wl it.prep skb l.bufOffset (frameLink wl skb h) hwep with
        ⟨hroom, n, wl₁, hprep, hwl₁⟩ | ⟨hroom, e, wl₁, hprep, he, hwl₁⟩ <;>
        cases hprep.symm.trans heq <;> rw [hwl₁, hoops]
      · simp [waits, hroom]
      · rcases he with rfl | rfl <;> simp [waits, hroom]

/-! ## Choosing a frame -/

/-- What a turn requires can be said before the frame is taken. -/
theorem turnHandles_dequeue {wl wl' : Wl1271} {r : Option (Skb × Hlid)}
    (hdeq : wl1271SkbDequeue wl = (r, wl')) (skb : Skb) (off : ℕ) :
    TurnHandles wl' skb off ↔ TurnHandles wl skb off := by
  have hkeep := wl1271SkbDequeue_keep wl
  have hchosen := wl1271SkbDequeue_chosen wl
  have hslots := wl1271SkbDequeue_slots wl
  rw [hdeq] at hkeep hchosen hslots
  have hspare (gem : Bool) : wlcoreHwGetSpareBlocks wl' gem = wlcoreHwGetSpareBlocks wl gem := by
    unfold wlcoreHwGetSpareBlocks
    rw [hkeep.conf, hkeep.extraSpareVifCount]
  have hblocks : frameBlocks wl' skb = frameBlocks wl skb := by
    unfold frameBlocks
    rw [hkeep.conf, hspare]
  have hroom : Room wl' skb off ↔ Room wl skb off := by
    constructor
    · rintro ⟨hbuffer, hdescriptor, hroom⟩
      rw [hkeep.conf] at hbuffer hdescriptor
      rw [hslots] at hdescriptor
      rw [hblocks, hchosen.accounting] at hroom
      exact ⟨hbuffer, hdescriptor, hroom⟩
    · rintro ⟨hbuffer, hdescriptor, hroom⟩
      rw [← hkeep.conf] at hbuffer hdescriptor
      rw [← hslots] at hdescriptor
      rw [← hblocks, ← hchosen.accounting] at hroom
      exact ⟨hbuffer, hdescriptor, hroom⟩
  unfold TurnHandles frameVif wl12xxIsDummyPacket
  rw [hroom, hkeep.conf]

/-! ## Completions and stops -/

theorem deferFrame_oops (wl : Wl1271) (slot : TxId) (skb : Skb) :
    (deferFrame wl slot skb).oops = wl.oops := freeTxId_oops _ slot

/-- A frame without a vif must not have been successful, and no sequence number is tracked for
it. -/
def CompletionHandles (wl : Wl1271) (r : TxResult) : Prop :=
  ∀ slot skb, completedFrame wl r.id = some (slot, skb) → frameVif wl skb = none →
    wl12xxIsDummyPacket wl skb = true ∨ r.success = false ∧ tracksSeq skb = false

theorem wl1271TxCompletePacket_oops {wl : Wl1271} (hoops : wl.oops = false) (r : TxResult) :
    (wl1271TxCompletePacket wl r).oops = false ↔ CompletionHandles wl r := by
  unfold wl1271TxCompletePacket CompletionHandles
  cases hslot : completedFrame wl r.id with
  | none => simp [hoops]
  | some p =>
    obtain ⟨slot, skb⟩ := p
    cases hd : wl12xxIsDummyPacket wl skb with
    | true => simp [freeTxId_oops, hoops, hd]
    | false =>
      have hvif : frameVif wl skb = skb.vif := by simp [frameVif, hd]
      dsimp only
      rw [hd, if_neg Bool.false_ne_true, deferFrame_oops]
      unfold completeVif
      cases hv : skb.vif with
      | none => simp [hoops, hvif, hv, hd]
      | some v =>
        refine iff_of_true ?_ ?_
        · dsimp only
          split <;> exact hoops
        · rintro slot' skb' heq hnone
          cases heq
          rw [hvif, hv] at hnone
          cases hnone

theorem wl18xxTxCompletePacket_oops (wl : Wl1271) (b : ℕ) :
    (wl18xxTxCompletePacket wl b).oops = wl.oops := by
  unfold wl18xxTxCompletePacket
  split
  · rfl
  · split
    · exact freeTxId_oops _ _
    · exact deferFrame_oops _ _ _

theorem foldl_oops {α : Type} {f : Wl1271 → α → Wl1271} (hf : ∀ wl a, (f wl a).oops = wl.oops)
    (l : List α) (wl : Wl1271) : (l.foldl f wl).oops = wl.oops := by
  have htrans {wl wl' wl'' : Wl1271} (h : wl'.oops = wl.oops) (h' : wl''.oops = wl'.oops) :
      wl''.oops = wl.oops := h'.trans h
  exact foldl_rel (R := fun wl wl' => wl'.oops = wl.oops) (fun _ => rfl) htrans
    (fun wl a _ => hf wl a) wl

theorem wlcoreOpStopLocked_oops (wl : Wl1271) : (wlcoreOpStopLocked wl).oops = wl.oops := by
  obtain ⟨_, _, _, _, _, _, _, _, hreset⟩ := wl12xxTxReset_frame (opStopCancel (opStopOff wl))
  rcases wlcoreOpStopLocked_cases wl with ⟨-, p, heq⟩ | ⟨-, wl₁, p, hwl, heq⟩ <;> rw [heq]
  rw [← hwl, hreset]
  rfl

theorem txWorkOutAck_oops (wl : Wl1271) (env : TxWorkEnv) (l : TxLocals) :
    (txWorkOutAck wl env l).2.oops = wl.oops := by
  have hsend : (wlcoreHwPrePktSend wl l.bufOffset l.lastLen).2.oops = wl.oops := by
    unfold wlcoreHwPrePktSend
    split
    · dsimp only
      split <;> rfl
    · rfl
  dsimp only [txWorkOutAck]
  split_ifs <;> first
    | exact hsend
    | rfl

/-! ## Runs -/

/-- The driver, with the local variables of the transmit loop. -/
structure LoopState where
  wl : Wl1271
  loc : TxLocals := {}

inductive LoopOp
  | opTx (skb : Skb)
  /-- the firmware asks for the dummy packet -/
  | requestDummy
  /-- one turn of the loop; after the last one the buffer goes to the bus -/
  | turn (it : TxIter) (env : TxWorkEnv)
  | completePacket (r : TxResult)
  | completePacket18xx (txStatByte : ℕ)
  /-- the frames of a link are filtered, or its queues reset -/
  | drain (h : Hlid)
  | flushDeferredWork
  | opStopLocked
  /-- everything but the configuration and the frames may become what it is in `x` -/
  | other (x : Wl1271)

/-- A turn is over: the loop goes on, or is left at `out_ack` or at `out`. -/
def turnDone (env : TxWorkEnv) : Option LoopExit × Wl1271 × TxLocals → LoopState
  | (none, wl, l) => ⟨wl, l⟩
  | (some .outAck, wl, l) => ⟨(txWorkOutAck wl env l).2, {}⟩
  | (some _, wl, _) => ⟨wl, {}⟩

/-- One operation. Frames that arrive during a turn are operations of their own. -/
def loopStep (s : LoopState) : LoopOp → LoopState
  | .opTx skb => { s with wl := wl1271OpTx s.wl skb }
  | .requestDummy =>
    if s.wl.dummyPacketPending then s else { s with wl := s.wl.pendDummy s.wl.dummyPacket }
  | .turn it env => turnDone env (txWorkIter s.wl { it with arrivals := [] } s.loc)
  | .completePacket r => { s with wl := wl1271TxCompletePacket s.wl r }
  | .completePacket18xx b => { s with wl := wl18xxTxCompletePacket s.wl b }
  | .drain h => { s with wl := drainLinkQueues s.wl h }
  | .flushDeferredWork => { s with wl := wl1271FlushDeferredWork s.wl }
  | .opStopLocked => ⟨wlcoreOpStopLocked s.wl, {}⟩
  | .other x =>
    { s with wl := { x with
        toConf := s.wl.toConf, toTxQueues := s.wl.toTxQueues, oops := s.wl.oops } }

/-- mac80211 never offers the driver's own dummy packet. -/
def LoopOp.Foreign (c : Conf) : LoopOp → Prop
  | .opTx skb => NotDummy c skb
  | _ => True

/-- An absent vif is not needed: the next frame is handled, or the completed one. -/
def LoopOp.Handled (s : LoopState) : LoopOp → Prop
  | .turn _ _ =>
    ∀ skb h, (wl1271SkbDequeue s.wl).1 = some (skb, h) → TurnHandles s.wl skb s.loc.bufOffset
  | .completePacket r => CompletionHandles s.wl r
  | _ => True

theorem turnDone_oops (env : TxWorkEnv) (r : Option LoopExit × Wl1271 × TxLocals) :
    (turnDone env r).wl.oops = r.2.1.oops := by
  obtain ⟨e, wl, l⟩ := r
  rcases e with - | (- | - | -)
  · rfl
  · exact txWorkOutAck_oops wl env l
  · rfl
  · rfl

/-- Exactly the steps that are not `Handled` read the vif of a frame that has none. -/
theorem loopStep_oops (s : LoopState) (op : LoopOp) (hoops : s.wl.oops = false) :
    (loopStep s op).wl.oops = false ↔ op.Handled s := by
  cases op with
  | opTx skb =>
    refine iff_of_true ?_ trivial
    show (wl1271OpTx s.wl skb).oops = false
    unfold wl1271OpTx
    split <;> exact hoops
  | requestDummy =>
    refine iff_of_true ?_ trivial
    dsimp only [loopStep]
    split <;> exact hoops
  | turn it env =>
    have hchosen := wl1271SkbDequeue_chosen s.wl
    show (turnDone env (txWorkIter s.wl { it with arrivals := [] } s.loc)).wl.oops = false ↔
      ∀ skb h, (wl1271SkbDequeue s.wl).1 = some (skb, h) → TurnHandles s.wl skb s.loc.bufOffset
    rw [turnDone_oops]
    unfold txWorkIter
    rw [List.foldl_nil]
    cases hdeq : wl1271SkbDequeue s.wl with
    | mk r wl₁ =>
      rw [hdeq] at hchosen
      have hoops₁ : wl₁.oops = false := hchosen.oops.trans hoops
      cases r with
      | none => simp [hoops₁]
      | some p =>
        obtain ⟨skb, h⟩ := p
        have hframe := txWorkFrame_oops hoops₁ { it with arrivals := [] } skb h s.loc
        rw [turnHandles_dequeue hdeq] at hframe
        refine hframe.trans ?_
        simp
  | completePacket r => exact wl1271TxCompletePacket_oops hoops r
  | completePacket18xx b =>
    exact iff_of_true ((wl18xxTxCompletePacket_oops s.wl b).trans hoops) trivial
  | opStopLocked => exact iff_of_true ((wlcoreOpStopLocked_oops s.wl).trans hoops) trivial
  | drain | flushDeferredWork | other => exact iff_of_true hoops trivial

/-! ## Whole calls -/

/-- The operations of some turns with their arrivals. -/
def turnOps (env : TxWorkEnv) (its : List TxIter) : List LoopOp :=
  its.flatMap fun it => it.arrivals.map .opTx ++ [.turn it env]

theorem run_turnOps_cons (env : TxWorkEnv) (it : TxIter) (its : List TxIter) (wl : Wl1271)
    (l : TxLocals) :
    run loopStep ⟨wl, l⟩ (turnOps env (it :: its)) =
      run loopStep (turnDone env (txWorkIter wl it l)) (turnOps env its) := by
  have harrivals (skbs : List Skb) (s : LoopState) :
      run loopStep s (skbs.map .opTx) = { s with wl := skbs.foldl wl1271OpTx s.wl } := by
    induction skbs generalizing s with
    | nil => rfl
    | cons skb skbs ih => exact ih _
  rw [turnOps, List.flatMap_cons, run_append, run_append, harrivals]
  rfl

/-- The frames are conserved, and those without a vif wait on the system link. -/
structure LoopInv (c : Conf) (s : LoopState) : Prop where
  ledger : Ledger c (none, s.wl)
  lanes : ∃ log, InOrder c log s.wl

section
variable {c : Conf} {s : LoopState}

theorem LoopInv.turnDone {wl : Wl1271} {log : List TxEvent} (hledger : Ledger c (none, wl))
    (hlanes : InOrder c log wl) (env : TxWorkEnv) (e : Option LoopExit) (l : TxLocals) :
    LoopInv c (turnDone env (e, wl, l)) := by
  rcases e with - | (- | - | -)
  · exact ⟨hledger, log, hlanes⟩
  · have hqueue : (txWorkOutAck wl env l).2.txQueue = wl.txQueue := by
      rcases txWorkOutAck_wait wl env l with hsame | hsame <;> exact hsame.queue
    have hack := ledger_reach (fun _ hs => hs)
      (txWorkOutAck_reach (P := .frames (NotDummy c)) wl env l) hledger
    refine ⟨hack, log, hlanes.shrink (txWorkOutAck_keep wl env l).conf fun k q => ?_⟩
    rw [Tx.turnDone, hqueue]
  · exact ⟨hledger, log, hlanes⟩
  · exact ⟨hledger, log, hlanes⟩

theorem wl1271TxCompletePacket_wait (wl : Wl1271) (r : TxResult) :
    (wl1271TxCompletePacket wl r).txQueue = wl.txQueue := by
  unfold wl1271TxCompletePacket
  split
  · rfl
  · rename_i slot skb _
    split
    · exact (WaitSame.freeTxId wl _).queue
    · have hvif : (completeVif wl r skb).txQueue = wl.txQueue :=
        congrArg TxQueues.txQueue (completeVif_parts wl r skb).1
      exact (WaitSame.freeTxId _ _).queue.trans hvif

theorem wl18xxTxCompletePacket_wait (wl : Wl1271) (b : ℕ) :
    (wl18xxTxCompletePacket wl b).txQueue = wl.txQueue := by
  unfold wl18xxTxCompletePacket
  split
  · rfl
  · split
    · exact (WaitSame.freeTxId wl _).queue
    · exact (WaitSame.freeTxId _ _).queue

theorem loopStep_inv (h : LoopInv c s) {op : LoopOp} (hop : op.Foreign c) :
    LoopInv c (loopStep s op) := by
  obtain ⟨hledger, log, hlanes⟩ := h
  have hreach {wl' : Wl1271} (hr : Reach (.frames (NotDummy c)) (none, s.wl) (none, wl')) :
      Ledger c (none, wl') := ledger_reach (fun _ hs => hs) hr hledger
  cases op with
  | opTx skb => exact ⟨ledger_opTx hledger hop, _, hlanes.opTx skb⟩
  | requestDummy =>
    dsimp only [loopStep]
    split
    · exact ⟨hledger, log, hlanes⟩
    · rename_i hpending
      refine ⟨hreach (.single (.pend ?_ trivial)), log, hlanes.conf, hlanes.category,
        hlanes.system, hlanes.order⟩
      simpa using hpending
  | turn it env =>
    have hquiet : ∀ skb ∈ ({ it with arrivals := [] } : TxIter).arrivals, NotDummy c skb := by simp
    have hturn := hreach (txWorkIter_reach (P := .frames (NotDummy c)) hquiet s.wl s.loc)
    have horder := txWorkIter_inOrder hlanes { it with arrivals := [] } s.loc
    exact .turnDone hturn horder env _ _
  | completePacket r =>
    refine ⟨hreach (wl1271TxCompletePacket_reach s.wl r), log,
      hlanes.shrink (wl1271TxCompletePacket_keep s.wl r).conf fun k q => ?_⟩
    show ((wl1271TxCompletePacket s.wl r).txQueue k q).Sublist _
    rw [wl1271TxCompletePacket_wait]
  | completePacket18xx b =>
    refine ⟨hreach (wl18xxTxCompletePacket_reach s.wl b), log,
      hlanes.shrink (wl18xxTxCompletePacket_keep s.wl b).conf fun k q => ?_⟩
    show ((wl18xxTxCompletePacket s.wl b).txQueue k q).Sublist _
    rw [wl18xxTxCompletePacket_wait]
  | drain l => exact ⟨ledger_drain hledger l, _, hlanes.step (.drain l)⟩
  | flushDeferredWork =>
    exact ⟨ledger_flushDeferred hledger, log, hlanes.conf, hlanes.category, hlanes.system,
      hlanes.order⟩
  | opStopLocked =>
    have hstop := opStop_ledger hledger
    refine ⟨hstop, log, hlanes.shrink (hstop.conf.trans hledger.conf.symm) fun k q => ?_⟩
    show ((wlcoreOpStopLocked s.wl).txQueue k q).Sublist _
    by_cases hoff : s.wl.state = .off
    · rw [wlcoreOpStopLocked, if_pos hoff]
      split <;> exact List.Sublist.refl _
    · obtain ⟨t, -, ht, hquiet, -⟩ := opStop_frames hledger hoff
      rw [ht]
      show (t.txQueue k q).Sublist _
      rw [hquiet.empty]
      exact List.nil_sublist _
  | other x =>
    exact ⟨hledger.congr rfl rfl, log, hlanes.conf, hlanes.category, hlanes.system, hlanes.order⟩

end

/-- In every run, no step reads the vif of a frame that has none, exactly if every step is
`Handled`. A frame without a vif that was received is on a queue of the system link, in a descriptor
slot, completed or given back, and in one of these places only. -/
theorem vifLess_handled_iff (c : Conf) (ops : List LoopOp) (hops : ∀ op ∈ ops, op.Foreign c) :
    ((∀ n, (run loopStep ⟨wlcoreProbe c, {}⟩ (ops.take n)).wl.oops = false) ↔
        Along loopStep (fun s op => op.Handled s) ⟨wlcoreProbe c, {}⟩ ops) ∧
      ∀ skb, NotDummy c skb → skb.vif = none →
        (run loopStep ⟨wlcoreProbe c, {}⟩ ops).wl.accepted.count skb = 1 →
        ∃ p, (∀ h q, p = .queue h q → h = systemHlid) ∧
          copiesIn (run loopStep ⟨wlcoreProbe c, {}⟩ ops).wl.toTxQueues skb p = 1 ∧
          ∀ p', p' ≠ p →
            copiesIn (run loopStep ⟨wlcoreProbe c, {}⟩ ops).wl.toTxQueues skb p' = 0 := by
  refine ⟨?_, fun skb hskb hvif honce => ?_⟩
  · have hgood : ∀ (s : LoopState) (op : LoopOp), s.wl.oops = false →
        ((loopStep s op).wl.oops = false ↔ op.Handled s) := loopStep_oops
    have hstart : (⟨wlcoreProbe c, {}⟩ : LoopState).wl.oops = false := rfl
    exact forall_take_iff_along_of_good hgood hstart ops
  · have hprobe : LoopInv c ⟨wlcoreProbe c, {}⟩ :=
      ⟨probe_ledger c, [], rfl, fun _ _ _ hs => (by cases hs), fun _ _ _ hs => (by cases hs),
        fun _ _ => List.Sublist.refl _⟩
    have hstep (s : LoopState) (op : LoopOp) (hop : op ∈ ops) (h : LoopInv c s) :
        LoopInv c (loopStep s op) := loopStep_inv h (hops op hop)
    have hrun : LoopInv c (run loopStep ⟨wlcoreProbe c, {}⟩ ops) :=
      run_induction_mem hstep hprobe
    generalize run loopStep ⟨wlcoreProbe c, {}⟩ ops = s at hrun honce
    obtain ⟨hledger, log, hlanes⟩ := hrun
    have hheld : heldCopies s.wl.toTxQueues skb = 1 := by
      have := hledger.conserved skb hskb
      rwa [Option.toList_none, List.count_nil, add_zero, honce] at this
    obtain ⟨p, hone, hothers⟩ := sum_eq_one_single_place (by rw [sum_copiesIn, hheld])
    refine ⟨p, ?_, hone, hothers⟩
    rintro h q rfl
    have hmem : skb ∈ s.wl.txQueue h q := List.count_pos_iff.mp (by
      show 0 < copiesIn s.wl.toTxQueues skb (.queue h q)
      omega)
    exact hlanes.system h q skb hmem hvif

/-- A frame that is injected through a monitor interface. -/
def monitorFrame (n : ℕ) : Skb := { id := n, data := [], queueMapping := 2 }

/-- The frame is received and sent if the firmware has blocks for it, and completed. -/
def monitorOps (blocks : ℕ) (success : Bool) : List LoopOp :=
  [.other { staDriver with txBlocksAvailable := blocks }, .opTx (monitorFrame 1),
    .turn {} { iters := [] }, .turn {} { iters := [] }, .completePacket ⟨0, success, 0⟩]

theorem monitorOps_foreign (blocks : ℕ) (success : Bool) :
    ∀ op ∈ monitorOps blocks success, op.Foreign (chipConf .wl128x) := by
  simp only [monitorOps, List.forall_mem_cons]
  refine ⟨trivial, ?_, trivial, trivial, trivial, by simp⟩
  show (1 : ℕ) ≠ 0
  decide

/-- A frame whose transmission failed is completed. -/
theorem vifLess_handled_retry :
    Along loopStep (fun s op => op.Handled s) ⟨wlcoreProbe (chipConf .wl128x), {}⟩
        (monitorOps 100 false) ∧
      ∃ p, copiesIn (run loopStep ⟨wlcoreProbe (chipConf .wl128x), {}⟩
        (monitorOps 100 false)).wl.toTxQueues (monitorFrame 1) p = 1 := by
  obtain ⟨hiff, hplace⟩ := vifLess_handled_iff (chipConf .wl128x) (monitorOps 100 false)
    (monitorOps_foreign 100 false)
  have hfew : ∀ n < 6, (run loopStep ⟨wlcoreProbe (chipConf .wl128x), {}⟩
      ((monitorOps 100 false).take n)).wl.oops = false := by decide +kernel
  refine ⟨hiff.mp fun n => ?_, ?_⟩
  · rcases Nat.lt_or_ge n 6 with hn | hn
    · exact hfew n hn
    · rw [List.take_of_length_le (by show 5 ≤ n; omega)]
      exact hfew 5 (by decide)
  · obtain ⟨p, -, hone, -⟩ := hplace (monitorFrame 1) (by show (1 : ℕ) ≠ 0; decide) rfl
      (by decide +kernel)
    exact ⟨p, hone⟩

/-- The band of the absent vif is read when the frame was sent successfully, and its cursor is
written when the firmware has no blocks for the frame. -/
theorem vifLess_oops :
    (∀ op ∈ monitorOps 100 true, op.Foreign (chipConf .wl128x)) ∧
      (run loopStep ⟨wlcoreProbe (chipConf .wl128x), {}⟩ (monitorOps 100 true)).wl.oops = true ∧
      (run loopStep ⟨wlcoreProbe (chipConf .wl128x), {}⟩
        ((monitorOps 0 true).take 3)).wl.oops = true :=
  ⟨monitorOps_foreign 100 true, by decide +kernel, by decide +kernel⟩

end TiWlan.Tx
