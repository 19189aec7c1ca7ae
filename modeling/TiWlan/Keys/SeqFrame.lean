import TiWlan.Tx.IdTable

/-!
# What touches the sequence number of a vif

`tx_security_seq` and `tx_security_last_seq_lsb` are the persistent part of
`struct wl12xx_vif` (`wlcore/wlcore_i.h`, lines 434–451). They are read by
`wlcore_set_key`, advanced by `wl1271_tx_complete_packet` and padded by
`wl1271_recovery_work`; `SeqKeep v` is the frame of everything else, together with the
table of frames in flight.

Main results:

* `wlcoreHwSetKey_seq`: setting a key sends at most one command, with the current
  sequence number;
* `wl1271RecoveryWork_seq`: a recovery adds the padding and empties the table.
-/

namespace TiWlan.Keys

open TiWlan.Lib TiWlan.Driver TiWlan.Tx
open Function (update update_of_ne update_self)

variable {k : KeyConf} {us : List VifId} {s : ℕ} (wl : Wl1271) (u : VifId) (sta : Option KeySta)
  (env : SetKeyEnv) (h : Hlid) (r : TxResult)

/-- The persistent data of a vif. -/
def vifSeq (wl : Wl1271) (v : VifId) : ℕ × ℕ :=
  ((wl.vifs v).txSecuritySeq, (wl.vifs v).txSecurityLastSeqLsb)

/-- The sequence number of the vif and the table of frames are the same. -/
structure SeqKeep (v : VifId) (wl wl' : Wl1271) : Prop where
  conf : wl'.toConf = wl.toConf
  seq : vifSeq wl' v = vifSeq wl v
  table : SameTable wl.toTxQueues wl'.toTxQueues

namespace SeqKeep

variable {v : VifId} {wl wl' wl'' : Wl1271}

theorem refl (v : VifId) (wl : Wl1271) : SeqKeep v wl wl := ⟨rfl, rfl, rfl, rfl, rfl⟩

theorem trans (h : SeqKeep v wl wl') (h' : SeqKeep v wl' wl'') : SeqKeep v wl wl'' :=
  ⟨h'.conf.trans h.conf, h'.seq.trans h.seq, h'.table.map.trans h.table.map,
    h'.table.frames.trans h.table.frames, h'.table.cnt.trans h.table.cnt⟩

/-- Changes outside the vifs and the table. -/
theorem of_parts (hc : wl'.toConf = wl.toConf) (hv : wl'.vifs = wl.vifs)
    (ht : wl'.toTxQueues = wl.toTxQueues) : SeqKeep v wl wl' :=
  ⟨hc, by rw [vifSeq, hv]; rfl, .of_eq ht⟩

/-- A store into a vif that leaves the persistent data alone. -/
theorem setVif (wl : Wl1271) (u : VifId) {f : Wl12xxVif → Wl12xxVif}
    (hs : (f (wl.vifs u)).txSecuritySeq = (wl.vifs u).txSecuritySeq)
    (hl : (f (wl.vifs u)).txSecurityLastSeqLsb = (wl.vifs u).txSecurityLastSeqLsb) :
    SeqKeep v wl (wl.setVif u f) := by
  refine ⟨rfl, ?_, rfl, rfl, rfl⟩
  show ((update wl.vifs u (f (wl.vifs u)) v).txSecuritySeq,
    (update wl.vifs u (f (wl.vifs u)) v).txSecurityLastSeqLsb) = _
  by_cases h : v = u
  · subst h
    rw [update_self, hs, hl]
    rfl
  · rw [update_of_ne h]
    rfl

theorem foldl {α : Type} {f : Wl1271 → α → Wl1271} (hf : ∀ wl a, SeqKeep v wl (f wl a))
    (l : List α) (wl : Wl1271) : SeqKeep v wl (l.foldl f wl) :=
  foldl_rel (refl v) trans (fun wl a _ => hf wl a) wl

end SeqKeep

/-! ## Allocation and completion -/

theorem wl1271FreeTxId_vifs (i : TxId) : (wl1271FreeTxId wl i).vifs = wl.vifs := by
  unfold wl1271FreeTxId
  split <;> rfl

theorem wl1271TxAllocate_vifs (wlvif : Option VifId) (skb : Skb) (extra off : ℕ) (h : Hlid)
    (gem : Bool) : (wl1271TxAllocate wl wlvif skb extra off h gem).2.vifs = wl.vifs := by
  obtain ⟨_, _, _, _, _, _, _, _, _, _, heq⟩ :=
    wl1271TxAllocate_frame wl wlvif skb extra off h gem
  rw [heq]

/-- The frame is sent with a tracked key of the vif. -/
def Tracked (v : VifId) (skb : Skb) : Prop := skb.vif = some v ∧ tracksSeq skb = true

instance (v : VifId) (skb : Skb) : Decidable (Tracked v skb) :=
  inferInstanceAs (Decidable (skb.vif = some v ∧ tracksSeq skb = true))

/-- Only the completion of a frame with a tracked key of the vif changes its sequence
number. -/
theorem completeVif_seq (skb : Skb) (v : VifId) :
    (completeVif wl r skb).vifs v =
      if Tracked v skb then updateSecuritySeq (wl.vifs v) r.seqLsb else wl.vifs v := by
  unfold completeVif
  split
  · rename_i hvif
    rw [if_neg]
    rintro ⟨hv, -⟩
    rw [hvif] at hv
    cases hv
  · rename_i u hvif
    split
    · rename_i htrack
      by_cases huv : v = u
      · subst huv
        rw [if_pos ⟨hvif, htrack⟩]
        exact update_self ..
      · rw [if_neg]
        · exact update_of_ne huv ..
        · rintro ⟨hv, -⟩
          rw [hvif] at hv
          exact huv (Option.some.inj hv).symm
    · rename_i htrack
      rw [if_neg fun h => htrack h.2]

/-- What a result of the firmware does: it is ignored, it releases the dummy packet, or it
releases the frame in slot `i` and advances the sequence number of its vif. -/
theorem wl1271TxCompletePacket_cases (v : VifId) :
    wl1271TxCompletePacket wl r = wl ∨
      ∃ i skb, wl.txFrames i = some skb ∧ completedFrame wl r.id = some (i, skb) ∧
        SameTable (freeSlot wl.toTxQueues i) (wl1271TxCompletePacket wl r).toTxQueues ∧
        (wl1271TxCompletePacket wl r).vifs v =
          if Tracked v skb ∧ skb.id ≠ wl.dummyPacket.id then
            updateSecuritySeq (wl.vifs v) r.seqLsb
          else wl.vifs v := by
  unfold wl1271TxCompletePacket
  split
  · exact Or.inl rfl
  · rename_i i skb heq
    refine Or.inr ⟨i, skb, completedFrame_some heq, heq, ?_⟩
    unfold wl12xxIsDummyPacket
    split
    · rename_i hd
      refine ⟨.of_eq (freeTxId_toTxQueues wl i), ?_⟩
      rw [wl1271FreeTxId_vifs, if_neg]
      rintro ⟨-, hne⟩
      exact hne (beq_iff_eq.mp hd).symm
    · rename_i hd
      have hne : skb.id ≠ wl.dummyPacket.id := fun h => hd (beq_iff_eq.mpr h.symm)
      refine ⟨?_, ?_⟩
      · rw [deferFrame, freeTxId_toTxQueues]
        show SameTable _ (freeSlot { (completeVif wl r skb).toTxQueues with
          deferredTxQueue := (completeVif wl r skb).toTxQueues.deferredTxQueue ++ [skb] } i)
        rw [(completeVif_parts wl r skb).1]
        unfold freeSlot
        split <;> exact ⟨rfl, rfl, rfl⟩
      · rw [deferFrame, wl1271FreeTxId_vifs]
        show (completeVif wl r skb).vifs v = _
        rw [completeVif_seq]
        by_cases htrack : Tracked v skb
        · rw [if_pos htrack, if_pos ⟨htrack, hne⟩]
        · rw [if_neg htrack, if_neg fun h => htrack h.1]

/-! ## Setting a key -/

/-- The sequence number in a key command. -/
def keyCmdSeq (cmd : KeyCmd) : ℕ := cmd.txSeq32 * 2 ^ 16 + cmd.txSeq16

/-- At most one key command was sent, and it carries the sequence number `s`. -/
def SentKey (s : ℕ) (wl wl' : Wl1271) : Prop :=
  wl'.keyCmds = wl.keyCmds ∨
    ∃ cmd, wl'.keyCmds = cmd :: wl.keyCmds ∧ keyCmdSeq cmd = s % 2 ^ 48

theorem keyCmdSeq_split (s : ℕ) :
    txSecurityHi32 s * 2 ^ 16 + txSecurityLo16 s = s % 2 ^ 48 := by
  unfold txSecurityHi32 txSecurityLo16
  omega

variable {v : VifId}

theorem sendKeyCmd_seq (cmd : KeyCmd) (ret : CmdRet) (hcmd : keyCmdSeq cmd = s % 2 ^ 48) :
    SeqKeep v wl (sendKeyCmd wl cmd ret).2 ∧ SentKey s wl (sendKeyCmd wl cmd ret).2 := by
  cases ret with
  | ok => exact ⟨.of_parts rfl rfl rfl, Or.inr ⟨cmd, rfl, hcmd⟩⟩
  | noMem => exact ⟨.refl v wl, Or.inl rfl⟩
  | failed e => exact ⟨.of_parts rfl rfl rfl, Or.inl rfl⟩

theorem wl1271RecordApKey_seq (k : ApKey) (allocOk : Bool) (s : ℕ) :
    SeqKeep v wl (wl1271RecordApKey wl u k allocOk).2 ∧
      SentKey s wl (wl1271RecordApKey wl u k allocOk).2 := by
  have hset : SeqKeep v wl
      (wl.setVif u fun w => { w with recordedApKeys := w.recordedApKeys ++ [k] }) :=
    .setVif wl u rfl rfl
  dsimp only [wl1271RecordApKey]
  split_ifs
  all_goals first
    | exact ⟨.refl v wl, Or.inl rfl⟩
    | exact ⟨hset, Or.inl rfl⟩

theorem wl1271SetKey_seq (add : Bool) (k : KeyConf) (keyType : KeyType) (txSeq : ℕ × ℕ)
    (sta : Option KeySta) (ret : CmdRet) (hseq : txSeq.1 * 2 ^ 16 + txSeq.2 = s % 2 ^ 48) :
    SeqKeep v wl (wl1271SetKey wl u add k keyType txSeq sta ret).2 ∧
      SentKey s wl (wl1271SetKey wl u add k keyType txSeq sta ret).2 := by
  dsimp only [wl1271SetKey]
  split_ifs
  all_goals first
    | exact ⟨.refl v wl, Or.inl rfl⟩
    | exact wl1271RecordApKey_seq ..
    | exact sendKeyCmd_seq wl _ ret hseq

theorem updateArpRsp_seq (keyType : KeyType) (sta : Option KeySta) (ret : CmdRet) :
    SeqKeep v wl (updateArpRsp wl u keyType sta ret).2 ∧
      (updateArpRsp wl u keyType sta ret).2.keyCmds = wl.keyCmds := by
  dsimp only [updateArpRsp]
  split_ifs
  · have hset : SeqKeep v wl (wl.setVif u fun w => { w with encryptionType := keyType }) :=
      .setVif wl u rfl rfl
    cases ret with
    | ok => exact ⟨hset, rfl⟩
    | noMem => exact ⟨hset, rfl⟩
    | failed e => exact ⟨hset.trans (.of_parts rfl rfl rfl), rfl⟩
  · exact ⟨.refl v wl, rfl⟩

/-- The ciphers whose sequence number the driver tracks. -/
def TrackedCipher (c : Cipher) : Prop := c = .tkip ∨ c = .ccmp ∨ c = .gem

instance (c : Cipher) : Decidable (TrackedCipher c) :=
  inferInstanceAs (Decidable (c = .tkip ∨ c = .ccmp ∨ c = .gem))

theorem wlcoreSetKey_seq (hk : TrackedCipher k.cipher) :
    SeqKeep v wl (wlcoreSetKey wl .setKey v sta k env).2 ∧
      SentKey (wl.vifs v).txSecuritySeq wl (wlcoreSetKey wl .setKey v sta k env).2 := by
  have htype : ∃ t, cipherKeyType k.cipher = some t ∧ t ≠ .wep := by
    rcases hk with h | h | h <;> exact ⟨_, by rw [h]; rfl, by simp⟩
  obtain ⟨t, ht, hwep⟩ := htype
  unfold wlcoreSetKey
  split_ifs
  · exact ⟨.refl v wl, Or.inl rfl⟩
  rw [ht]
  dsimp only
  have hseq : (keyTxSeq (wl.vifs v) t).1 * 2 ^ 16 + (keyTxSeq (wl.vifs v) t).2 =
      (wl.vifs v).txSecuritySeq % 2 ^ 48 := by
    rw [keyTxSeq, if_neg hwep]
    exact keyCmdSeq_split _
  obtain ⟨hkeep, hsent⟩ := wl1271SetKey_seq (v := v) wl v true k t _ sta env.keyCmd hseq
  generalize wl1271SetKey wl v true k t (keyTxSeq (wl.vifs v) t) sta env.keyCmd = r at hkeep hsent
  obtain ⟨_ | _, wl₁⟩ := r
  · exact ⟨hkeep, hsent⟩
  · obtain ⟨harp, hcmds⟩ := updateArpRsp_seq (v := v) wl₁ v t sta env.arpRsp
    refine ⟨hkeep.trans harp, ?_⟩
    unfold SentKey at hsent ⊢
    dsimp only at hsent ⊢
    rw [hcmds]
    exact hsent

theorem wl18xxSetHostCfgBitmap_seq (extra : ℕ) (ret : CmdRet) :
    SeqKeep v wl (wl18xxSetHostCfgBitmap wl extra ret).2 ∧
      (wl18xxSetHostCfgBitmap wl extra ret).2.keyCmds = wl.keyCmds := by
  cases ret <;> exact ⟨.of_parts rfl rfl rfl, rfl⟩

theorem SentKey.of_eq {wl wl' wl'' : Wl1271} (h : SentKey s wl wl')
    (heq : wl''.keyCmds = wl'.keyCmds) : SentKey s wl wl'' := by
  unfold SentKey
  rw [heq]
  exact h

/-- Setting a tracked key programs the current sequence number, on either chip family. -/
theorem wlcoreHwSetKey_seq (hk : TrackedCipher k.cipher) :
    SeqKeep v wl (wlcoreHwSetKey wl .setKey v sta k env).2 ∧
      SentKey (wl.vifs v).txSecuritySeq wl (wlcoreHwSetKey wl .setKey v sta k env).2 := by
  obtain ⟨hkeep, hsent⟩ := wlcoreSetKey_seq (v := v) wl sta env hk
  unfold wlcoreHwSetKey
  split_ifs
  · unfold wl18xxSetKey
    split_ifs
    · exact ⟨hkeep, hsent⟩
    generalize wlcoreSetKey wl .setKey v sta k env = r at hkeep hsent
    obtain ⟨_ | _, wl₁⟩ := r
    · exact ⟨hkeep, hsent⟩
    · dsimp only at hkeep hsent ⊢
      obtain ⟨hcfg, hcmds⟩ :=
        wl18xxSetHostCfgBitmap_seq (v := v) wl₁ wl18xxTxHwExtraBlockSpare env.hostCfg
      generalize wl18xxSetHostCfgBitmap wl₁ wl18xxTxHwExtraBlockSpare env.hostCfg = r
        at hcfg hcmds
      obtain ⟨_ | _, wl₂⟩ := r
      · exact ⟨hkeep.trans hcfg, hsent.of_eq hcmds⟩
      · exact ⟨(hkeep.trans hcfg).trans (.of_parts rfl rfl rfl), hsent.of_eq hcmds⟩
  · exact ⟨hkeep, hsent⟩

/-! ## Recovery -/

theorem removeDeinit_seq : SeqKeep v wl (removeDeinit wl u) := by
  obtain ⟨lm, q, c, d, st, m, ps, fps, n, a, p, b, heq⟩ := removeDeinit_frame wl u
  have hset : SeqKeep v wl (wl.setVif u fun w => { forgetRoles w with
      linksMap := lm, staHlidMap := fun _ => false, lastTxHlid := 0 }) := by
    refine .setVif wl u ?_ ?_ <;> unfold forgetRoles <;> split <;> rfl
  rw [heq]
  exact ⟨rfl, hset.seq, rfl, rfl, rfl⟩

/-- Removing an interface while a recovery is in progress sends nothing. -/
theorem wl1271OpRemoveInterfaceLocked_seq {wl : Wl1271} (hrec : wl.recoveryInProgress = true)
    (u : VifId) (env : RemoveEnv) :
    SeqKeep v wl (wl1271OpRemoveInterfaceLocked wl u env) := by
  have hclear : SeqKeep v wl (clearInitialized wl u) := .setVif wl u rfl rfl
  have hroles : removeDisableRoles (clearInitialized wl u) u env = clearInitialized wl u := by
    unfold removeDisableRoles
    exact if_pos hrec
  have hauth (wl : Wl1271) (wasAp : Bool) : SeqKeep v wl (removeSleepAuth wl wasAp env) := by
    obtain ⟨ret, heq⟩ := removeSleepAuth_cmd wl wasAp env
    rw [heq]
    cases ret <;> exact .of_parts rfl rfl rfl
  unfold wl1271OpRemoveInterfaceLocked
  split_ifs
  · exact .refl v wl
  · exact hclear
  · rw [hroles]
    exact (hclear.trans (removeDeinit_seq _ u)).trans (hauth _ _)

/-- The loop of `wl1271_recovery_work` over the interfaces. -/
theorem foldl_removeInterface_seq (us : List VifId) (env : VifId → RemoveEnv) {wl : Wl1271}
    (hrec : wl.recoveryInProgress = true) (hoff : wl.state ≠ .off) :
    SeqKeep v wl (us.foldl (fun wl u => wl1271OpRemoveInterfaceLocked wl u (env u)) wl) ∧
      (us.foldl (fun wl u => wl1271OpRemoveInterfaceLocked wl u (env u)) wl).state ≠ .off := by
  induction us generalizing wl with
  | nil => exact ⟨.refl v wl, hoff⟩
  | cons u us ih =>
    have hpower := (wl1271OpRemoveInterfaceLocked_powerKeep wl u (env u)).power
    obtain ⟨hkeep, hstate⟩ := ih (hpower.recoveryInProgress hrec)
      (hpower.state_ne_off hoff)
    exact ⟨(wl1271OpRemoveInterfaceLocked_seq hrec u (env u)).trans hkeep, hstate⟩

theorem wl12xxTxReset_vifs : (wl12xxTxReset wl).vifs = wl.vifs := by
  obtain ⟨_, _, _, _, _, _, _, _, heq⟩ := wl12xxTxReset_frame wl
  rw [heq]

/-- Stopping the device keeps the vifs and empties the table. -/
theorem wlcoreOpStopLocked_seq {wl : Wl1271} (hoff : wl.state ≠ .off)
    (hs : SlotInv wl.numTxDesc wl.toTxQueues) :
    (wlcoreOpStopLocked wl).toConf = wl.toConf ∧ (wlcoreOpStopLocked wl).vifs = wl.vifs ∧
      SlotInv wl.numTxDesc (wlcoreOpStopLocked wl).toTxQueues ∧
      ∀ i, (wlcoreOpStopLocked wl).txFrames i = none := by
  have hcancel : SlotInv (opStopCancel (opStopOff wl)).numTxDesc
      (opStopCancel (opStopOff wl)).toTxQueues := ⟨hs.frames, hs.bound, hs.cnt⟩
  have hconf := (wl12xxTxReset_keep (opStopCancel (opStopOff wl))).conf
  have hvifs := wl12xxTxReset_vifs (opStopCancel (opStopOff wl))
  obtain ⟨hslots, hnone⟩ := wl12xxTxReset_table hcancel
  rcases wlcoreOpStopLocked_cases wl with ⟨hoff', -⟩ | ⟨-, wl₁, p, hwl, heq⟩
  · exact absurd hoff' hoff
  · rw [hwl] at hconf hvifs hslots hnone
    rw [heq]
    exact ⟨hconf, hvifs, ⟨hslots.frames, hslots.bound, hslots.cnt⟩, hnone⟩

theorem padSecuritySeq_of_ne {u : VifId} (h : u ≠ v) (wl : Wl1271) :
    (padSecuritySeq wl u).vifs v = wl.vifs v := by
  unfold padSecuritySeq
  split
  · exact update_of_ne (Ne.symm h) ..
  · rfl

theorem foldl_padSecuritySeq_of_notMem (h : v ∉ us) (wl : Wl1271) :
    (us.foldl padSecuritySeq wl).vifs v = wl.vifs v := by
  induction us generalizing wl with
  | nil => rfl
  | cons u us ih =>
    obtain ⟨hne, hnot⟩ := not_or.mp (mt List.mem_cons.mpr h)
    exact (ih hnot _).trans (padSecuritySeq_of_ne (Ne.symm hne) wl)

/-- The padding is added once to every vif of the list. -/
theorem foldl_padSecuritySeq (hnodup : us.Nodup) (h : v ∈ us) (wl : Wl1271) :
    (us.foldl padSecuritySeq wl).vifs v = (padSecuritySeq wl v).vifs v := by
  induction us generalizing wl with
  | nil => cases h
  | cons u us ih =>
    obtain ⟨hnot, hnodup'⟩ := List.nodup_cons.mp hnodup
    by_cases huv : u = v
    · subst huv
      exact foldl_padSecuritySeq_of_notMem hnot _
    · have hmem : v ∈ us := (List.mem_cons.mp h).resolve_left (Ne.symm huv)
      have hsame := padSecuritySeq_of_ne huv wl
      rw [List.foldl_cons, ih hnodup' hmem]
      unfold padSecuritySeq at hsame ⊢
      rw [hsame]
      split
      · show update _ v _ v = update _ v _ v
        rw [update_self, update_self, hsame]
      · exact hsame

/-- The padding touches nothing but the vifs. -/
theorem foldl_padSecuritySeq_vifs (us : List VifId) (wl : Wl1271) :
    ∃ vifs, us.foldl padSecuritySeq wl = { wl with vifs := vifs } := by
  refine us.foldlRecOn padSecuritySeq
    (motive := fun wl' => ∃ vifs, wl' = { wl with vifs := vifs }) ⟨wl.vifs, rfl⟩ ?_
  rintro _ ⟨vifs, rfl⟩ u -
  unfold padSecuritySeq
  split
  · exact ⟨_, rfl⟩
  · exact ⟨vifs, rfl⟩

/-- `wl1271_recovery_work` restarts the chip, and the vif is associated or started. -/
@[mk_iff]
structure Recovers (v : VifId) (wl : Wl1271) : Prop where
  running : wl.state ≠ .off ∧ wl.plt = false
  queued : wl.recoveryInProgress = true
  enabled : wl.noRecovery = false ∧ (wl.bugOnRecovery = true → wl.intendedFwRecovery = true)
  listed : v ∈ wl.wlvifList ∧ wl.wlvifList.Nodup
  active : ((wl.vifs v).staAssociated || (wl.vifs v).apStarted) = true

instance (v : VifId) (wl : Wl1271) : Decidable (Recovers v wl) :=
  decidable_of_iff' _ (recovers_iff v wl)

/-- A recovery adds the padding to the sequence number and empties the table of frames. -/
theorem wl1271RecoveryWork_seq {wl : Wl1271} (hr : Recovers v wl)
    (hs : SlotInv wl.numTxDesc wl.toTxQueues) (env : VifId → RemoveEnv) :
    (wl1271RecoveryWork wl env).toConf = wl.toConf ∧
      vifSeq (wl1271RecoveryWork wl env) v =
        (u64 ((wl.vifs v).txSecuritySeq + txSqnPostRecoveryPadding),
          (wl.vifs v).txSecurityLastSeqLsb) ∧
      SlotInv wl.numTxDesc (wl1271RecoveryWork wl env).toTxQueues ∧
      ∀ i, (wl1271RecoveryWork wl env).txFrames i = none := by
  have hwork : wl1271RecoveryWork wl env = recoveryOut (recoveryRestart wl env) := by
    have hbug : ¬ (wl.bugOnRecovery = true ∧ ¬ wl.intendedFwRecovery = true) :=
      fun h => h.2 (hr.enabled.2 h.1)
    unfold wl1271RecoveryWork
    rw [if_neg (by simp [hr.running]), if_neg hbug, hr.enabled.1]
    rfl
  -- the padded state, from which the interfaces are removed
  obtain ⟨vifs, hfold⟩ := foldl_padSecuritySeq_vifs wl.wlvifList wl
  have hpad := foldl_padSecuritySeq hr.listed.2 hr.listed.1 wl
  unfold padSecuritySeq at hpad
  rw [if_pos hr.active] at hpad
  have hconf := congrArg Wl1271.toConf hfold
  have hpower := congrArg Wl1271.toPower hfold
  set wl₁ := wlcoreStopQueues (wl.wlvifList.foldl padSecuritySeq wl) .fwRestart with hwl₁
  have hrec₁ : wl₁.recoveryInProgress = true :=
    (congrArg Power.recoveryInProgress hpower).trans hr.queued
  have hoff₁ : wl₁.state ≠ .off := by
    rw [show wl₁.state = wl.state from congrArg Power.state hpower]
    exact hr.running.1
  obtain ⟨hkeep, hoff₂⟩ := foldl_removeInterface_seq (v := v) wl₁.wlvifList env hrec₁ hoff₁
  set wl₂ := wl₁.wlvifList.foldl (fun wl u => wl1271OpRemoveInterfaceLocked wl u (env u)) wl₁
    with hwl₂
  have hnum : wl₂.numTxDesc = wl.numTxDesc :=
    congrArg Conf.numTxDesc (hkeep.conf.trans hconf)
  have hslots₂ : SlotInv wl₂.numTxDesc wl₂.toTxQueues := by
    rw [hnum]
    refine hkeep.table.slotInv ?_
    show SlotInv _ (wl.wlvifList.foldl padSecuritySeq wl).toTxQueues
    rw [hfold]
    exact hs
  obtain ⟨hstop, hvifs, hslots, hnone⟩ := wlcoreOpStopLocked_seq hoff₂ hslots₂
  have hend : wl1271RecoveryWork wl env =
      recoveryOut (wlcoreWakeQueues (wlcoreOpStopLocked wl₂) .fwRestart) := hwork
  rw [hend]
  generalize wlcoreOpStopLocked wl₂ = wl₃ at hstop hvifs hslots hnone ⊢
  refine ⟨hstop.trans (hkeep.conf.trans hconf), ?_, hnum ▸ hslots, hnone⟩
  · have hseq : vifSeq wl₃ v = vifSeq wl₂ v := by
      unfold vifSeq
      rw [hvifs]
    have hpadded : (wl.wlvifList.foldl padSecuritySeq wl).vifs v =
        { wl.vifs v with
          txSecuritySeq := u64 ((wl.vifs v).txSecuritySeq + txSqnPostRecoveryPadding) } :=
      hpad.trans (update_self ..)
    have hfirst : vifSeq wl₁ v = (u64 ((wl.vifs v).txSecuritySeq + txSqnPostRecoveryPadding),
        (wl.vifs v).txSecurityLastSeqLsb) := by
      show vifSeq (wl.wlvifList.foldl padSecuritySeq wl) v = _
      unfold vifSeq
      rw [hpadded]
    exact hseq.trans (hkeep.seq.trans hfirst)

end TiWlan.Keys
