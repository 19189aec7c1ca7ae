import TiWlan.Keys.SeqFrame
import TiWlan.Tx.Admission

/-!
# Sequence numbers across recoveries

A frame that is sent with a TKIP, CCMP or GEM key must not use a sequence number that was
used with that key before. The firmware counts: after `CMD_SET_KEYS` programmed the value
`p`, the `n`-th frame uses `p + n`. The host learns the numbers only from the low byte in
the results (`wlcore/tx.c`, lines 885–904), for all keys of a vif in one counter, and
programs the counter again when the keys are set anew after a recovery
(`wlcore/main.c`, lines 929–991 and 3169–3267). The padding of a recovery is added to the
counter and not to the saved low byte, so that the two drift apart by one per recovery.

A run interleaves key installations, hand-overs of frames, results and recoveries;
`SeqSys` adds what the firmware does to the driver. Main results:

* `reported_le`: with at most 32 numbers outstanding, the counter after a result is at
  most `slack` below the reported number, whatever the drift;
* `seqStep_inv`, `seqNumbers_not_reused`: on the wl12xx completion path the value programmed
  after a recovery is at least every number used before, as long as the counter stays below
  `2 ^ 48`;
* `seqNumbers_wrap`: beyond that the command wraps around;
* `seqNumbers18xx_not_reused`, `seqNumbers18xx_reused`: on wl18xx, whose completions carry no
  sequence number, this holds as long as at most 255 frames are sent between programming a
  key and a recovery, and fails with 256.
-/

namespace TiWlan.Keys

open TiWlan.Lib TiWlan.Driver TiWlan.Tx
open Function (update update_of_ne update_self)

variable {gem : Bool} {r : Except Errno TxAlloc} {k : KeyConf} {op : SeqOp} {skb : Skb} {i : TxId}
  {wl wl' : Wl1271}

/-! ## The counter and the low byte -/

/-- How far the saved low byte is ahead of the counter, modulo 256. -/
def drift (s lsb : ℕ) : ℕ := (lsb + 256 - s % 256) % 256

/-- How far a reported number can be ahead of the counter. -/
def slack (d : ℕ) : ℕ := if d ≤ 32 then d else 0

theorem slack_le (d : ℕ) : slack d ≤ 32 := by
  unfold slack
  split <;> omega

/-- The counter after a result: it advances by the difference of the low bytes. -/
def advanced (s lsb a : ℕ) : ℕ := s + u8 (((a % 256 : ℕ) : ℤ) - lsb)

theorem advanced_lt (s lsb a : ℕ) : s ≤ advanced s lsb a ∧ advanced s lsb a < s + 256 := by
  have := u8_lt (((a % 256 : ℕ) : ℤ) - lsb)
  unfold advanced
  omega

/-- A result leaves the drift as it is. -/
theorem drift_advanced {s lsb : ℕ} (hlsb : lsb < 256) (a : ℕ) :
    drift (advanced s lsb a) (a % 256) = drift s lsb := by
  unfold drift advanced u8
  omega

/-- A reported number is at most `slack` ahead of the counter, if it was at most 32 further
ahead before. -/
theorem reported_le {s lsb a : ℕ} (hlsb : lsb < 256) (ha : a ≤ s + slack (drift s lsb) + 32) :
    a ≤ advanced s lsb a + slack (drift s lsb) := by
  have hd : drift s lsb < 256 ∧ (s + drift s lsb) % 256 = lsb := by
    unfold drift
    omega
  generalize drift s lsb = d at ha hd ⊢
  obtain ⟨hd, rfl⟩ := hd
  have hadv : advanced s ((s + d) % 256) a = s + u8 ((a : ℤ) - s - d) := by
    unfold advanced u8
    omega
  have hle := (advanced_lt s ((s + d) % 256) a).1
  rw [hadv] at hle ⊢
  unfold slack at ha ⊢
  unfold u8 at hle ⊢
  split_ifs at ha ⊢ with hsmall
  · omega
  · omega

/-! ## Runs -/

/-- The driver and the firmware's use of the keys of one vif. -/
structure SeqSys where
  wl : Wl1271
  /-- the keys that the running firmware has -/
  installed : ℕ → Bool
  /-- the number of the last frame sent with a key, or the programmed value -/
  last : ℕ → ℕ
  /-- the greatest number ever used with a key -/
  maxUsed : ℕ → ℕ
  /-- the number of the frame in a slot -/
  number : TxId → ℕ

/-- The operations of a run. -/
inductive SeqOp
  /-- `wlcore_op_set_key` with `SET_KEY` -/
  | setKey (sta : Option KeySta) (k : KeyConf) (env : SetKeyEnv)
  /-- `wl1271_tx_allocate`: a frame is handed over -/
  | send (skb : Skb) (extra bufOffset : ℕ) (h : Hlid) (isGem : Bool)
  /-- a result is processed by `wl1271_tx_complete_packet` -/
  | complete (r : TxResult)
  /-- `wl18xx_tx_immediate_complete` -/
  | complete18xx (fwReleaseIdx : ℕ) (released : ℕ → ℕ)
  /-- `wl1271_recovery_work` -/
  | recovery (env : VifId → RemoveEnv)
  /-- anything else in the driver -/
  | other (x : Wl1271)

/-- The key command that was sent between two states. -/
def newKeyCmd (wl wl' : Wl1271) : Option KeyCmd :=
  if wl.keyCmds.length < wl'.keyCmds.length then wl'.keyCmds.head? else none

/-- The driver after a `set_key` call. -/
def setKeyCall (v : VifId) (wl : Wl1271) (sta : Option KeySta) (k : KeyConf) (env : SetKeyEnv) :
    Wl1271 :=
  (wlcoreHwSetKey wl .setKey v sta k env).2

/-- The number that a key is programmed with by a `set_key` call, if the command is sent. -/
def programmed (v : VifId) (s : SeqSys) (sta : Option KeySta) (k : KeyConf) (env : SetKeyEnv) :
    Option ℕ :=
  (newKeyCmd s.wl (setKeyCall v s.wl sta k env)).map keyCmdSeq

/-- The firmware programs the key. -/
def SeqSys.install (s : SeqSys) (k : KeyConf) : Option ℕ → SeqSys
  | none => s
  | some p => { s with installed := update s.installed k.id true, last := update s.last k.id p }

/-- The firmware sends a frame with the next number of its key. -/
def SeqSys.use (s : SeqSys) (v : VifId) (skb : Skb) (i : TxId) : SeqSys :=
  match skb.hwKey with
  | none => s
  | some key =>
    if Tracked v skb then
      { s with
        last := update s.last key.id (s.last key.id + 1)
        maxUsed := update s.maxUsed key.id (max (s.maxUsed key.id) (s.last key.id + 1))
        number := update s.number i (s.last key.id + 1) }
    else s

/-- Perform one operation. -/
def seqStep (v : VifId) (s : SeqSys) : SeqOp → SeqSys
  | .setKey sta k env =>
    { s with wl := setKeyCall v s.wl sta k env }.install k (programmed v s sta k env)
  | .send skb extra off h gem =>
    match wl1271TxAllocate s.wl skb.vif skb extra off h gem with
    | (.ok a, wl) => { s with wl := wl }.use v skb a.id
    | (.error _, wl) => { s with wl := wl }
  | .complete r => { s with wl := wl1271TxCompletePacket s.wl r }
  | .complete18xx i released => { s with wl := wl18xxTxImmediateComplete s.wl i released }
  | .recovery env => { s with wl := wl1271RecoveryWork s.wl env, installed := fun _ => false }
  | .other x =>
    { s with
      wl := { x with
        toConf := s.wl.toConf
        txFramesMap := s.wl.txFramesMap
        txFrames := s.wl.txFrames
        txFramesCnt := s.wl.txFramesCnt
        vifs := update x.vifs v
          { x.vifs v with
            txSecuritySeq := (s.wl.vifs v).txSecuritySeq
            txSecurityLastSeqLsb := (s.wl.vifs v).txSecurityLastSeqLsb } } }

/-- What the other parties do: a key is installed once in each life of the firmware, frames
go out with installed keys, and a result reports the low byte of the frame's number. -/
def SeqOp.Assumed (v : VifId) (s : SeqSys) : SeqOp → Prop
  | .setKey _ k _ => TrackedCipher k.cipher ∧ s.installed k.id = false
  | .send skb _ _ _ _ => Tracked v skb →
      skb.id ≠ s.wl.dummyPacket.id ∧ ∀ key ∈ skb.hwKey, s.installed key.id = true
  | .complete r => ∀ f ∈ completedFrame s.wl r.id, Tracked v f.2 →
      r.seqLsb = s.number f.1 % 256
  | .recovery _ => Recovers v s.wl
  | _ => True

/-- The value that a `set_key` call programs is at least every number used with the key. -/
def SeqOp.NotReused (v : VifId) (s : SeqSys) : SeqOp → Prop
  | .setKey sta k env => ∀ p ∈ programmed v s sta k env, s.maxUsed k.id ≤ p
  | _ => True

/-- The completions come in the results of wl12xx. -/
def SeqOp.Wl12xx : SeqOp → Prop
  | .complete18xx .. => False
  | _ => True

/-- The completions come in the status of wl18xx. -/
def SeqOp.Wl18xx : SeqOp → Prop
  | .complete .. => False
  | _ => True

instance (v : VifId) (s : SeqSys) (op : SeqOp) : Decidable (op.Assumed v s) := by
  cases op <;> dsimp only [SeqOp.Assumed] <;> infer_instance

instance (op : SeqOp) : Decidable op.Wl12xx := by
  cases op <;> dsimp only [SeqOp.Wl12xx] <;> infer_instance

instance (op : SeqOp) : Decidable op.Wl18xx := by
  cases op <;> dsimp only [SeqOp.Wl18xx] <;> infer_instance

/-- The counter of the vif. -/
def SeqSys.seq (s : SeqSys) (v : VifId) : ℕ := (s.wl.vifs v).txSecuritySeq

/-- The saved low byte of the vif. -/
def SeqSys.lsb (s : SeqSys) (v : VifId) : ℕ := (s.wl.vifs v).txSecurityLastSeqLsb

/-- A vif with an arbitrary counter, in a firmware without keys. -/
structure SeqStart (v : VifId) (s : SeqSys) : Prop where
  slots : SlotInv s.wl.numTxDesc s.wl.toTxQueues
  lsb : s.lsb v < 256
  idle : ∀ i skb, s.wl.txFrames i = some skb → ¬ Tracked v skb
  keys : ∀ k, s.installed k = false ∧ s.maxUsed k = 0

/-! ## Every number used is known or outstanding -/

/-- A number used with a key is at most the counter, or the key is in the running firmware and
the number at most its last one. -/
structure UsedInv (v : VifId) (s : SeqSys) : Prop where
  slots : SlotInv s.wl.numTxDesc s.wl.toTxQueues
  used : ∀ k, s.maxUsed k ≤ max (s.seq v) (if s.installed k then s.last k else 0)

variable {v : VifId} {s : SeqSys}

/-- A change of the driver in which the counter does not decrease. -/
theorem UsedInv.mono (h : UsedInv v s) (hs : SlotInv wl.numTxDesc wl.toTxQueues)
    (hseq : s.seq v ≤ (wl.vifs v).txSecuritySeq) : UsedInv v { s with wl := wl } := by
  refine ⟨hs, fun k => (h.used k).trans ?_⟩
  exact max_le_max_right _ hseq

theorem SeqKeep.slotInv (h : SeqKeep v wl wl') (hs : SlotInv wl.numTxDesc wl.toTxQueues) :
    SlotInv wl'.numTxDesc wl'.toTxQueues := by
  rw [h.conf]
  exact h.table.slotInv hs

theorem newKeyCmd_of_sentKey {p : ℕ} (h : SentKey p wl wl') :
    ∀ cmd ∈ newKeyCmd wl wl', keyCmdSeq cmd = p % 2 ^ 48 := by
  intro cmd hcmd
  unfold newKeyCmd at hcmd
  rcases h with heq | ⟨cmd', heq, hseq⟩
  · rw [heq, if_neg (lt_irrefl _)] at hcmd
    cases hcmd
  · rw [heq, if_pos (by simp)] at hcmd
    cases hcmd
    exact hseq

/-- A tracked key is programmed with the counter. -/
theorem programmed_eq (s : SeqSys) (sta : Option KeySta) (env : SetKeyEnv)
    (hk : TrackedCipher k.cipher) : ∀ p ∈ programmed v s sta k env, p = s.seq v % 2 ^ 48 := by
  intro p hp
  obtain ⟨cmd, hcmd, rfl⟩ := Option.map_eq_some_iff.mp hp
  exact newKeyCmd_of_sentKey (wlcoreHwSetKey_seq s.wl sta env hk).2 cmd hcmd

theorem UsedInv.setKey (h : UsedInv v s) (sta : Option KeySta) (env : SetKeyEnv)
    (hop : (SeqOp.setKey sta k env).Assumed v s) : UsedInv v (seqStep v s (.setKey sta k env)) := by
  obtain ⟨hk, hnew⟩ := hop
  have hkeep := (wlcoreHwSetKey_seq (v := v) s.wl sta env hk).1
  have hcall : UsedInv v { s with wl := setKeyCall v s.wl sta k env } :=
    h.mono (hkeep.slotInv h.slots) (congrArg Prod.fst hkeep.seq).ge
  show UsedInv v (({ s with wl := setKeyCall v s.wl sta k env } : SeqSys).install k
    (programmed v s sta k env))
  cases programmed v s sta k env with
  | none => exact hcall
  | some p =>
    refine ⟨hcall.slots, fun k' => ?_⟩
    by_cases hkk : k' = k.id
    · -- the key was not in the firmware, so all its numbers are below the counter
      have hused := hcall.used k.id
      rw [show ({ s with wl := setKeyCall v s.wl sta k env } : SeqSys).installed k.id = false
        from hnew] at hused
      rw [hkk]
      simp only [Bool.false_eq_true, if_false, Nat.max_zero] at hused
      exact le_max_of_le_left hused
    · have hi : update s.installed k.id true k' = s.installed k' := update_of_ne hkk ..
      have hl : update s.last k.id p k' = s.last k' := update_of_ne hkk ..
      show s.maxUsed k' ≤ max _ (if update s.installed k.id true k' then
        update s.last k.id p k' else 0)
      rw [hi, hl]
      exact hcall.used k'

theorem tracked_hwKey (h : Tracked v skb) : ∃ key, skb.hwKey = some key := by
  have htrack := h.2
  unfold tracksSeq at htrack
  split at htrack
  · exact ⟨_, by assumption⟩
  · cases htrack

theorem SeqSys.use_of_tracked (s : SeqSys) {key : KeyConf} (h : Tracked v skb)
    (hkey : skb.hwKey = some key) (i : TxId) :
    s.use v skb i =
      { s with
        last := update s.last key.id (s.last key.id + 1)
        maxUsed := update s.maxUsed key.id (max (s.maxUsed key.id) (s.last key.id + 1))
        number := update s.number i (s.last key.id + 1) } := by
  unfold SeqSys.use
  rw [hkey]
  exact if_pos h

theorem SeqSys.use_of_not_tracked (s : SeqSys) (h : ¬ Tracked v skb) (i : TxId) :
    s.use v skb i = s := by
  unfold SeqSys.use
  split
  · rfl
  · exact if_neg h

theorem UsedInv.use (h : UsedInv v s)
    (hop : Tracked v skb → ∀ key, skb.hwKey = some key → s.installed key.id = true) (i : TxId) :
    UsedInv v (s.use v skb i) := by
  by_cases htrack : Tracked v skb
  · obtain ⟨key, hkey⟩ := tracked_hwKey htrack
    rw [s.use_of_tracked htrack hkey]
    have hinst := hop htrack key hkey
    refine ⟨h.slots, fun k => ?_⟩
    have hused := h.used k
    show update s.maxUsed key.id _ k ≤ max (s.seq v)
      (if s.installed k then update s.last key.id (s.last key.id + 1) k else 0)
    by_cases hk : k = key.id
    · subst hk
      rw [hinst] at hused ⊢
      rw [update_self, update_self]
      simp only [if_true] at hused ⊢
      omega
    · rw [update_of_ne hk, update_of_ne hk]
      exact hused
  · rw [s.use_of_not_tracked htrack]
    exact h

/-- An allocation, on the table and the counter. -/
theorem wl1271TxAllocate_seq (hs : SlotInv wl.numTxDesc wl.toTxQueues) (u : Option VifId)
    (skb : Skb) (extra off : ℕ) (h : Hlid) (gem : Bool)
    (heq : wl1271TxAllocate wl u skb extra off h gem = (r, wl')) :
    wl'.toConf = wl.toConf ∧ wl'.vifs = wl.vifs ∧ SlotInv wl'.numTxDesc wl'.toTxQueues ∧
      match r with
      | .ok a => wl.txFrames a.id = none ∧ wl'.txFrames = update wl.txFrames a.id (some skb)
      | .error _ => wl'.toTxQueues = wl.toTxQueues := by
  have hconf : wl'.toConf = wl.toConf := by
    have := (wl1271TxAllocate_keep wl u skb extra off h gem).conf
    rwa [heq] at this
  have hvifs : wl'.vifs = wl.vifs := by
    have := wl1271TxAllocate_vifs wl u skb extra off h gem
    rwa [heq] at this
  have hnum : wl'.numTxDesc = wl.numTxDesc := congrArg Conf.numTxDesc hconf
  refine ⟨hconf, hvifs, ?_⟩
  rw [hnum]
  rcases allocated_table (wl1271TxAllocate_path wl u skb extra off h gem) hs with
    ⟨a, wl₁, heq₁, hfree, ht⟩ | ⟨e, wl₁, heq₁, ht⟩ <;> rw [heq] at heq₁ <;> cases heq₁ <;> rw [ht]
  · exact ⟨hs.alloc hfree skb, hs.frames_none hfree.2, rfl⟩
  · exact ⟨hs, rfl⟩

theorem UsedInv.send (h : UsedInv v s) {extra off : ℕ} {l : Hlid}
    (hop : (SeqOp.send skb extra off l gem).Assumed v s) :
    UsedInv v (seqStep v s (.send skb extra off l gem)) := by
  dsimp only [seqStep]
  cases heq : wl1271TxAllocate s.wl skb.vif skb extra off l gem with
  | mk r wl' =>
    obtain ⟨-, hvifs, hslots, -⟩ := wl1271TxAllocate_seq h.slots skb.vif skb extra off l gem heq
    have hsent : UsedInv v { s with wl := wl' } :=
      h.mono hslots (congrArg (fun vifs => (vifs v).txSecuritySeq) hvifs).ge
    cases r with
    | error e => exact hsent
    | ok a => exact hsent.use (fun htrack => (hop htrack).2) a.id

/-- A recovery, if the last number of every key is within the padding. -/
theorem UsedInv.recovery (h : UsedInv v s) (hr : Recovers v s.wl) (env : VifId → RemoveEnv)
    (hseq : s.seq v < 2 ^ 48)
    (hlast : ∀ k, s.installed k = true → s.last k ≤ s.seq v + txSqnPostRecoveryPadding) :
    UsedInv v (seqStep v s (.recovery env)) ∧
      (seqStep v s (.recovery env)).lsb v = s.lsb v ∧
      ∀ i, (seqStep v s (.recovery env)).wl.txFrames i = none := by
  obtain ⟨hconf, hvif, hslots, hnone⟩ := wl1271RecoveryWork_seq hr h.slots env
  have hpad : ((wl1271RecoveryWork s.wl env).vifs v).txSecuritySeq =
      s.seq v + txSqnPostRecoveryPadding := by
    have hfst := congrArg Prod.fst hvif
    have hlt : s.seq v + txSqnPostRecoveryPadding < 2 ^ 64 := by
      unfold txSqnPostRecoveryPadding
      omega
    exact hfst.trans (u64_of_lt hlt)
  refine ⟨⟨?_, fun k => ?_⟩, congrArg Prod.snd hvif, hnone⟩
  · show SlotInv (wl1271RecoveryWork s.wl env).numTxDesc _
    rw [hconf]
    exact hslots
  · refine le_max_of_le_left ((h.used k).trans ?_)
    show _ ≤ ((wl1271RecoveryWork s.wl env).vifs v).txSecuritySeq
    rw [hpad]
    refine max_le (Nat.le_add_right _ _) ?_
    split
    · rename_i hinst
      exact hlast k hinst
    · exact Nat.zero_le _

theorem UsedInv.other (h : UsedInv v s) (x : Wl1271) : UsedInv v (seqStep v s (.other x)) := by
  refine ⟨⟨h.slots.frames, h.slots.bound, h.slots.cnt⟩, fun k => ?_⟩
  have hseq : (seqStep v s (.other x)).seq v = s.seq v := by
    show (update x.vifs v _ v).txSecuritySeq = _
    rw [update_self]
    rfl
  rw [hseq]
  exact h.used k

/-- The value programmed is at least every number used, if the counter fits the command. -/
theorem UsedInv.notReused (h : UsedInv v s) (hop : op.Assumed v s) (hseq : s.seq v < 2 ^ 48) :
    op.NotReused v s := by
  cases op with
  | setKey sta k env =>
    obtain ⟨hk, hnew⟩ := hop
    intro p hp
    have hused := h.used k.id
    rw [hnew] at hused
    rw [programmed_eq s sta env hk p hp, Nat.mod_eq_of_lt hseq]
    simpa using hused
  | _ => trivial

/-! ## The wl12xx completion path -/

/-- The slot holds a frame of the vif that is sent with key `k`. -/
def InSlot (v : VifId) (wl : Wl1271) (i : TxId) (k : ℕ) : Prop :=
  ∃ skb key, wl.txFrames i = some skb ∧ Tracked v skb ∧ skb.hwKey = some key ∧ key.id = k

theorem InSlot.of_eq {k : ℕ} (h : wl'.txFrames i = wl.txFrames i) (hi : InSlot v wl i k) :
    InSlot v wl' i k := by
  unfold InSlot
  rw [h]
  exact hi

/-- The numbers up to here are known to the host. -/
def SeqSys.known (s : SeqSys) (v : VifId) : ℕ := s.seq v + slack (drift (s.seq v) (s.lsb v))

/-- Every number used since a key was programmed is known or belongs to a frame in flight. -/
structure SeqInv (v : VifId) (s : SeqSys) : Prop extends UsedInv v s where
  lsb : s.lsb v < 256
  foreign : ∀ i skb, s.wl.txFrames i = some skb → Tracked v skb → skb.id ≠ s.wl.dummyPacket.id
  inFlight : ∀ i k, InSlot v s.wl i k → s.installed k = true ∧ s.number i ≤ s.last k
  reported : ∀ k, s.installed k = true → ∀ n, s.known v < n → n ≤ s.last k →
    ∃ i, InSlot v s.wl i k ∧ s.number i = n

theorem SeqStart.inv (h : SeqStart v s) : SeqInv v s where
  slots := h.slots
  used k := by
    rw [(h.keys k).2]
    exact Nat.zero_le _
  lsb := h.lsb
  foreign i skb hi htrack := absurd htrack (h.idle i skb hi)
  inFlight i k := by
    rintro ⟨skb, -, hi, htrack, -⟩
    exact absurd htrack (h.idle i skb hi)
  reported k hk := by
    rw [(h.keys k).1] at hk
    cases hk

/-- The outstanding numbers are in different slots, so that there are at most 32 of them. -/
theorem SeqInv.last_le (h : SeqInv v s) {k : ℕ} (hk : s.installed k = true) :
    s.last k ≤ s.known v + 32 := by
  by_contra hgt
  have hslot (j : Fin 33) : ∃ i, s.number i = s.known v + 1 + j.val := by
    obtain ⟨i, -, hi⟩ := h.reported k hk (s.known v + 1 + j.val) (by omega) (by omega)
    exact ⟨i, hi⟩
  choose f hf using hslot
  have hinj : Function.Injective f := by
    intro j j' hjj
    have hj := hf j
    have hj' := hf j'
    rw [hjj] at hj
    exact Fin.ext (by omega)
  have hcard := Fintype.card_le_of_injective f hinj
  simp at hcard

/-- A change of the driver that leaves the counter and the frames in flight alone. -/
theorem SeqInv.keep (h : SeqInv v s) (hkeep : SeqKeep v s.wl wl) :
    SeqInv v { s with wl := wl } := by
  have hseq : (wl.vifs v).txSecuritySeq = s.seq v := congrArg Prod.fst hkeep.seq
  have hlsb : (wl.vifs v).txSecurityLastSeqLsb = s.lsb v := congrArg Prod.snd hkeep.seq
  have hframes : wl.txFrames = s.wl.txFrames := hkeep.table.frames
  have hknown : ({ s with wl := wl } : SeqSys).known v = s.known v := by
    unfold SeqSys.known SeqSys.seq SeqSys.lsb
    rw [hseq, hlsb]
    rfl
  refine ⟨h.toUsedInv.mono (hkeep.slotInv h.slots) hseq.ge, ?_, ?_, ?_, ?_⟩
  · show (wl.vifs v).txSecurityLastSeqLsb < 256
    rw [hlsb]
    exact h.lsb
  · show ∀ i skb, wl.txFrames i = some skb → _ → skb.id ≠ wl.dummyPacket.id
    rw [hframes, hkeep.conf]
    exact h.foreign
  · intro i k hi
    exact h.inFlight i k (hi.of_eq (congrFun hframes i).symm)
  · intro k hk n hn hle
    rw [hknown] at hn
    obtain ⟨i, hi, hnum⟩ := h.reported k hk n hn hle
    exact ⟨i, hi.of_eq (congrFun hframes i), hnum⟩

/-- A frame leaves its slot, and the counter is as before or has advanced to its number. -/
theorem SeqInv.free (h : SeqInv v s) (hs : SlotInv wl.numTxDesc wl.toTxQueues)
    (hconf : wl.toConf = s.wl.toConf) (hframes : wl.txFrames = update s.wl.txFrames i none)
    (hseq : s.seq v ≤ (wl.vifs v).txSecuritySeq) (hlsb : (wl.vifs v).txSecurityLastSeqLsb < 256)
    (hknown : s.known v ≤ ({ s with wl := wl } : SeqSys).known v)
    (hnum : ∀ k, InSlot v s.wl i k → s.number i ≤ ({ s with wl := wl } : SeqSys).known v) :
    SeqInv v { s with wl := wl } := by
  have hne (j : TxId) (hj : j ≠ i) : wl.txFrames j = s.wl.txFrames j := by
    rw [hframes, update_of_ne hj]
  have hnone : wl.txFrames i = none := by rw [hframes, update_self]
  have hother (j : TxId) (skb : Skb) (hj : wl.txFrames j = some skb) : j ≠ i := by
    rintro rfl
    rw [hnone] at hj
    cases hj
  refine ⟨h.toUsedInv.mono hs hseq, hlsb, ?_, ?_, ?_⟩
  · intro j skb hj htrack
    have hd : wl.dummyPacket = s.wl.dummyPacket := congrArg Conf.dummyPacket hconf
    show skb.id ≠ wl.dummyPacket.id
    rw [hd]
    exact h.foreign j skb ((hne j (hother j skb hj)).symm.trans hj) htrack
  · intro j k hj
    obtain ⟨skb, key, hskb, -⟩ := id hj
    exact h.inFlight j k (hj.of_eq (hne j (hother j skb hskb)).symm)
  · intro k hk n hn hle
    obtain ⟨j, hj, hjn⟩ := h.reported k hk n (lt_of_le_of_lt hknown hn) hle
    refine ⟨j, hj.of_eq (hne j ?_), hjn⟩
    rintro rfl
    have hle' := hnum k hj
    have hnj : s.number j = n := hjn
    omega

/-- The wl12xx completion: the counter catches up with the reported number. -/
theorem SeqInv.complete (h : SeqInv v s) {r : TxResult} (hop : (SeqOp.complete r).Assumed v s)
    (hseq : s.seq v < 2 ^ 48) : SeqInv v (seqStep v s (.complete r)) := by
  have hkeep := wl1271TxCompletePacket_keep s.wl r
  show SeqInv v { s with wl := wl1271TxCompletePacket s.wl r }
  rcases wl1271TxCompletePacket_cases s.wl r v with heq | ⟨i, skb, hi, hfr, htable, hvif⟩
  · rw [heq]
    exact h
  have hslots : SlotInv (wl1271TxCompletePacket s.wl r).numTxDesc
      (wl1271TxCompletePacket s.wl r).toTxQueues := by
    rw [hkeep.conf]
    exact htable.slotInv (h.slots.free i)
  have hframes : (wl1271TxCompletePacket s.wl r).txFrames = update s.wl.txFrames i none :=
    htable.frames.trans (txFrames_freeSlot h.slots i)
  generalize wl1271TxCompletePacket s.wl r = wl at hkeep hvif hslots hframes ⊢
  by_cases htrack : Tracked v skb
  · -- the frame was sent with a key of the vif: its number becomes known
    obtain ⟨key, hkey⟩ := tracked_hwKey htrack
    have hslot : InSlot v s.wl i key.id := ⟨skb, key, hi, htrack, hkey, rfl⟩
    obtain ⟨hinst, hle⟩ := h.inFlight i key.id hslot
    have hlast := hle.trans (h.last_le hinst)
    rw [if_pos ⟨htrack, h.foreign i skb hi htrack⟩, updateSecuritySeq,
      hop (i, skb) hfr htrack] at hvif
    have hadv := advanced_lt (s.seq v) (s.lsb v) (s.number i)
    have hnew : (wl.vifs v).txSecuritySeq = advanced (s.seq v) (s.lsb v) (s.number i) := by
      rw [hvif]
      exact u64_of_lt (n := advanced (s.seq v) (s.lsb v) (s.number i)) (by omega)
    have hlsb : (wl.vifs v).txSecurityLastSeqLsb = s.number i % 256 := by rw [hvif]
    have hdrift := drift_advanced (s := s.seq v) h.lsb (s.number i)
    have hknown : ({ s with wl := wl } : SeqSys).known v =
        advanced (s.seq v) (s.lsb v) (s.number i) + slack (drift (s.seq v) (s.lsb v)) := by
      show (wl.vifs v).txSecuritySeq + slack (drift (wl.vifs v).txSecuritySeq
        (wl.vifs v).txSecurityLastSeqLsb) = _
      rw [hnew, hlsb, hdrift]
    refine h.free hslots hkeep.conf hframes ?_ ?_ ?_ fun k _ => ?_
    · omega
    · omega
    · rw [hknown]
      unfold SeqSys.known
      omega
    · rw [hknown]
      exact reported_le h.lsb hlast
  · rw [if_neg fun hc => htrack hc.1] at hvif
    have hknown : ({ s with wl := wl } : SeqSys).known v = s.known v := by
      unfold SeqSys.known SeqSys.seq SeqSys.lsb
      rw [hvif]
    refine h.free hslots hkeep.conf hframes ?_ ?_ hknown.ge ?_
    · rw [hvif]
      exact le_rfl
    · rw [hvif]
      exact h.lsb
    · rintro k ⟨skb', -, hi', htrack', -⟩
      rw [hi] at hi'
      cases hi'
      exact absurd htrack' htrack

theorem SeqInv.setKey (h : SeqInv v s) (sta : Option KeySta) (env : SetKeyEnv)
    (hop : (SeqOp.setKey sta k env).Assumed v s) : SeqInv v (seqStep v s (.setKey sta k env)) := by
  have hkeep := (wlcoreHwSetKey_seq (v := v) s.wl sta env hop.1).1
  have hcall : SeqInv v { s with wl := setKeyCall v s.wl sta k env } := h.keep hkeep
  have hused := h.toUsedInv.setKey sta env hop
  have hprog := programmed_eq (v := v) s sta env hop.1
  have hstep : seqStep v s (.setKey sta k env) =
      ({ s with wl := setKeyCall v s.wl sta k env } : SeqSys).install k
        (programmed v s sta k env) := rfl
  rw [hstep] at hused ⊢
  cases hp : programmed v s sta k env with
  | none => exact hcall
  | some p =>
    rw [hp] at hused
    have hpseq : p ≤ ((setKeyCall v s.wl sta k env).vifs v).txSecuritySeq := by
      rw [hprog p hp, show ((setKeyCall v s.wl sta k env).vifs v).txSecuritySeq = s.seq v from
        congrArg Prod.fst hkeep.seq]
      exact Nat.mod_le _ _
    refine ⟨hused, hcall.lsb, hcall.foreign, fun i k' hi => ?_, fun k' hk' n hn hle => ?_⟩
    · obtain ⟨hinst, hnum⟩ := hcall.inFlight i k' hi
      have hne : k' ≠ k.id := by
        rintro rfl
        exact Bool.noConfusion (hop.2.symm.trans hinst)
      refine ⟨(update_of_ne hne ..).trans hinst, ?_⟩
      show s.number i ≤ update s.last k.id p k'
      rw [update_of_ne hne]
      exact hnum
    · by_cases hne : k' = k.id
      · -- no frame was sent since the key was programmed
        have hlast : n ≤ p := by
          have : update s.last k.id p k' = p := by rw [hne, update_self]
          rw [← this]
          exact hle
        have hknown : ((setKeyCall v s.wl sta k env).vifs v).txSecuritySeq < n :=
          lt_of_le_of_lt (Nat.le_add_right _ _) hn
        omega
      · have hinst : s.installed k' = true :=
          (update_of_ne hne ..).symm.trans hk'
        have hlast : n ≤ s.last k' := by
          have : update s.last k.id p k' = s.last k' := update_of_ne hne ..
          rw [← this]
          exact hle
        exact hcall.reported k' hinst n hn hlast

/-- A frame of the vif is put into a free slot. -/
theorem SeqInv.use (h : SeqInv v s)
    (hs : SlotInv wl.numTxDesc wl.toTxQueues) (hconf : wl.toConf = s.wl.toConf)
    (hvifs : wl.vifs = s.wl.vifs) (hfree : s.wl.txFrames i = none)
    (hframes : wl.txFrames = update s.wl.txFrames i (some skb))
    (hop : Tracked v skb → skb.id ≠ s.wl.dummyPacket.id ∧
      ∀ key, skb.hwKey = some key → s.installed key.id = true) :
    SeqInv v (({ s with wl := wl } : SeqSys).use v skb i) := by
  have hused : UsedInv v (({ s with wl := wl } : SeqSys).use v skb i) :=
    (h.toUsedInv.mono hs (congrArg (fun vifs => (vifs v).txSecuritySeq) hvifs).ge).use
      (fun htrack => (hop htrack).2) i
  have hself : wl.txFrames i = some skb := by rw [hframes, update_self]
  have hne (j : TxId) (hj : j ≠ i) : wl.txFrames j = s.wl.txFrames j := by
    rw [hframes, update_of_ne hj]
  have hold (j : TxId) (k : ℕ) (hj : InSlot v s.wl j k) : j ≠ i := by
    obtain ⟨skb', -, hj, -⟩ := hj
    rintro rfl
    rw [hfree] at hj
    cases hj
  have hdummy : wl.dummyPacket = s.wl.dummyPacket := congrArg Conf.dummyPacket hconf
  have hforeign (j : TxId) (skb' : Skb) (hj : wl.txFrames j = some skb') (ht : Tracked v skb') :
      skb'.id ≠ wl.dummyPacket.id := by
    rw [hdummy]
    by_cases hji : j = i
    · rw [hji, hself] at hj
      cases hj
      exact (hop ht).1
    · exact h.foreign j skb' ((hne j hji).symm.trans hj) ht
  have hlsb : (wl.vifs v).txSecurityLastSeqLsb < 256 := by
    rw [hvifs]
    exact h.lsb
  have hknown : ({ s with wl := wl } : SeqSys).known v = s.known v := by
    unfold SeqSys.known SeqSys.seq SeqSys.lsb
    rw [hvifs]
  by_cases htrack : Tracked v skb
  · obtain ⟨key, hkey⟩ := tracked_hwKey htrack
    rw [SeqSys.use_of_tracked _ htrack hkey] at hused ⊢
    have hinst := (hop htrack).2 key hkey
    refine ⟨hused, hlsb, hforeign, fun j k hj => ?_, fun k hk n hn hle => ?_⟩
    · show s.installed k = true ∧ update s.number i _ j ≤ update s.last key.id _ k
      by_cases hji : j = i
      · obtain ⟨skb', key', hj', -, hkey', rfl⟩ := hj
        rw [hji, hself] at hj'
        cases hj'
        rw [hkey] at hkey'
        cases hkey'
        rw [hji, update_self, update_self]
        exact ⟨hinst, le_rfl⟩
      · obtain ⟨hk, hnum⟩ := h.inFlight j k (hj.of_eq (hne j hji).symm)
        refine ⟨hk, ?_⟩
        rw [update_of_ne hji]
        by_cases hkk : k = key.id
        · subst hkk
          rw [update_self]
          exact Nat.le_succ_of_le hnum
        · rw [update_of_ne hkk]
          exact hnum
    · have hn' : s.known v < n := by
        rw [← hknown]
        exact hn
      have hle' : n ≤ update s.last key.id (s.last key.id + 1) k := hle
      by_cases hnew : k = key.id ∧ n = s.last key.id + 1
      · refine ⟨i, ⟨skb, key, hself, htrack, hkey, hnew.1.symm⟩, ?_⟩
        show update s.number i _ i = n
        rw [update_self, hnew.2]
      · have hlast : n ≤ s.last k := by
          by_cases hkk : k = key.id
          · subst hkk
            rw [update_self] at hle'
            omega
          · rwa [update_of_ne hkk] at hle'
        obtain ⟨j, hj, hjn⟩ := h.reported k hk n hn' hlast
        have hji := hold j k hj
        refine ⟨j, hj.of_eq (hne j hji), ?_⟩
        show update s.number i _ j = n
        rw [update_of_ne hji]
        exact hjn
  · rw [SeqSys.use_of_not_tracked _ htrack] at hused ⊢
    refine ⟨hused, hlsb, hforeign, fun j k hj => ?_, fun k hk n hn hle => ?_⟩
    · have hji : j ≠ i := by
        rintro rfl
        obtain ⟨skb', -, hj, ht, -⟩ := hj
        rw [hself] at hj
        cases hj
        exact htrack ht
      exact h.inFlight j k (hj.of_eq (hne j hji).symm)
    · rw [hknown] at hn
      obtain ⟨j, hj, hjn⟩ := h.reported k hk n hn hle
      exact ⟨j, hj.of_eq (hne j (hold j k hj)), hjn⟩

theorem SeqInv.send (h : SeqInv v s) {extra off : ℕ} {l : Hlid}
    (hop : (SeqOp.send skb extra off l gem).Assumed v s) :
    SeqInv v (seqStep v s (.send skb extra off l gem)) := by
  dsimp only [seqStep]
  cases heq : wl1271TxAllocate s.wl skb.vif skb extra off l gem with
  | mk r wl' =>
    obtain ⟨hconf, hvifs, hslots, hr⟩ :=
      wl1271TxAllocate_seq h.slots skb.vif skb extra off l gem heq
    cases r with
    | error e => exact h.keep (.of_parts hconf hvifs hr)
    | ok a => exact h.use hslots hconf hvifs hr.1 hr.2 hop

theorem SeqInv.recovery (h : SeqInv v s) (hr : Recovers v s.wl) (env : VifId → RemoveEnv)
    (hseq : s.seq v < 2 ^ 48) : SeqInv v (seqStep v s (.recovery env)) := by
  have hlast (k : ℕ) (hk : s.installed k = true) :
      s.last k ≤ s.seq v + txSqnPostRecoveryPadding := by
    have hle := h.last_le hk
    have hslack := slack_le (drift (s.seq v) (s.lsb v))
    unfold SeqSys.known at hle
    unfold txSqnPostRecoveryPadding
    omega
  obtain ⟨hused, hlsb, hnone⟩ := h.toUsedInv.recovery hr env hseq hlast
  refine ⟨hused, ?_, fun i skb hi => ?_, fun i k hi => ?_, fun k hk => Bool.noConfusion hk⟩
  · rw [hlsb]
    exact h.lsb
  · rw [hnone i] at hi
    cases hi
  · obtain ⟨skb, -, hskb, -⟩ := hi
    rw [hnone i] at hskb
    cases hskb

theorem SeqInv.other (h : SeqInv v s) (x : Wl1271) : SeqInv v (seqStep v s (.other x)) := by
  refine h.keep ⟨rfl, ?_, rfl, rfl, rfl⟩
  show ((update x.vifs v _ v).txSecuritySeq, (update x.vifs v _ v).txSecurityLastSeqLsb) = _
  rw [update_self]
  rfl

/-- Every operation keeps the invariant while the counter is below `2 ^ 48`. -/
theorem seqStep_inv (h : SeqInv v s) (hop : op.Assumed v s) (hpath : op.Wl12xx)
    (hseq : s.seq v < 2 ^ 48) : SeqInv v (seqStep v s op) := by
  cases op with
  | setKey sta k env => exact h.setKey sta env hop
  | send skb extra off l gem => exact h.send hop
  | complete r => exact h.complete hop hseq
  | complete18xx i released => exact hpath.elim
  | recovery env => exact h.recovery hop env hseq
  | other x => exact h.other x

/-- On the wl12xx completion path no sequence number is reused: in every run in which the
counter of the vif stays below `2 ^ 48`, each `set_key` call programs at least every number
that was ever used with the key. -/
theorem seqNumbers_not_reused (v : VifId) (s : SeqSys) (hs : SeqStart v s) (ops : List SeqOp)
    (hops : Along (seqStep v)
      (fun s op => (op.Assumed v s ∧ op.Wl12xx) ∧ s.seq v < 2 ^ 48) s ops) :
    Along (seqStep v) (fun s op => op.NotReused v s) s ops := by
  refine Along.of_inv (fun s op h hop => ?_) (fun s op h hop => ?_) hs.inv hops
  · exact seqStep_inv h hop.1.1 hop.1.2 hop.2
  · exact h.toUsedInv.notReused hop.1.1 hop.2

/-- A driver with an associated station vif on link 1, whose counter is `seq`. -/
def seqDriver (chip : Chip) (seq : ℕ) : Wl1271 :=
  { (wlcoreProbe (chipConf chip)).setVif 0 fun w =>
      { w with
        initialized := true, staAssociated := true, bssType := .staBss, staHlid := some 1
        linksMap := fun h => decide (h = 1)
        txSecuritySeq := seq, txSecurityLastSeqLsb := seq % 256 } with
    wlvifList := [0]
    linksMap := fun h => decide (h = 0 ∨ h = 1)
    txBlocksAvailable := 100
    state := .on }

/-- That driver before any key is installed. -/
def seqIdle (chip : Chip) (seq : ℕ) : SeqSys :=
  { wl := seqDriver chip seq
    installed := fun _ => false, last := fun _ => 0, maxUsed := fun _ => 0, number := fun _ => 0 }

theorem seqIdle_start (chip : Chip) (seq : ℕ) : SeqStart 0 (seqIdle chip seq) where
  slots := ⟨fun _ => rfl, fun _ h => Bool.noConfusion h, by
    simp [usedSlots, seqIdle, seqDriver, wlcoreProbe, Wl1271.setVif]⟩
  lsb := Nat.mod_lt seq (by decide)
  idle _ _ h := by cases h
  keys _ := ⟨rfl, rfl⟩

/-- A CCMP key. -/
def ccmpKey : KeyConf := { id := 0, cipher := .ccmp, keyidx := 0 }

/-- A frame that is sent with it. -/
def ccmpFrame : Skb := { staFrame 1 with hwKey := some ccmpKey }

/-- A recovery is queued and runs, and the vif associates again. -/
def recoverOps (chip : Chip) : List SeqOp :=
  [.other (wl12xxQueueRecoveryWork (seqDriver chip 0)), .recovery fun _ => {},
    .other (seqDriver chip 0)]

/-- A key is set, two frames are sent with it, the second is reported, and the device
recovers. -/
def twoFramesRecoverOps : List SeqOp :=
  [.setKey none ccmpKey {}, .send ccmpFrame 0 0 1 false, .send ccmpFrame 0 0 1 false,
    .complete ⟨1, true, 9⟩] ++ recoverOps .wl128x

/-- The key is programmed beyond both numbers of that run. -/
theorem seqNumbers_not_reused_twoFrames :
    programmed 0 (run (seqStep 0) (seqIdle .wl128x 7) twoFramesRecoverOps) none ccmpKey {} =
        some 264 ∧
      (run (seqStep 0) (seqIdle .wl128x 7) twoFramesRecoverOps).maxUsed 0 = 9 ∧
      Along (seqStep 0) (fun s op => op.NotReused 0 s) (seqIdle .wl128x 7)
        (twoFramesRecoverOps ++ [.setKey none ccmpKey {}]) :=
  ⟨by decide +kernel, by decide +kernel,
    seqNumbers_not_reused 0 (seqIdle .wl128x 7) (seqIdle_start .wl128x 7)
      (twoFramesRecoverOps ++ [.setKey none ccmpKey {}]) (by decide +kernel)⟩

/-- A key is set, a frame is sent with it, and the device recovers. -/
def oneFrameRecoverOps : List SeqOp :=
  [.setKey none ccmpKey {}, .send ccmpFrame 0 0 1 false] ++ recoverOps .wl128x

/-- At the end of the 48-bit range the command wraps around: the frame used the number
`2 ^ 48 - 254`, and the key is programmed with 0. -/
theorem seqNumbers_wrap :
    SeqStart 0 (seqIdle .wl128x (2 ^ 48 - 255)) ∧
      Along (seqStep 0) (fun s op => op.Assumed 0 s ∧ op.Wl12xx) (seqIdle .wl128x (2 ^ 48 - 255))
        (oneFrameRecoverOps ++ [.setKey none ccmpKey {}]) ∧
      ¬ Along (seqStep 0) (fun s op => op.NotReused 0 s) (seqIdle .wl128x (2 ^ 48 - 255))
        (oneFrameRecoverOps ++ [.setKey none ccmpKey {}]) := by
  refine ⟨seqIdle_start _ _, by decide +kernel, fun h => ?_⟩
  have hlast := (Along.append_iff.mp h).2.1 0 (by decide +kernel)
  revert hlast
  decide +kernel

/-! ## The wl18xx completion path -/

theorem wl18xxTxCompletePacket_vifs (wl : Wl1271) (b : ℕ) :
    (wl18xxTxCompletePacket wl b).vifs = wl.vifs := by
  unfold wl18xxTxCompletePacket
  split
  · rfl
  · split
    · exact wl1271FreeTxId_vifs ..
    · unfold deferFrame
      rw [wl1271FreeTxId_vifs]

/-- A completion of wl18xx keeps the table consistent and does not touch the counters. -/
theorem wl18xxReleaseLoop_seq (released : ℕ → ℕ) (n i : ℕ)
    (hs : SlotInv wl.numTxDesc wl.toTxQueues) :
    SlotInv (wl18xxReleaseLoop released n i wl).numTxDesc
        (wl18xxReleaseLoop released n i wl).toTxQueues ∧
      (wl18xxReleaseLoop released n i wl).vifs = wl.vifs := by
  induction n generalizing i wl with
  | zero => exact ⟨hs, rfl⟩
  | succ n ih =>
    set wl₁ : Wl1271 := { wl18xxTxCompletePacket wl (released i) with
      txResultsCount := u32 ((wl18xxTxCompletePacket wl (released i)).txResultsCount + 1) }
      with hwl₁
    have hone : SlotInv wl₁.numTxDesc wl₁.toTxQueues := by
      show SlotInv (wl18xxTxCompletePacket wl (released i)).numTxDesc _
      rw [(wl18xxTxCompletePacket_keep wl (released i)).conf]
      exact (wl18xxTxCompletePacket_table wl (released i)).slotInv hs
    obtain ⟨hslots, hvifs⟩ := ih ((i + 1) % 33) hone
    exact ⟨hslots, hvifs.trans (wl18xxTxCompletePacket_vifs wl (released i))⟩

theorem UsedInv.complete18xx (h : UsedInv v s) (i : ℕ) (released : ℕ → ℕ) :
    UsedInv v (seqStep v s (.complete18xx i released)) := by
  show UsedInv v { s with wl := wl18xxTxImmediateComplete s.wl i released }
  unfold wl18xxTxImmediateComplete
  split
  · exact h
  · split
    · exact h
    · obtain ⟨hslots, hvifs⟩ := wl18xxReleaseLoop_seq released
        ((i + 33 - s.wl.lastFwRlsIdx) % 33) s.wl.lastFwRlsIdx h.slots
      exact h.mono hslots (congrArg (fun vifs => (vifs v).txSecuritySeq) hvifs).ge

/-- At a recovery at most 255 frames were sent with each key since it was programmed. -/
def SeqOp.FewFrames (v : VifId) (s : SeqSys) : SeqOp → Prop
  | .recovery _ => ∀ k, s.installed k = true → s.last k ≤ s.seq v + txSqnPostRecoveryPadding
  | _ => True

/-- On wl18xx no sequence number is reused if at most 255 frames are sent with each key
between its programming and a recovery. -/
theorem seqNumbers18xx_not_reused (v : VifId) (s : SeqSys) (hs : SeqStart v s) (ops : List SeqOp)
    (hops : Along (seqStep v)
      (fun s op => ((op.Assumed v s ∧ op.Wl18xx) ∧ s.seq v < 2 ^ 48) ∧ op.FewFrames v s) s ops) :
    Along (seqStep v) (fun s op => op.NotReused v s) s ops := by
  refine Along.of_inv (fun s op h hop => ?_) (fun s op h hop => ?_) hs.inv.toUsedInv hops
  · obtain ⟨⟨⟨hop, hpath⟩, hseq⟩, hfew⟩ := hop
    cases op with
    | setKey sta k env => exact h.setKey sta env hop
    | send skb extra off l gem => exact h.send hop
    | complete r => exact hpath.elim
    | complete18xx i released => exact h.complete18xx i released
    | recovery env => exact (h.recovery hop env hseq hfew).1
    | other x => exact h.other x
  · exact h.notReused hop.1.1.1 hop.1.2

/-- One frame is sent and completed, as the `k`-th since the firmware was booted, and its
memory is available again. -/
def frameOps18xx (k : ℕ) : List SeqOp :=
  [.send ccmpFrame 0 0 1 false, .complete18xx ((k + 1) % 33) fun _ => 0,
    .other { seqDriver .wl18xx 0 with lastFwRlsIdx := (k + 1) % 33 }]

/-- A key is set, `n` frames are sent with it and completed, and the device recovers. -/
def burstRecoverOps (n : ℕ) : List SeqOp :=
  .setKey none ccmpKey {} :: (List.range n).flatMap frameOps18xx ++ recoverOps .wl18xx

theorem SeqSys.use_installed (s : SeqSys) (v : VifId) (skb : Skb) (i : TxId) :
    (s.use v skb i).installed = s.installed := by
  unfold SeqSys.use
  split
  · rfl
  · split <;> rfl

theorem send_installed (s : SeqSys) (v : VifId) (skb : Skb) (extra off : ℕ) (h : Hlid)
    (gem : Bool) : (seqStep v s (.send skb extra off h gem)).installed = s.installed := by
  dsimp only [seqStep]
  split
  · exact SeqSys.use_installed ..
  · rfl

/-- With one frame the key is programmed beyond its number. -/
theorem seqNumbers18xx_not_reused_oneFrame :
    programmed 0 (run (seqStep 0) (seqIdle .wl18xx 0) (burstRecoverOps 1)) none ccmpKey {} =
        some 255 ∧
      (run (seqStep 0) (seqIdle .wl18xx 0) (burstRecoverOps 1)).maxUsed 0 = 1 ∧
      Along (seqStep 0) (fun s op => op.NotReused 0 s) (seqIdle .wl18xx 0)
        (burstRecoverOps 1 ++ [.setKey none ccmpKey {}]) := by
  refine ⟨by decide +kernel, by decide +kernel,
    seqNumbers18xx_not_reused 0 (seqIdle .wl18xx 0) (seqIdle_start .wl18xx 0)
      (burstRecoverOps 1 ++ [.setKey none ccmpKey {}]) ?_⟩
  have hassumed : Along (seqStep 0) (fun s op => (op.Assumed 0 s ∧ op.Wl18xx) ∧ s.seq 0 < 2 ^ 48)
      (seqIdle .wl18xx 0) (burstRecoverOps 1 ++ [.setKey none ccmpKey {}]) := by decide +kernel
  obtain ⟨h1, h2, h3, h4, h5, h6, h7, h8, -⟩ := hassumed
  refine ⟨⟨h1, trivial⟩, ⟨h2, trivial⟩, ⟨h3, trivial⟩, ⟨h4, trivial⟩, ⟨h5, trivial⟩,
    ⟨h6, fun k hk => ?_⟩, ⟨h7, trivial⟩, ⟨h8, trivial⟩, trivial⟩
  have hzero : k = 0 := by
    have hsent := congrFun (send_installed (seqStep 0 (seqIdle .wl18xx 0) (.setKey none ccmpKey {}))
      0 ccmpFrame 0 0 1 false) k
    have hinst : update (fun _ => false) 0 true k = true := hsent.symm.trans hk
    by_contra hne
    rw [update_of_ne hne] at hinst
    cases hinst
  subst hzero
  decide +kernel

/-- With 256 frames the padding is too small by one: the last frame used the number 256, and
the key is programmed with 255. -/
theorem seqNumbers18xx_reused :
    SeqStart 0 (seqIdle .wl18xx 0) ∧
      Along (seqStep 0) (fun s op => (op.Assumed 0 s ∧ op.Wl18xx) ∧ s.seq 0 < 2 ^ 48)
        (seqIdle .wl18xx 0) (burstRecoverOps 256 ++ [.setKey none ccmpKey {}]) ∧
      ¬ Along (seqStep 0) (fun s op => op.NotReused 0 s) (seqIdle .wl18xx 0)
        (burstRecoverOps 256 ++ [.setKey none ccmpKey {}]) := by
  refine ⟨seqIdle_start _ _, by decide +kernel, fun h => ?_⟩
  have hlast := (Along.append_iff.mp h).2.1 255 (by decide +kernel)
  revert hlast
  decide +kernel

end TiWlan.Keys
