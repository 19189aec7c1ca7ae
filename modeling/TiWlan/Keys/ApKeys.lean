import TiWlan.Driver.Keys
import TiWlan.Driver.Roles
import TiWlan.Lib.Run

/-!
# Keys recorded before the AP is started

`wlcore_set_key` on an AP that is not started records the key in `ap.recorded_keys`
(`wl1271_record_ap_key`, `wlcore/main.c`, lines 2949–2993), and `wl1271_ap_init_hwenc`
(lines 3005–3043) sends the recorded keys to the firmware when the AP is started.

A removal is answered with success and leaves the table alone: `wl1271_set_key` (lines 3064–3071)
has only the removals "after AP shutdown" in mind. A key that is set and removed before the AP is
started is installed all the same.

* `step_recorded`: what one call does to the table, against what it was asked for;
* `apInitHwenc_sends`: `wl1271_ap_init_hwenc` sends the table as it is;
* `apKeys_installed`: the firmware gets the keys asked for, if no recorded key is removed;
* `apKeys_removed_key_installed`: a run in which it gets a removed one.
-/

namespace TiWlan.Keys

open TiWlan.Lib TiWlan.Driver
open Function (update)

/-! ## Key tables -/

/-- What the firmware holds of a key: type, bytes in its layout, and sequence number. -/
structure KeyData where
  keyType : KeyType
  key : List Byte
  txSeq32 : ℕ
  txSeq16 : ℕ
  deriving DecidableEq, Repr

/-- The group keys of an AP by key id. -/
abbrev KeyTable := ℕ → Option KeyData

/-- What a `CMD_SET_KEYS` command does to the firmware's table. -/
def KeyTable.command (t : KeyTable) (c : KeyCmd) : KeyTable :=
  update t c.keyId (if c.add then some ⟨c.keyType, c.key, c.txSeq32, c.txSeq16⟩ else none)

/-- The firmware's table after the commands `cmds`, newest first. -/
def firmwareKeys (cmds : List KeyCmd) : KeyTable :=
  cmds.foldr (fun c t => t.command c) fun _ => none

/-- What an accepted call asks for. -/
def KeyTable.request (t : KeyTable) (w : Wl12xxVif) (cmd : SetKeyCmd) (k : KeyConf) : KeyTable :=
  match cmd, cipherKeyType k.cipher with
  | .setKey, some keyType =>
    update t k.keyidx (some ⟨keyType, targetKeyBytes keyType k.key, (keyTxSeq w keyType).1,
      (keyTxSeq w keyType).2⟩)
  | .setKey, none => t
  | .disableKey, _ => update t k.keyidx none

theorem KeyTable.request_setKey {k : KeyConf} {keyType : KeyType}
    (h : cipherKeyType k.cipher = some keyType) (t : KeyTable) (w : Wl12xxVif) :
    t.request w .setKey k = update t k.keyidx (some ⟨keyType, targetKeyBytes keyType k.key,
      (keyTxSeq w keyType).1, (keyTxSeq w keyType).2⟩) := by
  simp only [KeyTable.request, h]

/-! ## Calls on an AP that is not started -/

/-- The driver, with the table that the accepted calls ask for. -/
structure ApKeySys where
  wl : Wl1271
  requested : KeyTable

namespace ApKeySys

inductive Act where
  /-- `wlcore_set_key` for a group key -/
  | setKey (cmd : SetKeyCmd) (k : KeyConf) (env : SetKeyEnv)
  /-- anything else the driver does -/
  | other (wl : Wl1271)

def step (v : VifId) (s : ApKeySys) : Act → ApKeySys
  | .setKey cmd k env =>
    match wlcoreSetKey s.wl cmd v none k env with
    | (.ok (), wl) => ⟨wl, s.requested.request (s.wl.vifs v) cmd k⟩
    | (.error _, wl) => { s with wl := wl }
  | .other wl => { s with wl := wl }

end ApKeySys

/-- The vif is an AP that is not started. -/
structure UnstartedAp (wl : Wl1271) (v : VifId) : Prop where
  ap : (wl.vifs v).bssType = .apBss
  notStarted : (wl.vifs v).apStarted = false
  notDummy : (wl.vifs v).dummyP2p = false

/-- What else the driver does leaves the AP unstarted and its recorded keys alone. -/
def ApKeySys.Undisturbed (v : VifId) (s : ApKeySys) : ApKeySys.Act → Prop
  | .setKey .. => True
  | .other wl => UnstartedAp wl v ∧ (wl.vifs v).recordedApKeys = (s.wl.vifs v).recordedApKeys

/-- No recorded key is removed. -/
def ApKeySys.KeepsRecorded (v : VifId) (s : ApKeySys) : ApKeySys.Act → Prop
  | .setKey .disableKey k _ => ∀ r ∈ (s.wl.vifs v).recordedApKeys, r.id ≠ k.keyidx
  | _ => True

instance (v : VifId) (s : ApKeySys) (a : ApKeySys.Act) : Decidable (s.KeepsRecorded v a) := by
  unfold ApKeySys.KeepsRecorded
  split <;> infer_instance

section
variable {wl : Wl1271} {v : VifId}

theorem UnstartedAp.removeKey (h : UnstartedAp wl v) (k : KeyConf) (env : SetKeyEnv) :
    (wlcoreSetKey wl .disableKey v none k env).2 = wl := by
  rw [wlcoreSetKey, if_neg (by rw [h.notDummy]; decide)]
  split
  · rfl
  · dsimp only [wl1271SetKey]
    rw [if_pos h.ap, h.notStarted]
    rfl

/-- The entry that a key makes in the table of recorded keys. -/
def recordOf (w : Wl12xxVif) (k : KeyConf) (keyType : KeyType) : ApKey :=
  ⟨k.keyidx, keyType, k.key, w.apBcastHlid, (keyTxSeq w keyType).1, (keyTxSeq w keyType).2⟩

theorem wl1271RecordApKey_cases (wl : Wl1271) (v : VifId) (k : ApKey) (allocOk : Bool) :
    (∃ e, wl1271RecordApKey wl v k allocOk = (.error e, wl)) ∨
      (∀ r ∈ (wl.vifs v).recordedApKeys, r.id ≠ k.id) ∧
        wl1271RecordApKey wl v k allocOk =
          (.ok (), wl.setVif v fun w => { w with recordedApKeys := w.recordedApKeys ++ [k] }) := by
  unfold wl1271RecordApKey
  dsimp only
  split_ifs with hsize hdup hfull halloc
  · exact .inl ⟨_, rfl⟩
  · exact .inl ⟨_, rfl⟩
  · exact .inl ⟨_, rfl⟩
  · exact .inl ⟨_, rfl⟩
  · refine .inr ⟨?_, rfl⟩
    intro r hr heq
    exact hdup (List.any_eq_true.mpr ⟨r, hr, beq_iff_eq.mpr heq⟩)

/-- A key is refused, or its id is new and it goes to the end of the table. -/
theorem UnstartedAp.addKey (h : UnstartedAp wl v) (k : KeyConf) (env : SetKeyEnv) :
    (∃ e, wlcoreSetKey wl .setKey v none k env = (.error e, wl)) ∨
      ∃ keyType, cipherKeyType k.cipher = some keyType ∧
        (∀ r ∈ (wl.vifs v).recordedApKeys, r.id ≠ k.keyidx) ∧
        wlcoreSetKey wl .setKey v none k env =
          (.ok (), wl.setVif v fun w => { w with recordedApKeys :=
            w.recordedApKeys ++ [recordOf (wl.vifs v) k keyType] }) := by
  rw [wlcoreSetKey, if_neg (by rw [h.notDummy]; decide)]
  cases hcipher : cipherKeyType k.cipher with
  | none => exact .inl ⟨_, rfl⟩
  | some keyType =>
    have hset : wl1271SetKey wl v true k keyType (keyTxSeq (wl.vifs v) keyType) none env.keyCmd =
        wl1271RecordApKey wl v (recordOf (wl.vifs v) k keyType) (decide (env.keyCmd = .ok)) := by
      rw [wl1271SetKey, if_pos h.ap, h.notStarted]
      rfl
    dsimp only
    rw [hset]
    rcases wl1271RecordApKey_cases wl v (recordOf (wl.vifs v) k keyType)
      (decide (env.keyCmd = .ok)) with ⟨e, hrec⟩ | ⟨hnew, hrec⟩
    · rw [hrec]
      exact .inl ⟨e, rfl⟩
    · rw [hrec]
      refine .inr ⟨keyType, rfl, hnew, ?_⟩
      -- the ARP response is a matter of stations
      dsimp only
      rw [updateArpRsp, if_neg]
      simp [Wl1271.setVif, h.ap]

/-! ## The table of recorded keys -/

/-- What the firmware gets of a recorded key. -/
def recordData (r : ApKey) : KeyData :=
  ⟨r.keyType, targetKeyBytes r.keyType r.key, r.txSeq32, r.txSeq16⟩

/-- The recorded keys as a table. -/
def recordedTable (ks : List ApKey) : KeyTable :=
  ks.foldl (fun t r => update t r.id (some (recordData r))) fun _ => none

theorem recordedTable_append (ks : List ApKey) (r : ApKey) :
    recordedTable (ks ++ [r]) = update (recordedTable ks) r.id (some (recordData r)) := by
  rw [recordedTable, List.foldl_append]
  rfl

theorem recordedTable_none {ks : List ApKey} {id : ℕ} (h : ∀ r ∈ ks, r.id ≠ id) :
    recordedTable ks id = none := by
  induction ks using List.reverseRecOn with
  | nil => rfl
  | append_singleton ks r ih =>
    rw [recordedTable_append, Function.update_of_ne (h r (by simp)).symm]
    exact ih fun r' hr' => h r' (by simp [hr'])

/-- The driver's table is what the accepted calls ask for. -/
structure RecordedInv (v : VifId) (s : ApKeySys) : Prop where
  ap : UnstartedAp s.wl v
  table : s.requested = recordedTable (s.wl.vifs v).recordedApKeys

variable {s : ApKeySys}

theorem RecordedInv.addKey (h : RecordedInv v s) (k : KeyConf) (env : SetKeyEnv) :
    RecordedInv v (s.step v (.setKey .setKey k env)) := by
  rcases h.ap.addKey k env with ⟨e, hcall⟩ | ⟨keyType, hcipher, hnew, hcall⟩
  · rw [ApKeySys.step, hcall]
    exact h
  · rw [ApKeySys.step, hcall]
    refine ⟨⟨?_, ?_, ?_⟩, ?_⟩
    · simpa [Wl1271.setVif] using h.ap.ap
    · simpa [Wl1271.setVif] using h.ap.notStarted
    · simpa [Wl1271.setVif] using h.ap.notDummy
    · simp only [Wl1271.setVif, Function.update_self, recordedTable_append, ← h.table]
      exact KeyTable.request_setKey hcipher s.requested _

/-- The removal of a key that is not recorded asks for nothing and does nothing. -/
theorem RecordedInv.removeKey (h : RecordedInv v s) {k : KeyConf}
    (hk : ∀ r ∈ (s.wl.vifs v).recordedApKeys, r.id ≠ k.keyidx) (env : SetKeyEnv) :
    RecordedInv v (s.step v (.setKey .disableKey k env)) := by
  have hwl := h.ap.removeKey k env
  rw [ApKeySys.step]
  generalize wlcoreSetKey s.wl .disableKey v none k env = r at hwl ⊢
  obtain ⟨_ | _, wl⟩ := r
  · rw [show wl = s.wl from hwl]
    exact h
  · rw [show wl = s.wl from hwl]
    refine ⟨h.ap, ?_⟩
    have hnone : s.requested k.keyidx = none := by
      rw [h.table]
      exact recordedTable_none hk
    dsimp only [KeyTable.request]
    rw [← hnone, Function.update_eq_self]
    exact h.table

theorem step_recorded (h : RecordedInv v s) {a : ApKeySys.Act} (hothers : s.Undisturbed v a)
    (hkeeps : s.KeepsRecorded v a) : RecordedInv v (s.step v a) := by
  cases a with
  | setKey cmd k env =>
    cases cmd with
    | setKey => exact h.addKey k env
    | disableKey => exact h.removeKey hkeeps env
  | other wl => exact ⟨hothers.1, h.table.trans (congrArg recordedTable hothers.2.symm)⟩

/-! ## The start of the AP -/

theorem apInitHwencLoop_sends (v : VifId) (ks : List ApKey) (rets : List CmdRet) (wl : Wl1271)
    (hok : (apInitHwencLoop v ks rets wl).1 = true) :
    (apInitHwencLoop v ks rets wl).2.keyCmds =
      (ks.map (apKeyCmd (wl.vifs v))).reverse ++ wl.keyCmds := by
  induction ks generalizing rets wl with
  | nil => rfl
  | cons k ks ih =>
    unfold apInitHwencLoop at hok ⊢
    cases hret : rets.headD .ok with
    | ok =>
      rw [hret] at hok
      have hrest := ih rets.tail _ hok
      dsimp only [sendKeyCmd] at hrest ⊢
      rw [hrest, List.map_cons, List.reverse_cons, List.append_assoc]
      rfl
    | noMem =>
      rw [hret] at hok
      cases hok
    | failed e =>
      rw [hret] at hok
      cases hok

theorem firmwareKeys_apKeyCmd (w : Wl12xxVif) (ks : List ApKey) :
    firmwareKeys (ks.map (apKeyCmd w)).reverse = recordedTable ks := by
  rw [firmwareKeys, List.foldr_reverse, List.foldl_map]
  rfl

/-- `wl1271_ap_init_hwenc` installs the recorded keys. -/
theorem apInitHwenc_sends {env : HwencEnv} (hok : (wl1271ApInitHwenc wl v env).1 = true) :
    ∃ sent, (wl1271ApInitHwenc wl v env).2.keyCmds = sent ++ wl.keyCmds ∧
      firmwareKeys sent = recordedTable (wl.vifs v).recordedApKeys := by
  refine ⟨_, ?_, firmwareKeys_apKeyCmd (wl.vifs v) _⟩
  have hloop := apInitHwencLoop_sends v (wl.vifs v).recordedApKeys env.keys wl
  unfold wl1271ApInitHwenc apInitHwencSend at hok ⊢
  generalize apInitHwencLoop v (wl.vifs v).recordedApKeys env.keys wl = r at hloop hok ⊢
  obtain ⟨_ | _, wl'⟩ := r
  · cases hok
  · have hcmds := hloop rfl
    dsimp only at hok hcmds ⊢
    split at hok
    · rename_i hwep
      rw [if_pos hwep, show env.defaultWepKey = .ok from of_decide_eq_true hok]
      exact hcmds
    · rename_i hwep
      rw [if_neg hwep]
      exact hcmds

end

/-- The keys set and removed on an AP before it is started, and then `wl1271_ap_init_hwenc`: if no
recorded key is removed, the firmware gets exactly the keys that the accepted calls ask for. -/
theorem apKeys_installed {wl : Wl1271} {v : VifId} (hap : UnstartedAp wl v)
    (hempty : (wl.vifs v).recordedApKeys = []) {acts : List ApKeySys.Act}
    (hothers : Along (ApKeySys.step v) (ApKeySys.Undisturbed v) ⟨wl, fun _ => none⟩ acts)
    (hkeeps : Along (ApKeySys.step v) (ApKeySys.KeepsRecorded v) ⟨wl, fun _ => none⟩ acts)
    {env : HwencEnv}
    (hok : (wl1271ApInitHwenc (run (ApKeySys.step v) ⟨wl, fun _ => none⟩ acts).wl v env).1 =
      true) :
    let s := run (ApKeySys.step v) ⟨wl, fun _ => none⟩ acts
    ∃ sent, (wl1271ApInitHwenc s.wl v env).2.keyCmds = sent ++ s.wl.keyCmds ∧
      firmwareKeys sent = s.requested := by
  intro s
  have hstart : RecordedInv v ⟨wl, fun _ => none⟩ := by
    refine ⟨hap, ?_⟩
    rw [hempty]
    rfl
  have hstep (s : ApKeySys) (a : ApKeySys.Act) (h : RecordedInv v s)
      (ha : s.Undisturbed v a ∧ s.KeepsRecorded v a) : RecordedInv v (s.step v a) :=
    step_recorded h ha.1 ha.2
  have hinv : RecordedInv v s := Along.induction hstep hstart (hothers.and hkeeps)
  obtain ⟨sent, hcmds, hsent⟩ := apInitHwenc_sends hok
  exact ⟨sent, hcmds, hsent.trans hinv.table.symm⟩

/-- An AP that has just been added. -/
def newAp : Wl1271 :=
  (wlcoreProbe (chipConf .wl18xx)).setVif 0 fun w => { w with bssType := .apBss }

theorem newAp_unstarted : UnstartedAp newAp 0 := ⟨rfl, rfl, rfl⟩

/-- A WEP and a CCMP key, and the removal of a key that was not set. -/
def twoKeys : List ApKeySys.Act :=
  [.setKey .setKey ⟨0, .wep40, 0, 0, [1, 2, 3, 4, 5]⟩ {},
    .setKey .disableKey ⟨1, .ccmp, 3, 0, []⟩ {}, .setKey .setKey ⟨2, .ccmp, 1, 0, [6]⟩ {}]

theorem apKeys_installed_two_keys :
    ∃ sent, (wl1271ApInitHwenc (run (ApKeySys.step 0) ⟨newAp, fun _ => none⟩ twoKeys).wl 0
        {}).2.keyCmds = sent ++ [] ∧
      firmwareKeys sent 0 = some ⟨.wep, [1, 2, 3, 4, 5], 0, 0⟩ ∧
      firmwareKeys sent 1 = some ⟨.aes, [6], 0, 0⟩ := by
  have hok : (wl1271ApInitHwenc (run (ApKeySys.step 0) ⟨newAp, fun _ => none⟩ twoKeys).wl 0
      {}).1 = true := by decide
  have hothers : Along (ApKeySys.step 0) (ApKeySys.Undisturbed 0) ⟨newAp, fun _ => none⟩ twoKeys :=
    ⟨trivial, trivial, trivial, trivial⟩
  obtain ⟨sent, hcmds, hsent⟩ :=
    apKeys_installed newAp_unstarted rfl hothers (by decide) hok
  exact ⟨sent, hcmds, congrFun hsent 0, congrFun hsent 1⟩

/-- A key that is set and removed again is installed. -/
theorem apKeys_removed_key_installed :
    let s := run (ApKeySys.step 0) ⟨newAp, fun _ => none⟩
      [.setKey .setKey ⟨0, .ccmp, 1, 0, [6]⟩ {}, .setKey .disableKey ⟨0, .ccmp, 1, 0, [6]⟩ {}]
    (wl1271ApInitHwenc s.wl 0 {}).1 = true ∧ s.requested 1 = none ∧
      firmwareKeys (wl1271ApInitHwenc s.wl 0 {}).2.keyCmds 1 = some ⟨.aes, [6], 0, 0⟩ := by
  decide

end TiWlan.Keys
