import TiWlan.Driver.Lifecycle

/-!
# Keys

Models of `wl1271_record_ap_key`, `wl1271_set_key`, `wlcore_op_set_key` and
`wlcore_set_key` (`wlcore/main.c`, lines 2949–2998 and 3045–3267), of the two key
commands (`wlcore/cmd.c`, lines 1319–1448), and of `wl18xx_set_key` with
`wl18xx_set_host_cfg_bitmap` (`wl18xx/main.c`, lines 939–965 and 1240–1285).
-/

namespace TiWlan.Driver

open Function (update)

/-- `enum set_key_cmd`. -/
inductive SetKeyCmd
  | setKey | disableKey
  deriving DecidableEq, Repr

/-- The `key_type` that `wlcore_set_key` derives from the cipher; `none` is
`-EOPNOTSUPP`. -/
def cipherKeyType : Cipher → Option KeyType
  | .wep40 | .wep104 => some .wep
  | .tkip => some .tkip
  | .ccmp => some .aes
  | .gem => some .gem
  | .unknown => none

/-- `WL1271_TX_SECURITY_HI32`. -/
def txSecurityHi32 (s : ℕ) : ℕ := s / 2 ^ 16 % 2 ^ 32

/-- `WL1271_TX_SECURITY_LO16`. -/
def txSecurityLo16 (s : ℕ) : ℕ := s % 2 ^ 16

/-- `tx_seq_32` and `tx_seq_16` of `wlcore_set_key`: zero for WEP. -/
def keyTxSeq (w : Wl12xxVif) (keyType : KeyType) : ℕ × ℕ :=
  if keyType = .wep then (0, 0)
  else (txSecurityHi32 w.txSecuritySeq, txSecurityLo16 w.txSecuritySeq)

/-- The key bytes as the firmware expects them: a TKIP key has its two MIC keys
swapped (cmd.c:1355–1368). -/
def targetKeyBytes (keyType : KeyType) (key : List Byte) : List Byte :=
  if keyType = .tkip then key.take 16 ++ (key.drop 24).take 8 ++ (key.drop 16).take 8
  else key

/-- `wl1271_cmd_send(wl, CMD_SET_KEYS, ...)`. -/
def sendKeyCmd (wl : Wl1271) (cmd : KeyCmd) (ret : CmdRet) : Except Errno Unit × Wl1271 :=
  match ret with
  | .ok => (.ok (), { wl with keyCmds := cmd :: wl.keyCmds })
  | .noMem => (.error .enomem, wl)
  | .failed e => (.error e, wl12xxQueueRecoveryWork wl)

/-- `wl1271_record_ap_key` (main.c:2949); `allocOk` is the result of `kzalloc`. -/
def wl1271RecordApKey (wl : Wl1271) (v : VifId) (k : ApKey) (allocOk : Bool) :
    Except Errno Unit × Wl1271 :=
  let recorded := (wl.vifs v).recordedApKeys
  -- `MAX_KEY_SIZE` and `MAX_NUM_KEYS`
  if 32 < k.key.length then (.error .einval, wl)
  else if recorded.any fun r => r.id == k.id then (.error .einval, wl)
  else if 14 ≤ recorded.length then (.error .ebusy, wl)
  else if !allocOk then (.error .enomem, wl)
  else (.ok (), wl.setVif v fun w => { w with recordedApKeys := w.recordedApKeys ++ [k] })

/-- A station argument of `set_key`: its hlid (AP mode) and whether its address is zero. -/
structure KeySta where
  hlid : Hlid
  zeroAddr : Bool := false
  deriving DecidableEq, Repr

/-- `wl1271_set_key` (main.c:3045); `ret` is the outcome of the firmware command or, for a
recorded key, of the allocation. -/
def wl1271SetKey (wl : Wl1271) (v : VifId) (add : Bool) (k : KeyConf) (keyType : KeyType)
    (txSeq : ℕ × ℕ) (sta : Option KeySta) (ret : CmdRet) : Except Errno Unit × Wl1271 :=
  let w := wl.vifs v
  let bytes := targetKeyBytes keyType k.key
  if w.bssType = .apBss then
    let hlid := match sta with
      | some s => some s.hlid
      | none => w.apBcastHlid
    if !w.apStarted then
      if !add then (.ok (), wl)
      else
        wl1271RecordApKey wl v ⟨k.keyidx, keyType, k.key, hlid, txSeq.1, txSeq.2⟩
          (decide (ret = .ok))
    else sendKeyCmd wl ⟨add, hlid, k.keyidx, keyType, bytes, txSeq.1, txSeq.2⟩ ret
  else if sta.any (·.zeroAddr) then (.error .eopnotsupp, wl)
  -- unicast keys are not removed, nor any key after the link is gone
  else if !add ∧ (sta.isSome ∨ w.staHlid = none) then (.ok (), wl)
  else if w.staHlid = none then (.ok (), wl)
  else sendKeyCmd wl ⟨add, w.staHlid, k.keyidx, keyType, bytes, txSeq.1, txSeq.2⟩ ret

/-- The outcomes of the commands behind one `set_key` call. -/
structure SetKeyEnv where
  keyCmd : CmdRet := .ok
  /-- `wl1271_cmd_build_arp_rsp` -/
  arpRsp : CmdRet := .ok
  /-- `wl18xx_acx_host_if_cfg_bitmap` -/
  hostCfg : CmdRet := .ok

/-- A command whose failure is returned. -/
def runCmd (wl : Wl1271) : CmdRet → Except Errno Unit × Wl1271
  | .ok => (.ok (), wl)
  | .noMem => (.error .enomem, wl)
  | .failed e => (.error e, wl12xxQueueRecoveryWork wl)

/-- The new ARP response after a change of the encryption type (main.c:3232–3243). -/
def updateArpRsp (wl : Wl1271) (v : VifId) (keyType : KeyType) (sta : Option KeySta)
    (ret : CmdRet) : Except Errno Unit × Wl1271 :=
  let w := wl.vifs v
  if w.bssType = .staBss ∧ (sta.isSome ∨ keyType = .wep) ∧ w.encryptionType ≠ keyType then
    runCmd (wl.setVif v fun w => { w with encryptionType := keyType }) ret
  else (.ok (), wl)

/-- `wlcore_set_key` (main.c:3169). -/
def wlcoreSetKey (wl : Wl1271) (cmd : SetKeyCmd) (v : VifId) (sta : Option KeySta) (k : KeyConf)
    (env : SetKeyEnv) : Except Errno Unit × Wl1271 :=
  if (wl.vifs v).dummyP2p then (.ok (), wl)
  else
    match cipherKeyType k.cipher with
    | none => (.error .eopnotsupp, wl)
    | some keyType =>
      match cmd with
      | .setKey =>
        match wl1271SetKey wl v true k keyType (keyTxSeq (wl.vifs v) keyType) sta env.keyCmd with
        | (.error e, wl) => (.error e, wl)
        | (.ok (), wl) => updateArpRsp wl v keyType sta env.arpRsp
      | .disableKey => wl1271SetKey wl v false k keyType (0, 0) sta env.keyCmd

section
variable (wl : Wl1271) (v : VifId)

theorem sendKeyCmd_conf_priv (cmd : KeyCmd) (ret : CmdRet) :
    (sendKeyCmd wl cmd ret).2.toConf = wl.toConf ∧
      (sendKeyCmd wl cmd ret).2.toChipPriv = wl.toChipPriv := by
  cases ret <;> exact ⟨rfl, rfl⟩

theorem wl1271RecordApKey_conf_priv (k : ApKey) (allocOk : Bool) :
    (wl1271RecordApKey wl v k allocOk).2.toConf = wl.toConf ∧
      (wl1271RecordApKey wl v k allocOk).2.toChipPriv = wl.toChipPriv := by
  dsimp only [wl1271RecordApKey]
  split_ifs <;> exact ⟨rfl, rfl⟩

theorem wl1271SetKey_conf_priv (add : Bool) (k : KeyConf) (keyType : KeyType) (txSeq : ℕ × ℕ)
    (sta : Option KeySta) (ret : CmdRet) :
    (wl1271SetKey wl v add k keyType txSeq sta ret).2.toConf = wl.toConf ∧
      (wl1271SetKey wl v add k keyType txSeq sta ret).2.toChipPriv = wl.toChipPriv := by
  dsimp only [wl1271SetKey]
  split_ifs
  all_goals first
    | exact ⟨rfl, rfl⟩
    | exact wl1271RecordApKey_conf_priv ..
    | exact sendKeyCmd_conf_priv ..

theorem updateArpRsp_conf_priv (keyType : KeyType) (sta : Option KeySta) (ret : CmdRet) :
    (updateArpRsp wl v keyType sta ret).2.toConf = wl.toConf ∧
      (updateArpRsp wl v keyType sta ret).2.toChipPriv = wl.toChipPriv := by
  dsimp only [updateArpRsp]
  split_ifs
  · cases ret <;> exact ⟨rfl, rfl⟩
  · exact ⟨rfl, rfl⟩

/-- `wlcore_set_key` leaves the configuration and the chip's private data alone. -/
theorem wlcoreSetKey_conf_priv (cmd : SetKeyCmd) (sta : Option KeySta) (k : KeyConf)
    (env : SetKeyEnv) :
    (wlcoreSetKey wl cmd v sta k env).2.toConf = wl.toConf ∧
      (wlcoreSetKey wl cmd v sta k env).2.toChipPriv = wl.toChipPriv := by
  unfold wlcoreSetKey
  split_ifs
  · exact ⟨rfl, rfl⟩
  split
  · exact ⟨rfl, rfl⟩
  rename_i keyType _
  cases cmd with
  | disableKey => exact wl1271SetKey_conf_priv ..
  | setKey =>
    have hset := wl1271SetKey_conf_priv wl v true k keyType (keyTxSeq (wl.vifs v) keyType) sta
      env.keyCmd
    revert hset
    generalize wl1271SetKey wl v true k keyType (keyTxSeq (wl.vifs v) keyType) sta env.keyCmd = r
    rintro ⟨hconf, hpriv⟩
    obtain ⟨_ | _, wl'⟩ := r
    · exact ⟨hconf, hpriv⟩
    · have harp := updateArpRsp_conf_priv wl' v keyType sta env.arpRsp
      exact ⟨harp.1.trans hconf, harp.2.trans hpriv⟩

end

/-! ## wl18xx -/

/-- `WL18XX_TX_HW_BLOCK_SPARE`. -/
def wl18xxTxHwBlockSpare : ℕ := 1

/-- `WL18XX_TX_HW_EXTRA_BLOCK_SPARE`. -/
def wl18xxTxHwExtraBlockSpare : ℕ := 2

/-- `wl18xx_set_host_cfg_bitmap` (wl18xx/main.c:939), as far as the spare blocks go. -/
def wl18xxSetHostCfgBitmap (wl : Wl1271) (extraMemBlk : ℕ) (ret : CmdRet) :
    Except Errno Unit × Wl1271 :=
  match ret with
  | .ok => (.ok (), { wl with fwSpareBlocks := extraMemBlk })
  | r => runCmd wl r

/-- The keys that need an extra spare block. -/
def needsExtraSpare (c : Cipher) : Bool := decide (c = .gem ∨ c = .tkip)

/-- `change_spare` of `wl18xx_set_key`. -/
def changeSpare (wl : Wl1271) (cmd : SetKeyCmd) (k : KeyConf) : Bool :=
  needsExtraSpare k.cipher &&
    (decide (wl.extraSpareVifCount = 0 ∧ cmd = .setKey) ||
      decide (wl.extraSpareVifCount = 1 ∧ cmd = .disableKey))

/-- `wl18xx_set_key` (wl18xx/main.c:1240). -/
def wl18xxSetKey (wl : Wl1271) (cmd : SetKeyCmd) (v : VifId) (sta : Option KeySta) (k : KeyConf)
    (env : SetKeyEnv) : Except Errno Unit × Wl1271 :=
  if !changeSpare wl cmd k then wlcoreSetKey wl cmd v sta k env
  else
    match wlcoreSetKey wl cmd v sta k env with
    | (.error e, wl) => (.error e, wl)
    | (.ok (), wl) =>
      match cmd with
      | .setKey =>
        match wl18xxSetHostCfgBitmap wl wl18xxTxHwExtraBlockSpare env.hostCfg with
        | (.error e, wl) => (.error e, wl)
        | (.ok (), wl) => (.ok (), { wl with extraSpareVifCount := wl.extraSpareVifCount + 1 })
      | .disableKey =>
        match wl18xxSetHostCfgBitmap wl wl18xxTxHwBlockSpare env.hostCfg with
        | (.error e, wl) => (.error e, wl)
        | (.ok (), wl) => (.ok (), { wl with extraSpareVifCount := wl.extraSpareVifCount - 1 })

/-- `wlcore_hw_set_key`: `wl18xx_set_key`, or `wl12xx_set_key` (wl12xx/main.c:1590). -/
def wlcoreHwSetKey (wl : Wl1271) (cmd : SetKeyCmd) (v : VifId) (sta : Option KeySta)
    (k : KeyConf) (env : SetKeyEnv) : Except Errno Unit × Wl1271 :=
  if wl.chip = .wl18xx then wl18xxSetKey wl cmd v sta k env else wlcoreSetKey wl cmd v sta k env

/-! ## `wlcore_op_set_key` -/

/-- The first section of `wlcore_op_set_key` (main.c:3131–3144), before the flush. -/
def opSetKeyBegin (wl : Wl1271) (k : KeyConf) : Wl1271 :=
  if needsExtraSpare k.cipher then wlcoreStopQueues wl .spareBlk else wl

/-- The second section of `wlcore_op_set_key` (main.c:3146–3166), after the flush. -/
def opSetKeyEnd (wl : Wl1271) (cmd : SetKeyCmd) (v : VifId) (sta : Option KeySta) (k : KeyConf)
    (elpOk : Bool) (env : SetKeyEnv) : Wl1271 :=
  let wl :=
    if wl.state ≠ .on then wl
    else if !elpOk then wl12xxQueueRecoveryWork wl
    else (wlcoreHwSetKey wl cmd v sta k env).2
  if needsExtraSpare k.cipher then wlcoreWakeQueues wl .spareBlk else wl

end TiWlan.Driver
