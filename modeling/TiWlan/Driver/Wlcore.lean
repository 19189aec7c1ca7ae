import TiWlan.Driver.Roles

/-!
# The whole interface state machine

`Wlcore` is the driver state `Wl1271` together with the parts of `struct wl1271` and
`struct wl12xx_vif` that belong to interfaces: the indices of rate policies and keep-alive
templates, the role ids, block-ack sessions, the hardware scan and the remain-on-channel
period. The functions of `wlcore/main.c` and `wlcore/scan.c` that work on them are modelled
here in full, on top of the functions on `Wl1271`:

* `wl1271_op_add_interface` and `__wl1271_op_remove_interface` (main.c:1969–2532) with
  `wl12xx_init_vif_data`, the allocation of indices and `wl1271_set_ba_policies`
  (init.c:491);
* `wl12xx_start_dev`, `wl12xx_stop_dev`, `wl12xx_roc` and `wl12xx_croc`
  (cmd.c:1740–1923), and the remain-on-channel operations (main.c:4908–5045);
* `wlcore_op_set_key` (main.c:3121–3167) and `wl1271_op_ampdu_action` (main.c:4693–4812);
* `wl1271_op_hw_scan`, `wl1271_op_cancel_hw_scan` (main.c:3314–3406) and
  `wl1271_scan_complete_work` (scan.c:34–90);
* `wl12xx_tx_watchdog_work` (main.c:241), recovery and stop.

Scheduled scans, the contents of scan requests and commands, and the rates of a vif are
left out. A wake-up from ELP that fails has queued a recovery itself. Time is counted in
milliseconds.
-/

namespace TiWlan.Driver

open Function (update)

/-! ## State -/

/-- A role id below `WL12XX_MAX_ROLES`. -/
abbrev RoleId := Fin 4

/-- The index of a keep-alive template; `WLCORE_MAX_KLV_TEMPLATES` itself means "none". -/
abbrev KlvIdx := Fin 5

/-- The fields of `struct wl12xx_vif` that only the interface operations use. -/
structure VifExt where
  /-- `none` is `WL12XX_INVALID_ROLE_ID` -/
  roleId : Option RoleId
  devRoleId : Option RoleId
  /-- `sta.klv_template_id` -/
  klvTemplateId : KlvIdx
  /-- `sta.ba_rx_bitmap`, a `u8` -/
  baRxBitmap : Fin 8 → Bool
  baSupport : Bool
  baAllowed : Bool

/-- The receiver of block-ack sessions: a station of an AP by its link, or a STA vif. -/
inductive BaOwner
  | link (h : Hlid) | staVif (v : VifId)
  deriving DecidableEq, Repr

/-- `enum wl1271_scan_state`. -/
inductive ScanState
  | idle | active2Ghz | passive2Ghz | active5Ghz | passive5Ghz | done
  deriving DecidableEq, Repr

/-- What mac80211 sees of a scan. -/
inductive ScanEvent
  /-- `wl1271_op_hw_scan` returned 0 -/
  | accepted
  /-- `ieee80211_scan_completed` -/
  | completed (aborted : Bool)
  deriving DecidableEq, Repr

/-- What mac80211 sees of a remain-on-channel period. -/
inductive RocEvent
  /-- the period was accepted and lasts until `deadline` -/
  | started (deadline : ℕ)
  /-- `wl12xx_op_cancel_remain_on_channel` -/
  | cancelled
  /-- `ieee80211_remain_on_channel_expired`; `removed` when the interface goes away -/
  | expired (time : ℕ) (removed : Bool)
  deriving DecidableEq, Repr

/-- The indices that the firmware knows per role. -/
structure Indices where
  ratePoliciesMap : Fin 16 → Bool
  klvTemplatesMap : Fin 4 → Bool

structure Roles where
  rolesMap : RoleId → Bool
  rocMap : RoleId → Bool

structure BlockAck where
  baRxSessionCount : ℤ
  /-- `wl->links[h].ba_bitmap`, a `u8` -/
  baBitmap : Hlid → Fin 8 → Bool
  /-- ghost: the sessions enabled in the running firmware and not disabled since -/
  fwBaSessions : List (BaOwner × ℕ)

structure Scan where
  scanState : ScanState
  scanVif : Option VifId
  scanFailed : Bool
  /-- `scan_complete_work` is pending -/
  scanWorkPending : Bool
  /-- ghost: latest first -/
  scanLog : List ScanEvent

structure Roc where
  rocVif : Option VifId
  /-- the time at which the pending `roc_complete_work` is due -/
  rocWorkDue : Option ℕ
  now : ℕ
  /-- ghost: latest first -/
  rocLog : List RocEvent

/-- The driver with its interface state. -/
structure Wlcore extends Wl1271, Indices, Roles, BlockAck, Scan, Roc where
  ext : VifId → VifExt

namespace Wlcore

/-- A function of the driver state. -/
def onDriver (W : Wlcore) (f : Wl1271 → Wl1271) : Wlcore := { W with toWl1271 := f W.toWl1271 }

/-- The result of a function of the driver state that returns 0 or an error. -/
def ofDriver (W : Wlcore) (r : Bool × Wl1271) : Bool × Wlcore := (r.1, { W with toWl1271 := r.2 })

/-- Store into the interface fields of one vif. -/
def setExt (W : Wlcore) (v : VifId) (f : VifExt → VifExt) : Wlcore :=
  { W with ext := update W.ext v (f (W.ext v)) }

/-- A zeroed vif. -/
def zeroExt : VifExt :=
  { roleId := some 0, devRoleId := some 0, klvTemplateId := 0, baRxBitmap := fun _ => false
    baSupport := false, baAllowed := false }

/-- The driver after probe. -/
def probe (c : Conf) : Wlcore :=
  { toWl1271 := wlcoreProbe c
    ratePoliciesMap := fun _ => false, klvTemplatesMap := fun _ => false
    rolesMap := fun _ => false, rocMap := fun _ => false
    baRxSessionCount := 0, baBitmap := fun _ _ => false, fwBaSessions := []
    scanState := .idle, scanVif := none, scanFailed := false, scanWorkPending := false
    scanLog := []
    rocVif := none, rocWorkDue := none, now := 0, rocLog := []
    ext := fun _ => zeroExt }

/-- A bus or command error that queues a recovery. -/
def queueRecovery (W : Wlcore) : Wlcore := W.onDriver wl12xxQueueRecoveryWork

/-- A command of which only the failure matters; the flag tells whether it returned 0. -/
def sendCmd (W : Wlcore) (ret : CmdRet) : Bool × Wlcore :=
  (decide (ret = .ok), W.onDriver fun wl => cmdEffect wl ret)

/-! ## Indices -/

/-- A field of `struct wl12xx_vif` that holds a rate policy index. -/
inductive RateField
  | basic | ap | p2p | mgmt | bcast | ucast (q : Ac)
  deriving DecidableEq, Repr

end Wlcore

/-- The field itself. -/
def Wl12xxVif.rateIdx (w : Wl12xxVif) : Wlcore.RateField → RateIdx
  | .basic => w.basicRateIdx
  | .ap => w.apRateIdx
  | .p2p => w.p2pRateIdx
  | .mgmt => w.mgmtRateIdx
  | .bcast => w.bcastRateIdx
  | .ucast q => w.ucastRateIdx q

/-- Store into the field. -/
def Wl12xxVif.setRateIdx (w : Wl12xxVif) (f : Wlcore.RateField) (i : RateIdx) : Wl12xxVif :=
  match f with
  | .basic => { w with basicRateIdx := i }
  | .ap => { w with apRateIdx := i }
  | .p2p => { w with p2pRateIdx := i }
  | .mgmt => { w with mgmtRateIdx := i }
  | .bcast => { w with bcastRateIdx := i }
  | .ucast q => { w with ucastRateIdx := update w.ucastRateIdx q i }

/-- `find_first_zero_bit`. -/
def firstZeroBit {n : ℕ} (map : Fin n → Bool) : Option (Fin n) :=
  (List.finRange n).find? fun i => !map i

namespace Wlcore

/-- `wl12xx_allocate_rate_policy` (main.c:1969); without a free index the field stays as it
is. -/
def wl12xxAllocateRatePolicy (v : VifId) (W : Wlcore) (f : RateField) : Wlcore :=
  match firstZeroBit W.ratePoliciesMap with
  | none => W
  | some i =>
    { W.onDriver fun wl => wl.setVif v fun w => w.setRateIdx f i.castSucc with
      ratePoliciesMap := update W.ratePoliciesMap i true }

/-- `wl12xx_free_rate_policy` (main.c:1982). -/
def wl12xxFreeRatePolicy (v : VifId) (W : Wlcore) (f : RateField) : Wlcore :=
  if h : ((W.vifs v).rateIdx f).val < 16 then
    { W.onDriver fun wl => wl.setVif v fun w => w.setRateIdx f 16 with
      ratePoliciesMap := update W.ratePoliciesMap ⟨((W.vifs v).rateIdx f).val, h⟩ false }
  else W

/-- `wlcore_allocate_klv_template` (main.c:1991). -/
def wlcoreAllocateKlvTemplate (W : Wlcore) (v : VifId) : Wlcore :=
  match firstZeroBit W.klvTemplatesMap with
  | none => W
  | some i =>
    { W.setExt v fun e => { e with klvTemplateId := i.castSucc } with
      klvTemplatesMap := update W.klvTemplatesMap i true }

/-- `wlcore_free_klv_template` (main.c:2004). -/
def wlcoreFreeKlvTemplate (W : Wlcore) (v : VifId) : Wlcore :=
  if h : (W.ext v).klvTemplateId.val < 4 then
    { W.setExt v fun e => { e with klvTemplateId := 4 } with
      klvTemplatesMap := update W.klvTemplatesMap ⟨(W.ext v).klvTemplateId.val, h⟩ false }
  else W

/-- The rate policies of a vif, in the order of allocation. -/
def rateFields (bssType : BssType) : List RateField :=
  if bssType = .staBss ∨ bssType = .ibss then [.basic, .ap, .p2p]
  else [.mgmt, .bcast, .ucast 0, .ucast 1, .ucast 2, .ucast 3]

/-- A STA or IBSS vif also has a keep-alive template. -/
def hasKlvTemplate (bssType : BssType) : Bool := decide (bssType = .staBss ∨ bssType = .ibss)

/-- The indices of a new vif are allocated (main.c:2073–2096). -/
def allocateIndices (W : Wlcore) (v : VifId) (bssType : BssType) : Wlcore :=
  let W := (rateFields bssType).foldl (wl12xxAllocateRatePolicy v) W
  if hasKlvTemplate bssType then W.wlcoreAllocateKlvTemplate v else W

/-- The indices of a vif are given back (main.c:2439–2456). -/
def freeIndices (W : Wlcore) (v : VifId) : Wlcore :=
  let bssType := (W.vifs v).bssType
  let W := (rateFields bssType).foldl (wl12xxFreeRatePolicy v) W
  if hasKlvTemplate bssType then W.wlcoreFreeKlvTemplate v else W

/-- A vif of a supported type is cleared, all but its persistent data (main.c:2040–2070). -/
def clearVif (W : Wlcore) (v : VifId) (bssType : BssType) (dummyP2p : Bool) : Wlcore :=
  (W.setExt v fun _ => { zeroExt with roleId := none, devRoleId := none }).onDriver fun wl =>
    (Driver.wl12xxInitVifData wl v bssType dummyP2p).setVif v fun w =>
      { w with
        basicRateIdx := 0, apRateIdx := 0, p2pRateIdx := 0
        mgmtRateIdx := 0, bcastRateIdx := 0, ucastRateIdx := fun _ => 0 }

/-- A vif of an unsupported type is zeroed, all but its persistent data. -/
def zeroUnsupported (W : Wlcore) (v : VifId) (dummyP2p : Bool) : Wlcore :=
  (W.setExt v fun _ => zeroExt).onDriver fun wl => wl.setVif v fun w =>
    { zeroVif with
      bssType := .max, dummyP2p := dummyP2p
      txSecuritySeq := w.txSecuritySeq, txSecurityLastSeqLsb := w.txSecurityLastSeqLsb }

/-- `wl12xx_init_vif_data` (main.c:2035); `none` is an unsupported interface type. The flag tells
whether it returned 0. -/
def wl12xxInitVifData (W : Wlcore) (v : VifId) (type : Option BssType) (dummyP2p : Bool) :
    Bool × Wlcore :=
  match type with
  | none => (false, W.zeroUnsupported v dummyP2p)
  | some bssType => (true, (W.clearVif v bssType dummyP2p).allocateIndices v bssType)

/-! ## Role ids and remain-on-channel -/

/-- The role that a role id belongs to: the vif's own, or its device role. -/
inductive RoleField
  | role | dev
  deriving DecidableEq, Repr

/-- `wlvif->role_id` or `wlvif->dev_role_id`. -/
def roleOf (W : Wlcore) (v : VifId) : RoleField → Option RoleId
  | .role => (W.ext v).roleId
  | .dev => (W.ext v).devRoleId

/-- Store into the field. -/
def setRole (W : Wlcore) (v : VifId) (r : RoleField) (id : Option RoleId) : Wlcore :=
  W.setExt v fun e =>
    match r with
    | .role => { e with roleId := id }
    | .dev => { e with devRoleId := id }

/-- `wl12xx_cmd_role_enable` (cmd.c:233); the flag tells whether it returned 0. -/
def wl12xxCmdRoleEnable (W : Wlcore) (v : VifId) (r : RoleField) (ret : CmdRet) : Bool × Wlcore :=
  if (W.roleOf v r).isSome ∨ ret = .noMem then (false, W)
  else
    match firstZeroBit W.rolesMap with
    | none => (false, W)
    | some id =>
      if ret = .ok then
        (true, { W.setRole v r (some id) with rolesMap := update W.rolesMap id true })
      else W.sendCmd ret

/-- `wl12xx_cmd_role_disable` (cmd.c:277); the flag tells whether it returned 0. -/
def wl12xxCmdRoleDisable (W : Wlcore) (v : VifId) (r : RoleField) (ret : CmdRet) :
    Bool × Wlcore :=
  match W.roleOf v r with
  | none => (false, W)
  | some id =>
    if ret = .ok then
      (true, { W.setRole v r none with rolesMap := update W.rolesMap id false })
    else W.sendCmd ret

/-- `find_first_bit(wl->roc_map, WL12XX_MAX_ROLES) < WL12XX_MAX_ROLES`. -/
def anyRoc (W : Wlcore) : Bool := (List.finRange 4).any W.rocMap

/-- `wl12xx_roc` (cmd.c:1740) for the device role; the flag tells whether it returned 0. -/
def wl12xxRoc (W : Wlcore) (v : VifId) (ret : CmdRet) : Bool × Wlcore :=
  match (W.ext v).devRoleId with
  | none => W.sendCmd ret
  | some id =>
    if W.rocMap id then (true, W)
    else if ret = .ok then (true, { W with rocMap := update W.rocMap id true })
    else W.sendCmd ret

/-- `wl12xx_croc` (cmd.c:1763) for a role id that is set in `roc_map`; the flag tells whether it
returned 0. The Tx watchdog is re-armed when the last remain-on-channel is removed. -/
def wl12xxCroc (W : Wlcore) (id : RoleId) (ret : CmdRet) : Bool × Wlcore :=
  if ret = .ok then
    let W := { W with rocMap := update W.rocMap id false }
    (true, if W.anyRoc then W else W.onDriver wl12xxRearmTxWatchdogLocked)
  else W.sendCmd ret

/-- What the environment decides during `wl12xx_start_dev`. -/
structure StartDevEnv where
  roleEnable : CmdRet := .ok
  roleStart : CmdRet := .ok
  roc : CmdRet := .ok
  roleStop : RoleStopEnv := {}
  roleDisable : CmdRet := .ok

/-- `out_disable` of `wl12xx_start_dev`. -/
def startDevDisable (W : Wlcore) (v : VifId) (ret : CmdRet) : Wlcore :=
  if (W.vifs v).dummyP2p then W else (W.wl12xxCmdRoleDisable v .dev ret).2

/-- The device role is started and put on its channel (cmd.c:1872–1889). -/
def startDevRole (W : Wlcore) (v : VifId) (env : StartDevEnv) : Bool × Wlcore :=
  match W.ofDriver (wl12xxCmdRoleStartDev W.toWl1271 v env.roleStart) with
  | (false, W) => (false, W.startDevDisable v env.roleDisable)
  | (true, W) =>
    match W.wl12xxRoc v env.roc with
    | (true, W) => (true, W)
    | (false, W) =>
      (false, (W.onDriver fun wl => (wl12xxCmdRoleStopDev wl v env.roleStop).2).startDevDisable v
        env.roleDisable)

/-- `wl12xx_start_dev` (cmd.c:1853); the flag tells whether it returned 0. -/
def wl12xxStartDev (W : Wlcore) (v : VifId) (env : StartDevEnv) : Bool × Wlcore :=
  if !hasKlvTemplate (W.vifs v).bssType then (false, W)
  else if (W.vifs v).dummyP2p then W.startDevRole v env
  else
    match W.wl12xxCmdRoleEnable v .dev env.roleEnable with
    | (false, W) => (false, W)
    | (true, W) => W.startDevRole v env

/-- The remain-on-channel of the device role is ended, if it has one (cmd.c:1905–1909). -/
def stopDevCroc (W : Wlcore) (v : VifId) (ret : CmdRet) : Bool × Wlcore :=
  match (W.ext v).devRoleId with
  | none => (true, W)
  | some id => if W.rocMap id then W.wl12xxCroc id ret else (true, W)

/-- The device role is stopped and disabled (cmd.c:1911–1919). -/
def stopDevRole (W : Wlcore) (v : VifId) (env : StopDevEnv) : Bool × Wlcore :=
  match W.ofDriver (wl12xxCmdRoleStopDev W.toWl1271 v env.roleStop) with
  | (false, W) => (false, W)
  | (true, W) =>
    if (W.vifs v).dummyP2p then (true, W) else W.wl12xxCmdRoleDisable v .dev env.roleDisable

/-- `wl12xx_stop_dev` (cmd.c:1892); the flag tells whether it returned 0. -/
def wl12xxStopDev (W : Wlcore) (v : VifId) (env : StopDevEnv) : Bool × Wlcore :=
  if !hasKlvTemplate (W.vifs v).bssType then (false, W)
  else
    match wlcoreTxWorkLocked W.toWl1271 env.tx with
    | (.ok, wl) =>
      match stopDevCroc { W with toWl1271 := wl } v env.croc with
      | (false, W) => (false, W)
      | (true, W) => W.stopDevRole v env
    | (_, wl) => (false, { W with toWl1271 := wl })

/-! ## Adding an interface -/

/-- What the environment decides during `wl1271_op_add_interface`. -/
structure AddEnv where
  elpOk : Bool := true
  attempts : List BootAttempt := []
  roleEnable : CmdRet := .ok
  /-- the commands of the vif's initialisation before `wl1271_set_ba_policies` -/
  initVif : CmdRet := .ok
  /-- `wl12xx_acx_set_ba_initiator_policy` -/
  baInitiator : CmdRet := .ok
  /-- `wlcore_hw_init_vif` -/
  hwInitVif : CmdRet := .ok

/-- `wl1271_set_ba_policies` (init.c:491); the flag tells whether it returned 0. -/
def wl1271SetBaPolicies (W : Wlcore) (v : VifId) (ret : CmdRet) : Bool × Wlcore :=
  let support := decide ((W.vifs v).bssType = .apBss ∨ (W.vifs v).bssType = .staBss)
  let W := { W.setExt v fun e => { e with baAllowed := true, baSupport := support } with
    baRxSessionCount := 0 }
  if support then W.sendCmd ret else (true, W)

/-- `wl1271_init_vif_specific` (init.c:562); the flag tells whether it returned 0. -/
def wl1271InitVifSpecific (W : Wlcore) (v : VifId) (env : AddEnv) : Bool × Wlcore :=
  match W.sendCmd env.initVif with
  | (false, W) => (false, W)
  | (true, W) =>
    match W.wl1271SetBaPolicies v env.baInitiator with
    | (false, W) => (false, W)
    | (true, W) => W.sendCmd env.hwInitVif

/-- Booting the firmware for the first interface (main.c:2301–2316). -/
def addInterfaceBoot (W : Wlcore) (attempts : List BootAttempt) : Bool × Wlcore :=
  if W.state = .off then
    { W with fwBaSessions := [] }.ofDriver (wl12xxInitFw W.toWl1271 attempts)
  else (true, W)

/-- Enabling and initialising the role of the new interface (main.c:2318–2340). -/
def addInterfaceRole (W : Wlcore) (v : VifId) (env : AddEnv) : Bool × Wlcore :=
  if !(W.vifs v).dummyP2p then
    match W.wl12xxCmdRoleEnable v .role env.roleEnable with
    | (false, W) => (false, W)
    | (true, W) => W.wl1271InitVifSpecific v env
  else
    match W.wl12xxCmdRoleEnable v .dev env.roleEnable with
    | (false, W) => (false, W)
    | (true, W) => W.sendCmd env.initVif

/-- The new interface is listed (main.c:2342–2343). -/
def listInterface (W : Wlcore) (v : VifId) : Wlcore :=
  W.onDriver fun wl =>
    { wl.setVif v fun w => { w with initialized := true } with wlvifList := v :: wl.wlvifList }

/-- The steps of `wl1271_op_add_interface` after `wl12xx_init_vif_data`. -/
def addInterfaceInit (W : Wlcore) (v : VifId) (env : AddEnv) : Bool × Wlcore :=
  match W.addInterfaceBoot env.attempts with
  | (false, W) => (false, W)
  | (true, W) =>
    match W.addInterfaceRole v env with
    | (false, W) => (false, W)
    | (true, W) => (true, W.listInterface v)

/-- `wl1271_op_add_interface` (main.c:2249); the flag tells whether it returned 0. -/
def wl1271OpAddInterface (W : Wlcore) (v : VifId) (type : Option BssType) (dummyP2p : Bool)
    (env : AddEnv) : Bool × Wlcore :=
  if !env.elpOk then (false, W.queueRecovery)
  else if W.recoveryInProgress || (W.vifs v).initialized then (false, W)
  else
    match W.wl12xxInitVifData v type dummyP2p with
    | (false, W) => (false, W)
    | (true, W) => W.addInterfaceInit v env

/-! ## Removing an interface -/

/-- The hardware scan is over: `ieee80211_scan_completed` is called, and the Tx watchdog is re-armed
just before. -/
def completeScan (W : Wlcore) (aborted : Bool) : Wlcore :=
  { W.onDriver wl12xxRearmTxWatchdogLocked with
    scanState := .idle, scanVif := none, scanLog := .completed aborted :: W.scanLog }

/-- A scan of the vif that is removed is aborted (main.c:2383–2397). -/
def removeScan (W : Wlcore) (v : VifId) : Wlcore :=
  if W.scanState ≠ .idle ∧ W.scanVif = some v then W.completeScan true else W

/-- A remain-on-channel period of the vif that is removed expires (main.c:2404–2407). -/
def removeRoc (W : Wlcore) (v : VifId) : Wlcore :=
  if W.rocVif = some v then
    { W with rocVif := none, rocLog := .expired W.now true :: W.rocLog }
  else W

/-- Disabling the roles of a vif (main.c:2409–2434), done unless a recovery is in
progress. -/
def removeDisableRoles (W : Wlcore) (v : VifId) (env : RemoveEnv) : Wlcore :=
  if W.recoveryInProgress then W
  else if !env.elpOk then W.queueRecovery
  else
    let W :=
      if hasKlvTemplate (W.vifs v).bssType ∧ (W.vifs v).devHlid.isSome then
        (W.wl12xxStopDev v env.stopDev).2
      else W
    (W.wl12xxCmdRoleDisable v (if (W.vifs v).dummyP2p then .dev else .role) env.roleDisable).2

/-- What `wl12xx_tx_reset_wlvif` (tx.c:1012) does to the block-ack bitmaps: those of the stations of
an AP are cleared by `wl1271_free_sta`, that of a STA vif if it has a link. -/
def txResetBa (W : Wlcore) (v : VifId) : Wlcore :=
  let w := W.vifs v
  if w.bssType = .apBss then
    { W with baBitmap := fun h =>
        if w.linksMap h && w.staHlidMap h then fun _ => false else W.baBitmap h }
  else if allHlids.any w.linksMap then
    W.setExt v fun e => { e with baRxBitmap := fun _ => false }
  else W

/-- `deinit` (main.c:2436–2474). -/
def removeDeinit (W : Wlcore) (v : VifId) : Wlcore :=
  let W := ((W.freeIndices v).txResetBa v).onDriver fun wl => Driver.removeDeinit wl v
  W.setExt v fun e => { e with roleId := none, devRoleId := none }

/-- `__wl1271_op_remove_interface` (main.c:2365). -/
def wl1271OpRemoveInterfaceLocked (W : Wlcore) (v : VifId) (env : RemoveEnv) : Wlcore :=
  if !(W.vifs v).initialized then W
  else if W.state = .off then W.onDriver fun wl => clearInitialized wl v
  else
    let W₁ := (W.onDriver fun wl => clearInitialized wl v).removeScan v
    let W₂ := ((W₁.removeRoc v).removeDisableRoles v env).removeDeinit v
    W₂.onDriver fun wl => removeSleepAuth wl (decide ((W.vifs v).bssType = .apBss)) env

/-- `wl1271_op_remove_interface` (main.c:2498); `needFwChange` is the result of
`wl12xx_need_fw_change`. -/
def wl1271OpRemoveInterface (W : Wlcore) (v : VifId) (env : RemoveEnv) (needFwChange : Bool) :
    Wlcore :=
  if W.state = .off ∨ !(W.vifs v).initialized then W
  else
    let W := if v ∈ W.wlvifList then W.wl1271OpRemoveInterfaceLocked v env else W
    if needFwChange then
      W.onDriver fun wl => wl12xxQueueRecoveryWork { wl with intendedFwRecovery := true }
    else W

/-! ## Stop and recovery -/

/-- `wlcore_op_stop_locked` (main.c:1860). The state of a scan or of a remain-on-channel period, and
`roc_complete_work`, are left alone. -/
def wlcoreOpStopLocked (W : Wlcore) : Wlcore :=
  let W' := W.onDriver Driver.wlcoreOpStopLocked
  if W.state = .off then W'
  else
    { W' with
      rolesMap := fun _ => false, rocMap := fun _ => false
      scanWorkPending := false, fwBaSessions := [] }

/-- The restart in `wl1271_recovery_work` (main.c:957–985). -/
def recoveryRestart (W : Wlcore) (env : VifId → RemoveEnv) : Wlcore :=
  let W := W.onDriver fun wl => wlcoreStopQueues (wl.wlvifList.foldl padSecuritySeq wl) .fwRestart
  let W := W.wlvifList.foldl (fun W v => W.wl1271OpRemoveInterfaceLocked v (env v)) W
  W.wlcoreOpStopLocked.onDriver fun wl => wlcoreWakeQueues wl .fwRestart

/-- `wl1271_recovery_work` (main.c:929); the dump of the firmware log is left out. -/
def wl1271RecoveryWork (W : Wlcore) (env : VifId → RemoveEnv) : Wlcore :=
  if W.state = .off ∨ W.plt then W.onDriver recoveryOut
  else if W.bugOnRecovery ∧ ¬ W.intendedFwRecovery then { W with oops := true }
  else if W.noRecovery then W.onDriver recoveryOut
  else (W.recoveryRestart env).onDriver recoveryOut

/-! ## Stations and block-ack sessions -/

/-- The calls behind `wl12xx_op_sta_state` and `wl1271_op_bss_info_changed` are made on a running
device that wakes up. -/
def whenAwake (W : Wlcore) (elpOk : Bool) (f : Wlcore → Wlcore) : Wlcore :=
  if W.state ≠ .on then W
  else if !elpOk then W.queueRecovery
  else f W

/-- `wl1271_free_sta` (main.c:4528) also clears the block-ack bitmap of the link. -/
def wl1271FreeSta (W : Wlcore) (v : VifId) (h : Hlid) : Wlcore :=
  if !(W.vifs v).staHlidMap h then W
  else
    { W.onDriver fun wl => Driver.wl1271FreeSta wl v h with
      baBitmap := update W.baBitmap h fun _ => false }

/-- `wl12xx_sta_add` (main.c:4549); `addPeer` is the result of `wl12xx_cmd_add_peer`. -/
def wl12xxStaAdd (W : Wlcore) (v : VifId) (addPeer : CmdRet) : Wlcore :=
  match wl1271AllocateSta W.toWl1271 v with
  | (none, wl) => { W with toWl1271 := wl }
  | (some h, wl) =>
    if addPeer = .ok then { W with toWl1271 := wl }
    else ({ W with toWl1271 := cmdEffect wl addPeer } : Wlcore).wl1271FreeSta v h

/-- `wl12xx_sta_remove` (main.c:4573). -/
def wl12xxStaRemove (W : Wlcore) (v : VifId) (h : Hlid) (removePeer : CmdRet) : Wlcore :=
  if !(W.vifs v).staHlidMap h then W
  else if removePeer = .ok then W.wl1271FreeSta v h
  else (W.sendCmd removePeer).2

/-- The actions of `wl1271_op_ampdu_action` on receiver sessions; the transmit side is managed by the
firmware. -/
inductive AmpduAction
  | rxStart | rxStop | other
  deriving DecidableEq, Repr

/-- What the environment decides during `wl1271_op_ampdu_action`. -/
structure AmpduEnv where
  elpOk : Bool := true
  /-- `wl12xx_acx_set_ba_receiver_session` -/
  session : CmdRet := .ok
  /-- the firmware answers `CMD_STATUS_NO_RX_BA_SESSION`, which is not an error -/
  noRxBaSession : Bool := false

/-- `RX_BA_MAX_SESSIONS`. -/
def rxBaMaxSessions : ℤ := 3

/-- The bitmap that `wl1271_op_ampdu_action` works on. -/
def baBits (W : Wlcore) : BaOwner → Fin 8 → Bool
  | .link h => W.baBitmap h
  | .staVif v => (W.ext v).baRxBitmap

/-- `*ba_bitmap & BIT(tid)`: only eight bits are there. -/
def testBaBit (W : Wlcore) (o : BaOwner) (tid : ℕ) : Bool :=
  if h : tid < 8 then W.baBits o ⟨tid, h⟩ else false

/-- `*ba_bitmap |= BIT(tid)` and `*ba_bitmap &= ~BIT(tid)`; a bit that is not there is lost. -/
def setBaBit (W : Wlcore) (o : BaOwner) (tid : ℕ) (b : Bool) : Wlcore :=
  if h : tid < 8 then
    match o with
    | .link l => { W with baBitmap := update W.baBitmap l (update (W.baBitmap l) ⟨tid, h⟩ b) }
    | .staVif v => W.setExt v fun e => { e with baRxBitmap := update e.baRxBitmap ⟨tid, h⟩ b }
  else W

/-- `IEEE80211_AMPDU_RX_START` (main.c:4738–4765). -/
def ampduRxStart (W : Wlcore) (v : VifId) (o : BaOwner) (tid : ℕ) (env : AmpduEnv) : Wlcore :=
  if !(W.ext v).baSupport || !(W.ext v).baAllowed then W
  else if rxBaMaxSessions ≤ W.baRxSessionCount then W
  else if W.testBaBit o tid then W
  else if env.session = .ok then
    { W.setBaBit o tid true with
      baRxSessionCount := W.baRxSessionCount + 1
      fwBaSessions :=
        if env.noRxBaSession then W.fwBaSessions else W.fwBaSessions.insert (o, tid) }
  else (W.sendCmd env.session).2

/-- `IEEE80211_AMPDU_RX_STOP` (main.c:4767–4786). -/
def ampduRxStop (W : Wlcore) (o : BaOwner) (tid : ℕ) (env : AmpduEnv) : Wlcore :=
  if !W.testBaBit o tid then W
  else if env.session = .ok then
    { W.setBaBit o tid false with
      baRxSessionCount := W.baRxSessionCount - 1
      fwBaSessions := W.fwBaSessions.filter fun s => decide (s ≠ (o, tid)) }
  else (W.sendCmd env.session).2

/-- The owner of the sessions of a vif (main.c:4717–4731): the vif itself, or the station on the
link `h` of an AP. -/
def baOwner (W : Wlcore) (v : VifId) (h : Hlid) : Option BaOwner :=
  match (W.vifs v).bssType with
  | .staBss => some (.staVif v)
  | .apBss => some (.link h)
  | _ => none

/-- `wl1271_op_ampdu_action` (main.c:4693); `h` is the hlid of the station. -/
def wl1271OpAmpduAction (W : Wlcore) (v : VifId) (action : AmpduAction) (h : Hlid) (tid : ℕ)
    (env : AmpduEnv) : Wlcore :=
  if (W.vifs v).dummyP2p ∨ 0xff < tid then W
  else if W.state ≠ .on then W
  else
    match W.baOwner v h with
    | none => W
    | some o =>
      if !env.elpOk then W.queueRecovery
      else
        match action with
        | .rxStart => W.ampduRxStart v o tid env
        | .rxStop => W.ampduRxStop o tid env
        | .other => W

/-! ## Scan -/

/-- What the environment decides during an operation on the scan. -/
structure ScanEnv where
  elpOk : Bool := true
  cmd : CmdRet := .ok

/-- `wl1271_scan` (scan.c:406); the result of the scan command itself is not looked at. A delayed
work that is pending already is not queued again. -/
def wl1271Scan (W : Wlcore) (v : VifId) (ret : CmdRet) : Wlcore :=
  if W.scanState ≠ .idle then W
  else
    ({ W with
      scanState := .active2Ghz, scanVif := some v, scanFailed := true, scanWorkPending := true
      scanLog := .accepted :: W.scanLog } : Wlcore).onDriver fun wl => cmdEffect wl ret

/-- `wl1271_op_hw_scan` (main.c:3314). -/
def wl1271OpHwScan (W : Wlcore) (v : VifId) (env : ScanEnv) : Wlcore :=
  if W.state ≠ .on then W
  else if !env.elpOk then W.queueRecovery
  else if W.anyRoc then W
  else W.wl1271Scan v env.cmd

/-- `wl12xx_scan_completed` (scan.c:398), on a `SCAN_COMPLETE` event. -/
def wl12xxScanCompleted (W : Wlcore) : Wlcore :=
  { W with scanFailed := false, scanWorkPending := true }

/-- The part of `wl1271_scan_complete_work` after the scan is idle (scan.c:66–85). The device is woken
up before mac80211 is told. -/
def scanCompleteNotify (W : Wlcore) (v : Option VifId) (env : ScanEnv) : Wlcore :=
  if !env.elpOk then W.queueRecovery
  else
    let W :=
      if v.any fun v => (W.vifs v).staAssociated then W.onDriver fun wl => cmdEffect wl env.cmd
      else W
    let W := if W.scanFailed then W.queueRecovery else W
    { W with scanLog := .completed false :: W.scanLog }

/-- `wl1271_scan_complete_work` (scan.c:34). -/
def wl1271ScanCompleteWork (W : Wlcore) (env : ScanEnv) : Wlcore :=
  if !W.scanWorkPending then W
  else
    let W := { W with scanWorkPending := false }
    if W.state ≠ .on ∨ W.scanState = .idle then W
    else
      scanCompleteNotify
        { W.onDriver wl12xxRearmTxWatchdogLocked with scanState := .idle, scanVif := none }
        W.scanVif env

/-- The locked part of `wl1271_op_cancel_hw_scan` (main.c:3368–3402). -/
def cancelHwScanLocked (W : Wlcore) (env : ScanEnv) : Wlcore :=
  if W.state ≠ .on ∨ W.scanState = .idle then W
  else if !env.elpOk then W.queueRecovery
  else if W.scanState ≠ .done ∧ env.cmd ≠ .ok then (W.sendCmd env.cmd).2
  else W.completeScan true

/-- `wl1271_op_cancel_hw_scan` (main.c:3358). -/
def wl1271OpCancelHwScan (W : Wlcore) (env : ScanEnv) : Wlcore :=
  { W.cancelHwScanLocked env with scanWorkPending := false }

/-! ## Remain on channel -/

/-- `ieee80211_queue_delayed_work`: a work that is pending already keeps its time. -/
def queueRocWork (W : Wlcore) (duration : ℕ) : Wlcore :=
  { W with rocWorkDue := W.rocWorkDue <|> some (W.now + duration) }

/-- `wl12xx_op_remain_on_channel` (main.c:4908). -/
def wl12xxOpRemainOnChannel (W : Wlcore) (v : VifId) (duration : ℕ) (elpOk : Bool)
    (env : StartDevEnv) : Wlcore :=
  if W.state ≠ .on then W
  else if W.rocVif.isSome ∨ W.anyRoc then W
  else if !hasKlvTemplate (W.vifs v).bssType then W
  else if !elpOk then W.queueRecovery
  else
    match W.wl12xxStartDev v env with
    | (false, W) => W
    | (true, W) =>
      { W with rocVif := some v, rocLog := .started (W.now + duration) :: W.rocLog }.queueRocWork
        duration

/-- What the environment decides while a period is completed. -/
structure RocEnv where
  elpOk : Bool := true
  stopDev : StopDevEnv := { tx := { iters := [{}] } }
  /-- `wl1271_tx_flush` before a cancellation -/
  polls : List (Bool × TxWorkEnv) := []
  flushTimedOut : Bool := false

/-- `__wlcore_roc_completed` (main.c:4962); the flag tells whether it returned 0, as it also does
without a period. -/
def rocCompletedLocked (W : Wlcore) (env : RocEnv) : Bool × Wlcore :=
  match W.rocVif with
  | none => (true, W)
  | some v =>
    if !(W.vifs v).initialized then (false, W)
    else
      match W.wl12xxStopDev v env.stopDev with
      | (false, W) => (false, W)
      | (true, W) => (true, { W with rocVif := none })

/-- `wlcore_roc_completed` (main.c:4986). -/
def wlcoreRocCompleted (W : Wlcore) (env : RocEnv) : Bool × Wlcore :=
  if W.state ≠ .on then (false, W)
  else if !env.elpOk then (false, W.queueRecovery)
  else W.rocCompletedLocked env

/-- `wl1271_roc_complete_work` (main.c:5011), when it is due. The call to mac80211 is made after the
mutex is released; until then mac80211 starts no other period, and a cancellation waits for the
work. -/
def wl1271RocCompleteWork (W : Wlcore) (env : RocEnv) : Wlcore :=
  if W.rocWorkDue.any fun due => decide (due ≤ W.now) then
    match wlcoreRocCompleted { W with rocWorkDue := none } env with
    | (true, W) => { W with rocLog := .expired W.now false :: W.rocLog }
    | (false, W) => W
  else W

/-- `wl12xx_op_cancel_remain_on_channel` (main.c:5025). -/
def wl12xxOpCancelRemainOnChannel (W : Wlcore) (env : RocEnv) : Wlcore :=
  let W := W.onDriver fun wl => wl1271TxFlush wl env.polls env.flushTimedOut
  (wlcoreRocCompleted { W with rocWorkDue := none, rocLog := .cancelled :: W.rocLog } env).2

/-! ## Keys -/

/-- What the environment decides during `wlcore_op_set_key`. -/
structure KeyOpEnv where
  elpOk : Bool := true
  keys : SetKeyEnv := {}
  /-- `wl1271_tx_flush`, before a key that may change the spare blocks -/
  polls : List (Bool × TxWorkEnv) := []
  flushTimedOut : Bool := false

/-- `wlcore_op_set_key` (main.c:3121). -/
def wlcoreOpSetKey (wl : Wl1271) (cmd : SetKeyCmd) (v : VifId) (sta : Option KeySta) (k : KeyConf)
    (env : KeyOpEnv) : Wl1271 :=
  let wl := opSetKeyBegin wl k
  let wl := if needsExtraSpare k.cipher then wl1271TxFlush wl env.polls env.flushTimedOut else wl
  opSetKeyEnd wl cmd v sta k env.elpOk env.keys

/-! ## The Tx watchdog -/

/-- `wl12xx_tx_watchdog_work` (main.c:241), when it is pending. -/
def wl12xxTxWatchdogWork (W : Wlcore) : Wlcore :=
  if !W.txWatchdogPending then W
  else
    let W := W.onDriver fun wl => { wl with txWatchdogPending := false }
    if W.state ≠ .on ∨ W.txAllocatedBlocks = 0 then W
    else if W.anyRoc then W.onDriver wl12xxRearmTxWatchdogLocked
    else if W.scanState ≠ .idle then W.onDriver wl12xxRearmTxWatchdogLocked
    else if W.activeStaCount ≠ 0 then W.onDriver wl12xxRearmTxWatchdogLocked
    else W.queueRecovery

/-! ## The state machine -/

/-- What `wl1271_bss_info_changed_sta` (main.c:3946) does to the role of a STA or IBSS vif. -/
inductive StaRole
  | join (ret : CmdRet)
  | stop (env : RoleStopEnv)

/-- The role of a STA or IBSS vif is started or stopped. -/
def changeStaRole (wl : Wl1271) (v : VifId) : StaRole → Wl1271
  | .join ret => (wl1271Join wl v ret).2
  | .stop env => (wl12xxCmdRoleStopSta wl v env).2

/-- `wl1271_op_bss_info_changed` (main.c:4338). -/
def wl1271OpBssInfoChanged (W : Wlcore) (v : VifId) (elpOk : Bool) (sta : StaRole)
    (ap : BssInfoAp) : Wlcore :=
  if (W.vifs v).dummyP2p ∨ !(W.vifs v).initialized then W
  else
    W.whenAwake elpOk fun W => W.onDriver fun wl =>
      if (wl.vifs v).bssType = .apBss then wl1271BssInfoChangedAp wl v ap
      else changeStaRole wl v sta

/-- What `wl12xx_op_sta_state` (main.c:4651) does to a station of an AP. -/
inductive StaState
  | add (addPeer : CmdRet)
  | remove (h : Hlid) (removePeer : CmdRet)

/-- `wl12xx_op_sta_state` (main.c:4651). -/
def wl12xxOpStaState (W : Wlcore) (v : VifId) (elpOk : Bool) (change : StaState) : Wlcore :=
  if (W.vifs v).dummyP2p then W
  else
    W.whenAwake elpOk fun W =>
      if (W.vifs v).bssType ≠ .apBss then W
      else
        match change with
        | .add ret => W.wl12xxStaAdd v ret
        | .remove h ret => W.wl12xxStaRemove v h ret

/-- The operations on the driver, each of which runs under `wl->mutex`. -/
inductive Op
  | addInterface (v : VifId) (type : Option BssType) (dummyP2p : Bool) (env : AddEnv)
  | removeInterface (v : VifId) (env : RemoveEnv) (needFwChange : Bool)
  | bssInfoChanged (v : VifId) (elpOk : Bool) (sta : StaRole) (ap : BssInfoAp)
  | staState (v : VifId) (elpOk : Bool) (change : StaState)
  | setKey (cmd : SetKeyCmd) (v : VifId) (sta : Option KeySta) (k : KeyConf) (env : KeyOpEnv)
  | ampduAction (v : VifId) (action : AmpduAction) (h : Hlid) (tid : ℕ) (env : AmpduEnv)
  | hwScan (v : VifId) (env : ScanEnv)
  | scanCompleteEvent
  | scanCompleteWork (env : ScanEnv)
  | cancelHwScan (env : ScanEnv)
  | remainOnChannel (v : VifId) (duration : ℕ) (elpOk : Bool) (env : StartDevEnv)
  | cancelRemainOnChannel (env : RocEnv)
  | rocCompleteWork (env : RocEnv)
  | opTx (skb : Skb)
  | txWork (elpOk : Bool) (env : TxWorkEnv)
  | irq (env : IrqEnv)
  | txWatchdogWork
  /-- an error elsewhere queues a recovery -/
  | queueRecovery
  | recoveryWork (env : VifId → RemoveEnv)
  | stop
  /-- milliseconds pass -/
  | tick (ms : ℕ)

/-- One operation. -/
def step (W : Wlcore) : Op → Wlcore
  | .addInterface v type dummyP2p env => (W.wl1271OpAddInterface v type dummyP2p env).2
  | .removeInterface v env needFwChange => W.wl1271OpRemoveInterface v env needFwChange
  | .bssInfoChanged v elpOk sta ap => W.wl1271OpBssInfoChanged v elpOk sta ap
  | .staState v elpOk change => W.wl12xxOpStaState v elpOk change
  | .setKey cmd v sta k env => W.onDriver fun wl => wlcoreOpSetKey wl cmd v sta k env
  | .ampduAction v action h tid env => W.wl1271OpAmpduAction v action h tid env
  | .hwScan v env => W.wl1271OpHwScan v env
  | .scanCompleteEvent => W.wl12xxScanCompleted
  | .scanCompleteWork env => W.wl1271ScanCompleteWork env
  | .cancelHwScan env => W.wl1271OpCancelHwScan env
  | .remainOnChannel v duration elpOk env => W.wl12xxOpRemainOnChannel v duration elpOk env
  | .cancelRemainOnChannel env => W.wl12xxOpCancelRemainOnChannel env
  | .rocCompleteWork env => W.wl1271RocCompleteWork env
  | .opTx skb => W.onDriver fun wl => wl1271OpTx wl skb
  | .txWork elpOk env => W.onDriver fun wl => runTxWork wl elpOk env
  | .irq env => W.onDriver fun wl => (wlcoreIrq wl env).2
  | .txWatchdogWork => W.wl12xxTxWatchdogWork
  | .queueRecovery => W.queueRecovery
  | .recoveryWork env => W.wl1271RecoveryWork env
  | .stop => W.wlcoreOpStopLocked
  | .tick ms => { W with now := W.now + ms }

end Wlcore

end TiWlan.Driver
