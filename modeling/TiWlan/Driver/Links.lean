import TiWlan.Driver.TxStatus

/-!
# Links, stations and interface removal

Models of `wl12xx_allocate_link` and `wl12xx_free_link` (`wlcore/cmd.c`, lines
313–345), stopping the device role (lines 428–470 and 1892–1923), the AP stations
(`wlcore/main.c`, lines 4502–4593), `wl12xx_tx_reset_wlvif` (`wlcore/tx.c`, lines
1012–1028) and the parts of `wl12xx_init_vif_data`, `wl1271_op_add_interface` and
`__wl1271_op_remove_interface` (`wlcore/main.c`, lines 2035–2121 and 2249–2496) that
touch the modelled state. Rate policies, keep-alive templates, block-ack sessions,
scans and the remain-on-channel state are left out.
-/

namespace TiWlan.Driver

open Function (update)

/-! ## Links -/

/-- `wl12xx_allocate_link` (cmd.c:313); `none` is `-EBUSY`. -/
def wl12xxAllocateLink (wl : Wl1271) (v : VifId) : Option Hlid × Wl1271 :=
  match allHlids.find? fun h => !wl.linksMap h with
  | none => (none, wl)
  | some h =>
    (some h,
      { wl with
        linksMap := update wl.linksMap h true
        vifs := update wl.vifs v
          { wl.vifs v with linksMap := update (wl.vifs v).linksMap h true } })

/-- `wl12xx_free_link` (cmd.c:329) of a valid hlid; the callers set the field that held it
to `WL12XX_INVALID_LINK_ID`. -/
def wl12xxFreeLink (wl : Wl1271) (v : VifId) (h : Hlid) : Wl1271 :=
  wl1271TxResetLinkQueues
    { wl with
      linksMap := update wl.linksMap h false
      vifs := update wl.vifs v
        { wl.vifs v with linksMap := update (wl.vifs v).linksMap h false } } h

/-- The fields of `struct wl12xx_vif` that hold the hlid of a role. -/
inductive RoleLink
  | dev | sta | apGlobal | apBcast
  deriving DecidableEq, Repr

/-- The field itself. -/
def Wl12xxVif.roleHlid (w : Wl12xxVif) : RoleLink → Option Hlid
  | .dev => w.devHlid
  | .sta => w.staHlid
  | .apGlobal => w.apGlobalHlid
  | .apBcast => w.apBcastHlid

/-- Store into the field. -/
def Wl12xxVif.setRoleHlid (w : Wl12xxVif) (r : RoleLink) (h : Option Hlid) : Wl12xxVif :=
  match r with
  | .dev => { w with devHlid := h }
  | .sta => { w with staHlid := h }
  | .apGlobal => { w with apGlobalHlid := h }
  | .apBcast => { w with apBcastHlid := h }

/-- `wl12xx_free_link(wl, wlvif, &field)`. -/
def freeRoleLink (wl : Wl1271) (v : VifId) (r : RoleLink) : Wl1271 :=
  match (wl.vifs v).roleHlid r with
  | none => wl
  | some h => (wl12xxFreeLink wl v h).setVif v fun w => w.setRoleHlid r none

/-- `wl12xx_free_link(wl, wlvif, &wlvif->dev_hlid)`. -/
def freeDevLink (wl : Wl1271) (v : VifId) : Wl1271 := freeRoleLink wl v .dev

/-! ## Stations -/

/-- `AP_MAX_STATIONS`. -/
def apMaxStations : ℤ := 8

/-- `wl1271_allocate_sta` (main.c:4502). -/
def wl1271AllocateSta (wl : Wl1271) (v : VifId) : Option Hlid × Wl1271 :=
  if apMaxStations ≤ wl.activeStaCount then (none, wl)
  else
    match wl12xxAllocateLink wl v with
    | (none, wl) => (none, wl)
    | (some h, wl) =>
      (some h,
        { wl.setVif v fun w => { w with staHlidMap := update w.staHlidMap h true } with
          activeStaCount := wl.activeStaCount + 1 })

/-- `wl12xx_rearm_tx_watchdog_locked` (main.c:229). -/
def wl12xxRearmTxWatchdogLocked (wl : Wl1271) : Wl1271 :=
  { wl with txWatchdogPending := wl.txWatchdogPending || wl.txAllocatedBlocks != 0 }

/-- `wl1271_free_sta` (main.c:4528). -/
def wl1271FreeSta (wl : Wl1271) (v : VifId) (h : Hlid) : Wl1271 :=
  if !(wl.vifs v).staHlidMap h then wl
  else
    let wl := wl.setVif v fun w => { w with staHlidMap := update w.staHlidMap h false }
    let wl := { wl with
      apPsMap := update wl.apPsMap h false
      apFwPsMap := update wl.apFwPsMap h false }
    let wl := wl12xxFreeLink wl v h
    let wl := { wl with activeStaCount := wl.activeStaCount - 1 }
    if wl.activeStaCount = 0 then wl12xxRearmTxWatchdogLocked wl else wl

/-- `wl12xx_sta_add` (main.c:4549); `addPeer` is the result of `wl12xx_cmd_add_peer`. -/
def wl12xxStaAdd (wl : Wl1271) (v : VifId) (addPeer : CmdRet) : Option Hlid × Wl1271 :=
  match wl1271AllocateSta wl v with
  | (none, wl) => (none, wl)
  | (some h, wl) =>
    if addPeer = .ok then (some h, wl) else (none, wl1271FreeSta (cmdEffect wl addPeer) v h)

/-- `wl12xx_sta_remove` (main.c:4573). -/
def wl12xxStaRemove (wl : Wl1271) (v : VifId) (h : Hlid) (removePeer : CmdRet) : Wl1271 :=
  if !(wl.vifs v).staHlidMap h then wl
  else if removePeer = .ok then wl1271FreeSta wl v h
  else cmdEffect wl removePeer

/-! ## Interfaces -/

/-- One link in the loop of `wl12xx_tx_reset_wlvif`. -/
def txResetWlvifLink (v : VifId) (wl : Wl1271) (h : Hlid) : Wl1271 :=
  let wl := if (wl.vifs v).bssType = .apBss then wl1271FreeSta wl v h else wl
  { wl with
    allocatedPkts := update wl.allocatedPkts h 0
    prevFreedPkts := update wl.prevFreedPkts h 0 }

/-- `wl12xx_tx_reset_wlvif` (tx.c:1012). -/
def wl12xxTxResetWlvif (wl : Wl1271) (v : VifId) : Wl1271 :=
  ((allHlids.filter (wl.vifs v).linksMap).foldl (txResetWlvifLink v) wl).setVif v
    fun w => { w with lastTxHlid := 0 }

/-- The outcome of `wl1271_cmd_wait_for_event_or_timeout` (cmd.c:172). -/
inductive EventRet
  | done | timeout | failed (e : Errno)
  deriving DecidableEq, Repr

/-- What the environment decides while a role is stopped: `CMD_ROLE_STOP` and its completion
event. -/
structure RoleStopEnv where
  cmd : CmdRet := .ok
  event : EventRet := .done

/-- `wl12xx_cmd_role_stop_dev` (cmd.c:428); the flag tells whether it returned 0. A completion event
that does not come in time queues a recovery, but `wl1271_cmd_wait_for_event` (cmd.c:222) reports
only errors. -/
def wl12xxCmdRoleStopDev (wl : Wl1271) (v : VifId) (env : RoleStopEnv) : Bool × Wl1271 :=
  if (wl.vifs v).devHlid = none then (false, wl)
  else if env.cmd ≠ .ok then (false, cmdEffect wl env.cmd)
  else
    match env.event with
    | .done => (true, freeDevLink wl v)
    | .timeout => (true, freeDevLink (wl12xxQueueRecoveryWork wl) v)
    | .failed _ => (false, wl12xxQueueRecoveryWork wl)

/-- The results of the commands in `wl12xx_stop_dev`. -/
structure StopDevEnv where
  tx : TxWorkEnv
  /-- `wl12xx_croc`; `ok` also when the role has no remain-on-channel -/
  croc : CmdRet := .ok
  roleStop : RoleStopEnv := {}
  /-- `CMD_ROLE_DISABLE` of the device role -/
  roleDisable : CmdRet := .ok

/-- `wl12xx_stop_dev` (cmd.c:1892). -/
def wl12xxStopDev (wl : Wl1271) (v : VifId) (env : StopDevEnv) : Wl1271 :=
  match wlcoreTxWorkLocked wl env.tx with
  | (.ok, wl) =>
    if env.croc ≠ .ok then cmdEffect wl env.croc
    else
      match wl12xxCmdRoleStopDev wl v env.roleStop with
      | (false, wl) => wl
      | (true, wl) => if (wl.vifs v).dummyP2p then wl else cmdEffect wl env.roleDisable
  | (_, wl) => wl

/-- What the environment decides during `__wl1271_op_remove_interface`. -/
structure RemoveEnv where
  elpOk : Bool := true
  stopDev : StopDevEnv := { tx := { iters := [] } }
  roleDisable : CmdRet := .ok
  /-- `wl1271_acx_sleep_auth` for the stations left after the last AP -/
  sleepAuth : CmdRet := .ok

/-- Disabling the roles of a vif (main.c:2410–2434), done unless a recovery is in
progress. -/
def removeDisableRoles (wl : Wl1271) (v : VifId) (env : RemoveEnv) : Wl1271 :=
  if wl.recoveryInProgress then wl
  else if !env.elpOk then wl12xxQueueRecoveryWork wl
  else
    let w := wl.vifs v
    let wl :=
      if (w.bssType = .staBss ∨ w.bssType = .ibss) ∧ w.devHlid.isSome then
        wl12xxStopDev wl v env.stopDev
      else wl
    cmdEffect wl env.roleDisable

/-- The hlids of the roles, and the keys recorded for an AP, are forgotten (main.c:2436–2456). -/
def forgetRoles (w : Wl12xxVif) : Wl12xxVif :=
  if w.bssType = .staBss ∨ w.bssType = .ibss then { w with devHlid := none, staHlid := none }
  else { w with devHlid := none, apBcastHlid := none, apGlobalHlid := none, recordedApKeys := [] }

/-- `deinit` (main.c:2436–2471): forget the hlids, release the links and take the vif off
the list. -/
def removeDeinit (wl : Wl1271) (v : VifId) : Wl1271 :=
  let wl := wl12xxTxResetWlvif (wl.setVif v forgetRoles) v
  let wl := { wl with
    lastWlvif := if wl.lastWlvif = some v then none else wl.lastWlvif
    wlvifList := wl.wlvifList.erase v }
  wl.setVif v fun w => { w with staHlidMap := fun _ => false }

/-- The sleep authorisation sent after the last AP is gone (main.c:2486–2494), if vifs
remain. -/
def removeSleepAuth (wl : Wl1271) (wasAp : Bool) (env : RemoveEnv) : Wl1271 :=
  if wl.recoveryInProgress ∧ ¬ wl.intendedFwRecovery then wl
  else if wasAp ∧ wl.wlvifList ≠ [] ∧
      ∀ v ∈ wl.wlvifList, (wl.vifs v).bssType ≠ .apBss then
    cmdEffect wl env.sleepAuth
  else wl

/-- `test_and_clear_bit(WLVIF_FLAG_INITIALIZED, &wlvif->flags)` of a set bit. -/
def clearInitialized (wl : Wl1271) (v : VifId) : Wl1271 :=
  wl.setVif v fun w => { w with initialized := false }

/-- `__wl1271_op_remove_interface` (main.c:2365). -/
def wl1271OpRemoveInterfaceLocked (wl : Wl1271) (v : VifId) (env : RemoveEnv) : Wl1271 :=
  if !(wl.vifs v).initialized then wl
  else if wl.state = .off then clearInitialized wl v
  else
    removeSleepAuth (removeDeinit (removeDisableRoles (clearInitialized wl v) v env) v)
      (decide ((wl.vifs v).bssType = .apBss)) env

/-- `wl1271_op_remove_interface` (main.c:2498); `needFwChange` is the result of
`wl12xx_need_fw_change`. -/
def wl1271OpRemoveInterface (wl : Wl1271) (v : VifId) (env : RemoveEnv) (needFwChange : Bool) :
    Wl1271 :=
  if wl.state = .off ∨ !(wl.vifs v).initialized then wl
  else
    let wl := if v ∈ wl.wlvifList then wl1271OpRemoveInterfaceLocked wl v env else wl
    if needFwChange then wl12xxQueueRecoveryWork { wl with intendedFwRecovery := true }
    else wl

/-- `wl12xx_init_vif_data` (main.c:2035): everything but the persistent sequence number
data is cleared. -/
def wl12xxInitVifData (wl : Wl1271) (v : VifId) (bssType : BssType) (dummyP2p : Bool) :
    Wl1271 :=
  wl.setVif v fun w =>
    { w with
      initialized := false, staAssociated := false, apStarted := false
      bssType := bssType, dummyP2p := dummyP2p
      devHlid := none, staHlid := none, apGlobalHlid := none, apBcastHlid := none
      staHlidMap := fun _ => false, linksMap := fun _ => false, lastTxHlid := 0
      sessionCounter := 0, defaultKey := 0, encryptionType := .none, recordedApKeys := [] }

end TiWlan.Driver
