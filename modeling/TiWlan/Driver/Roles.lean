import TiWlan.Driver.Keys

/-!
# Starting and stopping roles

Models of `wl12xx_cmd_role_start_dev`, `wl12xx_cmd_role_start_sta`,
`wl12xx_cmd_role_start_ibss`, `wl12xx_cmd_role_stop_sta`, `wl12xx_cmd_role_start_ap` and
`wl12xx_cmd_role_stop_ap` (`wlcore/cmd.c`, lines 351–785), of `wl1271_ap_init_hwenc`
(`wlcore/main.c`, lines 3005–3043) and of `wl1271_bss_info_changed_ap` (lines 3858–3943).

Of the parameters of a role only its links are kept; the other fields of the commands do
not come back into the driver. The commands before and after the switch of the beacon in
`wl1271_bss_info_changed_ap` are one command each, the first that fails.
-/

namespace TiWlan.Driver

/-! ## Device, STA and IBSS roles -/

/-- `wl12xx_allocate_link(wl, wlvif, &field)`; the flag tells whether it returned 0. -/
def allocateRoleLink (wl : Wl1271) (v : VifId) (r : RoleLink) : Bool × Wl1271 :=
  match wl12xxAllocateLink wl v with
  | (none, wl) => (false, wl)
  | (some h, wl) => (true, wl.setVif v fun w => w.setRoleHlid r (some h))

/-- `wl12xx_get_new_session_id` (cmd.c:351) with `SESSION_COUNTER_MAX` 6. -/
def newSessionId (c : Fin 7) : Fin 7 := if 6 ≤ c then 1 else c + 1

/-- The link of a role that is started: a role that has one keeps it. -/
def roleStartLink (wl : Wl1271) (v : VifId) (r : RoleLink) : Bool × Wl1271 :=
  if (wl.vifs v).roleHlid r = none then allocateRoleLink wl v r else (true, wl)

/-- What the functions that start a device, STA or IBSS role have in common; the flag tells whether
they returned 0. The memory for the command is allocated before the link. -/
def roleStart (r : RoleLink) (newSession : Bool) (wl : Wl1271) (v : VifId) (ret : CmdRet) :
    Bool × Wl1271 :=
  if ret = .noMem then (false, wl)
  else
    match roleStartLink wl v r with
    | (false, wl) => (false, wl)
    | (true, wl) =>
      let wl :=
        if newSession then
          wl.setVif v fun w => { w with sessionCounter := newSessionId w.sessionCounter }
        else wl
      if ret = .ok then (true, wl) else (false, freeRoleLink (cmdEffect wl ret) v r)

/-- `wl12xx_cmd_role_start_dev` (cmd.c:380). -/
def wl12xxCmdRoleStartDev (wl : Wl1271) (v : VifId) (ret : CmdRet) : Bool × Wl1271 :=
  roleStart .dev true wl v ret

/-- `wl12xx_cmd_role_start_sta` (cmd.c:472). -/
def wl12xxCmdRoleStartSta (wl : Wl1271) (v : VifId) (ret : CmdRet) : Bool × Wl1271 :=
  roleStart .sta true wl v ret

/-- `wl12xx_cmd_role_start_ibss` (cmd.c:728), which does not take a new session id. -/
def wl12xxCmdRoleStartIbss (wl : Wl1271) (v : VifId) (ret : CmdRet) : Bool × Wl1271 :=
  roleStart .sta false wl v ret

/-- `wl1271_join` (main.c:2551), as far as the roles go. -/
def wl1271Join (wl : Wl1271) (v : VifId) (ret : CmdRet) : Bool × Wl1271 :=
  let wl := wl.setVif v fun w => { w with encryptionType := .none }
  if (wl.vifs v).bssType = .ibss then wl12xxCmdRoleStartIbss wl v ret
  else wl12xxCmdRoleStartSta wl v ret

/-- `wl12xx_cmd_role_stop_sta` (cmd.c:549), also for IBSS; the flag tells whether it returned 0. Here
the link is given back whatever becomes of the completion event, and a timeout is no
error. -/
def wl12xxCmdRoleStopSta (wl : Wl1271) (v : VifId) (env : RoleStopEnv) : Bool × Wl1271 :=
  if (wl.vifs v).staHlid = none then (false, wl)
  else if env.cmd ≠ .ok then (false, cmdEffect wl env.cmd)
  else
    match env.event with
    | .failed _ => (false, freeRoleLink (wl12xxQueueRecoveryWork wl) v .sta)
    | _ => (true, freeRoleLink wl v .sta)

/-! ## AP roles -/

/-- What the environment decides while an AP is started. -/
structure StartApEnv where
  /-- `wlvif->ssid_len == 0 && !bss_conf->hidden_ssid` -/
  nullSsid : Bool := false
  cmd : CmdRet := .ok

/-- `wl12xx_cmd_role_start_ap` (cmd.c:596); the flag tells whether it returned 0. The fields are
written without a look at what they held before. -/
def wl12xxCmdRoleStartAp (wl : Wl1271) (v : VifId) (env : StartApEnv) : Bool × Wl1271 :=
  if env.nullSsid ∨ env.cmd = .noMem then (false, wl)
  else
    match allocateRoleLink wl v .apGlobal with
    | (false, wl) => (false, wl)
    | (true, wl) =>
      match allocateRoleLink wl v .apBcast with
      | (false, wl) => (false, freeRoleLink wl v .apGlobal)
      | (true, wl) =>
        if env.cmd = .ok then (true, wl)
        else (false, freeRoleLink (freeRoleLink (cmdEffect wl env.cmd) v .apBcast) v .apGlobal)

/-- `wl12xx_cmd_role_stop_ap` (cmd.c:697); the flag tells whether it returned 0. -/
def wl12xxCmdRoleStopAp (wl : Wl1271) (v : VifId) (ret : CmdRet) : Bool × Wl1271 :=
  if ret = .ok then (true, freeRoleLink (freeRoleLink wl v .apBcast) v .apGlobal)
  else (false, cmdEffect wl ret)

/-- The key command for a recorded key; a key without a link is for the broadcast link. -/
def apKeyCmd (w : Wl12xxVif) (k : ApKey) : KeyCmd :=
  { add := true, hlid := k.hlid <|> w.apBcastHlid, keyId := k.id, keyType := k.keyType
    key := targetKeyBytes k.keyType k.key, txSeq32 := k.txSeq32, txSeq16 := k.txSeq16 }

/-- The loop of `wl1271_ap_init_hwenc` (main.c:3011–3030): the recorded keys are sent in order. -/
def apInitHwencLoop (v : VifId) : List ApKey → List CmdRet → Wl1271 → Bool × Wl1271
  | [], _, wl => (true, wl)
  | k :: ks, rets, wl =>
    match sendKeyCmd wl (apKeyCmd (wl.vifs v) k) (rets.headD .ok) with
    | (.error _, wl) => (false, wl)
    | (.ok (), wl) => apInitHwencLoop v ks rets.tail wl

/-- The results of the commands in `wl1271_ap_init_hwenc`. -/
structure HwencEnv where
  keys : List CmdRet := []
  /-- `wl12xx_cmd_set_default_wep_key`, sent after a WEP key -/
  defaultWepKey : CmdRet := .ok

/-- The commands of `wl1271_ap_init_hwenc`. -/
def apInitHwencSend (wl : Wl1271) (v : VifId) (env : HwencEnv) : Bool × Wl1271 :=
  match apInitHwencLoop v (wl.vifs v).recordedApKeys env.keys wl with
  | (false, wl) => (false, wl)
  | (true, wl) =>
    if (wl.vifs v).recordedApKeys.any fun k => decide (k.keyType = .wep) then
      (decide (env.defaultWepKey = .ok), cmdEffect wl env.defaultWepKey)
    else (true, wl)

/-- `wl1271_ap_init_hwenc` (main.c:3005); the flag tells whether it returned 0. The recorded keys
are dropped in any case. -/
def wl1271ApInitHwenc (wl : Wl1271) (v : VifId) (env : HwencEnv) : Bool × Wl1271 :=
  let r := apInitHwencSend wl v env
  (r.1, r.2.setVif v fun w => { w with recordedApKeys := [] })

/-- A call of `wl1271_bss_info_changed_ap`. -/
structure BssInfoAp where
  /-- the commands before the beacon is switched -/
  before : CmdRet := .ok
  /-- `enable_beacon`, if `BSS_CHANGED_BEACON_ENABLED` -/
  enableBeacon : Option Bool := none
  start : StartApEnv := {}
  hwenc : HwencEnv := {}
  stop : CmdRet := .ok
  /-- the commands after the beacon is switched -/
  after : CmdRet := .ok

/-- The AP is started (main.c:3899–3911); the flag tells whether the function goes on. If
`wl1271_ap_init_hwenc` fails, the role is left running without `WLVIF_FLAG_AP_STARTED`. -/
def bssInfoStartAp (wl : Wl1271) (v : VifId) (b : BssInfoAp) : Bool × Wl1271 :=
  if (wl.vifs v).apStarted then (true, wl)
  else
    match wl12xxCmdRoleStartAp wl v b.start with
    | (false, wl) => (false, wl)
    | (true, wl) =>
      match wl1271ApInitHwenc wl v b.hwenc with
      | (false, wl) => (false, wl)
      | (true, wl) => (true, wl.setVif v fun w => { w with apStarted := true })

/-- The AP is stopped (main.c:3912–3923); the flag tells whether the function goes on. -/
def bssInfoStopAp (wl : Wl1271) (v : VifId) (ret : CmdRet) : Bool × Wl1271 :=
  if !(wl.vifs v).apStarted then (true, wl)
  else
    match wl12xxCmdRoleStopAp wl v ret with
    | (false, wl) => (false, wl)
    | (true, wl) => (true, wl.setVif v fun w => { w with apStarted := false })

/-- The beacon is switched on or off, if it changed. -/
def bssInfoBeacon (wl : Wl1271) (v : VifId) (b : BssInfoAp) : Bool × Wl1271 :=
  match b.enableBeacon with
  | none => (true, wl)
  | some true => bssInfoStartAp wl v b
  | some false => bssInfoStopAp wl v b.stop

/-- `wl1271_bss_info_changed_ap` (main.c:3858). -/
def wl1271BssInfoChangedAp (wl : Wl1271) (v : VifId) (b : BssInfoAp) : Wl1271 :=
  if b.before ≠ .ok then cmdEffect wl b.before
  else
    match bssInfoBeacon wl v b with
    | (false, wl) => wl
    | (true, wl) => cmdEffect wl b.after

end TiWlan.Driver
