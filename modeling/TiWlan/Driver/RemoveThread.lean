import TiWlan.Driver.Elp

/-!
# Removing an interface beside the other users of the chip

`wl1271_op_remove_interface` (`wlcore/main.c`, lines 2365–2532) as a thread, beside `elp_work`,
`wl1271_tx_work` (`wlcore/tx.c`, lines 796–815) and the interrupt thread (`wlcore/main.c`, lines
505–667). Each of them holds `wl->mutex` while it uses the chip: it wakes the chip up, sends its
commands and asks for sleep. `__wl1271_op_remove_interface` gives the mutex away at its end and takes
it again, and then `wl12xx_force_active_psm` sends commands if the firmware is to be changed.

A step is what one thread does up to the next point where another one may act or where the
thread waits; the flag of a step tells whether it enters `__wlcore_cmd_send` (`wlcore/cmd.c`,
lines 53–124).
-/

namespace TiWlan.Driver

open Function (update)

/-- How far `wl1271_op_remove_interface` has come. -/
inductive RemovePc
  /-- before it has the mutex (main.c:2507) -/
  | start
  /-- in `wl1271_ps_elp_wakeup` (main.c:2411) -/
  | waking
  /-- before the roles are disabled (main.c:2415) -/
  | roles
  /-- at `deinit` (main.c:2433) -/
  | deinit
  /-- before the sleep authorisation (main.c:2474) -/
  | sleepAuth
  /-- the mutex is given away (main.c:2489) -/
  | window
  /-- in `wl12xx_force_active_psm`, with these vifs to come (main.c:2526) -/
  | psm (vifs : List VifId)
  | done
  deriving DecidableEq, Repr

/-- The removal holds the mutex. -/
def RemovePc.locked : RemovePc → Bool
  | .start | .window | .done => false
  | _ => true

/-- The other threads that use the chip. -/
inductive Client
  | irq | txWork
  deriving DecidableEq, Repr

/-- The one of them that holds the mutex, and how far it has come. -/
inductive ClientPc
  | idle
  /-- in `wl1271_ps_elp_wakeup` -/
  | waking (t : Client)
  /-- awake on a device that is on -/
  | awake (t : Client)
  /-- the device is not on; `wlcore_tx_work_locked` does nothing then (tx.c:696) -/
  | notOn (t : Client)
  deriving DecidableEq, Repr

/-- The device, the removal of one of its vifs and the other threads. -/
structure RemoveSys extends ElpDev where
  /-- the vif that is removed -/
  target : VifId
  /-- what `wl12xx_need_fw_change` will return, unless the device is off -/
  needFwChange : Bool
  remove : RemovePc
  client : ClientPc

/-- The results of the commands of `wl1271_ps_set_mode` in `STATION_POWER_SAVE_MODE`. -/
structure PsModeEnv where
  wakeUpConditions : CmdRet := .ok
  psMode : CmdRet := .ok
  /-- `wl1271_acx_bet_enable`, sent on 2.4 GHz at a low rate only -/
  betEnable : Option CmdRet := none

/-- What the environment decides during the removal. -/
structure RemoveThreadEnv extends RemoveEnv where
  /-- `conn.sta_sleep_auth`, or `WL1271_PSM_ELP` -/
  auth : SleepAuth := .elp
  psm : PsModeEnv := {}

namespace RemoveSys

/-- The removal is about to begin, and the mutex is free. -/
def init (d : ElpDev) (v : VifId) (needFwChange : Bool) : RemoveSys :=
  { toElpDev := d, target := v, needFwChange := needFwChange, remove := .start, client := .idle }

/-- A command of which only the failure matters. -/
def cmd (s : RemoveSys) (ret : CmdRet) : RemoveSys :=
  { s with toElpDev := s.onWl1271 fun wl => cmdEffect wl ret }

/-! ## The removal -/

/-- The roles are disabled (main.c:2415–2429); the flag tells whether that worked. -/
def disableRoles (W : Wlcore) (v : VifId) (env : RemoveEnv) : Bool × Wlcore :=
  let W :=
    if Wlcore.hasKlvTemplate (W.vifs v).bssType ∧ (W.vifs v).devHlid.isSome then
      (W.wl12xxStopDev v env.stopDev).2
    else W
  W.wl12xxCmdRoleDisable v (if (W.vifs v).dummyP2p then .dev else .role) env.roleDisable

/-- The end of a wake-up, or a wait in it. -/
def afterWakeup (out : Option ElpOut) : RemovePc :=
  match out with
  | some (.wakeupReturned true) => .roles
  | some (.wakeupReturned false) => .deinit
  | _ => .waking

/-- `wl12xx_need_fw_change` and what follows it (main.c:2525–2529). -/
def checkFwChange (s : RemoveSys) : RemoveSys :=
  if s.needFwChange ∧ s.state ≠ .off then
    { s with remove := .psm (s.wlvifList.filter fun v => decide ((s.vifs v).bssType = .staBss)) }
  else { s with remove := .done }

/-- The mutex is taken; the scan and the remain-on-channel period of the vif end, and the chip is
woken up unless a recovery is in progress (main.c:2507–2412). -/
def removeStart (s : RemoveSys) : RemoveSys :=
  if s.state = .off ∨ !(s.vifs s.target).initialized then { s with remove := .done }
  else if s.target ∉ s.wlvifList then s.checkFwChange
  else
    let W := s.toWlcore.onDriver fun wl => clearInitialized wl s.target
    let d : ElpDev := { s.toElpDev with toWlcore := (W.removeScan s.target).removeRoc s.target }
    if d.recoveryInProgress then { s with toElpDev := d, remove := .deinit }
    else { s with toElpDev := d.wl1271PsElpWakeup.2, remove := afterWakeup d.wl1271PsElpWakeup.1 }

/-- The roles are disabled, and the chip may sleep again (main.c:2415–2431). -/
def removeRoles (s : RemoveSys) (env : RemoveEnv) : RemoveSys :=
  let r := disableRoles s.toWlcore s.target env
  let d : ElpDev := { s.toElpDev with toWlcore := r.2 }
  { s with toElpDev := if r.1 then d.wl1271PsElpSleep else d, remove := .deinit }

/-- The last AP is gone, and vifs remain. -/
def wantsSleepAuth (s : RemoveSys) : Bool :=
  !(s.recoveryInProgress && !s.intendedFwRecovery) &&
    decide ((s.vifs s.target).bssType = .apBss ∧ s.wlvifList ≠ [] ∧
      ∀ v ∈ s.wlvifList, (s.vifs v).bssType ≠ .apBss)

/-- The sleep authorisation (main.c:2474–2486); then the mutex is given away. -/
def removeSleepAuth (s : RemoveSys) (env : RemoveThreadEnv) : RemoveSys :=
  if s.wantsSleepAuth then
    let s := s.cmd env.sleepAuth
    { s with
      sleepAuth := if env.sleepAuth = .ok then env.auth else s.sleepAuth
      remove := .window }
  else { s with remove := .window }

/-- `wl1271_ps_set_mode` (ps.c:176) for one vif. -/
def psSetMode (s : RemoveSys) (v : VifId) (env : PsModeEnv) : RemoveSys :=
  if env.wakeUpConditions ≠ .ok then s.cmd env.wakeUpConditions
  else if env.psMode ≠ .ok then s.cmd env.psMode
  else
    let s := { s with ps := update s.ps v { s.ps v with inPs := true } }
    match env.betEnable with
    | none => s
    | some ret => s.cmd ret

/-- The next step of the removal; the flag tells whether it sends commands. -/
def removeNext (s : RemoveSys) (env : RemoveThreadEnv) : Bool × RemoveSys :=
  match s.remove with
  | .start => (false, if s.client = .idle then s.removeStart else s)
  | .waking => (false, s)
  | .roles => (true, s.removeRoles env.toRemoveEnv)
  | .deinit =>
    (false, { s with toWlcore := s.toWlcore.removeDeinit s.target, remove := .sleepAuth })
  | .sleepAuth => (s.wantsSleepAuth, s.removeSleepAuth env)
  | .window => (false, if s.client = .idle then s.checkFwChange else s)
  | .psm (v :: vifs) => (true, { s.psSetMode v env.psm with remove := .psm vifs })
  | .psm [] => (false, { s with toElpDev := s.toElpDev.fwChange, remove := .done })
  | .done => (false, s)

/-! ## The other threads -/

/-- Nobody holds the mutex. -/
def mutexFree (s : RemoveSys) : Bool := !s.remove.locked && decide (s.client = .idle)

/-- A client goes on if its wake-up returned 0. -/
def clientAfterWakeup (t : Client) (out : Option ElpOut) (d : ElpDev) : ClientPc :=
  match out with
  | some (.wakeupReturned true) => if d.state = .on then .awake t else .notOn t
  | some (.wakeupReturned false) => .idle
  | _ => .waking t

/-- A client gets the mutex and calls `wl1271_ps_elp_wakeup` (main.c:526, tx.c:802). The interrupt
thread only does so on a device that is on. -/
def enter (s : RemoveSys) (t : Client) : RemoveSys :=
  if !s.mutexFree ∨ (t = .irq ∧ s.state ≠ .on) then s
  else
    let r := s.toElpDev.wl1271PsElpWakeup
    { s with toElpDev := r.2, client := clientAfterWakeup t r.1 r.2 }

/-- The next step of the wake-up under way, for the removal or for a client. -/
def wakeupNext (s : RemoveSys) (writeOk : Bool) : RemoveSys :=
  let r := s.toElpDev.wakeupNext writeOk
  match s.client with
  | .waking t => { s with toElpDev := r.2, client := clientAfterWakeup t r.1 r.2 }
  | _ =>
    if s.remove = .waking then { s with toElpDev := r.2, remove := afterWakeup r.1 } else s

/-- A client is done: it asks for sleep, or queues a recovery after an error. -/
def leave (s : RemoveSys) (ok : Bool) : RemoveSys :=
  match s.client with
  | .awake _ | .notOn _ =>
    { s with
      toElpDev := if ok then s.toElpDev.wl1271PsElpSleep else s.toElpDev.queueRecovery
      client := .idle }
  | _ => s

/-! ## Interleavings -/

/-- What happens next. -/
inductive Act
  | remove (env : RemoveThreadEnv)
  | enter (t : Client)
  | wakeupNext (writeOk : Bool)
  /-- a client that is awake sends a command -/
  | clientCmd (ret : CmdRet)
  /-- the interrupt thread clears `WL1271_FLAG_IRQ_RUNNING` -/
  | irqAck
  | leave (ok : Bool)
  | elpTimer
  | elpWork (writeOk : Bool)
  | hardirq
  /-- the rest of the driver, but for the power state and the vifs, may become what it is in `x` -/
  | other (x : Wlcore)

/-- One step; the flag tells whether it enters `__wlcore_cmd_send`. -/
def exec (s : RemoveSys) : Act → Bool × RemoveSys
  | .remove env => s.removeNext env
  | .enter t => (false, s.enter t)
  | .wakeupNext writeOk => (false, s.wakeupNext writeOk)
  | .clientCmd ret =>
    match s.client with
    | .awake _ => (true, s.cmd ret)
    | _ => (false, s)
  | .irqAck =>
    (false, if s.client = .awake .irq then { s with irqRunning := false } else s)
  | .leave ok => (false, s.leave ok)
  | .elpTimer => (false, { s with toElpDev := s.toElpDev.startElpWork })
  | .elpWork writeOk =>
    (false, if s.mutexFree then { s with toElpDev := (s.toElpDev.runElpWork writeOk).2 } else s)
  | .hardirq => (false, { s with toElpDev := s.toElpDev.wl12xxHardirq })
  | .other x =>
    (false, { s with toElpDev := s.toElpDev.setOther { x with toVifLinks := s.toVifLinks } s.ps })

/-- The step enters `__wlcore_cmd_send`. -/
def entersCmdSend (s : RemoveSys) (a : Act) : Bool := (s.exec a).1

def step (s : RemoveSys) (a : Act) : RemoveSys := (s.exec a).2

end RemoveSys

end TiWlan.Driver
