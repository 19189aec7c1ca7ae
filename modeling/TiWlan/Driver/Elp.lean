import TiWlan.Driver.Wlcore

/-!
# The sleep protocol

`wl1271_elp_work`, `wl1271_ps_elp_sleep` and `wl1271_ps_elp_wakeup` (`wlcore/ps.c`, lines
33–174) on the flags `WL1271_FLAG_ELP_REQUESTED` and `WL1271_FLAG_IN_ELP`, the delayed work
`elp_work` and the completion `elp_compl` of the hard interrupt handler (`wlcore/main.c`, lines
6033–6068).

These functions run under `wl->mutex`, the hard interrupt does not. A wake-up waits for an
interrupt, so it is cut where an interrupt makes a difference (`WakeupPc`). When `elp_work` is
cancelled an execution of it may have begun already and wait for the mutex (`elpWorkRunning`).
`wlcore_op_stop_locked` (lines 1860–1954) gives the mutex away while it cancels the works and is
cut there (`StopPc`).

The uses in PLT mode are left out.
-/

namespace TiWlan.Driver

/-- `enum wl1271_psm_mode`, the values of `wl->sleep_auth`. -/
inductive SleepAuth
  | cam | ps | elp | illegal
  deriving DecidableEq, Repr

/-- The flags of a vif that `elp_work` looks at. -/
structure PsFlags where
  /-- `WLVIF_FLAG_IN_PS` -/
  inPs : Bool := false
  /-- `WLVIF_FLAG_IN_USE` -/
  inUse : Bool := false

/-- How far a call of `wl1271_ps_elp_wakeup` has come. -/
inductive WakeupPc
  /-- there is no call, or it has returned -/
  | idle
  /-- before the completion is registered (ps.c:133) -/
  | register
  /-- before `ELPCTRL_WAKE_UP` is written (ps.c:140); `pending` if the interrupt is there already -/
  | write (pending : Bool)
  /-- waiting for the completion (ps.c:146), unless `pending` -/
  | wait (pending : Bool)
  /-- at `err` (ps.c:166) -/
  | failed
  deriving DecidableEq, Repr

/-- How far a call of `wlcore_op_stop_locked` has come. -/
inductive StopPc
  | idle
  /-- the device is off, the works are being cancelled -/
  | cancelling
  /-- the works are cancelled, the flags not yet cleared -/
  | resetting
  deriving DecidableEq, Repr

/-- The state of the sleep protocol. -/
structure Elp where
  /-- `WL1271_FLAG_ELP_REQUESTED` -/
  elpRequested : Bool
  /-- `WL1271_FLAG_IN_ELP` -/
  inElp : Bool
  sleepAuth : SleepAuth
  /-- `elp_work` waits for its timer or for a worker -/
  elpWorkPending : Bool
  /-- an execution of `elp_work` has begun and waits for the mutex -/
  elpWorkRunning : Bool
  /-- `wl->elp_compl` is set -/
  elpCompl : Bool
  /-- the completion on the stack of the wake-up is completed -/
  complDone : Bool
  ps : VifId → PsFlags
  wakeup : WakeupPc
  stop : StopPc

/-- The device with its sleep protocol. -/
structure ElpDev extends Wlcore, Elp

/-- The values written to `HW_ACCESS_ELP_CTRL_REG`. -/
inductive ElpCtrl
  | sleep | wakeUp
  deriving DecidableEq, Repr

/-- What the outside sees of the protocol: writes to the chip and returns of the wake-up, with
whether it returned 0. -/
inductive ElpOut
  | wrote (value : ElpCtrl)
  | wakeupReturned (ok : Bool)
  deriving DecidableEq, Repr

namespace ElpDev

/-- A freshly probed device. -/
def probe (c : Conf) : ElpDev :=
  { toWlcore := Wlcore.probe c
    elpRequested := false, inElp := false, sleepAuth := .illegal
    elpWorkPending := false, elpWorkRunning := false
    elpCompl := false, complDone := false
    ps := fun _ => {}, wakeup := .idle, stop := .idle }

/-- `wl12xx_queue_recovery_work`. -/
def queueRecovery (d : ElpDev) : ElpDev := { d with toWlcore := d.toWlcore.queueRecovery }

/-- A change of the rest of the driver. -/
def onWl1271 (d : ElpDev) (f : Wl1271 → Wl1271) : ElpDev :=
  { d with toWlcore := d.toWlcore.onDriver f }

/-! ## Going to sleep -/

/-- A vif needs the chip: an AP, or a vif in use that is not in power save (ps.c:57–64, 92–99). -/
def staysAwake (d : ElpDev) : Bool :=
  d.wlvifList.any fun v =>
    decide ((d.vifs v).bssType = .apBss) || (!(d.ps v).inPs && (d.ps v).inUse)

/-- `wl1271_elp_work` (ps.c:33); `writeOk` tells whether the bus write succeeds. -/
def wl1271ElpWork (d : ElpDev) (writeOk : Bool) : Option ElpOut × ElpDev :=
  if d.state ≠ .on then (none, d)
  -- the work may have been cancelled after it began
  else if !d.elpRequested then (none, d)
  else if d.inElp then (none, d)
  else if d.staysAwake then (none, d)
  else if !writeOk then (some (.wrote .sleep), d.queueRecovery)
  else (some (.wrote .sleep), { d with inElp := true })

/-- `wl1271_ps_elp_sleep` (ps.c:80). -/
def wl1271PsElpSleep (d : ElpDev) : ElpDev :=
  if d.sleepAuth ≠ .elp then d
  else if d.elpRequested then d
  else if d.staysAwake then { d with elpRequested := true }
  else { d with elpRequested := true, elpWorkPending := true }

/-- The timer of `elp_work` expires and an execution begins; there is one at a time. -/
def startElpWork (d : ElpDev) : ElpDev :=
  if d.elpWorkPending && !d.elpWorkRunning then
    { d with elpWorkPending := false, elpWorkRunning := true }
  else d

/-- An execution of `elp_work` that has begun gets the mutex. -/
def runElpWork (d : ElpDev) (writeOk : Bool) : Option ElpOut × ElpDev :=
  if d.elpWorkRunning then { d with elpWorkRunning := false }.wl1271ElpWork writeOk else (none, d)

/-! ## Waking up -/

/-- `wl1271_ps_elp_wakeup` (ps.c:106) up to the lock. `cancel_delayed_work` does not stop an
execution that has begun. -/
def wl1271PsElpWakeup (d : ElpDev) : Option ElpOut × ElpDev :=
  if !d.elpRequested then (some (.wakeupReturned true), d)
  else
    let d := { d with elpRequested := false, elpWorkPending := false }
    if !d.inElp then (some (.wakeupReturned true), d)
    else (none, { d with complDone := false, wakeup := .register })

/-- The completion is registered, unless an interrupt is being handled (ps.c:133–138). -/
def wakeupRegister (d : ElpDev) : ElpDev :=
  if d.irqRunning then { d with wakeup := .write true }
  else { d with elpCompl := true, wakeup := .write false }

/-- `ELPCTRL_WAKE_UP` is written (ps.c:140–144). -/
def wakeupWrite (d : ElpDev) (pending writeOk : Bool) : Option ElpOut × ElpDev :=
  (some (.wrote .wakeUp),
    if writeOk then { d with wakeup := .wait pending }
    else { d.queueRecovery with wakeup := .failed })

/-- The wait is over (ps.c:146–164): the completion is there, or the time is up. -/
def wakeupWait (d : ElpDev) (pending : Bool) : Option ElpOut × ElpDev :=
  if pending || d.complDone then
    (some (.wakeupReturned true), { d with inElp := false, wakeup := .idle })
  else (none, { d.queueRecovery with wakeup := .failed })

/-- The next step of the wake-up under way. -/
def wakeupNext (d : ElpDev) (writeOk : Bool) : Option ElpOut × ElpDev :=
  match d.wakeup with
  | .idle => (none, d)
  | .register => (none, d.wakeupRegister)
  | .write pending => d.wakeupWrite pending writeOk
  | .wait pending => d.wakeupWait pending
  | .failed => (some (.wakeupReturned false), { d with elpCompl := false, wakeup := .idle })

/-- `wl12xx_hardirq` (main.c:6033). -/
def wl12xxHardirq (d : ElpDev) : ElpDev :=
  if 0 < d.irqDepth then d
  else
    { d.onWl1271 fun wl => (Driver.wl12xxHardirq wl).2 with
      elpCompl := false, complDone := d.elpCompl || d.complDone }

/-! ## Recovery, stop and boot -/

/-- The end of `wl1271_op_remove_interface` when `wl12xx_need_fw_change` returns true, which it does
not when the device is off. -/
def fwChange (d : ElpDev) : ElpDev :=
  if d.state = .off then d
  else (d.onWl1271 fun wl => { wl with intendedFwRecovery := true }).queueRecovery

/-- `wlcore_op_stop_locked` (main.c:1860) until the mutex is given away. A device that is off
already, or that is just being stopped, has little left to do. -/
def opStop (d : ElpDev) : ElpDev :=
  if d.state = .off then d.onWl1271 wlcoreOpStopLocked
  else { d.onWl1271 opStopOff with stop := .cancelling }

/-- The works are cancelled without the mutex (main.c:1887–1901). `cancel_delayed_work_sync` waits
for an execution of `elp_work` that has begun. -/
def opStopCancel (d : ElpDev) : ElpDev :=
  if d.stop = .cancelling ∧ !d.elpWorkRunning then
    { d.onWl1271 fun wl => wl12xxTxReset (Driver.opStopCancel wl) with
      scanWorkPending := false, elpWorkPending := false, stop := .resetting }
  else d

/-- The flags are cleared with the mutex held again (main.c:1902–1954). -/
def opStopReset (d : ElpDev) : ElpDev :=
  if d.stop = .resetting then
    { d.onWl1271 fun wl => Driver.opStopReset (opStopEnable wl) with
      rolesMap := fun _ => false, rocMap := fun _ => false, fwBaSessions := []
      elpRequested := false, inElp := false, sleepAuth := .illegal, stop := .idle }
  else d

/-- `wl12xx_init_fw` in `wl1271_op_add_interface` (main.c:2268–2316). mac80211 does not start a device
that it is stopping. -/
def boot (d : ElpDev) (attempts : List BootAttempt) (sleepAuth : SleepAuth) : ElpDev :=
  if d.state = .off ∧ !d.recoveryInProgress ∧ d.stop = .idle then
    { d with toWlcore := (d.toWlcore.addInterfaceBoot attempts).2, sleepAuth := sleepAuth }
  else d

/-! ## Interleavings -/

/-- What runs under the mutex from its beginning to its end. -/
inductive LockedAct
  /-- somebody calls `wl1271_ps_elp_wakeup`; it keeps the mutex until it returns -/
  | wakeup
  /-- somebody calls `wl1271_ps_elp_sleep` -/
  | sleep
  | elpWork (writeOk : Bool)
  /-- the interrupt thread clears `WL1271_FLAG_IRQ_RUNNING` (main.c:536) -/
  | irqAck
  /-- `wl1271_acx_sleep_auth` -/
  | sleepAuth (auth : SleepAuth)
  /-- an error queues a recovery -/
  | queueRecovery
  /-- a change of firmware queues a recovery (main.c:2527–2528) -/
  | fwChange
  /-- `wlcore_op_stop_locked`, called by `wlcore_op_stop` or by `wl1271_recovery_work` -/
  | stop
  | stopReset
  /-- the end of `wl1271_recovery_work` -/
  | recoveryOut
  | boot (attempts : List BootAttempt) (sleepAuth : SleepAuth)

/-- What happens next. -/
inductive Act
  | locked (a : LockedAct)
  | wakeupNext (writeOk : Bool)
  | hardirq
  | elpTimer
  | stopCancel
  /-- the rest of the driver may become what it is in `x`, but for the power state -/
  | other (x : Wlcore) (ps : VifId → PsFlags)

def execLocked (d : ElpDev) : LockedAct → Option ElpOut × ElpDev
  | .wakeup => d.wl1271PsElpWakeup
  | .sleep => (none, d.wl1271PsElpSleep)
  | .elpWork writeOk => d.runElpWork writeOk
  | .irqAck => (none, { d with irqRunning := false })
  | .sleepAuth auth => (none, { d with sleepAuth := auth })
  | .queueRecovery => (none, d.queueRecovery)
  | .fwChange => (none, d.fwChange)
  | .stop => (none, d.opStop)
  | .stopReset => (none, d.opStopReset)
  | .recoveryOut => (none, d.onWl1271 recoveryOut)
  | .boot attempts auth => (none, d.boot attempts auth)

/-- The rest of the driver changes. -/
def setOther (d : ElpDev) (x : Wlcore) (ps : VifId → PsFlags) : ElpDev :=
  { d with
    toWlcore := { x with
      irqRunning := d.irqRunning
      state := d.state
      recoveryInProgress := d.recoveryInProgress
      intendedFwRecovery := d.intendedFwRecovery }
    ps := ps }

/-- One step, and what the outside sees of it. While a wake-up is under way nobody else gets the
mutex. -/
def exec (d : ElpDev) : Act → Option ElpOut × ElpDev
  | .locked a => if d.wakeup = .idle then d.execLocked a else (none, d)
  | .wakeupNext writeOk => d.wakeupNext writeOk
  | .hardirq => (none, d.wl12xxHardirq)
  | .elpTimer => (none, d.startElpWork)
  | .stopCancel => (none, d.opStopCancel)
  | .other x ps => (none, d.setOther x ps)

def output (d : ElpDev) (a : Act) : Option ElpOut := (d.exec a).1

def step (d : ElpDev) (a : Act) : ElpDev := (d.exec a).2

end ElpDev

end TiWlan.Driver
