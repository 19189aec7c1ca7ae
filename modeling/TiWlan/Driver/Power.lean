import TiWlan.Driver.Types

/-!
# The interrupt line and queueing a recovery

`wlcore_enable_interrupts`, `wlcore_disable_interrupts` and its `nosync` variant
(`wlcore/io.c`) on the disable depth of the interrupt line, the hard interrupt
handler, and `wl12xx_queue_recovery_work` (`wlcore/main.c`, lines 786–801).
-/

namespace TiWlan.Driver

/-- `wlcore_disable_interrupts` and `wlcore_disable_interrupts_nosync`. -/
def Power.disableInterrupts (p : Power) : Power := { p with irqDepth := p.irqDepth + 1 }

/-- `wlcore_enable_interrupts`. -/
def Power.enableInterrupts (p : Power) : Power := { p with irqDepth := p.irqDepth - 1 }

/-- `wl12xx_queue_recovery_work` (main.c:786) on the power state. -/
def Power.queueRecoveryWork (p : Power) : Power :=
  if p.state = .on then
    { p with
      state := .restarting
      recoveryInProgress := true
      irqDepth := p.irqDepth + 1
      recoveryWorkQueued := true }
  else p

/-- `wl12xx_queue_recovery_work`. -/
def wl12xxQueueRecoveryWork (wl : Wl1271) : Wl1271 :=
  { wl with toPower := wl.toPower.queueRecoveryWork }

/-- `wl12xx_hardirq` (main.c:6033). The line is masked while the depth is positive; an
interrupt that arrives during suspend is postponed and disables the line. The first
component tells whether the interrupt thread is woken. -/
def wl12xxHardirq (wl : Wl1271) : Bool × Wl1271 :=
  if 0 < wl.irqDepth then (false, wl)
  else if wl.suspended then
    (false, { wl with
      irqRunning := true
      toPower := { wl.toPower with pendingWork := true }.disableInterrupts })
  else (true, { wl with irqRunning := true })

end TiWlan.Driver
