import TiWlan.Driver.Irq

/-!
# Boot, stop, recovery, PLT mode, suspend and resume

Models of `wlcore/main.c`, lines 929–1199 (recovery, PLT mode), 1721–1839 (suspend and
resume), 1860–1966 (`wlcore_op_stop`), 2123–2189 (`wl12xx_init_fw`) and 2249–2363
(`wl1271_op_add_interface`), of `wl12xx_tx_reset` (`wlcore/tx.c`, lines 1030–1083), and of
the interrupt enabling in `wl12xx_boot`, `wl18xx_boot` and `plt_init`.
-/

namespace TiWlan.Driver

open TiWlan.Lib
open Function (update)

/-! ## Probe -/

/-- `wl12xx_alloc_dummy_packet` (main.c:1301): a null data frame of
`TOTAL_TX_DUMMY_PACKET_SIZE` bytes with the descriptor. -/
def wl12xxAllocDummyPacket : Skb :=
  { id := 0, data := 0x48 :: 0x01 :: List.replicate 1518 0, queueMapping := 0, priority := 7 }

/-- The quirks that `wl12xx_identify_chip` and `wl18xx_identify_chip` set, on a bus that
supports block sizes. -/
def identifyChip : Chip → Quirks
  | .wl127x => ⟨false, false, true, false, false⟩
  | .wl128x => ⟨true, false, true, false, false⟩
  | .wl18xx => ⟨true, true, false, false, false⟩

/-- The configuration of a chip: the number of descriptors and the size of the aggregation
buffer (`WL12XX_AGGR_BUFFER_SIZE`, `WL18XX_AGGR_BUFFER_SIZE` with 4 KiB pages). -/
def chipConf : Chip → Conf
  | .wl18xx => ⟨.wl18xx, identifyChip .wl18xx, 32, by decide, 13 * 4096,
      wl12xxAllocDummyPacket, false, false⟩
  | chip => ⟨chip, identifyChip chip, 16, by decide, 4 * 4096,
      wl12xxAllocDummyPacket, false, false⟩

/-- A zeroed `struct wl12xx_vif`, as mac80211 allocates it. -/
def zeroVif : Wl12xxVif :=
  { initialized := false, staAssociated := false, apStarted := false
    bssType := .ibss, dummyP2p := false
    devHlid := some 0, staHlid := some 0, apGlobalHlid := some 0, apBcastHlid := some 0
    staHlidMap := fun _ => false, linksMap := fun _ => false, lastTxHlid := 0
    sessionCounter := 0
    basicRateIdx := 0, apRateIdx := 0, p2pRateIdx := 0
    mgmtRateIdx := 0, bcastRateIdx := 0, ucastRateIdx := fun _ => 0
    defaultKey := 0, encryptionType := .none, recordedApKeys := []
    txSecuritySeq := 0, txSecurityLastSeqLsb := 0 }

/-- The bits that are set in an unused `links_map`: the system link. -/
def systemLinkOnly : Hlid → Bool := fun h => decide (h = systemHlid)

/-- The driver after `wlcore_alloc_hw` (main.c:5838) and `wlcore_probe` (main.c:6070), which
disables the interrupt. -/
def wlcoreProbe (c : Conf) : Wl1271 :=
  { toConf := c
    txQueue := fun _ _ => [], txQueueCount := fun _ => 0, dummyPacketPending := false
    deferredTxQueue := []
    txFramesMap := fun _ => false, txFrames := fun _ => none, txFramesCnt := 0
    accepted := [], returned := [], countWarned := false
    fwTxBusy := false, txBlocksFreed := 0, txBlocksAvailable := 0, txAllocatedBlocks := 0
    txPktsFreed := fun _ => 0, txAllocatedPkts := fun _ => 0
    allocatedPkts := fun _ => 0, prevFreedPkts := fun _ => 0
    txWatchdogPending := false, fwHeld := []
    queueStopReasons := fun _ _ => false, macQueueStopped := fun _ => false
    vifs := fun _ => zeroVif, wlvifList := [], lastWlvif := none
    linksMap := systemLinkOnly, apPsMap := fun _ => false, apFwPsMap := fun _ => false
    activeStaCount := 0
    txPending := false, irqRunning := false, watchdogRecovery := false
    txWorkQueued := false, netstackWorkQueued := false
    state := .off, plt := false, pltMode := .off
    recoveryInProgress := false, intendedFwRecovery := false
    suspended := false, pendingWork := false
    wowEnabled := false, recoveryWorkQueued := false
    irqDepth := 1
    aggrBuf := fun _ => 0, txPacketsCount := 0
    aggrTop := 0, aggrUnderrun := false, aggrFrames := [], busWrites := []
    txResultsCount := 0, lastFwRlsIdx := 0, extraSpareVifCount := 0, fwSpareBlocks := 0
    keyCmds := []
    oops := false }

/-! ## Stop -/

/-- One slot in the loop of `wl12xx_tx_reset`. -/
def txResetSlot (wl : Wl1271) (i : TxId) : Wl1271 :=
  if i.val < wl.numTxDesc then
    match wl.txFrames i with
    | none => wl
    | some skb =>
      let wl := wl1271FreeTxId wl i
      if wl12xxIsDummyPacket wl skb then wl else wl.giveBack [skb]
  else wl

/-- The first half of `wl12xx_tx_reset` (tx.c:1036–1043). -/
def txResetQueues (wl : Wl1271) : Wl1271 :=
  if wl1271TxTotalQueueCount wl ≠ 0 then
    { resetAllLinkQueues wl with txQueueCount := fun _ => 0 }
  else wl

/-- `wl12xx_tx_reset` (tx.c:1030). -/
def wl12xxTxReset (wl : Wl1271) : Wl1271 :=
  (List.finRange 32).foldl txResetSlot (wl1271HandleTxLowWatermark (txResetQueues wl))

/-- Power off and reset of the variables (main.c:1905–1944) at the end of
`wlcore_op_stop_locked`. -/
def opStopReset (wl : Wl1271) : Wl1271 :=
  { wl with
    fwHeld := []
    txBlocksAvailable := 0
    txAllocatedBlocks := 0
    txResultsCount := 0
    txPacketsCount := 0
    apFwPsMap := fun _ => false
    apPsMap := fun _ => false
    linksMap := systemLinkOnly
    activeStaCount := 0
    txBlocksFreed := 0
    txPktsFreed := fun _ => 0
    txAllocatedPkts := fun _ => 0 }.clearFlags

/-- Entering `WLCORE_STATE_OFF` (main.c:1876–1892): the interrupts are disabled, and the
recovery work is cancelled unless it is the caller. -/
def opStopOff (wl : Wl1271) : Wl1271 :=
  { wl with
    toPower := { wl.toPower with
      state := .off
      recoveryWorkQueued := wl.recoveryInProgress && wl.recoveryWorkQueued }.disableInterrupts }

/-- Flushing and cancelling the works (main.c:1887–1901). -/
def opStopCancel (wl : Wl1271) : Wl1271 :=
  { wl1271FlushDeferredWork wl with
    netstackWorkQueued := false
    txWorkQueued := false
    txWatchdogPending := false }

/-- Undo the disable of `wl12xx_queue_recovery_work` (main.c:1906–1912). -/
def opStopEnable (wl : Wl1271) : Wl1271 :=
  if wl.recoveryInProgress then { wl with toPower := wl.toPower.enableInterrupts } else wl

/-- `wlcore_op_stop_locked` (main.c:1860). -/
def wlcoreOpStopLocked (wl : Wl1271) : Wl1271 :=
  if wl.state = .off then
    if wl.recoveryInProgress then
      { wl with toPower := { wl.toPower with recoveryInProgress := false }.enableInterrupts }
    else wl
  else opStopReset (opStopEnable (wl12xxTxReset (opStopCancel (opStopOff wl))))

/-! ## Boot -/

/-- The outcome of one attempt to boot the firmware. -/
inductive BootAttempt
  /-- `wl12xx_chip_wakeup` fails -/
  | wakeupFails
  /-- the chip's `boot` fails, before or after it enabled the interrupts -/
  | bootFails (afterEnable : Bool)
  /-- `hw_init` fails, before or after `wl1271_acx_init_mem_config` -/
  | hwInitFails (mem : Option ℕ)
  /-- the firmware runs and has reported its number of Tx memory blocks -/
  | boots (numTxMemBlocks : ℕ)
  deriving DecidableEq, Repr

/-- `wl18xx_hw_init` (wl18xx/main.c:967); wl12xx has no such state. -/
def hwInitPriv (wl : Wl1271) : Wl1271 :=
  if wl.chip = .wl18xx then
    { wl with lastFwRlsIdx := 0, extraSpareVifCount := 0, fwSpareBlocks := 1 }
  else wl

/-- `wl1271_acx_init_mem_config` (acx.c:1009). -/
def wl1271AcxInitMemConfig (wl : Wl1271) (numTxMemBlocks : ℕ) : Wl1271 :=
  { wl with txBlocksAvailable := numTxMemBlocks }

/-- The interrupts around a failed attempt: they are enabled at most for a while. -/
def Power.failedBoot (p : Power) (afterEnable : Bool) : Power :=
  if afterEnable then p.enableInterrupts.disableInterrupts else p

/-- One attempt in the loop of `wl12xx_init_fw` (main.c:2130–2166). -/
def bootAttempt (wl : Wl1271) : BootAttempt → Bool × Wl1271
  | .wakeupFails => (false, wl)
  | .bootFails afterEnable => (false, { wl with toPower := wl.toPower.failedBoot afterEnable })
  | .hwInitFails mem =>
    let wl := hwInitPriv { wl with toPower := wl.toPower.failedBoot true }
    let wl := wl1271FlushDeferredWork { wl with netstackWorkQueued := false }
    (false, match mem with
      | none => wl
      | some n => wl1271AcxInitMemConfig wl n)
  | .boots n =>
    (true, wl1271AcxInitMemConfig
      (hwInitPriv { wl with toPower := wl.toPower.enableInterrupts }) n)

/-- The loop of `wl12xx_init_fw`. -/
def initFwLoop : List BootAttempt → Wl1271 → Bool × Wl1271
  | [], wl => (false, wl)
  | a :: as, wl =>
    match bootAttempt wl a with
    | (true, wl) => (true, { wl with state := .on })
    | (false, wl) => initFwLoop as wl

/-- `wl12xx_init_fw` (main.c:2123), at most `WL1271_BOOT_RETRIES` attempts. -/
def wl12xxInitFw (wl : Wl1271) (attempts : List BootAttempt) : Bool × Wl1271 :=
  initFwLoop (attempts.take 3) wl

/-- What the environment decides during `wl1271_op_add_interface`. -/
structure AddEnv where
  elpOk : Bool := true
  attempts : List BootAttempt := []
  /-- `wl12xx_cmd_role_enable` and the commands of the vif's initialisation -/
  roleEnable : CmdRet := .ok

/-- Booting the firmware for the first interface (main.c:2301–2316). -/
def addInterfaceBoot (wl : Wl1271) (attempts : List BootAttempt) : Bool × Wl1271 :=
  if wl.state = .off then wl12xxInitFw wl attempts else (true, wl)

/-- Enabling the role of the new interface (main.c:2318–2357), if the firmware runs. -/
def addInterfaceEnable (r : Bool × Wl1271) (v : VifId) (roleEnable : CmdRet) : Wl1271 :=
  if !r.1 then r.2
  else if roleEnable ≠ .ok then cmdEffect r.2 roleEnable
  else
    { r.2.setVif v fun w => { w with initialized := true } with
      wlvifList := v :: r.2.wlvifList }

/-- `wl1271_op_add_interface` (main.c:2249) for a supported interface type. -/
def wl1271OpAddInterface (wl : Wl1271) (v : VifId) (bssType : BssType) (dummyP2p : Bool)
    (env : AddEnv) : Wl1271 :=
  if !env.elpOk then wl12xxQueueRecoveryWork wl
  else if wl.recoveryInProgress || (wl.vifs v).initialized then wl
  else
    addInterfaceEnable
      (addInterfaceBoot (wl12xxInitVifData wl v bssType dummyP2p) env.attempts) v env.roleEnable

/-! ## Recovery -/

/-- `WL1271_TX_SQN_POST_RECOVERY_PADDING`. -/
def txSqnPostRecoveryPadding : ℕ := 0xff

/-- Advance the sequence number of one vif (main.c:962–967). -/
def padSecuritySeq (wl : Wl1271) (v : VifId) : Wl1271 :=
  if (wl.vifs v).staAssociated || (wl.vifs v).apStarted then
    wl.setVif v fun w =>
      { w with txSecuritySeq := u64 (w.txSecuritySeq + txSqnPostRecoveryPadding) }
  else wl

/-- The restart in `wl1271_recovery_work` (main.c:957–985). -/
def recoveryRestart (wl : Wl1271) (env : VifId → RemoveEnv) : Wl1271 :=
  let wl := wl.wlvifList.foldl padSecuritySeq wl
  let wl := wlcoreStopQueues wl .fwRestart
  let wl := wl.wlvifList.foldl (fun wl v => wl1271OpRemoveInterfaceLocked wl v (env v)) wl
  wlcoreWakeQueues (wlcoreOpStopLocked wl) .fwRestart

/-- `out_unlock` of `wl1271_recovery_work`. -/
def recoveryOut (wl : Wl1271) : Wl1271 :=
  { wl with watchdogRecovery := false, recoveryInProgress := false }

/-- `wl1271_recovery_work` (main.c:929); the dump of the firmware log is left out. -/
def wl1271RecoveryWork (wl : Wl1271) (env : VifId → RemoveEnv) : Wl1271 :=
  if wl.state = .off ∨ wl.plt then recoveryOut wl
  else if wl.bugOnRecovery ∧ ¬ wl.intendedFwRecovery then { wl with oops := true }
  else if wl.noRecovery then recoveryOut wl
  else recoveryOut (recoveryRestart wl env)

/-! ## PLT mode -/

/-- One attempt in the loop of `wl1271_plt_start`: `plt_init` of wl12xx reads the memory
map unless it only detects the FEM, `wl18xx_plt_init` just boots. -/
def pltBootAttempt (wl : Wl1271) : BootAttempt → Bool × Wl1271
  | .wakeupFails => (false, wl)
  | .bootFails afterEnable => (false, { wl with toPower := wl.toPower.failedBoot afterEnable })
  | .hwInitFails mem =>
    let wl := { wl with toPower := wl.toPower.failedBoot true }
    (false, match mem with
      | none => wl
      | some n => wl1271AcxInitMemConfig wl n)
  | .boots n =>
    let wl := { wl with toPower := wl.toPower.enableInterrupts }
    (true, if wl.chip = .wl18xx ∨ wl.pltMode = .femDetect then wl
      else wl1271AcxInitMemConfig wl n)

/-- The loop of `wl1271_plt_start`. -/
def pltStartLoop : List BootAttempt → Wl1271 → Wl1271
  | [], wl => { wl with plt := false, pltMode := .off }
  | a :: as, wl =>
    match pltBootAttempt wl a with
    | (true, wl) => { wl with state := .on }
    | (false, wl) => pltStartLoop as wl

/-- `wl1271_plt_start` (main.c:1084). -/
def wl1271PltStart (wl : Wl1271) (mode : PltMode) (attempts : List BootAttempt) : Wl1271 :=
  if wl.state ≠ .off then wl
  else pltStartLoop (attempts.take 3) { wl with plt := true, pltMode := mode }

/-- `wl1271_plt_stop` (main.c:1149). -/
def wl1271PltStop (wl : Wl1271) : Wl1271 :=
  let wl := { wl with toPower := wl.toPower.disableInterrupts }
  if !wl.plt then { wl with toPower := wl.toPower.enableInterrupts }
  else
    { wl1271FlushDeferredWork wl with
      netstackWorkQueued := false
      recoveryWorkQueued := false
      txWatchdogPending := false
      fwHeld := []
      state := .off
      plt := false
      pltMode := .off }.clearFlags

/-! ## Suspend and resume -/

/-- What the environment decides during `wl1271_op_suspend`. -/
structure SuspendEnv where
  polls : List (Bool × TxWorkEnv) := []
  flushTimedOut : Bool := false
  /-- `wl1271_configure_suspend` -/
  configure : CmdRet := .ok
  elpOk : Bool := true
  tx : TxWorkEnv := { iters := [] }

/-- `wl1271_tx_flush` (tx.c:1088) when nothing else runs in between. -/
def wl1271TxFlush (wl : Wl1271) (polls : List (Bool × TxWorkEnv)) (timedOut : Bool) : Wl1271 :=
  if txIdle wl then wl
  else
    txFlushEnd (polls.foldl (fun wl p => txFlushPoll wl p.1 p.2) (txFlushBegin wl)) timedOut

/-- The middle of `wl1271_op_suspend` (main.c:1730–1765): the device is configured for the
suspend, and with the interrupts disabled the suspended state is entered. -/
def suspendEnter (wl : Wl1271) (configure : CmdRet) : Wl1271 :=
  let wl := { wl with wowEnabled := true }
  if configure ≠ .ok then cmdEffect wl configure
  else
    { wl with
      toPower := { wl.toPower.disableInterrupts with suspended := true }.enableInterrupts }

/-- `wl1271_op_suspend` (main.c:1721). -/
def wl1271OpSuspend (wl : Wl1271) (env : SuspendEnv) : Wl1271 :=
  if wl.recoveryInProgress then wl
  else
    let wl := suspendEnter (wl1271TxFlush wl env.polls env.flushTimedOut) env.configure
    -- `flush_work(&wl->tx_work)`
    if env.configure ≠ .ok then wl else runTxWork wl env.elpOk env.tx

/-- What the environment decides during `wl1271_op_resume`. -/
structure ResumeEnv where
  irq : IrqEnv := { iters := [] }
  /-- `wl1271_configure_resume` -/
  configure : CmdRet := .ok

/-- The part of `wl1271_op_resume` that runs the postponed interrupt work (main.c:1806–1820);
the flag tells whether it returned. -/
def resumeIrqWork (wl : Wl1271) (env : IrqEnv) : Bool × Wl1271 :=
  if wl.recoveryInProgress then (true, { wl with toPower := wl.toPower.enableInterrupts })
  else
    match wlcoreIrqLocked wl env with
    | (.running, wl) => (false, wl)
    | (.error, wl) =>
      (true, { wl with toPower := wl.toPower.queueRecoveryWork.enableInterrupts })
    | (.ok, wl) => (true, { wl with toPower := wl.toPower.enableInterrupts })

/-- The beginning of `wl1271_op_resume` (main.c:1786–1800): the flags of the suspend are
cleared. -/
def resumeWake (wl : Wl1271) : Wl1271 := { wl with suspended := false, pendingWork := false }

/-- The end of `wl1271_op_resume` (main.c:1822–1838). -/
def resumeFinish (wl : Wl1271) (pendingRecovery : Bool) (configure : CmdRet) : Wl1271 :=
  if pendingRecovery then { wl with recoveryWorkQueued := true, wowEnabled := false }
  else { cmdEffect wl configure with wowEnabled := false }

/-- `wl1271_op_resume` (main.c:1779); the flag tells whether it returned. -/
def wl1271OpResume (wl : Wl1271) (env : ResumeEnv) : Bool × Wl1271 :=
  let r := if wl.pendingWork then resumeIrqWork (resumeWake wl) env.irq else (true, resumeWake wl)
  if r.1 then (true, resumeFinish r.2 wl.recoveryInProgress env.configure) else r

end TiWlan.Driver
