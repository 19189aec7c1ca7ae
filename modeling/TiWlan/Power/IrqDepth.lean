import TiWlan.Lib.Run
import TiWlan.Link.Atoms

/-!
# The disable depth of the interrupt line

Every `disable_irq` of the driver is to be matched by an `enable_irq`, but the two stand in
different functions and are paired through `RECOVERY_IN_PROGRESS` and `PENDING_WORK`:
`wl12xx_queue_recovery_work` disables and `wlcore_op_stop_locked` enables if the first flag
is still set, the hard interrupt handler disables during suspend and `wl1271_op_resume`
enables if the second one is (`wlcore/main.c`, lines 786–801, 929–1199, 1721–1966). Some
exits drop a flag without the matching enable:

* `wl1271_recovery_work` clears `RECOVERY_IN_PROGRESS` at `out_unlock` also when it did not
  stop the device, in PLT mode or with `no_recovery`;
* `wl->flags = 0` in `wlcore_op_stop_locked` and `wl1271_plt_stop` wipes `PENDING_WORK`,
  and in `wl1271_plt_stop` also `RECOVERY_IN_PROGRESS`.

Main results:

* `powerStep_balanced_iff`: from a balanced state an operation leads to a balanced state
  exactly if it takes none of these exits;
* `irqDepth_history`: in every history that takes none of them, the depth is 1 whenever the device
  is off and 0 whenever it is on and not suspended;
* `irqDepth_leaks_without_recovery`: with `no_recovery` one recovery leaves the depth at 2.
-/

namespace TiWlan.Power

open TiWlan.Lib TiWlan.Driver TiWlan.Link

variable {p p' : Driver.Power} {wl : Wl1271} (as : List BootAttempt)

/-! ## Balance -/

/-- The number of disables that are due: one while off, one for a recovery in progress, one
for a postponed interrupt. -/
def disablesDue (p : Driver.Power) : ℤ :=
  (if p.state = .off then 1 else 0) + (if p.recoveryInProgress then 1 else 0) +
    (if p.pendingWork then 1 else 0)

/-- The depth counts exactly the disables that are due, and the flags that say so are
consistent with the power state. -/
structure Balanced (p : Driver.Power) : Prop where
  depth : p.irqDepth = disablesDue p
  recovering : p.recoveryInProgress = true ↔ p.state = .restarting
  pending : p.pendingWork = true → p.suspended = true ∧ p.state ≠ .off

/-- Interrupts are disabled once while the device is off, and delivered while it is on and
not suspended. -/
def DepthOk (p : Driver.Power) : Prop :=
  (p.state = .off → p.irqDepth = 1) ∧ (p.state = .on → p.suspended = false → p.irqDepth = 0)

namespace Balanced

variable {p p' : Driver.Power}

theorem not_recovering (h : Balanced p) (hs : p.state ≠ .restarting) :
    p.recoveryInProgress = false := by
  rw [← Bool.not_eq_true, h.recovering]
  exact hs

theorem not_pending_of_off (h : Balanced p) (hoff : p.state = .off) : p.pendingWork = false := by
  rw [← Bool.not_eq_true]
  exact fun hp => (h.pending hp).2 hoff

theorem not_pending_of_awake (h : Balanced p) (hsusp : p.suspended = false) :
    p.pendingWork = false := by
  rw [← Bool.not_eq_true]
  exact fun hp => absurd (h.pending hp).1 (by simp [hsusp])

theorem depthOk (h : Balanced p) : DepthOk p := by
  constructor
  · intro hoff
    simp [h.depth, disablesDue, hoff, h.not_recovering, h.not_pending_of_off]
  · intro hon hsusp
    simp [h.depth, disablesDue, hon, h.not_recovering, h.not_pending_of_awake hsusp]

theorem queueRecovery (h : Balanced p) : Balanced p.queueRecoveryWork := by
  unfold Driver.Power.queueRecoveryWork
  split_ifs with hon
  · refine ⟨?_, by simp, fun hp => ⟨(h.pending hp).1, by simp⟩⟩
    -- the new disable is the one due for the recovery
    simp [h.depth, disablesDue, hon, h.not_recovering, add_comm]
  · exact h

theorem mayRecover (h : Balanced p) (hp : p.MayRecover p') : Balanced p' := by
  rcases hp with rfl | rfl
  · exact h
  · exact h.queueRecovery

/-- Only the state, the three flags and the depth matter. -/
theorem congr (h : Balanced p) (hs : p'.state = p.state)
    (hr : p'.recoveryInProgress = p.recoveryInProgress) (hw : p'.pendingWork = p.pendingWork)
    (hz : p.suspended = true → p'.suspended = true) (hd : p'.irqDepth = p.irqDepth) :
    Balanced p' := by
  refine ⟨?_, by rw [hr, hs]; exact h.recovering, ?_⟩
  · rw [hd, h.depth]
    simp only [disablesDue, hs, hr, hw]
  · rw [hw, hs]
    exact fun hp => ⟨hz (h.pending hp).1, (h.pending hp).2⟩

/-- The state of a device that is off. -/
theorem off_iff (hoff : p.state = .off) (hr : p.recoveryInProgress = false)
    (hw : p.pendingWork = false) : Balanced p ↔ p.irqDepth = 1 := by
  constructor
  · exact fun h => h.depthOk.1 hoff
  · exact fun h => ⟨by simp [disablesDue, hoff, hr, hw, h], by simp [hr, hoff], by simp [hw]⟩

/-- A successful boot. -/
theorem boot (h : Balanced p) (hoff : p.state = .off) :
    Balanced { p.enableInterrupts with state := .on } := by
  have hrec : p.recoveryInProgress = false := h.not_recovering (by simp [hoff])
  have hpend := h.not_pending_of_off hoff
  have hdepth := h.depthOk.1 hoff
  exact ⟨by simp [disablesDue, Driver.Power.enableInterrupts, hrec, hpend, hdepth],
    by simp [Driver.Power.enableInterrupts, hrec],
    by simp [Driver.Power.enableInterrupts, hpend]⟩

end Balanced

/-! ## Booting -/

/-- A failed attempt leaves the interrupts as they were, whether or not it enabled them. -/
theorem failedBoot_eq (p : Driver.Power) (afterEnable : Bool) : p.failedBoot afterEnable = p := by
  cases afterEnable <;>
    simp [Driver.Power.failedBoot, Driver.Power.enableInterrupts, Driver.Power.disableInterrupts]

theorem hwInitPriv_toPower (wl : Wl1271) : (hwInitPriv wl).toPower = wl.toPower := by
  unfold hwInitPriv
  split_ifs <;> rfl

/-- The power state after an attempt that does or does not boot. -/
def afterBoot (p : Driver.Power) (booted : Bool) : Driver.Power :=
  if booted then { p.enableInterrupts with state := .on } else p

theorem initFwLoop_toPower (wl : Wl1271) :
    (initFwLoop as wl).2.toPower = afterBoot wl.toPower (initFwLoop as wl).1 := by
  induction as generalizing wl with
  | nil => rfl
  | cons a as ih =>
    cases a with
    | wakeupFails => exact ih wl
    | bootFails afterEnable =>
      simp only [initFwLoop, bootAttempt, failedBoot_eq]
      exact ih wl
    | hwInitFails mem =>
      simp only [initFwLoop, bootAttempt, ih]
      congr 1
      cases mem <;> exact (hwInitPriv_toPower _).trans (failedBoot_eq _ true)
    | boots n =>
      show { (hwInitPriv _).toPower with state := WlcoreState.on } = _
      rw [hwInitPriv_toPower]
      rfl

theorem pltStartLoop_toPower (wl : Wl1271) :
    (pltStartLoop as wl).toPower = afterBoot wl.toPower true ∨
      (pltStartLoop as wl).toPower = { wl.toPower with plt := false, pltMode := .off } := by
  induction as generalizing wl with
  | nil => exact Or.inr rfl
  | cons a as ih =>
    cases a with
    | wakeupFails => exact ih wl
    | bootFails afterEnable =>
      simp only [pltStartLoop, pltBootAttempt, failedBoot_eq]
      exact ih wl
    | hwInitFails mem =>
      have hpow : (pltBootAttempt wl (.hwInitFails mem)).2.toPower = wl.toPower := by
        cases mem <;> exact failedBoot_eq _ true
      rw [← hpow]
      exact ih _
    | boots n =>
      left
      simp only [pltStartLoop, pltBootAttempt]
      split_ifs <;> rfl

theorem addInterfaceBoot_balanced (h : Balanced wl.toPower) (attempts : List BootAttempt) :
    Balanced (addInterfaceBoot wl attempts).2.toPower := by
  unfold addInterfaceBoot
  split_ifs with hoff
  · rw [wl12xxInitFw, initFwLoop_toPower, afterBoot]
    split_ifs
    · exact h.boot hoff
    · exact h
  · exact h

theorem addInterfaceEnable_balanced {r : Bool × Wl1271} (h : Balanced r.2.toPower) (v : VifId)
    (roleEnable : CmdRet) : Balanced (addInterfaceEnable r v roleEnable).toPower := by
  unfold addInterfaceEnable
  split
  · exact h
  · split
    · exact h.mayRecover (cmdEffect_keep _ _).power
    · exact h

theorem addInterface_balanced (h : Balanced wl.toPower) (v : VifId) (bssType : BssType)
    (dummyP2p : Bool) (env : AddEnv) :
    Balanced (wl1271OpAddInterface wl v bssType dummyP2p env).toPower := by
  unfold wl1271OpAddInterface
  split_ifs
  · exact h.queueRecovery
  · exact h
  · have hinit : Balanced (wl12xxInitVifData wl v bssType dummyP2p).toPower := h
    exact addInterfaceEnable_balanced (addInterfaceBoot_balanced hinit _) v _

theorem pltStart_balanced (h : Balanced wl.toPower) (mode : PltMode) (attempts : List BootAttempt) :
    Balanced (wl1271PltStart wl mode attempts).toPower := by
  unfold wl1271PltStart
  split_ifs with hoff
  · exact h
  · rw [not_not] at hoff
    have hplt : Balanced { wl.toPower with plt := true, pltMode := mode } :=
      h.congr rfl rfl rfl id rfl
    rcases pltStartLoop_toPower (attempts.take 3) { wl with plt := true, pltMode := mode }
      with heq | heq <;> rw [heq]
    · exact hplt.boot hoff
    · exact hplt.congr rfl rfl rfl id rfl

/-! ## Stopping -/

theorem opStopEnable_toPower (wl : Wl1271) :
    (opStopEnable wl).toPower =
      { wl.toPower with irqDepth := wl.irqDepth - if wl.recoveryInProgress then 1 else 0 } := by
  unfold opStopEnable
  split_ifs
  · rfl
  · simp

theorem opStopReset_toPower (wl : Wl1271) :
    (opStopReset wl).toPower =
      { wl.toPower with
        recoveryInProgress := false, intendedFwRecovery := false
        suspended := false, pendingWork := false } := rfl

/-- The power state at the end of `wlcore_op_stop_locked`. -/
theorem opStop_toPower (hon : wl.state ≠ .off) :
    (wlcoreOpStopLocked wl).toPower =
      { wl.toPower with
        state := .off
        recoveryInProgress := false, intendedFwRecovery := false
        suspended := false, pendingWork := false
        recoveryWorkQueued := wl.recoveryInProgress && wl.recoveryWorkQueued
        irqDepth := wl.irqDepth + 1 - if wl.recoveryInProgress then 1 else 0 } := by
  -- nothing in the reset queues a recovery, since the state is already off
  have hreset : (wl12xxTxReset (opStopCancel (opStopOff wl))).toPower = (opStopOff wl).toPower := by
    refine (wl12xxTxReset_keep (opStopCancel (opStopOff wl))).power.eq_of_not_on ?_
    show WlcoreState.off ≠ .on
    decide
  rw [wlcoreOpStopLocked, if_neg hon, opStopReset_toPower, opStopEnable_toPower, hreset]
  rfl

/-- Stopping a device that is not off is balanced unless an interrupt was postponed. -/
theorem opStop_balanced_iff (h : Balanced wl.toPower) :
    Balanced (wlcoreOpStopLocked wl).toPower ↔ (wl.state = .off ∨ wl.pendingWork = false) := by
  by_cases hoff : wl.state = .off
  · have hrec : wl.recoveryInProgress = false := h.not_recovering (by simp [hoff])
    rw [wlcoreOpStopLocked, if_pos hoff, if_neg (by simp [hrec])]
    simp [h, hoff]
  · rw [opStop_toPower hoff, Balanced.off_iff rfl rfl rfl, h.depth]
    by_cases hrec : wl.recoveryInProgress <;> by_cases hpend : wl.pendingWork <;>
      simp [disablesDue, hoff, hrec, hpend]

/-- Leaving PLT mode is balanced if the device is on and no interrupt was postponed. -/
theorem pltStop_balanced_iff (h : Balanced wl.toPower) :
    Balanced (wl1271PltStop wl).toPower ↔
      (wl.plt = true → wl.state = .on ∧ wl.pendingWork = false) := by
  by_cases hplt : wl.plt
  · have hpow : (wl1271PltStop wl).toPower =
        { wl.toPower with
          state := .off, plt := false, pltMode := .off
          recoveryInProgress := false, intendedFwRecovery := false
          suspended := false, pendingWork := false
          recoveryWorkQueued := false
          irqDepth := wl.irqDepth + 1 } := by
      dsimp only [wl1271PltStop]
      rw [if_neg (by simp [hplt, Driver.Power.disableInterrupts])]
      rfl
    rw [hpow, Balanced.off_iff rfl rfl rfl, h.depth]
    have hrec := h.recovering
    have hoff := h.not_pending_of_off
    cases hs : wl.state <;> by_cases hpend : wl.pendingWork <;>
      simp_all [disablesDue]
  · have hpow : (wl1271PltStop wl).toPower = wl.toPower := by
      dsimp only [wl1271PltStop]
      rw [if_pos (by simp [hplt, Driver.Power.disableInterrupts])]
      simp [Driver.Power.disableInterrupts, Driver.Power.enableInterrupts]
    simp [hpow, h, hplt]

/-! ## Recovery -/

theorem mayRecover_off_iff (h : p.MayRecover p') : p'.state = .off ↔ p.state = .off := by
  rcases h with rfl | rfl
  · rfl
  · unfold Driver.Power.queueRecoveryWork
    split_ifs with hon
    · simp [hon]
    · rfl

theorem mayRecover_pendingWork (h : p.MayRecover p') : p'.pendingWork = p.pendingWork := by
  rcases h with rfl | rfl
  · rfl
  · unfold Driver.Power.queueRecoveryWork
    split_ifs <;> rfl

/-- Clearing `RECOVERY_IN_PROGRESS` is harmless only if it is clear already. -/
theorem recoveryOut_balanced_iff (h : Balanced wl.toPower) :
    Balanced (recoveryOut wl).toPower ↔ wl.recoveryInProgress = false := by
  constructor
  · intro hout
    have hrec : (recoveryOut wl).recoveryInProgress = false := rfl
    have hstate : wl.state ≠ .restarting := by
      intro hs
      exact absurd (hout.recovering.mpr hs) (by simp [hrec])
    exact h.not_recovering hstate
  · exact fun hrec => h.congr rfl hrec.symm rfl id rfl

/-- Up to the stop, the restart stays within the frame of the power state. -/
theorem recoveryRestart_eq (wl : Wl1271) (env : VifId → RemoveEnv) :
    ∃ wl', PowerKeep wl wl' ∧
      (recoveryRestart wl env).toPower = (wlcoreOpStopLocked wl').toPower := by
  refine ⟨_, ?_, rfl⟩
  have hpad : PowerKeep wl (wl.wlvifList.foldl padSecuritySeq wl) := by
    refine PowerKeep.foldl (fun wl v => ?_) _ _
    unfold padSecuritySeq
    split
    · exact .setVif wl v _
    · exact .refl _
  have hstop (wl' : Wl1271) : PowerKeep wl' (wlcoreStopQueues wl' .fwRestart) :=
    .of_parts rfl rfl
  exact (hpad.trans (hstop _)).trans
    (.foldl (fun wl v => wl1271OpRemoveInterfaceLocked_powerKeep wl v (env v)) _ _)

theorem recoveryRestart_balanced_iff (h : Balanced wl.toPower) (hon : wl.state ≠ .off)
    (env : VifId → RemoveEnv) :
    Balanced (recoveryOut (recoveryRestart wl env)).toPower ↔ wl.pendingWork = false := by
  obtain ⟨wl', hkeep, hstop⟩ := recoveryRestart_eq wl env
  have hon' : wl'.state ≠ .off := fun hs => hon ((mayRecover_off_iff hkeep.power).mp hs)
  have hout : (recoveryOut (recoveryRestart wl env)).toPower = (wlcoreOpStopLocked wl').toPower := by
    show { (recoveryRestart wl env).toPower with recoveryInProgress := false } = _
    rw [hstop, opStop_toPower hon']
  rw [hout, opStop_balanced_iff (h.mayRecover hkeep.power), mayRecover_pendingWork hkeep.power]
  simp [hon']

/-! ## Suspend and resume -/

theorem suspendEnter_balanced (h : Balanced wl.toPower) (configure : CmdRet) :
    Balanced (suspendEnter wl configure).toPower := by
  dsimp only [suspendEnter]
  split
  · refine Balanced.mayRecover ?_ (cmdEffect_keep _ _).power
    exact h.congr rfl rfl rfl id rfl
  · refine h.congr rfl rfl rfl (fun _ => rfl) ?_
    simp [Driver.Power.disableInterrupts, Driver.Power.enableInterrupts]

theorem suspend_balanced (h : Balanced wl.toPower) (env : SuspendEnv) :
    Balanced (wl1271OpSuspend wl env).toPower := by
  dsimp only [wl1271OpSuspend]
  split
  · exact h
  have hflush := h.mayRecover (wl1271TxFlush_links (A := .any) wl
    (fun p (_ : p ∈ env.polls) => offers_any p.2) env.flushTimedOut).driver.power.power
  have henter := suspendEnter_balanced hflush env.configure
  split
  · exact henter
  · exact henter.mayRecover (runTxWork_links (A := .any) _ (offers_any _) _).driver.power.power

theorem hardirq_balanced (h : Balanced wl.toPower) : Balanced (wl12xxHardirq wl).2.toPower := by
  unfold wl12xxHardirq
  split_ifs with hmasked hsusp
  · exact h
  · -- the line was enabled, so the device is not off and nothing is postponed yet
    have hdepth := h.depth
    have hoff : wl.state ≠ .off := fun hs => by simp [h.depthOk.1 hs] at hmasked
    have hpend : wl.pendingWork = false := by
      rw [← Bool.not_eq_true]
      intro hp
      simp only [disablesDue, hp, hoff] at hdepth
      split_ifs at hdepth <;> omega
    refine ⟨?_, h.recovering, fun _ => ⟨hsusp, hoff⟩⟩
    simp [Driver.Power.disableInterrupts, disablesDue, hdepth, hpend]
  · exact h

theorem wake_balanced (h : Balanced p) (hpend : p.pendingWork = false) :
    Balanced { p with suspended := false, pendingWork := false } :=
  ⟨by simp [h.depth, disablesDue, hpend], h.recovering, by simp⟩

/-- The enable in `wl1271_op_resume` matches the disable of the postponed interrupt. -/
theorem wake_enable_balanced (h : Balanced p) (hpend : p.pendingWork = true) :
    Balanced { p with suspended := false, pendingWork := false }.enableInterrupts :=
  ⟨by simp [Driver.Power.enableInterrupts, h.depth, disablesDue, hpend], h.recovering,
    by simp [Driver.Power.enableInterrupts]⟩

theorem mayRecover_enable (h : p.MayRecover p') :
    p.enableInterrupts.MayRecover p'.enableInterrupts := by
  rcases h with rfl | rfl
  · exact .refl _
  · right
    unfold Driver.Power.queueRecoveryWork Driver.Power.enableInterrupts
    split_ifs
    · simp only [Driver.Power.mk.injEq, true_and]
      omega
    · rfl

theorem resumeIrqWork_mayRecover (wl : Wl1271) (env : IrqEnv)
    (hdone : (resumeIrqWork wl env).1 = true) :
    wl.toPower.enableInterrupts.MayRecover (resumeIrqWork wl env).2.toPower := by
  have hirq := (wlcoreIrqLocked_keep wl env).power
  unfold resumeIrqWork at hdone ⊢
  split_ifs at hdone ⊢
  · exact .refl _
  · split at hdone <;> rename_i heq <;> rw [heq] at hirq
    · simp at hdone
    · exact mayRecover_enable (hirq.trans (Or.inr rfl))
    · exact mayRecover_enable hirq

theorem resumeFinish_balanced (h : Balanced wl.toPower) (pendingRecovery : Bool)
    (configure : CmdRet) : Balanced (resumeFinish wl pendingRecovery configure).toPower := by
  unfold resumeFinish
  split
  · exact h.congr rfl rfl rfl id rfl
  · exact (h.mayRecover (cmdEffect_keep wl configure).power).congr rfl rfl rfl id rfl

theorem resume_balanced (h : Balanced wl.toPower) (env : ResumeEnv)
    (hdone : (wl1271OpResume wl env).1 = true) : Balanced (wl1271OpResume wl env).2.toPower := by
  dsimp only [wl1271OpResume] at hdone ⊢
  by_cases hpend : wl.pendingWork
  · rw [if_pos hpend] at hdone ⊢
    by_cases hirq : (resumeIrqWork (resumeWake wl) env.irq).1
    · rw [if_pos hirq]
      refine resumeFinish_balanced ?_ _ _
      exact (wake_enable_balanced h hpend).mayRecover (resumeIrqWork_mayRecover _ _ hirq)
    · rw [if_neg hirq] at hdone
      exact absurd hdone hirq
  · rw [if_neg hpend, if_pos rfl]
    exact resumeFinish_balanced (wake_balanced h (by simpa using hpend)) _ _

/-! ## Histories -/

/-- The operations that touch the interrupt line or the flags that pair its disables. -/
inductive PowerOp
  | addInterface (v : VifId) (bssType : BssType) (dummyP2p : Bool) (env : AddEnv)
  | removeInterface (v : VifId) (env : RemoveEnv) (needFwChange : Bool)
  | queueRecovery
  | recoveryWork (env : VifId → RemoveEnv)
  | pltStart (mode : PltMode) (attempts : List BootAttempt)
  | pltStop
  | suspend (env : SuspendEnv)
  | hardirq
  | irqThread (env : IrqEnv)
  | txWork (elpOk : Bool) (env : TxWorkEnv)
  | resume (env : ResumeEnv)
  | opStop

/-- The state after a call, if it returned: an environment whose script ends before the
interrupt handler does describes no call. -/
def ifReturned (wl : Wl1271) (r : Bool × Wl1271) : Wl1271 := if r.1 then r.2 else wl

/-- One operation; `wl12xx_init_fw` runs as part of `wl1271_op_add_interface`. -/
def powerStep (wl : Wl1271) : PowerOp → Wl1271
  | .addInterface v bssType dummyP2p env => wl1271OpAddInterface wl v bssType dummyP2p env
  | .removeInterface v env needFwChange => wl1271OpRemoveInterface wl v env needFwChange
  | .queueRecovery => wl12xxQueueRecoveryWork wl
  | .recoveryWork env => wl1271RecoveryWork wl env
  | .pltStart mode attempts => wl1271PltStart wl mode attempts
  | .pltStop => wl1271PltStop wl
  | .suspend env => wl1271OpSuspend wl env
  | .hardirq => (wl12xxHardirq wl).2
  | .irqThread env => ifReturned wl (wlcoreIrq wl env)
  | .txWork elpOk env => runTxWork wl elpOk env
  | .resume env => ifReturned wl (wl1271OpResume wl env)
  | .opStop => wlcoreOpStopLocked wl

/-- The operation drops no flag whose disable is still due: `wl1271_recovery_work` does not
leave early with a recovery in progress, nothing stops the device while an interrupt is
postponed, and PLT mode is left only while the device is on. -/
def PowerOp.Paired (wl : Wl1271) : PowerOp → Prop
  | .recoveryWork _ =>
    if wl.state = .off ∨ wl.plt then wl.recoveryInProgress = false
    else if wl.bugOnRecovery ∧ ¬ wl.intendedFwRecovery then True
    else if wl.noRecovery then wl.recoveryInProgress = false
    else wl.pendingWork = false
  | .opStop => wl.state = .off ∨ wl.pendingWork = false
  | .pltStop => wl.plt = true → wl.state = .on ∧ wl.pendingWork = false
  | _ => True

theorem recoveryWork_balanced_iff (h : Balanced wl.toPower) (env : VifId → RemoveEnv) :
    Balanced (wl1271RecoveryWork wl env).toPower ↔ (PowerOp.recoveryWork env).Paired wl := by
  unfold wl1271RecoveryWork PowerOp.Paired
  split_ifs with hoff _ _
  · exact recoveryOut_balanced_iff h
  · exact iff_of_true h trivial
  · exact recoveryOut_balanced_iff h
  · rw [not_or] at hoff
    exact recoveryRestart_balanced_iff h hoff.1 env

theorem removeInterface_balanced (h : Balanced wl.toPower) (v : VifId) (env : RemoveEnv)
    (needFwChange : Bool) : Balanced (wl1271OpRemoveInterface wl v env needFwChange).toPower := by
  have hrem := h.mayRecover (wl1271OpRemoveInterfaceLocked_powerKeep wl v env).power
  dsimp only [wl1271OpRemoveInterface]
  split_ifs
  · exact h
  · have hint : Balanced { (wl1271OpRemoveInterfaceLocked wl v env).toPower with
        intendedFwRecovery := true } := hrem.congr rfl rfl rfl id rfl
    exact hint.queueRecovery
  · have hint : Balanced { wl.toPower with intendedFwRecovery := true } :=
      h.congr rfl rfl rfl id rfl
    exact hint.queueRecovery
  · exact hrem
  · exact h

/-- From a balanced state an operation leads to a balanced state exactly if it is paired. -/
theorem powerStep_balanced_iff (h : Balanced wl.toPower) (op : PowerOp) :
    Balanced (powerStep wl op).toPower ↔ op.Paired wl := by
  cases op with
  | recoveryWork env => exact recoveryWork_balanced_iff h env
  | opStop => exact opStop_balanced_iff h
  | pltStop => exact pltStop_balanced_iff h
  | addInterface v b d env => exact iff_of_true (addInterface_balanced h v b d env) trivial
  | removeInterface v env n => exact iff_of_true (removeInterface_balanced h v env n) trivial
  | queueRecovery => exact iff_of_true h.queueRecovery trivial
  | pltStart mode attempts => exact iff_of_true (pltStart_balanced h mode attempts) trivial
  | suspend env => exact iff_of_true (suspend_balanced h env) trivial
  | hardirq => exact iff_of_true (hardirq_balanced h) trivial
  | txWork elpOk env =>
    exact iff_of_true (h.mayRecover (runTxWork_links (A := .any) wl (offers_any env) elpOk).driver.power.power) trivial
  | irqThread env =>
    refine iff_of_true ?_ trivial
    show Balanced (ifReturned wl (wlcoreIrq wl env)).toPower
    unfold ifReturned
    split_ifs
    · exact h.mayRecover (wlcoreIrq_links (A := .any) wl (irqAssumed_any env _)).driver.power.power
    · exact h
  | resume env =>
    refine iff_of_true ?_ trivial
    show Balanced (ifReturned wl (wl1271OpResume wl env)).toPower
    unfold ifReturned
    split_ifs with hdone
    · exact resume_balanced h env hdone
    · exact h

theorem probe_balanced (c : Conf) : Balanced (wlcoreProbe c).toPower :=
  (Balanced.off_iff rfl rfl rfl).mpr rfl

/-- All states of a history are balanced exactly if all its operations are paired. -/
theorem balanced_history_iff (c : Conf) (ops : List PowerOp) :
    (∀ n, Balanced (run powerStep (wlcoreProbe c) (ops.take n)).toPower) ↔
      Along powerStep (fun wl op => op.Paired wl) (wlcoreProbe c) ops := by
  have hstep (wl : Wl1271) (op : PowerOp) (h : Balanced wl.toPower) :
      Balanced (powerStep wl op).toPower ↔ op.Paired wl := powerStep_balanced_iff h op
  exact forall_take_iff_along_of_good hstep (probe_balanced c) ops

/-- In every history whose operations are all paired, the line is disabled once whenever the
device is off, and enabled whenever it is on and not suspended. -/
theorem irqDepth_history (c : Conf) (ops : List PowerOp)
    (h : Along powerStep (fun wl op => op.Paired wl) (wlcoreProbe c) ops) (n : ℕ) :
    DepthOk (run powerStep (wlcoreProbe c) (ops.take n)).toPower :=
  ((balanced_history_iff c ops).mpr h n).depthOk

/-- An interrupt that finds an idle firmware. -/
def idleIrq : IrqEnv :=
  { iters := [{
      status := some ⟨fun _ => 0, fun _ => 0, 0, 100, fun _ => false, fun _ => true⟩
      intr := {} }] }

/-- A history with a failed and a successful boot, a recovery, a postponed interrupt, PLT mode
and two stops. -/
def pairedHistory : List PowerOp :=
  [.addInterface 0 .staBss false { attempts := [.bootFails true, .boots 100] },
   .queueRecovery, .recoveryWork fun _ => {},
   .addInterface 0 .staBss false { attempts := [.boots 100] },
   .suspend {}, .hardirq,
   .resume { irq := idleIrq }, .opStop,
   .pltStart .on [.boots 100], .pltStop]

/-- The flags of that history: every operation is paired, the interrupt does postpone its
work, and in the end the line is disabled once. -/
theorem irqDepth_pairedHistory :
    (run powerStep (wlcoreProbe (chipConf .wl18xx)) (pairedHistory.take 6)).pendingWork = true ∧
      DepthOk (run powerStep (wlcoreProbe (chipConf .wl18xx)) (pairedHistory.take 10)).toPower :=
  ⟨by decide +kernel, irqDepth_history _ _ (by
    refine ⟨trivial, trivial, ?_, trivial, trivial, trivial, trivial, ?_, trivial, ?_, trivial⟩
    all_goals simp only [PowerOp.Paired]; decide +kernel) 10⟩

/-- With `no_recovery` set, a queued recovery is dropped with its flag; the stop that follows
leaves the line disabled twice, so the next boot does not deliver interrupts. -/
theorem irqDepth_leaks_without_recovery :
    let c := { chipConf .wl18xx with noRecovery := true }
    let boot := PowerOp.addInterface 0 .staBss false { attempts := [.boots 100] }
    let ops := [boot, .queueRecovery, .recoveryWork fun _ => {}, .opStop]
    (run powerStep (wlcoreProbe c) ops).state = .off ∧
      (run powerStep (wlcoreProbe c) ops).irqDepth = 2 := by
  decide +kernel

end TiWlan.Power
