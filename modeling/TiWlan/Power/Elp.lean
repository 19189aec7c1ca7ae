import TiWlan.Driver.Elp
import TiWlan.Lib.Run
import TiWlan.Power.IrqDepth

/-!
# The chip sleeps only on request

`wl1271_ps_elp_wakeup` returns at once when no sleep was requested, without a look at
`WL1271_FLAG_IN_ELP`. That is right because a device that is on and asleep always has
`WL1271_FLAG_ELP_REQUESTED` set (`ElpInv`), whatever `elp_work`, the hard interrupt, a recovery or a
stop of the driver do in between: a wake-up takes the request back first, and if it fails then
the device is not on any more.

Main result: `elp_protocol`.
-/

namespace TiWlan.Power

open TiWlan.Lib TiWlan.Driver TiWlan.Link

variable {a : ElpDev.Act} {out : ElpOut} (attempts : List BootAttempt) (wl : Wl1271)

/-! ## The invariant -/

/-- The flags in every state that an interleaving reaches. -/
structure ElpInv (d : ElpDev) : Prop where
  requested : d.wakeup = .idle → d.state = .on → d.inElp = true → d.elpRequested = true
  /-- a wake-up takes the request back first -/
  busy : d.wakeup ≠ .idle → d.elpRequested = false
  /-- a wake-up that fails queues a recovery first -/
  failed : d.wakeup = .failed → d.state ≠ .on
  /-- a stop leaves the chip powered off, and not asleep -/
  off : d.state = .off → d.stop = .idle → d.inElp = false ∧ d.intendedFwRecovery = false
  /-- no recovery is under way while the device is on -/
  on : d.state = .on → d.recoveryInProgress = false ∧ d.intendedFwRecovery = false

/-- The fields that the invariant is about are the same. -/
structure ElpSame (d d' : ElpDev) : Prop where
  state : d'.state = d.state
  recovering : d'.recoveryInProgress = d.recoveryInProgress
  intended : d'.intendedFwRecovery = d.intendedFwRecovery
  requested : d'.elpRequested = d.elpRequested
  inElp : d'.inElp = d.inElp
  wakeup : d'.wakeup = d.wakeup
  stop : d'.stop = d.stop

section
variable {d d' : ElpDev}

theorem ElpInv.of_same (h : ElpInv d) (hs : ElpSame d d') : ElpInv d' := by
  obtain ⟨hstate, hrec, hint, hreq, help, hwake, hstop⟩ := hs
  refine ⟨?_, ?_, ?_, ?_, ?_⟩
  · rw [hwake, hstate, help, hreq]
    exact h.requested
  · rw [hwake, hreq]
    exact h.busy
  · rw [hwake, hstate]
    exact h.failed
  · rw [hstate, hstop, help, hint]
    exact h.off
  · rw [hstate, hrec, hint]
    exact h.on

/-! ## Recovery -/

theorem queueRecovery_ne_on (d : ElpDev) : d.queueRecovery.state ≠ .on :=
  d.toPower.queueRecoveryWork_not_on

/-- A recovery is only queued for a device that is on. -/
theorem queueRecovery_off (h : d.queueRecovery.state = .off) :
    d.state = .off ∧ d.queueRecovery = d := by
  by_cases hon : d.state = .on
  · have hstate : d.queueRecovery.state = .restarting := by
      show (d.toPower.queueRecoveryWork).state = .restarting
      unfold Power.queueRecoveryWork
      rw [if_pos hon]
    rw [hstate] at h
    cases h
  · have heq : d.toPower.queueRecoveryWork = d.toPower := by
      unfold Power.queueRecoveryWork
      rw [if_neg hon]
    have hdev : d.queueRecovery = d := by
      show { d with toPower := d.toPower.queueRecoveryWork } = d
      rw [heq]
    exact ⟨by rw [hdev] at h; exact h, hdev⟩

/-- After a recovery was queued nothing is claimed of a device that is on. -/
theorem ElpInv.of_recovery (h : ElpInv d) (hpower : d'.toPower = d.queueRecovery.toPower)
    (hbusy : d'.wakeup ≠ .idle → d'.elpRequested = false) (help : d'.inElp = d.inElp)
    (hstop : d'.stop = .idle → d.stop = .idle) : ElpInv d' := by
  have hne : d'.state ≠ .on := by
    rw [hpower]
    exact queueRecovery_ne_on d
  refine ⟨fun _ hon => absurd hon hne, hbusy, fun _ => hne, fun hs hidle => ?_,
    fun hon => absurd hon hne⟩
  rw [hpower] at hs ⊢
  obtain ⟨hoff, heq⟩ := queueRecovery_off hs
  rw [help, heq]
  exact h.off hoff (hstop hidle)

/-- The power state changes at most by a recovery that is queued. -/
theorem ElpInv.of_mayRecover (h : ElpInv d) (hpower : d.toPower.MayRecover d'.toPower)
    (hreq : d'.elpRequested = d.elpRequested) (help : d'.inElp = d.inElp)
    (hwake : d'.wakeup = d.wakeup) (hstop : d'.stop = .idle → d.stop = .idle) : ElpInv d' := by
  have hbusy : d'.wakeup ≠ .idle → d'.elpRequested = false := by
    rw [hwake, hreq]
    exact h.busy
  rcases hpower with hsame | hrecovery
  · refine ⟨?_, hbusy, ?_, fun hs hidle => ?_, ?_⟩
    · rw [hwake, hsame, help, hreq]
      exact h.requested
    · rw [hwake, hsame]
      exact h.failed
    · rw [hsame] at hs ⊢
      rw [help]
      exact h.off hs (hstop hidle)
    · rw [hsame]
      exact h.on
  · exact h.of_recovery hrecovery hbusy help hstop

theorem ElpInv.queueRecovery (h : ElpInv d) : ElpInv d.queueRecovery :=
  h.of_recovery rfl h.busy rfl id

/-- A wake-up fails. -/
theorem ElpInv.wakeupFails (h : ElpInv d) (hbusy : d.wakeup ≠ .idle) :
    ElpInv { d.queueRecovery with wakeup := .failed } :=
  h.of_recovery rfl (fun _ => h.busy hbusy) rfl id

theorem ElpInv.fwChange (h : ElpInv d) : ElpInv d.fwChange := by
  unfold ElpDev.fwChange
  split
  · exact h
  · rename_i hstate
    have hne := queueRecovery_ne_on (d.onWl1271 fun wl => { wl with intendedFwRecovery := true })
    refine ⟨fun _ hon => absurd hon hne, h.busy, fun _ => hne, fun hs => ?_,
      fun hon => absurd hon hne⟩
    exact absurd (queueRecovery_off hs).1 hstate

/-! ## Going to sleep and waking up -/

theorem ElpInv.elpWork (h : ElpInv d) (writeOk : Bool) : ElpInv (d.runElpWork writeOk).2 := by
  unfold ElpDev.runElpWork
  split
  · have hbegun : ElpInv { d with elpWorkRunning := false } :=
      h.of_same ⟨rfl, rfl, rfl, rfl, rfl, rfl, rfl⟩
    generalize { d with elpWorkRunning := false } = d₁ at hbegun ⊢
    unfold ElpDev.wl1271ElpWork
    split_ifs with hon hreq help hawake hwrite
    · exact hbegun
    · exact hbegun
    · exact hbegun
    · exact hbegun
    · exact hbegun.queueRecovery
    · -- the request is still there
      rw [not_not] at hon
      refine ⟨fun _ _ _ => by simpa using hreq, hbegun.busy, hbegun.failed, fun hs => ?_, hbegun.on⟩
      rw [show d₁.state = .off from hs] at hon
      cases hon
  · exact h

theorem ElpInv.sleep (h : ElpInv d) (hidle : d.wakeup = .idle) : ElpInv d.wl1271PsElpSleep := by
  unfold ElpDev.wl1271PsElpSleep
  split_ifs
  · exact h
  · exact h
  · exact ⟨fun _ _ _ => rfl, fun hbusy => absurd hidle hbusy, h.failed, h.off, h.on⟩
  · exact ⟨fun _ _ _ => rfl, fun hbusy => absurd hidle hbusy, h.failed, h.off, h.on⟩

theorem ElpInv.wakeup (h : ElpInv d) : ElpInv d.wl1271PsElpWakeup.2 := by
  dsimp only [ElpDev.wl1271PsElpWakeup]
  split_ifs with hreq help
  · exact h
  · refine ⟨fun _ _ hin => ?_, fun _ => rfl, h.failed, h.off, h.on⟩
    rw [show d.inElp = true from hin] at help
    cases help
  · exact ⟨fun hidle => (by cases hidle), fun _ => rfl, fun hf => (by cases hf), h.off, h.on⟩

theorem ElpInv.wakeupNext (h : ElpInv d) (writeOk : Bool) : ElpInv (d.wakeupNext writeOk).2 := by
  have hnext (hbusy : d.wakeup ≠ .idle) (pc : WakeupPc) (hidle : pc ≠ .idle) (hfail : pc ≠ .failed)
      (compl : Bool) : ElpInv { d with elpCompl := compl, wakeup := pc } :=
    ⟨fun hp => absurd hp hidle, fun _ => h.busy hbusy, fun hp => absurd hp hfail, h.off, h.on⟩
  unfold ElpDev.wakeupNext
  split
  · exact h
  · rename_i hpc
    have hbusy : d.wakeup ≠ .idle := by simp [hpc]
    dsimp only [ElpDev.wakeupRegister]
    split
    · exact hnext hbusy (.write true) (by simp) (by simp) d.elpCompl
    · exact hnext hbusy (.write false) (by simp) (by simp) true
  · rename_i pending hpc
    have hbusy : d.wakeup ≠ .idle := by simp [hpc]
    dsimp only [ElpDev.wakeupWrite]
    split
    · exact hnext hbusy (.wait pending) (by simp) (by simp) d.elpCompl
    · exact h.wakeupFails hbusy
  · rename_i hpc
    dsimp only [ElpDev.wakeupWait]
    split
    · refine ⟨fun _ _ hin => (by cases hin), fun hbusy => absurd rfl hbusy, fun hf => (by cases hf),
        fun hs hidle => ?_, h.on⟩
      exact ⟨rfl, (h.off hs hidle).2⟩
    · exact h.wakeupFails (by simp [hpc])
  · rename_i hfailed
    exact ⟨fun _ hon => absurd hon (h.failed hfailed), fun hbusy => absurd rfl hbusy,
      fun hf => (by cases hf), h.off, h.on⟩

theorem hardirq_same (d : ElpDev) : ElpSame d d.wl12xxHardirq := by
  unfold ElpDev.wl12xxHardirq
  split
  · exact ⟨rfl, rfl, rfl, rfl, rfl, rfl, rfl⟩
  · have hkeep : (Driver.wl12xxHardirq d.toWl1271).2.state = d.state ∧
        (Driver.wl12xxHardirq d.toWl1271).2.recoveryInProgress = d.recoveryInProgress ∧
        (Driver.wl12xxHardirq d.toWl1271).2.intendedFwRecovery = d.intendedFwRecovery := by
      unfold Driver.wl12xxHardirq
      split_ifs <;> exact ⟨rfl, rfl, rfl⟩
    obtain ⟨hstate, hrec, hint⟩ := hkeep
    exact ⟨hstate, hrec, hint, rfl, rfl, rfl, rfl⟩

theorem startElpWork_same (d : ElpDev) : ElpSame d d.startElpWork := by
  unfold ElpDev.startElpWork
  split <;> exact ⟨rfl, rfl, rfl, rfl, rfl, rfl, rfl⟩

/-! ## Stop and boot -/

theorem ElpInv.opStop (h : ElpInv d) : ElpInv d.opStop := by
  unfold ElpDev.opStop
  split
  · rename_i hoff
    have hkeep : (Driver.wlcoreOpStopLocked d.toWl1271).state = .off ∧
        (Driver.wlcoreOpStopLocked d.toWl1271).intendedFwRecovery = d.intendedFwRecovery := by
      unfold Driver.wlcoreOpStopLocked
      rw [if_pos hoff]
      split <;> exact ⟨hoff, rfl⟩
    have hne : (d.onWl1271 Driver.wlcoreOpStopLocked).state ≠ .on := fun hon => by
      have hstate := hkeep.1.symm.trans hon
      cases hstate
    refine ⟨fun _ hon => absurd hon hne, h.busy, fun _ => hne, fun _ hs => ?_,
      fun hon => absurd hon hne⟩
    have hpre := h.off hoff hs
    exact ⟨hpre.1, hkeep.2.trans hpre.2⟩
  · have hne : WlcoreState.off ≠ .on := by decide
    refine ⟨fun _ hon => absurd hon hne, h.busy, fun _ => hne, fun _ hs => ?_,
      fun hon => absurd hon hne⟩
    cases hs

theorem ElpInv.opStopCancel (h : ElpInv d) : ElpInv d.opStopCancel := by
  unfold ElpDev.opStopCancel
  split
  · have hpower := (wl12xxTxReset_keep (Driver.opStopCancel d.toWl1271)).power
    exact h.of_mayRecover hpower rfl rfl rfl fun hs => (by cases hs)
  · exact h

theorem ElpInv.opStopReset (h : ElpInv d) (hidle : d.wakeup = .idle) : ElpInv d.opStopReset := by
  unfold ElpDev.opStopReset
  split
  · refine ⟨fun _ _ hin => (by cases hin), fun _ => rfl, fun hf => ?_, fun _ _ => ⟨rfl, rfl⟩,
      fun _ => ⟨rfl, rfl⟩⟩
    rw [show d.wakeup = .failed from hf] at hidle
    cases hidle
  · exact h

/-- What an attempt to boot leaves of the flags. -/
theorem initFwLoop_flags :
    (initFwLoop attempts wl).2.recoveryInProgress = wl.recoveryInProgress ∧
      (initFwLoop attempts wl).2.intendedFwRecovery = wl.intendedFwRecovery := by
  rw [initFwLoop_toPower, afterBoot]
  split <;> exact ⟨rfl, rfl⟩

theorem ElpInv.boot (h : ElpInv d) (hidle : d.wakeup = .idle) (attempts : List BootAttempt)
    (auth : SleepAuth) : ElpInv (d.boot attempts auth) := by
  unfold ElpDev.boot
  split
  · rename_i hboot
    obtain ⟨hoff, hrec, hstop⟩ := hboot
    obtain ⟨help, hint⟩ := h.off hoff hstop
    obtain ⟨hrec', hint'⟩ := initFwLoop_flags (attempts.take 3) d.toWl1271
    have hdriver : (d.toWlcore.addInterfaceBoot attempts).2.toWl1271 =
        (initFwLoop (attempts.take 3) d.toWl1271).2 := by
      unfold Wlcore.addInterfaceBoot
      rw [if_pos hoff]
      rfl
    have hflags : (d.toWlcore.addInterfaceBoot attempts).2.recoveryInProgress = false ∧
        (d.toWlcore.addInterfaceBoot attempts).2.intendedFwRecovery = false := by
      rw [hdriver]
      exact ⟨hrec'.trans (by simpa using hrec), hint'.trans hint⟩
    -- what is not asleep when it boots is not asleep afterwards
    refine ⟨fun _ _ hin => ?_, h.busy, fun hf => ?_, fun _ _ => ⟨help, hflags.2⟩, fun _ => hflags⟩
    · rw [help] at hin
      cases hin
    · rw [show d.wakeup = .failed from hf] at hidle
      cases hidle
  · exact h

/-! ## Interleavings -/

theorem ElpInv.execLocked (h : ElpInv d) (hidle : d.wakeup = .idle) (a : ElpDev.LockedAct) :
    ElpInv (d.execLocked a).2 := by
  cases a with
  | wakeup => exact h.wakeup
  | sleep => exact h.sleep hidle
  | elpWork writeOk => exact h.elpWork writeOk
  | irqAck | sleepAuth => exact h.of_same ⟨rfl, rfl, rfl, rfl, rfl, rfl, rfl⟩
  | queueRecovery => exact h.queueRecovery
  | fwChange => exact h.fwChange
  | stop => exact h.opStop
  | stopReset => exact h.opStopReset hidle
  | recoveryOut => exact ⟨h.requested, h.busy, h.failed, h.off, fun hon => ⟨rfl, (h.on hon).2⟩⟩
  | boot attempts auth => exact h.boot hidle attempts auth

theorem ElpInv.step (h : ElpInv d) (a : ElpDev.Act) : ElpInv (d.step a) := by
  cases a with
  | locked a =>
    dsimp only [ElpDev.step, ElpDev.exec]
    split
    · rename_i hidle
      exact h.execLocked hidle a
    · exact h
  | wakeupNext writeOk => exact h.wakeupNext writeOk
  | hardirq => exact h.of_same (hardirq_same d)
  | elpTimer => exact h.of_same (startElpWork_same d)
  | stopCancel => exact h.opStopCancel
  | other x ps => exact h.of_same ⟨rfl, rfl, rfl, rfl, rfl, rfl, rfl⟩

theorem probe_elpInv (c : Conf) : ElpInv (ElpDev.probe c) :=
  ⟨fun _ _ hin => (by cases hin), fun _ => rfl, fun hf => (by cases hf), fun _ _ => ⟨rfl, rfl⟩,
    fun _ => ⟨rfl, rfl⟩⟩

theorem run_elpInv (c : Conf) (acts : List ElpDev.Act) :
    ElpInv (run ElpDev.step (ElpDev.probe c) acts) :=
  run_induction_mem (fun _ a _ h => h.step a) (probe_elpInv c)

/-! ## Awake until the next request -/

/-- Only on request the chip is sent to sleep. -/
theorem requested_of_elpWork {writeOk : Bool} (hout : (d.runElpWork writeOk).1 = some out) :
    d.elpRequested = true ∧ out = .wrote .sleep := by
  dsimp only [ElpDev.runElpWork, ElpDev.wl1271ElpWork] at hout
  split_ifs at hout with hrun hon hreq help hawake hwrite <;>
    exact ⟨by simpa using hreq, (Option.some.inj hout).symm⟩

/-- What is seen of a step under the mutex. -/
theorem execLocked_output {a : ElpDev.LockedAct} (hout : (d.execLocked a).1 = some out) :
    (a = .wakeup ∧ out = .wakeupReturned true) ∨ (d.elpRequested = true ∧ out = .wrote .sleep) := by
  cases a with
  | wakeup =>
    refine Or.inl ⟨rfl, ?_⟩
    dsimp only [ElpDev.execLocked, ElpDev.wl1271PsElpWakeup] at hout
    split_ifs at hout <;> exact (Option.some.inj hout).symm
  | elpWork writeOk => exact Or.inr (requested_of_elpWork hout)
  | sleep | irqAck | sleepAuth | queueRecovery | fwChange | stop | stopReset | recoveryOut | boot =>
    cases hout

theorem requested_of_write (hout : d.output a = some (.wrote .sleep)) : d.elpRequested = true := by
  cases a with
  | locked a =>
    dsimp only [ElpDev.output, ElpDev.exec] at hout
    split_ifs at hout
    rcases execLocked_output hout with ⟨-, hret⟩ | ⟨hreq, -⟩
    · cases hret
    · exact hreq
  | wakeupNext writeOk =>
    dsimp only [ElpDev.output, ElpDev.exec, ElpDev.wakeupNext] at hout
    split at hout
    · cases hout
    · cases hout
    · cases hout
    · dsimp only [ElpDev.wakeupWait] at hout
      split_ifs at hout
      cases hout
    · cases hout
  | hardirq | elpTimer | stopCancel | other => cases hout

/-- A wake-up that returns at once finds the chip awake, by the invariant. -/
theorem ElpInv.awake_of_wakeup (h : ElpInv d) (hidle : d.wakeup = .idle)
    (hret : (d.wl1271PsElpWakeup).1 = some (.wakeupReturned true)) :
    d.wl1271PsElpWakeup.2.elpRequested = false ∧
      (d.wl1271PsElpWakeup.2.state = .on → d.wl1271PsElpWakeup.2.inElp = false) := by
  dsimp only [ElpDev.wl1271PsElpWakeup] at hret ⊢
  split_ifs at hret ⊢ with hreq help
  · have hreq : d.elpRequested = false := by simpa using hreq
    refine ⟨hreq, fun hon => ?_⟩
    by_contra hin
    have hsleep := h.requested hidle hon (by simpa using hin)
    rw [hreq] at hsleep
    cases hsleep
  · exact ⟨rfl, fun _ => by simpa using help⟩

/-- A wake-up that returns 0 has taken the request back, and a chip that is on is awake. -/
theorem ElpInv.awake_of_returned (h : ElpInv d) (hret : d.output a = some (.wakeupReturned true)) :
    (d.step a).elpRequested = false ∧ ((d.step a).state = .on → (d.step a).inElp = false) := by
  cases a with
  | locked a =>
    dsimp only [ElpDev.output, ElpDev.step, ElpDev.exec] at hret ⊢
    split_ifs at hret ⊢ with hidle
    rcases execLocked_output hret with ⟨rfl, -⟩ | ⟨-, hwrote⟩
    · exact h.awake_of_wakeup hidle hret
    · cases hwrote
  | wakeupNext writeOk =>
    dsimp only [ElpDev.output, ElpDev.step, ElpDev.exec, ElpDev.wakeupNext] at hret ⊢
    split at hret
    · cases hret
    · cases hret
    · cases hret
    · rename_i pending hpc
      have hreq := h.busy (by simp [hpc])
      dsimp only [ElpDev.wakeupWait] at hret ⊢
      split_ifs at hret ⊢
      exact ⟨hreq, fun _ => rfl⟩
    · cases hret
  | hardirq | elpTimer | stopCancel | other => cases hret

/-- Only `wl1271_ps_elp_sleep` requests. -/
theorem requested_of_locked {a : ElpDev.LockedAct} (hsleep : a ≠ .sleep)
    (hreq : d.elpRequested = false) : (d.execLocked a).2.elpRequested = false := by
  cases a with
  | wakeup =>
    dsimp only [ElpDev.execLocked, ElpDev.wl1271PsElpWakeup]
    split_ifs
    · exact hreq
    · rfl
    · rfl
  | sleep => exact absurd rfl hsleep
  | elpWork writeOk =>
    dsimp only [ElpDev.execLocked, ElpDev.runElpWork, ElpDev.wl1271ElpWork]
    split_ifs <;> exact hreq
  | fwChange =>
    dsimp only [ElpDev.execLocked, ElpDev.fwChange]
    split_ifs <;> exact hreq
  | stop =>
    dsimp only [ElpDev.execLocked, ElpDev.opStop]
    split_ifs <;> exact hreq
  | stopReset =>
    dsimp only [ElpDev.execLocked, ElpDev.opStopReset]
    split_ifs
    · rfl
    · exact hreq
  | boot attempts auth =>
    dsimp only [ElpDev.execLocked, ElpDev.boot]
    split_ifs <;> exact hreq
  | irqAck | sleepAuth | queueRecovery | recoveryOut => exact hreq

theorem requested_of_step (hsleep : a ≠ .locked .sleep) (hreq : d.elpRequested = false) :
    (d.step a).elpRequested = false := by
  cases a with
  | locked a =>
    dsimp only [ElpDev.step, ElpDev.exec]
    split_ifs
    · exact requested_of_locked (fun heq => hsleep (heq ▸ rfl)) hreq
    · exact hreq
  | wakeupNext writeOk =>
    dsimp only [ElpDev.step, ElpDev.exec, ElpDev.wakeupNext]
    split
    · exact hreq
    · dsimp only [ElpDev.wakeupRegister]
      split_ifs <;> exact hreq
    · dsimp only [ElpDev.wakeupWrite]
      split_ifs <;> exact hreq
    · dsimp only [ElpDev.wakeupWait]
      split_ifs <;> exact hreq
    · exact hreq
  | hardirq => exact (hardirq_same d).requested.trans hreq
  | elpTimer => exact (startElpWork_same d).requested.trans hreq
  | stopCancel =>
    dsimp only [ElpDev.step, ElpDev.exec, ElpDev.opStopCancel]
    split_ifs <;> exact hreq
  | other => exact hreq

end

/-- A device that is on and asleep has a request, unless a wake-up has just taken it back; a
wake-up that returns 0 leaves a device that is on awake; and until the next
`wl1271_ps_elp_sleep` nothing sends the chip to sleep. -/
theorem elp_protocol (c : Conf) (acts : List ElpDev.Act) :
    ((run ElpDev.step (ElpDev.probe c) acts).state = .on →
      (run ElpDev.step (ElpDev.probe c) acts).inElp = true →
      (run ElpDev.step (ElpDev.probe c) acts).elpRequested = true ∨
        (run ElpDev.step (ElpDev.probe c) acts).wakeup ≠ .idle) ∧
    ∀ a, (run ElpDev.step (ElpDev.probe c) acts).output a = some (.wakeupReturned true) →
      (run ElpDev.step (ElpDev.probe c) (acts ++ [a])).state = .on →
      (run ElpDev.step (ElpDev.probe c) (acts ++ [a])).inElp = false ∧
      ∀ later, .locked .sleep ∉ later → ∀ b,
        (run ElpDev.step (ElpDev.probe c) (acts ++ [a] ++ later)).output b ≠
          some (.wrote .sleep) := by
  have h := run_elpInv c acts
  refine ⟨fun hon hin => ?_, fun a hret hon => ?_⟩
  · by_cases hidle : (run ElpDev.step (ElpDev.probe c) acts).wakeup = .idle
    · exact Or.inl (h.requested hidle hon hin)
    · exact Or.inr hidle
  · obtain ⟨hreq, hawake⟩ := h.awake_of_returned hret
    rw [run_append] at hon ⊢
    refine ⟨hawake hon, fun later hlater b hout => ?_⟩
    have hstill : (run ElpDev.step (ElpDev.probe c) (acts ++ [a] ++ later)).elpRequested = false := by
      have hstep (d : ElpDev) (b : ElpDev.Act) (hb : b ∈ later) (hd : d.elpRequested = false) :
          (d.step b).elpRequested = false :=
        requested_of_step (fun heq => hlater (heq ▸ hb)) hd
      rw [run_append, run_append]
      exact run_induction_mem hstep hreq
    rw [requested_of_write hout] at hstill
    cases hstill

/-- The device boots and goes to sleep. -/
def sleepActs : List ElpDev.Act :=
  [.locked (.boot [.boots 10] .elp), .locked .sleep, .elpTimer, .locked (.elpWork true)]

/-- It is woken up, up to the end of the wait for the interrupt. -/
def wakeActs : List ElpDev.Act :=
  sleepActs ++ [.locked .wakeup, .wakeupNext true, .wakeupNext true, .hardirq]

theorem elp_protocol_oneSleep :
    (run ElpDev.step (ElpDev.probe (chipConf .wl128x)) sleepActs).inElp = true ∧
      ((run ElpDev.step (ElpDev.probe (chipConf .wl128x)) sleepActs).elpRequested = true ∨
        (run ElpDev.step (ElpDev.probe (chipConf .wl128x)) sleepActs).wakeup ≠ .idle) ∧
      (run ElpDev.step (ElpDev.probe (chipConf .wl128x)) (wakeActs ++ [.wakeupNext true])).inElp =
        false :=
  ⟨by decide +kernel,
    (elp_protocol (chipConf .wl128x) sleepActs).1 (by decide +kernel) (by decide +kernel),
    ((elp_protocol (chipConf .wl128x) wakeActs).2 (.wakeupNext true) (by decide +kernel)
      (by decide +kernel)).1⟩

end TiWlan.Power
