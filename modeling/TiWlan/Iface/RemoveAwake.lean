import TiWlan.Driver.RemoveThread
import TiWlan.Iface.Frame
import TiWlan.Lib.Run
import TiWlan.Power.Elp

/-!
# Commands of a removal meet a chip that is awake

`__wlcore_cmd_send` (`wlcore/cmd.c`, lines 53–124) warns when a command is sent while
`WL1271_FLAG_IN_ELP` is set. Each thread wakes the chip up before it sends commands and keeps the
mutex until it is done, so that `elp_work` cannot come in between. The exception is
`wl1271_op_remove_interface` (`wlcore/main.c`, lines 2498–2532): it calls `wl12xx_force_active_psm`
after `__wl1271_op_remove_interface` has asked for sleep and given the mutex away, and does not wake the
chip up again.

Main results:

* `remove_awake`: no command is sent to a sleeping chip if no change of firmware is due, or if
  `elp_work` does not send the chip to sleep in between and no wake-up fails;
* `remove_sends_asleep`: otherwise one may be.
-/

namespace TiWlan.Iface

open TiWlan.Driver TiWlan.Lib TiWlan.Link TiWlan.Power

variable {writeOk : Bool} {t : Client} {d : ElpDev} {listed : Prop} {pc : RemovePc}
  {a : RemoveSys.Act} {v : VifId}

/-! ## The invariant -/

/-- What the removal knows of the chip. -/
def removeKnows (listed : Prop) (needFwChange inElp recovering : Bool) : RemovePc → Prop
  | .start => listed
  | .waking | .done => True
  | .roles => inElp = false
  | .deinit | .sleepAuth => inElp = true → recovering = true
  | .window => needFwChange = true → inElp = false
  | .psm _ => needFwChange = true ∧ inElp = false

/-- What another thread knows of the chip. -/
def clientKnows (state : WlcoreState) (inElp : Bool) : ClientPc → Prop
  | .idle | .waking _ => True
  | .awake _ => inElp = false
  | .notOn _ => state ≠ .on

theorem clientKnows_idle {state : WlcoreState} {inElp : Bool} {pc : ClientPc} (h : pc = .idle) :
    clientKnows state inElp pc := by
  rw [h]
  trivial

theorem ne_waking_of_unlocked (h : pc.locked = false) : pc ≠ .waking := by
  rintro rfl
  cases h

/-- The state of an interleaving. -/
structure RemoveInv (s : RemoveSys) : Prop where
  elp : ElpInv s.toElpDev
  /-- the mutex has one holder -/
  mutex : s.remove.locked = true → s.client = .idle
  /-- a wake-up under way is the holder's -/
  waking : s.wakeup ≠ .idle → s.remove = .waking ∨ ∃ t, s.client = .waking t
  recovering : s.state ≠ .on → s.recoveryInProgress = true
  intended : s.remove ≠ .done → s.intendedFwRecovery = false
  remove : removeKnows (s.target ∈ s.wlvifList) s.needFwChange s.inElp s.recoveryInProgress s.remove
  client : clientKnows s.state s.inElp s.client
  /-- before a change of firmware no wake-up fails -/
  fw : s.needFwChange = true → s.wakeup ≠ .failed ∧ (s.state ≠ .on → s.inElp = false)

/-- The conditions under which a change of firmware is safe: no wake-up fails, and `elp_work` does
not send the chip to sleep while the removal has given the mutex away. -/
def RemoveSafe (s : RemoveSys) : RemoveSys.Act → Prop
  | .elpWork writeOk => s.needFwChange = true → s.remove = .window → s.client = .idle →
      (s.toElpDev.runElpWork writeOk).1 = none
  | .wakeupNext writeOk => s.needFwChange = true →
      (s.toElpDev.wakeupNext writeOk).2.wakeup ≠ .failed
  | _ => True

section
variable {s s' : RemoveSys}

/-- A command meets a chip that is awake. -/
theorem RemoveInv.awake_of_cmd (h : RemoveInv s) (hcmd : s.entersCmdSend a = true) :
    s.inElp = false := by
  cases a with
  | remove env =>
    have hknows := h.remove
    dsimp only [RemoveSys.entersCmdSend, RemoveSys.exec, RemoveSys.removeNext] at hcmd
    split at hcmd <;> rename_i hpc <;> rw [hpc] at hknows
    · cases hcmd
    · cases hcmd
    · exact hknows
    · cases hcmd
    · -- the authorisation is not sent during a recovery that nobody intended
      have hint := h.intended (by simp [hpc])
      have hauth : s.recoveryInProgress = false := by
        have hwants : s.wantsSleepAuth = true := hcmd
        simp only [RemoveSys.wantsSleepAuth, hint, Bool.and_eq_true] at hwants
        simpa using hwants.1
      by_contra hin
      have hrec := hknows (by simpa using hin)
      rw [hauth] at hrec
      cases hrec
    · cases hcmd
    · exact hknows.2
    · cases hcmd
    · cases hcmd
  | clientCmd ret =>
    have hknows := h.client
    dsimp only [RemoveSys.entersCmdSend, RemoveSys.exec] at hcmd
    split at hcmd
    · rename_i hpc
      rw [hpc] at hknows
      exact hknows
    · cases hcmd
  | enter | wakeupNext | irqAck | leave | elpTimer | elpWork | hardirq | other => cases hcmd

/-! ## Frames -/

/-- Nothing changes that the threads look at. -/
theorem RemoveInv.of_same (h : RemoveInv s) (hs : ElpSame s.toElpDev s'.toElpDev)
    (hlist : s'.wlvifList = s.wlvifList) (htarget : s'.target = s.target)
    (hneed : s'.needFwChange = s.needFwChange) (hremove : s'.remove = s.remove)
    (hclient : s'.client = s.client) : RemoveInv s' := by
  refine ⟨h.elp.of_same hs, ?_, ?_, ?_, ?_, ?_, ?_, ?_⟩
  · rw [hremove, hclient]
    exact h.mutex
  · rw [hs.wakeup, hremove, hclient]
    exact h.waking
  · rw [hs.state, hs.recovering]
    exact h.recovering
  · rw [hremove, hs.intended]
    exact h.intended
  · rw [htarget, hlist, hneed, hs.inElp, hs.recovering, hremove]
    exact h.remove
  · rw [hs.state, hs.inElp, hclient]
    exact h.client
  · rw [hneed, hs.wakeup, hs.state, hs.inElp]
    exact h.fw

theorem intended_of_mayRecover {p p' : Driver.Power} (h : p.MayRecover p') :
    p'.intendedFwRecovery = p.intendedFwRecovery := by
  rcases h with rfl | rfl
  · rfl
  · unfold Driver.Power.queueRecoveryWork
    split <;> rfl

theorem recovering_of_mayRecover {p p' : Driver.Power} (h : p.MayRecover p')
    (hp : p.state ≠ .on → p.recoveryInProgress = true) (hne : p'.state ≠ .on) :
    p'.recoveryInProgress = true := by
  rcases h with rfl | rfl
  · exact hp hne
  · unfold Driver.Power.queueRecoveryWork
    split
    · rfl
    · rename_i hoff
      exact hp hoff

/-- A thread that is awake goes on; at most a recovery is queued. -/
theorem RemoveInv.of_mayRecover (h : RemoveInv s) (hpower : s.toPower.MayRecover s'.toPower)
    (hreq : s'.elpRequested = s.elpRequested) (help : s'.inElp = s.inElp)
    (hwake : s'.wakeup = s.wakeup) (hstop : s'.stop = s.stop)
    (hneed : s'.needFwChange = s.needFwChange) (hawake : s.needFwChange = true → s.inElp = false)
    (hmutex : s'.remove.locked = true → s'.client = .idle)
    (hwaking : s'.wakeup ≠ .idle → s'.remove = .waking ∨ ∃ t, s'.client = .waking t)
    (hdone : s'.remove ≠ .done → s.remove ≠ .done)
    (hremove : removeKnows (s'.target ∈ s'.wlvifList) s.needFwChange s.inElp s'.recoveryInProgress
      s'.remove)
    (hclient : clientKnows s'.state s.inElp s'.client) : RemoveInv s' := by
  refine ⟨h.elp.of_mayRecover hpower hreq help hwake (fun hs => hstop ▸ hs), hmutex, hwaking,
    recovering_of_mayRecover hpower h.recovering, fun hne => ?_, ?_, ?_, fun hfw => ?_⟩
  · rw [intended_of_mayRecover hpower]
    exact h.intended (hdone hne)
  · rw [hneed, help]
    exact hremove
  · rw [help]
    exact hclient
  · rw [hneed] at hfw
    rw [hwake, help]
    exact ⟨(h.fw hfw).1, fun _ => hawake hfw⟩

/-- Nobody who is not the holder looks at the recovery. -/
theorem removeKnows_of_unlocked {need inElp rec rec' : Bool} (hpc : pc.locked = false)
    (h : removeKnows listed need inElp rec pc) : removeKnows listed need inElp rec' pc := by
  cases pc with
  | start | window | done => exact h
  | waking | roles | deinit | sleepAuth | psm => cases hpc

/-- A thread that holds the mutex is the only one. -/
theorem RemoveInv.unlocked (h : RemoveInv s) (hclient : s.client ≠ .idle) :
    s.remove.locked = false := by
  cases hl : s.remove.locked with
  | false => rfl
  | true => exact absurd (h.mutex hl) hclient

/-- Without a thread in `wl1271_ps_elp_wakeup` there is no wake-up. -/
theorem RemoveInv.wakeup_idle (h : RemoveInv s) (hremove : s.remove ≠ .waking)
    (hclient : ∀ t, s.client ≠ .waking t) : s.wakeup = .idle := by
  by_contra hbusy
  rcases h.waking hbusy with hw | ⟨t, ht⟩
  · exact hremove hw
  · exact hclient t ht

/-- The removal holds the mutex and is not in `wl1271_ps_elp_wakeup`. -/
theorem RemoveInv.holds_mutex (h : RemoveInv s) (hpc : s.remove = pc) (hlocked : pc.locked = true)
    (hne : pc ≠ .waking) : s.client = .idle ∧ s.wakeup = .idle ∧
      removeKnows (s.target ∈ s.wlvifList) s.needFwChange s.inElp s.recoveryInProgress pc := by
  subst hpc
  have hclient := h.mutex hlocked
  exact ⟨hclient, h.wakeup_idle hne fun t => by simp [hclient], h.remove⟩

theorem cmd_power (s : RemoveSys) (ret : CmdRet) : s.toPower.MayRecover (s.cmd ret).toPower :=
  (LinkReach.cmdEffect (A := .any) s.toWl1271 ret).driver.power.power

/-! ## The other threads -/

/-- A client that is awake, or that found the device not on, changes at most the power state. -/
theorem RemoveInv.of_client (h : RemoveInv s) (hpower : s.toPower.MayRecover s'.toPower)
    (hreq : s'.elpRequested = s.elpRequested) (help : s'.inElp = s.inElp)
    (hwake : s'.wakeup = s.wakeup) (hstop : s'.stop = s.stop) (hlist : s'.wlvifList = s.wlvifList)
    (htarget : s'.target = s.target) (hneed : s'.needFwChange = s.needFwChange)
    (hremove : s'.remove = s.remove) (hpc : s.client = .awake t ∨ s.client = .notOn t)
    (hpc' : s'.client = s.client ∨ s'.client = .idle) : RemoveInv s' := by
  have hclient := h.client
  have hbusy : s.client ≠ .idle := by rcases hpc with hpc | hpc <;> simp [hpc]
  have hidle : s.wakeup = .idle := by
    refine h.wakeup_idle (ne_waking_of_unlocked (h.unlocked hbusy)) fun u => ?_
    rcases hpc with hpc | hpc <;> simp [hpc]
  have hawake : s.needFwChange = true → s.inElp = false := by
    intro hfw
    rcases hpc with hpc | hpc <;> rw [hpc] at hclient
    · exact hclient
    · exact (h.fw hfw).2 hclient
  refine h.of_mayRecover hpower hreq help hwake hstop hneed hawake (fun hl => ?_) (fun hw => ?_)
    (fun hne => hremove ▸ hne) ?_ ?_
  · rw [hremove, h.unlocked hbusy] at hl
    cases hl
  · rw [hwake, hidle] at hw
    exact absurd rfl hw
  · rw [htarget, hlist, hremove]
    exact removeKnows_of_unlocked (h.unlocked hbusy) h.remove
  · rcases hpc' with hpc' | hpc' <;> rw [hpc']
    · rcases hpc with hpc | hpc <;> rw [hpc] at hclient ⊢
      · exact hclient
      · exact fun hon => hclient (hpower.on_of_on hon)
    · trivial

theorem RemoveInv.clientCmd (h : RemoveInv s) (ret : CmdRet) :
    RemoveInv (s.step (.clientCmd ret)) := by
  dsimp only [RemoveSys.step, RemoveSys.exec]
  split
  · rename_i t hpc
    have hlist := (LinkReach.cmdEffect (A := .any) s.toWl1271 ret).driver.list
    exact h.of_client (cmd_power s ret) rfl rfl rfl rfl hlist rfl rfl rfl (Or.inl hpc) (Or.inl rfl)
  · exact h

theorem sleep_keep (d : ElpDev) : d.wl1271PsElpSleep.toWlcore = d.toWlcore ∧
    d.wl1271PsElpSleep.inElp = d.inElp ∧ d.wl1271PsElpSleep.wakeup = d.wakeup := by
  unfold ElpDev.wl1271PsElpSleep
  split_ifs <;> exact ⟨rfl, rfl, rfl⟩

/-- A call of the holder of the mutex into `ps.c` keeps what no thread keeps track of. -/
structure DevKeep (s : RemoveSys) (d : ElpDev) : Prop where
  elp : ElpInv d
  power : s.toPower.MayRecover d.toPower
  list : d.wlvifList = s.wlvifList
  fw : s.needFwChange = true → d.wakeup ≠ .failed ∧ (d.state ≠ .on → d.inElp = false)

theorem RemoveInv.of_dev (h : RemoveInv s) (hdev : DevKeep s s'.toElpDev)
    (hneed : s'.needFwChange = s.needFwChange)
    (hmutex : s'.remove.locked = true → s'.client = .idle)
    (hwaking : s'.wakeup ≠ .idle → s'.remove = .waking ∨ ∃ t, s'.client = .waking t)
    (hdone : s.remove ≠ .done ∨ s'.remove = s.remove)
    (hremove : removeKnows (s'.target ∈ s.wlvifList) s.needFwChange s'.inElp s'.recoveryInProgress
      s'.remove)
    (hclient : clientKnows s'.state s'.inElp s'.client) : RemoveInv s' := by
  refine ⟨hdev.elp, hmutex, hwaking, recovering_of_mayRecover hdev.power h.recovering,
    fun hne => ?_, ?_, hclient, fun hfw => hdev.fw (hneed ▸ hfw)⟩
  · rw [intended_of_mayRecover hdev.power]
    refine h.intended ?_
    rcases hdone with hdone | hsame
    · exact hdone
    · exact hsame ▸ hne
  · rw [hneed, hdev.list]
    exact hremove

/-- The holder of the mutex asks for sleep. -/
theorem RemoveInv.sleep (h : RemoveInv s) (hidle : s.wakeup = .idle) :
    RemoveInv { s with toElpDev := s.toElpDev.wl1271PsElpSleep } := by
  obtain ⟨hcore, help, hwake⟩ := sleep_keep s.toElpDev
  have hpower : s.toElpDev.wl1271PsElpSleep.toPower = s.toPower := by rw [hcore]
  refine h.of_dev ⟨h.elp.sleep hidle, Or.inl hpower, by rw [hcore], ?_⟩ rfl h.mutex
    (fun hw => absurd (hwake.trans hidle) hw) (Or.inr rfl) ?_ ?_
  · rw [hpower, help, hwake]
    exact h.fw
  · dsimp only
    rw [hpower, help]
    exact h.remove
  · dsimp only
    rw [hpower, help]
    exact h.client

theorem RemoveInv.leave (h : RemoveInv s) (ok : Bool) : RemoveInv (s.leave ok) := by
  have hleft (t : Client) (hpc : s.client = .awake t ∨ s.client = .notOn t) :
      RemoveInv { s with
        toElpDev := if ok then s.toElpDev.wl1271PsElpSleep else s.toElpDev.queueRecovery
        client := .idle } := by
    cases ok with
    | true =>
      have hidle : RemoveInv { s with client := .idle } :=
        h.of_client (.refl _) rfl rfl rfl rfl rfl rfl rfl rfl hpc (Or.inr rfl)
      have hbusy : s.client ≠ .idle := by rcases hpc with hpc | hpc <;> simp [hpc]
      refine hidle.sleep (h.wakeup_idle (ne_waking_of_unlocked (h.unlocked hbusy)) fun u => ?_)
      rcases hpc with hpc | hpc <;> simp [hpc]
    | false =>
      exact h.of_client (Or.inr rfl) rfl rfl rfl rfl rfl rfl rfl rfl hpc (Or.inr rfl)
  unfold RemoveSys.leave
  split
  · rename_i t hpc
    exact hleft t (Or.inl hpc)
  · rename_i t hpc
    exact hleft t (Or.inr hpc)
  · exact h

/-- What a call of `wl1271_ps_elp_wakeup` changes until it returns or waits. -/
theorem wakeup_keep (d : ElpDev) : d.wl1271PsElpWakeup.2.toWlcore = d.toWlcore ∧
    d.wl1271PsElpWakeup.2.inElp = d.inElp ∧
    ((d.wl1271PsElpWakeup.1 = some (.wakeupReturned true) ∧
        d.wl1271PsElpWakeup.2.wakeup = d.wakeup) ∨
      (d.wl1271PsElpWakeup.1 = none ∧ d.wl1271PsElpWakeup.2.wakeup = .register)) := by
  dsimp only [ElpDev.wl1271PsElpWakeup]
  split_ifs
  · exact ⟨rfl, rfl, Or.inl ⟨rfl, rfl⟩⟩
  · exact ⟨rfl, rfl, Or.inl ⟨rfl, rfl⟩⟩
  · exact ⟨rfl, rfl, Or.inr ⟨rfl, rfl⟩⟩

/-- The holder of the mutex calls `wl1271_ps_elp_wakeup`. -/
theorem RemoveInv.devWakeup (h : RemoveInv s) (hidle : s.wakeup = .idle) :
    DevKeep s s.toElpDev.wl1271PsElpWakeup.2 := by
  obtain ⟨hcore, help, hpc⟩ := wakeup_keep s.toElpDev
  refine ⟨h.elp.wakeup, Or.inl (by rw [hcore]), by rw [hcore], fun hfw => ⟨?_, ?_⟩⟩
  · rcases hpc with ⟨-, hw⟩ | ⟨-, hw⟩
    · rw [hw, hidle]
      exact fun heq => by cases heq
    · rw [hw]
      exact fun heq => by cases heq
  · rw [hcore, help]
    exact (h.fw hfw).2

theorem RemoveInv.enter (h : RemoveInv s) (t : Client) : RemoveInv (s.enter t) := by
  dsimp only [RemoveSys.enter]
  split
  · exact h
  · rename_i hfree
    rw [not_or] at hfree
    have hunlocked : s.remove.locked = false ∧ s.client = .idle := by
      simpa [RemoveSys.mutexFree] using hfree.1
    have hidle := h.wakeup_idle (ne_waking_of_unlocked hunlocked.1) fun u => by simp [hunlocked.2]
    obtain ⟨hcore, help, hpc⟩ := wakeup_keep s.toElpDev
    refine h.of_dev (h.devWakeup hidle) rfl (fun hl => ?_) (fun hw => Or.inr ⟨t, ?_⟩) (Or.inr rfl)
      ?_ ?_
    · rw [show (s.remove).locked = true from hl] at hunlocked
      exact absurd hunlocked.1 (by decide)
    · rcases hpc with ⟨-, hwake⟩ | ⟨hout, -⟩
      · exact absurd (hwake.trans hidle) hw
      · show RemoveSys.clientAfterWakeup t _ _ = _
        rw [hout]
        rfl
    · dsimp only
      rw [hcore, help]
      exact h.remove
    · show clientKnows _ _ (RemoveSys.clientAfterWakeup t _ _)
      rcases hpc with ⟨hout, -⟩ | ⟨hout, -⟩
      · rw [hout]
        dsimp only [RemoveSys.clientAfterWakeup]
        split
        · exact (h.elp.awake_of_wakeup hidle hout).2 ‹_›
        · assumption
      · rw [hout]
        trivial

/-- A step of a wake-up: it goes on, or it returns. -/
theorem wakeupNext_cases (hbusy : d.wakeup ≠ .idle) (writeOk : Bool) :
    (((d.wakeupNext writeOk).1 = none ∨ (d.wakeupNext writeOk).1 = some (.wrote .wakeUp)) ∧
        (d.wakeupNext writeOk).2.wakeup ≠ .idle ∧ (d.wakeupNext writeOk).2.inElp = d.inElp ∧
        d.toPower.MayRecover (d.wakeupNext writeOk).2.toPower ∧
        ((d.wakeupNext writeOk).2.wakeup ≠ .failed →
          (d.wakeupNext writeOk).2.toPower = d.toPower)) ∨
      ((d.wakeupNext writeOk).1 = some (.wakeupReturned true) ∧
        (d.wakeupNext writeOk).2.toPower = d.toPower ∧ (d.wakeupNext writeOk).2.inElp = false ∧
        (d.wakeupNext writeOk).2.wakeup = .idle) ∨
      ((d.wakeupNext writeOk).1 = some (.wakeupReturned false) ∧
        (d.wakeupNext writeOk).2.toPower = d.toPower ∧ (d.wakeupNext writeOk).2.inElp = d.inElp ∧
        (d.wakeupNext writeOk).2.wakeup = .idle ∧ d.wakeup = .failed) := by
  unfold ElpDev.wakeupNext
  split
  · contradiction
  · refine Or.inl ⟨Or.inl rfl, ?_⟩
    dsimp only [ElpDev.wakeupRegister]
    split
    · exact ⟨by simp, rfl, .refl _, fun _ => rfl⟩
    · exact ⟨by simp, rfl, .refl _, fun _ => rfl⟩
  · refine Or.inl ⟨Or.inr rfl, ?_⟩
    dsimp only [ElpDev.wakeupWrite]
    split
    · exact ⟨by simp, rfl, .refl _, fun _ => rfl⟩
    · exact ⟨by simp, rfl, Or.inr rfl, fun hne => absurd rfl hne⟩
  · dsimp only [ElpDev.wakeupWait]
    split
    · exact Or.inr (Or.inl ⟨rfl, rfl, rfl, rfl⟩)
    · exact Or.inl ⟨Or.inl rfl, by simp, rfl, Or.inr rfl, fun hne => absurd rfl hne⟩
  · rename_i hfailed
    exact Or.inr (Or.inr ⟨rfl, rfl, rfl, rfl, hfailed⟩)

theorem wakeupNext_list (d : ElpDev) (writeOk : Bool) :
    (d.wakeupNext writeOk).2.wlvifList = d.wlvifList := by
  unfold ElpDev.wakeupNext
  split
  · rfl
  · dsimp only [ElpDev.wakeupRegister]
    split <;> rfl
  · dsimp only [ElpDev.wakeupWrite]
    split <;> rfl
  · dsimp only [ElpDev.wakeupWait]
    split <;> rfl
  · rfl

/-- The wake-up of the holder of the mutex goes on. -/
theorem RemoveInv.devWakeupNext (h : RemoveInv s) (hbusy : s.wakeup ≠ .idle)
    (hsafe : RemoveSafe s (.wakeupNext writeOk)) :
    DevKeep s (s.toElpDev.wakeupNext writeOk).2 := by
  refine ⟨h.elp.wakeupNext writeOk, ?_, wakeupNext_list .., fun hfw => ⟨hsafe hfw, ?_⟩⟩
  · obtain ⟨-, -, -, hp, -⟩ | ⟨-, hp, -⟩ | ⟨-, hp, -⟩ := wakeupNext_cases hbusy writeOk
    · exact hp
    · exact Or.inl hp
    · exact Or.inl hp
  · obtain ⟨-, -, hin, -, hp⟩ | ⟨-, -, hin, -⟩ | ⟨-, -, -, -, hf⟩ := wakeupNext_cases hbusy writeOk
    · rw [hp (hsafe hfw), hin]
      exact (h.fw hfw).2
    · exact fun _ => hin
    · exact absurd hf (h.fw hfw).1

/-- A chip that is found awake contradicts nobody. -/
theorem removeKnows_of_awake {need inElp rec rec' : Bool} (hpc : pc.locked = false)
    (h : removeKnows listed need inElp rec pc) : removeKnows listed need false rec' pc := by
  cases pc with
  | start | done => exact h
  | window => exact fun _ => rfl
  | waking | roles | deinit | sleepAuth | psm => cases hpc

theorem RemoveInv.wakeupNext_client (h : RemoveInv s) (hsafe : RemoveSafe s (.wakeupNext writeOk))
    (hbusy : s.wakeup ≠ .idle) (hpc : s.client = .waking t) :
    RemoveInv { s with
      toElpDev := (s.toElpDev.wakeupNext writeOk).2
      client := RemoveSys.clientAfterWakeup t (s.toElpDev.wakeupNext writeOk).1
        (s.toElpDev.wakeupNext writeOk).2 } := by
  have hunlocked := h.unlocked (by simp [hpc])
  refine h.of_dev (h.devWakeupNext hbusy hsafe) rfl (fun hl => ?_) (fun hw => Or.inr ⟨t, ?_⟩)
    (Or.inr rfl) ?_ ?_
  · rw [show s.remove.locked = true from hl] at hunlocked
    cases hunlocked
  · obtain ⟨hout, -⟩ | ⟨-, -, -, hidle⟩ | ⟨-, -, -, hidle, -⟩ := wakeupNext_cases hbusy writeOk
    · show RemoveSys.clientAfterWakeup t _ _ = _
      rcases hout with hout | hout <;> rw [hout] <;> rfl
    · exact absurd hidle hw
    · exact absurd hidle hw
  · show removeKnows _ _ (s.toElpDev.wakeupNext writeOk).2.inElp _ s.remove
    obtain ⟨-, -, hin, -⟩ | ⟨-, -, hin, -⟩ | ⟨-, -, hin, -⟩ := wakeupNext_cases hbusy writeOk
    · rw [hin]
      exact removeKnows_of_unlocked hunlocked h.remove
    · rw [hin]
      exact removeKnows_of_awake hunlocked h.remove
    · rw [hin]
      exact removeKnows_of_unlocked hunlocked h.remove
  · show clientKnows _ _ (RemoveSys.clientAfterWakeup t _ _)
    obtain ⟨hout, -⟩ | ⟨hout, -, hin, -⟩ | ⟨hout, -⟩ := wakeupNext_cases hbusy writeOk
    · rcases hout with hout | hout <;> rw [hout] <;> trivial
    · rw [hout]
      dsimp only [RemoveSys.clientAfterWakeup]
      split
      · exact hin
      · assumption
    · rw [hout]
      trivial

theorem RemoveInv.wakeupNext_remove (h : RemoveInv s) (hsafe : RemoveSafe s (.wakeupNext writeOk))
    (hbusy : s.wakeup ≠ .idle) (hpc : s.remove = .waking) :
    RemoveInv { s with
      toElpDev := (s.toElpDev.wakeupNext writeOk).2
      remove := RemoveSys.afterWakeup (s.toElpDev.wakeupNext writeOk).1 } := by
  have hclient : s.client = .idle := h.mutex (by rw [hpc]; rfl)
  refine h.of_dev (h.devWakeupNext hbusy hsafe) rfl (fun _ => hclient) (fun hw => Or.inl ?_)
    (Or.inl (by simp [hpc])) ?_ ?_
  · obtain ⟨hout, -⟩ | ⟨-, -, -, hidle⟩ | ⟨-, -, -, hidle, -⟩ := wakeupNext_cases hbusy writeOk
    · show RemoveSys.afterWakeup _ = _
      rcases hout with hout | hout <;> rw [hout] <;> rfl
    · exact absurd hidle hw
    · exact absurd hidle hw
  · show removeKnows _ _ (s.toElpDev.wakeupNext writeOk).2.inElp _ (RemoveSys.afterWakeup _)
    obtain ⟨hout, -⟩ | ⟨hout, -, hin, -⟩ | ⟨hout, hpower, -, -, hfailed⟩ :=
      wakeupNext_cases hbusy writeOk
    · rcases hout with hout | hout <;> rw [hout] <;> trivial
    · rw [hout]
      exact hin
    · -- a wake-up that failed has queued a recovery
      rw [hout]
      intro _
      show (s.toElpDev.wakeupNext writeOk).2.recoveryInProgress = true
      rw [hpower]
      exact h.recovering (h.elp.failed hfailed)
  · exact clientKnows_idle hclient

theorem RemoveInv.wakeupNext (h : RemoveInv s) (hsafe : RemoveSafe s (.wakeupNext writeOk)) :
    RemoveInv (s.wakeupNext writeOk) := by
  by_cases hidle : s.wakeup = .idle
  · have hnone : s.toElpDev.wakeupNext writeOk = (none, s.toElpDev) := by
      unfold ElpDev.wakeupNext
      rw [hidle]
    dsimp only [RemoveSys.wakeupNext]
    rw [hnone]
    split
    · rename_i t hpc
      exact h.of_same ⟨rfl, rfl, rfl, rfl, rfl, rfl, rfl⟩ rfl rfl rfl rfl hpc.symm
    · split
      · rename_i hpc
        exact h.of_same ⟨rfl, rfl, rfl, rfl, rfl, rfl, rfl⟩ rfl rfl rfl hpc.symm rfl
      · exact h
  · dsimp only [RemoveSys.wakeupNext]
    split
    · rename_i t hpc
      exact h.wakeupNext_client hsafe hidle hpc
    · split
      · rename_i hpc
        exact h.wakeupNext_remove hsafe hidle hpc
      · exact h

/-! ## `elp_work` -/

/-- An execution of `elp_work` does nothing, or it fails to write, or the chip sleeps. -/
theorem runElpWork_cases (d : ElpDev) (writeOk : Bool) :
    ((d.runElpWork writeOk).1 = none ∧ (d.runElpWork writeOk).2.toWlcore = d.toWlcore ∧
        ElpSame d (d.runElpWork writeOk).2) ∨
      ((d.runElpWork writeOk).1 = some (.wrote .sleep) ∧ d.state = .on ∧ d.inElp = false ∧
        ((d.runElpWork writeOk).2 = { d.queueRecovery with elpWorkRunning := false } ∨
          (d.runElpWork writeOk).2 = { d with elpWorkRunning := false, inElp := true })) := by
  have hsame (d' : ElpDev) (hd : d' = d ∨ d' = { d with elpWorkRunning := false }) :
      d'.toWlcore = d.toWlcore ∧ ElpSame d d' := by
    rcases hd with rfl | rfl
    · exact ⟨rfl, rfl, rfl, rfl, rfl, rfl, rfl, rfl⟩
    · exact ⟨rfl, rfl, rfl, rfl, rfl, rfl, rfl, rfl⟩
  dsimp only [ElpDev.runElpWork, ElpDev.wl1271ElpWork]
  split_ifs with hrun hon hreq help hawake hwrite
  · exact Or.inl ⟨rfl, hsame _ (Or.inr rfl)⟩
  · exact Or.inl ⟨rfl, hsame _ (Or.inr rfl)⟩
  · exact Or.inl ⟨rfl, hsame _ (Or.inr rfl)⟩
  · exact Or.inl ⟨rfl, hsame _ (Or.inr rfl)⟩
  · exact Or.inr ⟨rfl, not_not.mp hon, by simpa using help, Or.inl rfl⟩
  · exact Or.inr ⟨rfl, not_not.mp hon, by simpa using help, Or.inr rfl⟩
  · exact Or.inl ⟨rfl, hsame _ (Or.inl rfl)⟩

theorem RemoveInv.elpWork (h : RemoveInv s) (hsafe : RemoveSafe s (.elpWork writeOk)) :
    RemoveInv (s.step (.elpWork writeOk)) := by
  dsimp only [RemoveSys.step, RemoveSys.exec]
  split
  · rename_i hfree
    have hunlocked : s.remove.locked = false ∧ s.client = .idle := by
      simpa [RemoveSys.mutexFree] using hfree
    have hmutex (hl : s.remove.locked = true) : s.client = .idle := hunlocked.2
    have help := h.elp.elpWork writeOk
    obtain ⟨-, hcore, hsame⟩ | ⟨hwrote, hon, hin, hdev | hdev⟩ :=
      runElpWork_cases s.toElpDev writeOk
    · exact h.of_same hsame (by rw [hcore]) rfl rfl rfl rfl
    · rw [hdev]
      exact h.of_mayRecover (Or.inr rfl) rfl rfl rfl rfl rfl (fun _ => hin) hmutex h.waking id
        (removeKnows_of_unlocked hunlocked.1 h.remove) (clientKnows_idle hunlocked.2)
    · rw [hdev] at help ⊢
      refine ⟨help, hmutex, h.waking, h.recovering, h.intended, ?_, clientKnows_idle hunlocked.2,
        fun hfw => ?_⟩
      · -- only the removal that gave the mutex away would mind
        have hknows := h.remove
        show removeKnows _ _ true _ s.remove
        cases hpc : s.remove with
        | start =>
          rw [hpc] at hknows
          exact hknows
        | window =>
          intro hfw
          rw [hsafe hfw hpc hunlocked.2] at hwrote
          cases hwrote
        | done => trivial
        | waking | roles | deinit | sleepAuth | psm =>
          rw [hpc] at hunlocked
          cases hunlocked.1
      · exact ⟨(h.fw hfw).1, fun hne => absurd hon hne⟩
  · exact h

/-! ## The removal -/

theorem RemoveInv.checkFwChange (h : RemoveInv s) (hclient : s.client = .idle)
    (hidle : s.wakeup = .idle) (hdone : s.remove ≠ .done)
    (hawake : s.needFwChange = true → s.inElp = false) : RemoveInv s.checkFwChange := by
  unfold RemoveSys.checkFwChange
  have hbusy {pc : RemovePc} (hw : s.wakeup ≠ .idle) : pc = .waking ∨ ∃ t, s.client = .waking t :=
    absurd hidle hw
  split
  · rename_i hfw
    exact ⟨h.elp, fun _ => hclient, hbusy, h.recovering, fun _ => h.intended hdone,
      ⟨hfw.1, hawake hfw.1⟩, h.client, h.fw⟩
  · exact ⟨h.elp, fun hl => (by cases hl), hbusy, h.recovering, fun hne => absurd rfl hne, trivial,
      h.client, h.fw⟩

/-- The scan and the remain-on-channel period of the vif end. -/
theorem removeBegin_same (W : Wlcore) (v : VifId) :
    (((W.onDriver fun wl => clearInitialized wl v).removeScan v).removeRoc v).toPower = W.toPower ∧
      (((W.onDriver fun wl => clearInitialized wl v).removeScan v).removeRoc v).wlvifList =
        W.wlvifList := by
  obtain ⟨wl₁, hwl₁, heq⟩ := removeStart_eq W v
  rw [heq]
  rcases hwl₁ with rfl | rfl <;> exact ⟨rfl, rfl⟩

theorem RemoveInv.removeStart (h : RemoveInv s) (hpc : s.remove = .start)
    (hclient : s.client = .idle) : RemoveInv s.removeStart := by
  have hidle : s.wakeup = .idle := h.wakeup_idle (by simp [hpc]) fun t => by simp [hclient]
  have hlisted : s.target ∈ s.wlvifList := by
    have hknows := h.remove
    rw [hpc] at hknows
    exact hknows
  dsimp only [RemoveSys.removeStart]
  split
  · exact ⟨h.elp, fun hl => (by cases hl), fun hw => absurd hidle hw, h.recovering,
      fun hne => absurd rfl hne, trivial, h.client, h.fw⟩
  · obtain ⟨hpower, hlist⟩ := removeBegin_same s.toWlcore s.target
    generalize (((s.toWlcore.onDriver fun wl => clearInitialized wl s.target).removeScan
      s.target).removeRoc s.target) = W at hpower hlist ⊢
    have h₁ : RemoveInv { s with toWlcore := W } :=
      h.of_same ⟨congrArg Power.state hpower, congrArg Power.recoveryInProgress hpower,
        congrArg Power.intendedFwRecovery hpower, rfl, rfl, rfl, rfl⟩ hlist rfl rfl rfl rfl
    split
    · rename_i hrec
      exact ⟨h₁.elp, fun _ => hclient, fun hw => absurd hidle hw, h₁.recovering,
        fun _ => h₁.intended (by simp [hpc]), fun _ => hrec, h₁.client, h₁.fw⟩
    · rename_i hrec
      obtain ⟨hcore, -, hout⟩ := wakeup_keep { s.toElpDev with toWlcore := W }
      refine h₁.of_dev (h₁.devWakeup hidle) rfl (fun _ => hclient) (fun hw => Or.inl ?_)
        (Or.inl (by simp [hpc])) ?_ (clientKnows_idle hclient)
      · rcases hout with ⟨-, hwake⟩ | ⟨hout, -⟩
        · exact absurd (hwake.trans hidle) hw
        · show RemoveSys.afterWakeup _ = _
          rw [hout]
          rfl
      · show removeKnows _ _ _ _ (RemoveSys.afterWakeup _)
        rcases hout with ⟨hout, -⟩ | ⟨hout, -⟩
        · rw [hout]
          -- no recovery is in progress, so the device is on
          have hon : W.state = .on := by
            by_contra hne
            exact hrec (h₁.recovering hne)
          exact (h₁.elp.awake_of_wakeup hidle hout).2 (by rwa [hcore])
        · rw [hout]
          trivial

/-- Before the firmware is changed a removal that has come to `deinit` has left the chip awake. -/
theorem RemoveInv.awake_of_deinit (h : RemoveInv s)
    (hknows : s.inElp = true → s.recoveryInProgress = true) (hfw : s.needFwChange = true) :
    s.inElp = false := by
  by_contra hin
  rw [Bool.not_eq_false] at hin
  have hne : s.state ≠ .on := fun hon => by
    have hrec := (h.elp.on hon).1
    rw [hknows hin] at hrec
    cases hrec
  rw [(h.fw hfw).2 hne] at hin
  cases hin

theorem disableRoles_keep (W : Wlcore) (v : VifId) (env : RemoveEnv) :
    DriverKeep W.toWl1271 (RemoveSys.disableRoles W v env).2.toWl1271 := by
  have hdev : IfaceKeep .any W
      (if Wlcore.hasKlvTemplate (W.vifs v).bssType ∧ (W.vifs v).devHlid.isSome then
        (W.wl12xxStopDev v env.stopDev).2 else W) := by
    split
    · exact wl12xxStopDev_keep W v trivial (offers_any _)
    · exact .refl _
  exact (hdev.trans (wl12xxCmdRoleDisable_keep _ v _ _)).driver

theorem RemoveInv.removeRoles (h : RemoveInv s) (hpc : s.remove = .roles) (env : RemoveEnv) :
    RemoveInv (s.removeRoles env) := by
  obtain ⟨hclient, hidle, hknows⟩ := h.holds_mutex hpc rfl (by simp)
  have hdisabled : RemoveInv { s with
      toWlcore := (RemoveSys.disableRoles s.toWlcore s.target env).2, remove := .deinit } := by
    have hpower := (disableRoles_keep s.toWlcore s.target env).power.power
    refine h.of_mayRecover hpower rfl rfl rfl rfl rfl (fun _ => hknows) (fun _ => hclient)
      (fun hw => absurd hidle hw) (fun _ => by simp [hpc]) (fun hin => ?_) ?_
    · rw [show s.inElp = false from hknows] at hin
      cases hin
    · exact clientKnows_idle hclient
  dsimp only [RemoveSys.removeRoles]
  split
  · exact hdisabled.sleep hidle
  · exact hdisabled

theorem RemoveInv.deinit (h : RemoveInv s) (hpc : s.remove = .deinit) :
    RemoveInv { s with toWlcore := s.toWlcore.removeDeinit s.target, remove := .sleepAuth } := by
  obtain ⟨hclient, hidle, hknows⟩ := h.holds_mutex hpc rfl (by simp)
  have hpower := (removeDeinit_removed s.toWlcore s.target).power.power
  refine h.of_mayRecover hpower rfl rfl rfl rfl rfl (h.awake_of_deinit hknows) (fun _ => hclient)
    (fun hw => absurd hidle hw) (fun _ => by simp [hpc]) (fun hin => ?_) ?_
  · exact hpower.recoveryInProgress (hknows hin)
  · exact clientKnows_idle hclient

theorem RemoveInv.sleepAuth (h : RemoveInv s) (hpc : s.remove = .sleepAuth)
    (env : RemoveThreadEnv) : RemoveInv (s.removeSleepAuth env) := by
  obtain ⟨hclient, hidle, hknows⟩ := h.holds_mutex hpc rfl (by simp)
  have hawake := h.awake_of_deinit hknows
  have hnext {s' : RemoveSys} (hpower : s.toPower.MayRecover s'.toPower)
      (hreq : s'.elpRequested = s.elpRequested) (help : s'.inElp = s.inElp)
      (hwake : s'.wakeup = s.wakeup) (hstop : s'.stop = s.stop)
      (hneed : s'.needFwChange = s.needFwChange) (hpc' : s'.remove = .window)
      (hclient' : s'.client = s.client) : RemoveInv s' := by
    refine h.of_mayRecover hpower hreq help hwake hstop hneed hawake
      (fun _ => hclient'.trans hclient)
      (fun hw => absurd (hwake.trans hidle) hw) (fun _ => by simp [hpc]) ?_ ?_
    · rw [hpc']
      exact hawake
    · exact clientKnows_idle (hclient'.trans hclient)
  dsimp only [RemoveSys.removeSleepAuth]
  split
  · exact hnext (cmd_power s env.sleepAuth) rfl rfl rfl rfl rfl rfl rfl
  · exact hnext (.refl _) rfl rfl rfl rfl rfl rfl rfl

theorem psSetMode_keep (s : RemoveSys) (v : VifId) (env : PsModeEnv) :
    s.toPower.MayRecover (s.psSetMode v env).toPower ∧
      (s.psSetMode v env).toElp = { s.toElp with ps := (s.psSetMode v env).ps } ∧
      (s.psSetMode v env).needFwChange = s.needFwChange ∧
      (s.psSetMode v env).client = s.client := by
  dsimp only [RemoveSys.psSetMode]
  split_ifs
  · exact ⟨cmd_power s _, rfl, rfl, rfl⟩
  · exact ⟨cmd_power s _, rfl, rfl, rfl⟩
  · split
    · exact ⟨.refl _, rfl, rfl, rfl⟩
    · exact ⟨cmd_power s _, rfl, rfl, rfl⟩

theorem RemoveInv.psm (h : RemoveInv s) {vifs : List VifId} (hpc : s.remove = .psm (v :: vifs))
    (env : PsModeEnv) : RemoveInv { s.psSetMode v env with remove := .psm vifs } := by
  obtain ⟨hclient, hidle, hknows⟩ := h.holds_mutex hpc rfl (by simp)
  obtain ⟨hpower, help, hneed, hclient'⟩ := psSetMode_keep s v env
  have hreq : (s.psSetMode v env).elpRequested = s.elpRequested := by rw [help]
  have hin : (s.psSetMode v env).inElp = s.inElp := by rw [help]
  have hwake : (s.psSetMode v env).wakeup = s.wakeup := by rw [help]
  have hstop : (s.psSetMode v env).stop = s.stop := by rw [help]
  refine h.of_mayRecover hpower hreq hin hwake hstop hneed (fun _ => hknows.2)
    (fun _ => hclient'.trans hclient) (fun hw => absurd (hwake.trans hidle) hw)
    (fun _ => by simp [hpc]) hknows (clientKnows_idle (hclient'.trans hclient))

/-- The recovery for the new firmware is queued. -/
theorem RemoveInv.fwChange (h : RemoveInv s) (hpc : s.remove = .psm []) :
    RemoveInv { s with toElpDev := s.toElpDev.fwChange, remove := .done } := by
  obtain ⟨hclient, hidle, hknows⟩ := h.holds_mutex hpc rfl (by simp)
  have hsame : s.toElpDev.fwChange.toElp = s.toElp := by
    unfold ElpDev.fwChange
    split <;> rfl
  have hwake : s.toElpDev.fwChange.wakeup = .idle := (congrArg Elp.wakeup hsame).trans hidle
  have hin : s.toElpDev.fwChange.inElp = false := (congrArg Elp.inElp hsame).trans hknows.2
  refine ⟨h.elp.fwChange, fun hl => (by cases hl), fun hw => absurd hwake hw, ?_,
    fun hne => absurd rfl hne, trivial, ?_, fun _ => ⟨?_, fun _ => hin⟩⟩
  · show s.toElpDev.fwChange.state ≠ .on → s.toElpDev.fwChange.recoveryInProgress = true
    unfold ElpDev.fwChange
    split
    · exact h.recovering
    · exact recovering_of_mayRecover (p := { s.toPower with intendedFwRecovery := true })
        (Or.inr rfl) h.recovering
  · exact clientKnows_idle hclient
  · show s.toElpDev.fwChange.wakeup ≠ .failed
    rw [hwake]
    exact fun hf => by cases hf

theorem RemoveInv.removeNext (h : RemoveInv s) (env : RemoveThreadEnv) :
    RemoveInv (s.removeNext env).2 := by
  have hknows := h.remove
  unfold RemoveSys.removeNext
  split <;> rename_i hpc <;> rw [hpc] at hknows
  · dsimp only
    split
    · rename_i hclient
      exact h.removeStart hpc hclient
    · exact h
  · exact h
  · exact h.removeRoles hpc env.toRemoveEnv
  · exact h.deinit hpc
  · exact h.sleepAuth hpc env
  · dsimp only
    split
    · rename_i hclient
      exact h.checkFwChange hclient (h.wakeup_idle (by simp [hpc]) fun t => by simp [hclient])
        (by simp [hpc]) hknows
    · exact h
  · exact h.psm hpc env.psm
  · exact h.fwChange hpc
  · exact h

theorem RemoveInv.step (h : RemoveInv s) (hsafe : RemoveSafe s a) : RemoveInv (s.step a) := by
  cases a with
  | remove env => exact h.removeNext env
  | enter t => exact h.enter t
  | wakeupNext writeOk => exact h.wakeupNext hsafe
  | clientCmd ret => exact h.clientCmd ret
  | irqAck =>
    dsimp only [RemoveSys.step, RemoveSys.exec]
    split
    · exact h.of_same ⟨rfl, rfl, rfl, rfl, rfl, rfl, rfl⟩ rfl rfl rfl rfl rfl
    · exact h
  | leave ok => exact h.leave ok
  | elpTimer =>
    refine h.of_same (startElpWork_same s.toElpDev) ?_ rfl rfl rfl rfl
    show s.toElpDev.startElpWork.wlvifList = s.wlvifList
    unfold ElpDev.startElpWork
    split <;> rfl
  | elpWork writeOk => exact h.elpWork hsafe
  | hardirq =>
    refine h.of_same (hardirq_same s.toElpDev) ?_ rfl rfl rfl rfl
    show s.toElpDev.wl12xxHardirq.wlvifList = s.wlvifList
    unfold ElpDev.wl12xxHardirq Driver.wl12xxHardirq
    dsimp only [ElpDev.onWl1271, Wlcore.onDriver]
    split_ifs <;> rfl
  | other x => exact h.of_same ⟨rfl, rfl, rfl, rfl, rfl, rfl, rfl⟩ rfl rfl rfl rfl rfl

end

/-! ## Interleavings -/

/-- The state that a removal begins in. -/
theorem init_removeInv (h : ElpInv d) (hidle : d.wakeup = .idle) (hon : d.state = .on)
    (hv : v ∈ d.wlvifList) (needFwChange : Bool) : RemoveInv (RemoveSys.init d v needFwChange) :=
  ⟨h, fun hl => (by cases hl), fun hw => absurd hidle hw, fun hne => absurd hon hne,
    fun _ => (h.on hon).2, hv, trivial,
    fun _ => ⟨fun hf => (by rw [show d.wakeup = .failed from hf] at hidle; cases hidle),
      fun hne => absurd hon hne⟩⟩

/-- From any state that the driver reaches and in which it is on: in every safe interleaving of the
removal of an interface with `elp_work`, `tx_work` and the interrupt thread, a command meets a chip
that is awake. -/
theorem remove_awake (c : Conf) (before : List ElpDev.Act) (v : VifId) (needFwChange : Bool)
    (hidle : (run ElpDev.step (ElpDev.probe c) before).wakeup = .idle)
    (hon : (run ElpDev.step (ElpDev.probe c) before).state = .on)
    (hv : v ∈ (run ElpDev.step (ElpDev.probe c) before).wlvifList) (acts : List RemoveSys.Act)
    (hsafe : Along RemoveSys.step RemoveSafe
      (RemoveSys.init (run ElpDev.step (ElpDev.probe c) before) v needFwChange) acts)
    (a : RemoveSys.Act)
    (hcmd : (run RemoveSys.step (RemoveSys.init (run ElpDev.step (ElpDev.probe c) before) v
      needFwChange) acts).entersCmdSend a = true) :
    (run RemoveSys.step (RemoveSys.init (run ElpDev.step (ElpDev.probe c) before) v
      needFwChange) acts).inElp = false := by
  have hstart := init_removeInv (run_elpInv c before) hidle hon hv needFwChange
  have hstep (s : RemoveSys) (a : RemoveSys.Act) (h : RemoveInv s) (ha : RemoveSafe s a) :
      RemoveInv (s.step a) := h.step ha
  exact (Along.induction hstep hstart hsafe).awake_of_cmd hcmd

/-- Two STA vifs that are not in use, on a device that may go to sleep. -/
def twoStaActs : List ElpDev.Act :=
  [.locked (.boot [.boots 10] .elp),
    .other (run Wlcore.step (Wlcore.probe (chipConf .wl128x))
      [.addInterface 0 (some .staBss) false { attempts := [.boots 10] },
        .addInterface 1 (some .staBss) false {}]) fun _ => {},
    .locked .sleep]

/-- The device before vif 1 is removed, with a change of firmware to follow. -/
def twoStaSys : RemoveSys :=
  RemoveSys.init (run ElpDev.step (ElpDev.probe (chipConf .wl128x)) twoStaActs) 1 true

/-- Nothing comes between the parts of the removal. -/
theorem remove_awake_undisturbed :
    (run RemoveSys.step twoStaSys (List.replicate 5 (.remove {}))).entersCmdSend (.remove {}) =
      true ∧
    (run RemoveSys.step twoStaSys (List.replicate 5 (.remove {}))).inElp = false := by
  have hcmd : (run RemoveSys.step twoStaSys (List.replicate 5 (.remove {}))).entersCmdSend
      (.remove {}) = true := by decide +kernel
  have hsafe : Along RemoveSys.step RemoveSafe twoStaSys (List.replicate 5 (.remove {})) :=
    ⟨trivial, trivial, trivial, trivial, trivial, trivial⟩
  refine ⟨hcmd, ?_⟩
  unfold twoStaSys at hcmd hsafe ⊢
  exact remove_awake (chipConf .wl128x) twoStaActs 1 true (by decide +kernel)
    (by decide +kernel) (by decide +kernel) _ hsafe _ hcmd

/-- `elp_work` runs while the removal has given the mutex away: `wl12xx_force_active_psm` then sends
a command to a sleeping chip. -/
theorem remove_sends_asleep :
    (run RemoveSys.step twoStaSys
        [.remove {}, .remove {}, .remove {}, .remove {}, .elpTimer, .elpWork true,
          .remove {}]).entersCmdSend (.remove {}) = true ∧
    (run RemoveSys.step twoStaSys
        [.remove {}, .remove {}, .remove {}, .remove {}, .elpTimer, .elpWork true,
          .remove {}]).inElp = true ∧
    (run RemoveSys.step twoStaSys
        [.remove {}, .remove {}, .remove {}, .remove {}, .elpTimer, .elpWork true,
          .remove {}]).state = .on := by
  decide +kernel

end TiWlan.Iface
