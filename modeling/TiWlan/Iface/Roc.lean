import TiWlan.Iface.Operations
import TiWlan.Lib.Run

/-!
# Remain-on-channel periods end once

A period that `wl12xx_op_remain_on_channel` starts (`wlcore/main.c`, lines 4908–5045) is ended by a
cancellation or by one call of `ieee80211_remain_on_channel_expired`, from `roc_complete_work` when
the period is over or from the removal of the interface. The removal does not cancel the work, and
`__wlcore_roc_completed` returns 0 without a period, so a work that is left behind ends a period
that is not there, or the next one too early.

The calls are in the ghost log `rocLog`. Main results: `roc_ends_once` for the runs without such a
work in which cancellations complete, and `roc_expires_twice`.
-/

namespace TiWlan.Iface

open TiWlan.Driver TiWlan.Lib TiWlan.Link

/-! ## The calls -/

/-- The time until which the last period in the log, latest call first, should last. -/
def rocPeriod : List RocEvent → Option ℕ
  | .started deadline :: _ => some deadline
  | _ => none

/-- Periods start one after the other, and what expires is a period that is over or whose interface
is removed. -/
def RocLogOk : List RocEvent → Prop
  | [] => True
  | .started _ :: log => rocPeriod log = none ∧ RocLogOk log
  | .cancelled :: log => RocLogOk log
  | .expired time removed :: log =>
    (∃ deadline, rocPeriod log = some deadline ∧ (removed = true ∨ deadline ≤ time)) ∧ RocLogOk log

/-- Every period ends once; one that goes on is that of `roc_vif`, and its end is due in time unless a
recovery is under way. -/
structure RocExact (W : Wlcore) : Prop where
  log : RocLogOk W.rocLog
  period : W.rocVif.isSome ↔ (rocPeriod W.rocLog).isSome
  due : ∀ deadline, rocPeriod W.rocLog = some deadline → W.state = .on →
    W.rocWorkDue = some deadline

/-- What holds between the operations. -/
structure RocInv (W : Wlcore) : Prop extends RocExact W where
  listed : ∀ v, W.rocVif = some v → v ∈ W.wlvifList
  off : W.state = .off → W.rocVif = none

/-- mac80211 starts a period on an interface it has added and stops the device without a period; no
work is left behind when a period starts or when it runs; and a period that is cancelled, or is
over, is completed, the latter unless a recovery is queued. -/
def RocSafe (W : Wlcore) : Wlcore.Op → Prop
  | .remainOnChannel v _ _ _ => v ∈ W.wlvifList ∧ W.rocWorkDue = none
  | .rocCompleteWork env => W.rocWorkDue.any (fun due => decide (due ≤ W.now)) = true →
    (W.rocVif = none → W.state = .on → env.elpOk = false) ∧
      ((W.wl1271RocCompleteWork env).rocVif = none ∨ (W.wl1271RocCompleteWork env).state ≠ .on)
  | .cancelRemainOnChannel env => (W.wl12xxOpCancelRemainOnChannel env).rocVif = none
  | .stop => W.rocVif = none
  | _ => True

section
variable {W W' : Wlcore} {v : VifId}

theorem RocExact.no_period (h : RocExact W) (hnone : W.rocVif = none) :
    rocPeriod W.rocLog = none := by
  cases hlog : rocPeriod W.rocLog with
  | none => rfl
  | some deadline =>
    have hsome := h.period.mpr (by rw [hlog]; rfl)
    rw [hnone] at hsome
    cases hsome

/-- The period is the same, and the device is not turned on. -/
theorem RocInv.of_same (h : RocInv W) (hroc : W'.toRoc = W.toRoc)
    (hlist : ∀ u, W.rocVif = some u → u ∈ W'.wlvifList) (hon : W'.state = .on → W.state = .on)
    (hoff : W'.state = .off → W.state = .off) : RocInv W' := by
  have hvif : W'.rocVif = W.rocVif := congrArg Roc.rocVif hroc
  have hlog : W'.rocLog = W.rocLog := congrArg Roc.rocLog hroc
  have hdue : W'.rocWorkDue = W.rocWorkDue := congrArg Roc.rocWorkDue hroc
  refine ⟨⟨hlog ▸ h.log, ?_, fun deadline hp hon' => ?_⟩, fun u hu => ?_, fun hoff' => ?_⟩
  · rw [hvif, hlog]
    exact h.period
  · rw [hdue]
    exact h.due deadline (hlog ▸ hp) (hon hon')
  · exact hlist u (hvif ▸ hu)
  · rw [hvif]
    exact h.off (hoff hoff')

theorem RocInv.of_keep (h : RocInv W) (hk : DriverKeep W.toWl1271 W'.toWl1271)
    (hroc : W'.toRoc = W.toRoc) : RocInv W' := by
  refine h.of_same hroc (fun u hu => ?_) hk.power.power.on_of_on hk.power.power.off_of_off
  rw [hk.list]
  exact h.listed u hu

theorem RocInv.of_iface (h : RocInv W) (hk : IfaceKeep .any W W') : RocInv W' :=
  h.of_keep hk.driver hk.roc

/-- After an ending. -/
theorem RocInv.of_none (hlog : RocLogOk W.rocLog) (hnone : W.rocVif = none)
    (hperiod : rocPeriod W.rocLog = none) : RocInv W := by
  refine ⟨⟨hlog, ?_, fun deadline hp _ => ?_⟩, fun u hu => ?_, fun _ => hnone⟩
  · rw [hnone, hperiod]
  · rw [hperiod] at hp
    cases hp
  · rw [hnone] at hu
    cases hu

/-- Without a period it does not matter whether the device is on. -/
theorem RocInv.of_idle (h : RocInv W) (hroc : W'.toRoc = W.toRoc) (hnone : W.rocVif = none) :
    RocInv W' := by
  have hlog : W'.rocLog = W.rocLog := congrArg Roc.rocLog hroc
  refine .of_none (hlog ▸ h.log) ((congrArg Roc.rocVif hroc).trans hnone) ?_
  rw [hlog]
  exact h.no_period hnone

/-- The device is not on, whatever becomes of the work. -/
theorem RocInv.of_not_on (h : RocInv W) (hvif : W'.rocVif = W.rocVif) (hlog : W'.rocLog = W.rocLog)
    (hk : DriverKeep W.toWl1271 W'.toWl1271) (hstate : W'.state ≠ .on) : RocInv W' := by
  refine ⟨⟨hlog ▸ h.log, ?_, fun _ _ hon => absurd hon hstate⟩, fun u hu => ?_, fun hoff => ?_⟩
  · rw [hvif, hlog]
    exact h.period
  · rw [hk.list]
    exact h.listed u (hvif ▸ hu)
  · rw [hvif]
    exact h.off (hk.power.power.off_of_off hoff)

/-! ## One operation -/

theorem wl12xxOpRemainOnChannel_roc (h : RocInv W) (hv : v ∈ W.wlvifList)
    (hfresh : W.rocWorkDue = none) (duration : ℕ) (elpOk : Bool) (env : Wlcore.StartDevEnv) :
    RocInv (W.wl12xxOpRemainOnChannel v duration elpOk env) := by
  have hstart := wl12xxStartDev_keep (A := .any) W v trivial env
  unfold Wlcore.wl12xxOpRemainOnChannel
  split_ifs with hon hbusy htype help
  · exact h
  · exact h
  · exact h
  · exact h.of_iface (.queueRecovery W)
  · split <;> rename_i W₁ heq <;> rw [heq] at hstart
    · exact h.of_iface hstart
    · have hinv := h.of_iface hstart
      have hnone : W₁.rocVif = none := by
        rw [show W₁.rocVif = W.rocVif from congrArg Roc.rocVif hstart.roc]
        exact Option.not_isSome_iff_eq_none.mp (not_or.mp hbusy).1
      have hwork : W₁.rocWorkDue = none := (congrArg Roc.rocWorkDue hstart.roc).trans hfresh
      refine ⟨⟨⟨hinv.no_period hnone, hinv.log⟩, ?_, fun deadline hp _ => ?_⟩, fun u hu => ?_,
        fun hoff => ?_⟩
      · exact ⟨fun _ => rfl, fun _ => rfl⟩
      · show (W₁.rocWorkDue <|> some (W₁.now + duration)) = some deadline
        rw [hwork]
        exact hp
      · obtain rfl : v = u := Option.some.inj hu
        show v ∈ W₁.wlvifList
        rw [hstart.driver.list]
        exact hv
      · have hoff' := hstart.driver.power.power.off_of_off hoff
        rw [hoff'] at hon
        exact absurd (by decide) hon

/-- What `wlcore_roc_completed` can do, from a state in which `roc_vif` is initialized. -/
theorem wlcoreRocCompleted_cases (hinit : ∀ u, W.rocVif = some u → (W.vifs u).initialized = true)
    (env : Wlcore.RocEnv) :
    (W.state ≠ .on ∧ W.wlcoreRocCompleted env = (false, W)) ∨
      W.wlcoreRocCompleted env = (false, W.queueRecovery) ∨
      (W.state = .on ∧ env.elpOk = true ∧ W.rocVif = none ∧
        W.wlcoreRocCompleted env = (true, W)) ∨
      ∃ u W₁, W.state = .on ∧ W.rocVif = some u ∧ IfaceKeep .any W W₁ ∧
        (W.wlcoreRocCompleted env = (false, W₁) ∨
          W.wlcoreRocCompleted env = (true, { W₁ with rocVif := none })) := by
  unfold Wlcore.wlcoreRocCompleted
  split_ifs with hon help
  · exact Or.inl ⟨hon, rfl⟩
  · exact Or.inr (Or.inl rfl)
  · have hon : W.state = .on := not_not.mp hon
    refine Or.inr (Or.inr ?_)
    unfold Wlcore.rocCompletedLocked
    cases hvif : W.rocVif with
    | none => exact Or.inl ⟨hon, by simpa using help, rfl, rfl⟩
    | some u =>
      have hstop := wl12xxStopDev_keep (A := .any) W u trivial (offers_any env.stopDev.tx)
      dsimp only
      rw [if_neg (by simp [hinit u hvif])]
      split <;> rename_i W₁ heq <;> rw [heq] at hstop
      · exact Or.inr ⟨u, W₁, hon, rfl, hstop, Or.inl rfl⟩
      · exact Or.inr ⟨u, W₁, hon, rfl, hstop, Or.inr rfl⟩

theorem wl1271RocCompleteWork_roc {env : Wlcore.RocEnv} (h : RocInv W) (hlisted : Listed W)
    (hsafe : RocSafe W (.rocCompleteWork env)) : RocInv (W.wl1271RocCompleteWork env) := by
  have hinit (u : VifId) (hu : W.rocVif = some u) : (W.vifs u).initialized = true :=
    hlisted.initialized u (h.listed u hu)
  by_cases hdue : W.rocWorkDue.any (fun due => decide (due ≤ W.now)) = true
  · obtain ⟨hstale, hdone⟩ := hsafe hdue
    unfold Wlcore.wl1271RocCompleteWork at hdone ⊢
    rw [if_pos hdue] at hdone ⊢
    obtain ⟨hstate, heq⟩ | heq | ⟨hon, help, hnone, -⟩ | ⟨u, W₁, hon, hu, hk, heq⟩ :=
      wlcoreRocCompleted_cases (W := { W with rocWorkDue := none }) hinit env
    · rw [heq]
      exact h.of_not_on rfl rfl (.refl _) hstate
    · rw [heq]
      exact h.of_not_on rfl rfl (Quiet.queueRecovery _).driver (Power.queueRecoveryWork_not_on _)
    · rw [hstale hnone hon] at help
      cases help
    · have hvif : W₁.rocVif = W.rocVif := (congrArg Roc.rocVif hk.roc :)
      have hlog : W₁.rocLog = W.rocLog := (congrArg Roc.rocLog hk.roc :)
      have hnow : W₁.now = W.now := (congrArg Roc.now hk.roc :)
      rcases heq with heq | heq
      · -- the device role could not be stopped: a recovery ends the period
        rw [heq] at hdone ⊢
        refine h.of_not_on hvif hlog hk.driver (hdone.resolve_left fun hnone => ?_)
        rw [show W₁.rocVif = none from hnone, show W.rocVif = some u from hu] at hvif
        cases hvif
      · -- the period is over
        rw [heq]
        obtain ⟨deadline, hperiod⟩ := Option.isSome_iff_exists.mp
          (h.period.mp (by rw [show W.rocVif = some u from hu]; rfl))
        have hover : deadline ≤ W.now := by
          rw [h.due deadline hperiod hon] at hdue
          simpa using hdue
        refine .of_none ⟨⟨deadline, ?_, Or.inr ?_⟩, ?_⟩ rfl rfl
        · rw [hlog]
          exact hperiod
        · rw [hnow]
          exact hover
        · rw [hlog]
          exact h.log
  · unfold Wlcore.wl1271RocCompleteWork
    rw [if_neg hdue]
    exact h

theorem wl12xxOpCancelRemainOnChannel_roc {env : Wlcore.RocEnv} (h : RocInv W)
    (hdone : (W.wl12xxOpCancelRemainOnChannel env).rocVif = none) :
    RocInv (W.wl12xxOpCancelRemainOnChannel env) := by
  have hlog : (W.wl12xxOpCancelRemainOnChannel env).rocLog = .cancelled :: W.rocLog := by
    have hcompleted (W : Wlcore) : (W.wlcoreRocCompleted env).2.rocLog = W.rocLog := by
      unfold Wlcore.wlcoreRocCompleted Wlcore.rocCompletedLocked
      split_ifs
      · rfl
      · rfl
      · split
        · rfl
        · rename_i u _
          have hstop := congrArg Roc.rocLog
            (wl12xxStopDev_keep (A := .any) W u trivial (offers_any env.stopDev.tx)).roc
          split
          · rfl
          · split <;> rename_i heq <;> rw [heq] at hstop <;> exact hstop
    exact hcompleted _
  refine .of_none ?_ hdone ?_
  · rw [hlog]
    exact h.log
  · rw [hlog]
    rfl

theorem wl1271OpRemoveInterfaceLocked_roc (h : RocInv W) (hlisted : Listed W)
    (hv : v ∈ W.wlvifList) (hstate : W.state ≠ .off) (env : RemoveEnv) :
    RocInv (W.wl1271OpRemoveInterfaceLocked v env) := by
  have hinit := hlisted.initialized v hv
  have hroc := (wl1271OpRemoveInterfaceLocked_parts hinit hstate env).2
  have hremoved := wl1271OpRemoveInterfaceLocked_removed hinit hstate env
  generalize W.wl1271OpRemoveInterfaceLocked v env = W' at hroc hremoved ⊢
  unfold Wlcore.removeRoc at hroc
  split at hroc
  · rename_i hown
    obtain ⟨deadline, hperiod⟩ := Option.isSome_iff_exists.mp (h.period.mp (by rw [hown]; rfl))
    have hlog : W'.rocLog = .expired W.now true :: W.rocLog := congrArg Roc.rocLog hroc
    refine .of_none ?_ (congrArg Roc.rocVif hroc) ?_
    · rw [hlog]
      exact ⟨⟨deadline, hperiod, Or.inl rfl⟩, h.log⟩
    · rw [hlog]
      rfl
  · rename_i hown
    refine h.of_same hroc (fun u hu => ?_) hremoved.power.power.on_of_on
      hremoved.power.power.off_of_off
    rw [hremoved.list]
    refine hlisted.nodup.mem_erase_iff.mpr ⟨fun huv => hown ?_, h.listed u hu⟩
    rw [hu, huv]

theorem wlcoreOpStopLocked_roc (h : RocInv W) (hnone : W.rocVif = none) :
    RocInv W.wlcoreOpStopLocked := by
  refine h.of_idle ?_ hnone
  dsimp only [Wlcore.wlcoreOpStopLocked]
  split <;> rfl

theorem wl1271OpAddInterface_roc (h : RocInv W) (type : Option BssType) (dummyP2p : Bool)
    (env : Wlcore.AddEnv) : RocInv (W.wl1271OpAddInterface v type dummyP2p env).2 := by
  have hadd := wl1271OpAddInterface_added W v type dummyP2p env
  by_cases hs : W.state = .off
  · exact h.of_idle hadd.roc (h.off hs)
  · exact h.of_same hadd.roc (fun u hu => hadd.list u (h.listed u hu)) (hadd.power hs).on_of_on
      (hadd.power hs).off_of_off

/-- One operation. -/
theorem step_roc {op : Wlcore.Op} (h : RocInv W) (hlisted : Listing W) (hsafe : RocSafe W op) :
    RocInv (W.step op) := by
  refine step_induction h hlisted (fun p hpart => ?_)
    (fun v type dummyP2p env _ => wl1271OpAddInterface_roc h type dummyP2p env)
    (fun W v env _ h hl hv hstate => wl1271OpRemoveInterfaceLocked_roc h hl.toListed hv hstate env)
    (fun W' h hstop => ?_) (fun W wl h hk => ?_) fun _ _ h hk => h.of_iface hk
  · by_cases hp : p = .roc
    · subst hp
      cases op with
      | remainOnChannel v duration elpOk env =>
        exact wl12xxOpRemainOnChannel_roc h hsafe.1 hsafe.2 duration elpOk env
      | cancelRemainOnChannel env => exact wl12xxOpCancelRemainOnChannel_roc h hsafe
      | rocCompleteWork env => exact wl1271RocCompleteWork_roc h hlisted.toListed hsafe
      | tick ms => exact ⟨⟨h.log, h.period, h.due⟩, h.listed, h.off⟩
      | _ => cases hpart
    · exact h.of_keep (step_keep W hpart).driver ((step_keep W hpart).roc hp)
  · refine wlcoreOpStopLocked_roc h ?_
    rcases hstop with ⟨rfl, rfl⟩ | hnil
    · exact hsafe
    · cases hvif : W'.rocVif with
      | none => rfl
      | some u => exact absurd (h.listed u hvif) (hnil ▸ List.not_mem_nil)
  · have hlist : wl.wlvifList = W.wlvifList := congrArg VifLinks.wlvifList hk.links
    exact h.of_same rfl (fun u hu => hlist ▸ h.listed u hu) (fun hon => hk.state ▸ hon)
      fun hoff => hk.state ▸ hoff

end

/-! ## Runs -/

instance (W : Wlcore) (op : Wlcore.Op) : Decidable (RocSafe W op) := by
  unfold RocSafe
  split <;> infer_instance

/-- One period is over, the next one is cancelled. -/
def twoPeriodsOps : List Wlcore.Op :=
  [.addInterface 0 (some .staBss) false { attempts := [.boots 10] },
    .remainOnChannel 0 100 true {}, .tick 100, .rocCompleteWork {},
    .remainOnChannel 0 100 true {}, .cancelRemainOnChannel {}]

/-- The interface is removed during a period, and its work is left behind. -/
def workLeftOps : List Wlcore.Op :=
  [.addInterface 0 (some .staBss) false { attempts := [.boots 10] },
    .addInterface 1 (some .apBss) false {}, .remainOnChannel 0 100 true {},
    .removeInterface 0 { stopDev := { tx := { iters := [{}] } } } false, .tick 100,
    .rocCompleteWork {}]

end TiWlan.Iface
