import TiWlan.Link.Atoms
import TiWlan.Link.StaCounters

/-!
# What the operations leave alone

The interface state is written by few functions. `IfaceKeep` is what the handling of role
ids and remain-on-channel (`wlcore/cmd.c`, lines 233–311 and 1740–1923) does: it takes
atomic steps on the driver state and keeps the other parts of `Wlcore`.

Adding and removing interfaces do more: `AddKeep` and `Removed` say what.

Main results: `wl12xxStartDev_keep` and `wl12xxStopDev_keep`, `addInterfaceInit_cases`, and
`foldl_removeInterface` for the removals of a recovery.
-/

namespace TiWlan.Iface

open TiWlan.Driver TiWlan.Link TiWlan.Tx
open Function (update update_of_ne update_self)

/-! ## The interface state -/

/-- At most the role ids of a vif changed. -/
def ExtSame (e e' : VifExt) : Prop := ∃ r d, e' = { e with roleId := r, devRoleId := d }

theorem ExtSame.refl (e : VifExt) : ExtSame e e := ⟨_, _, rfl⟩

theorem ExtSame.trans {e e' e'' : VifExt} (h : ExtSame e e') (h' : ExtSame e' e'') :
    ExtSame e e'' := by
  obtain ⟨_, _, rfl⟩ := h
  obtain ⟨r, d, rfl⟩ := h'
  exact ⟨r, d, rfl⟩

theorem ExtSame.parts {e e' : VifExt} (h : ExtSame e e') :
    e'.klvTemplateId = e.klvTemplateId ∧ e'.baRxBitmap = e.baRxBitmap := by
  obtain ⟨_, _, rfl⟩ := h
  exact ⟨rfl, rfl⟩

/-- What the roles keep of the interface state. -/
structure IfaceKeep (A : LinkAssume) (W W' : Wlcore) : Prop where
  reach : LinkReach A W.toWl1271 W'.toWl1271
  indices : W'.toIndices = W.toIndices
  blockAck : W'.toBlockAck = W.toBlockAck
  scan : W'.toScan = W.toScan
  roc : W'.toRoc = W.toRoc
  ext : ∀ v, ExtSame (W.ext v) (W'.ext v)

namespace IfaceKeep

variable {A : LinkAssume} {W W' W'' : Wlcore}

theorem driver (h : IfaceKeep A W W') : DriverKeep W.toWl1271 W'.toWl1271 := h.reach.driver

theorem refl (W : Wlcore) : IfaceKeep A W W :=
  ⟨.refl _, rfl, rfl, rfl, rfl, fun _ => .refl _⟩

theorem trans (h : IfaceKeep A W W') (h' : IfaceKeep A W' W'') : IfaceKeep A W W'' :=
  ⟨h.reach.trans h'.reach, h'.indices.trans h.indices, h'.blockAck.trans h.blockAck,
    h'.scan.trans h.scan, h'.roc.trans h.roc, fun v => (h.ext v).trans (h'.ext v)⟩

/-- A function of the driver state. -/
theorem of_driver {wl : Wl1271} (h : LinkReach A W.toWl1271 wl) :
    IfaceKeep A W { W with toWl1271 := wl } :=
  ⟨h, rfl, rfl, rfl, rfl, fun _ => .refl _⟩

theorem queueRecovery (W : Wlcore) : IfaceKeep A W W.queueRecovery :=
  .of_driver (.queueRecovery _)

theorem sendCmd (W : Wlcore) (ret : CmdRet) : IfaceKeep A W (W.sendCmd ret).2 :=
  .of_driver (.cmdEffect _ ret)

/-- A role id and the maps of roles change. -/
theorem setRole (W : Wlcore) (v : VifId) (r : Wlcore.RoleField) (id : Option RoleId)
    (roles : Roles) : IfaceKeep A W { W.setRole v r id with toRoles := roles } := by
  refine ⟨.refl _, rfl, rfl, rfl, rfl, fun u => ?_⟩
  show ExtSame (W.ext u) (update W.ext v _ u)
  by_cases hu : u = v
  · subst hu
    rw [update_self]
    cases r
    · exact ⟨_, _, rfl⟩
    · exact ⟨_, _, rfl⟩
  · rw [update_of_ne hu]
    exact .refl _

theorem setRoles (W : Wlcore) (roles : Roles) : IfaceKeep A W { W with toRoles := roles } :=
  ⟨.refl _, rfl, rfl, rfl, rfl, fun _ => .refl _⟩

end IfaceKeep

section
variable {A : LinkAssume} (W : Wlcore) (v : VifId)

theorem wl12xxCmdRoleEnable_keep (r : Wlcore.RoleField) (ret : CmdRet) :
    IfaceKeep A W (W.wl12xxCmdRoleEnable v r ret).2 := by
  unfold Wlcore.wl12xxCmdRoleEnable
  split
  · exact .refl _
  · split
    · exact .refl _
    · split
      · exact .setRole W v r _ _
      · exact .sendCmd W ret

theorem wl12xxCmdRoleDisable_keep (r : Wlcore.RoleField) (ret : CmdRet) :
    IfaceKeep A W (W.wl12xxCmdRoleDisable v r ret).2 := by
  unfold Wlcore.wl12xxCmdRoleDisable
  split
  · exact .refl _
  · split
    · exact .setRole W v r _ _
    · exact .sendCmd W ret

theorem wl12xxRoc_keep (ret : CmdRet) : IfaceKeep A W (W.wl12xxRoc v ret).2 := by
  unfold Wlcore.wl12xxRoc
  split
  · exact .sendCmd W ret
  · split_ifs
    · exact .refl _
    · exact .setRoles W _
    · exact .sendCmd W ret

theorem wl12xxCroc_keep (id : RoleId) (ret : CmdRet) : IfaceKeep A W (W.wl12xxCroc id ret).2 := by
  dsimp only [Wlcore.wl12xxCroc]
  split
  · split
    · exact .setRoles W _
    · exact (IfaceKeep.setRoles W _).trans (.of_driver (.rearm _))
  · exact .sendCmd W ret

theorem startDevDisable_keep (ret : CmdRet) : IfaceKeep A W (W.startDevDisable v ret) := by
  unfold Wlcore.startDevDisable
  split
  · exact .refl _
  · exact wl12xxCmdRoleDisable_keep W v .dev ret

theorem startDevRole_keep (hv : A.vif v) (env : Wlcore.StartDevEnv) :
    IfaceKeep A W (W.startDevRole v env).2 := by
  have hstart : IfaceKeep A W (W.ofDriver (wl12xxCmdRoleStartDev W.toWl1271 v env.roleStart)).2 :=
    .of_driver (roleStart_links hv _ _ _ _)
  unfold Wlcore.startDevRole
  split <;> rename_i W₁ heq <;> rw [heq] at hstart
  · exact hstart.trans (startDevDisable_keep W₁ v _)
  · have hroc := hstart.trans (wl12xxRoc_keep W₁ v env.roc)
    split <;> rename_i W₂ heq' <;> rw [heq'] at hroc
    · exact hroc
    · have hstop : IfaceKeep A W₂
          (W₂.onDriver fun wl => (wl12xxCmdRoleStopDev wl v env.roleStop).2) :=
        .of_driver (wl12xxCmdRoleStopDev_links hv _ _)
      exact (hroc.trans hstop).trans (startDevDisable_keep _ v _)

theorem wl12xxStartDev_keep (hv : A.vif v) (env : Wlcore.StartDevEnv) :
    IfaceKeep A W (W.wl12xxStartDev v env).2 := by
  have henable := wl12xxCmdRoleEnable_keep (A := A) W v .dev env.roleEnable
  unfold Wlcore.wl12xxStartDev
  split_ifs
  · exact .refl _
  · exact startDevRole_keep W v hv env
  · split <;> rename_i W₁ heq <;> rw [heq] at henable
    · exact henable
    · exact henable.trans (startDevRole_keep W₁ v hv env)

theorem stopDevCroc_keep (ret : CmdRet) : IfaceKeep A W (W.stopDevCroc v ret).2 := by
  unfold Wlcore.stopDevCroc
  split
  · exact .refl _
  · split
    · exact wl12xxCroc_keep W _ ret
    · exact .refl _

theorem stopDevRole_keep (hv : A.vif v) (env : StopDevEnv) :
    IfaceKeep A W (W.stopDevRole v env).2 := by
  have hstop : IfaceKeep A W (W.ofDriver (wl12xxCmdRoleStopDev W.toWl1271 v env.roleStop)).2 :=
    .of_driver (wl12xxCmdRoleStopDev_links hv _ _)
  unfold Wlcore.stopDevRole
  split <;> rename_i W₁ heq <;> rw [heq] at hstop
  · exact hstop
  · split
    · exact hstop
    · exact hstop.trans (wl12xxCmdRoleDisable_keep W₁ v _ _)

theorem wl12xxStopDev_keep (hv : A.vif v) {env : StopDevEnv} (henv : Offers A.frame env.tx) :
    IfaceKeep A W (W.wl12xxStopDev v env).2 := by
  have htx := wlcoreTxWorkLocked_links W.toWl1271 henv
  unfold Wlcore.wl12xxStopDev
  split
  · exact .refl _
  · split <;> rename_i wl _ <;> rename_i heq
    · rw [heq] at htx
      have hcroc := (IfaceKeep.of_driver htx).trans
        (stopDevCroc_keep { W with toWl1271 := wl } v env.croc)
      split <;> rename_i W₁ heq' <;> rw [heq'] at hcroc
      · exact hcroc
      · exact hcroc.trans (stopDevRole_keep W₁ v hv env)
    · rw [heq] at htx
      exact .of_driver htx

theorem removeDisableRoles_keep (hv : A.vif v) {env : RemoveEnv}
    (henv : Offers A.frame env.stopDev.tx) : IfaceKeep A W (W.removeDisableRoles v env) := by
  have hdev : IfaceKeep A W
      (if Wlcore.hasKlvTemplate (W.vifs v).bssType ∧ (W.vifs v).devHlid.isSome then
        (W.wl12xxStopDev v env.stopDev).2 else W) := by
    split
    · exact wl12xxStopDev_keep W v hv henv
    · exact .refl _
  dsimp only [Wlcore.removeDisableRoles]
  split
  · exact .refl _
  · split
    · exact .queueRecovery W
    · exact hdev.trans (wl12xxCmdRoleDisable_keep _ v _ _)

end

/-! ## Rate policies -/

/-- A vif without its rate policies. -/
def forgetRates (w : Wl12xxVif) : Wl12xxVif :=
  { w with
    basicRateIdx := 0, apRateIdx := 0, p2pRateIdx := 0
    mgmtRateIdx := 0, bcastRateIdx := 0, ucastRateIdx := fun _ => 0 }

@[simp] theorem rateIdx_setRateIdx (w : Wl12xxVif) (f g : Wlcore.RateField) (i : RateIdx) :
    (w.setRateIdx f i).rateIdx g = if g = f then i else w.rateIdx g := by
  cases f <;> cases g <;> simp [Wl12xxVif.setRateIdx, Wl12xxVif.rateIdx, Function.update_apply]

@[simp] theorem forgetRates_setRateIdx (w : Wl12xxVif) (f : Wlcore.RateField) (i : RateIdx) :
    forgetRates (w.setRateIdx f i) = forgetRates w := by
  cases f <;> rfl

/-- Only the rate policies of one vif and their map changed. -/
structure RateChange (v : VifId) (W W' : Wlcore) : Prop where
  rest : W' = { W with
    toWl1271 := W.toWl1271.setVif v fun _ => W'.vifs v
    ratePoliciesMap := W'.ratePoliciesMap }
  vif : forgetRates (W'.vifs v) = forgetRates (W.vifs v)

namespace RateChange

variable {v : VifId} {W W' W'' : Wlcore}

theorem refl (v : VifId) (W : Wlcore) : RateChange v W W := by
  refine ⟨?_, rfl⟩
  simp only [Wl1271.setVif, Function.update_eq_self]

theorem trans (h : RateChange v W W') (h' : RateChange v W' W'') : RateChange v W W'' := by
  refine ⟨?_, h'.vif.trans h.vif⟩
  calc W'' = { W' with
        toWl1271 := W'.toWl1271.setVif v fun _ => W''.vifs v
        ratePoliciesMap := W''.ratePoliciesMap } := h'.rest
    _ = _ := by
      rw [h.rest]
      simp only [Wl1271.setVif, Function.update_idem]

end RateChange

theorem RateChange.bssType {v : VifId} {W W' : Wlcore} (h : RateChange v W W') :
    (W'.vifs v).bssType = (W.vifs v).bssType := congrArg (·.bssType) h.vif

section
variable {v : VifId} {W : Wlcore}

theorem wl12xxAllocateRatePolicy_change (v : VifId) (W : Wlcore) (f : Wlcore.RateField) :
    RateChange v W (Wlcore.wl12xxAllocateRatePolicy v W f) := by
  unfold Wlcore.wl12xxAllocateRatePolicy
  split
  · exact .refl v W
  · constructor <;> simp [Wlcore.onDriver, Wl1271.setVif]

theorem wl12xxFreeRatePolicy_change (v : VifId) (W : Wlcore) (f : Wlcore.RateField) :
    RateChange v W (Wlcore.wl12xxFreeRatePolicy v W f) := by
  unfold Wlcore.wl12xxFreeRatePolicy
  split
  · constructor <;> simp [Wlcore.onDriver, Wl1271.setVif]
  · exact .refl v W

theorem foldl_change {step : Wlcore → Wlcore.RateField → Wlcore}
    (hstep : ∀ W f, RateChange v W (step W f)) (fs : List Wlcore.RateField) (W : Wlcore) :
    RateChange v W (fs.foldl step W) := by
  induction fs generalizing W with
  | nil => exact .refl v W
  | cons f fs ih => exact (hstep W f).trans (ih _)

/-- Only the indices of one vif and their maps changed. -/
def IndexChange (v : VifId) (W W' : Wlcore) : Prop :=
  ∃ w i k, forgetRates w = forgetRates (W.vifs v) ∧ W' = { W with
    toWl1271 := W.toWl1271.setVif v fun _ => w
    toIndices := i
    ext := update W.ext v { W.ext v with klvTemplateId := k } }

theorem RateChange.index {W₁ : Wlcore} (h : RateChange v W W₁) : IndexChange v W W₁ := by
  obtain ⟨w, m, hw, rfl⟩ : ∃ w m, forgetRates w = forgetRates (W.vifs v) ∧ W₁ = { W with
    toWl1271 := W.toWl1271.setVif v fun _ => w, ratePoliciesMap := m } := ⟨_, _, h.vif, h.rest⟩
  refine ⟨w, { W.toIndices with ratePoliciesMap := m }, (W.ext v).klvTemplateId, hw, ?_⟩
  simp only [Function.update_eq_self]

theorem IndexChange.klv {W₁ : Wlcore} (h : IndexChange v W W₁) (map : Fin 4 → Bool) (k : KlvIdx) :
    IndexChange v W { W₁.setExt v fun e => { e with klvTemplateId := k } with
      klvTemplatesMap := map } := by
  obtain ⟨w, i, _, hw, rfl⟩ := h
  refine ⟨w, { i with klvTemplatesMap := map }, k, hw, ?_⟩
  simp only [Wlcore.setExt, update_self, Function.update_idem]

theorem allocateIndices_change (v : VifId) (W : Wlcore) (b : BssType) :
    IndexChange v W (W.allocateIndices v b) := by
  have hrates := foldl_change (wl12xxAllocateRatePolicy_change v) (Wlcore.rateFields b) W
  dsimp only [Wlcore.allocateIndices, Wlcore.wlcoreAllocateKlvTemplate]
  split
  · split
    · exact hrates.index
    · exact hrates.index.klv _ _
  · exact hrates.index

theorem freeIndices_change (v : VifId) (W : Wlcore) : IndexChange v W (W.freeIndices v) := by
  have hrates := foldl_change (wl12xxFreeRatePolicy_change v)
    (Wlcore.rateFields (W.vifs v).bssType) W
  dsimp only [Wlcore.freeIndices, Wlcore.wlcoreFreeKlvTemplate]
  split
  · split
    · exact hrates.index.klv _ _
    · exact hrates.index
  · exact hrates.index

end

/-! ## Removing interfaces -/

section
variable {u v : VifId}

theorem txResetWlvifLink_links {A : LinkAssume} (hv : A.vif v) (wl : Wl1271) (h : Hlid) :
    LinkReach A wl (txResetWlvifLink v wl h) := by
  have hcount (wl : Wl1271) : LinkReach A wl { wl with
      allocatedPkts := update wl.allocatedPkts h 0
      prevFreedPkts := update wl.prevFreedPkts h 0 } :=
    .single (.tx (.single (.other (.of_parts rfl rfl rfl rfl rfl) rfl ⟨_, _, rfl⟩ ⟨rfl, id⟩))
      fun _ => rfl)
  dsimp only [txResetWlvifLink]
  split
  · exact (LinkReach.single (.freeSta hv h)).trans (hcount _)
  · exact hcount wl

/-- The loop of `wl12xx_tx_reset_wlvif` in `deinit`. -/
theorem txResetLoop_links {A : LinkAssume} (hv : A.vif v) (wl : Wl1271) :
    LinkReach A (wl.setVif v forgetRoles)
      ((allHlids.filter ((wl.setVif v forgetRoles).vifs v).linksMap).foldl (txResetWlvifLink v)
        (wl.setVif v forgetRoles)) :=
  .foldl (fun wl a _ => txResetWlvifLink_links hv wl a) _

end

/-- What `__wl1271_op_remove_interface` does to the list of vifs and to the other vifs. -/
structure Removed (v : VifId) (wl wl' : Wl1271) : Prop where
  power : PowerKeep wl wl'
  list : wl'.wlvifList = wl.wlvifList.erase v
  last : ∀ u, wl'.lastWlvif = some u → u ≠ v ∧ (wl.lastWlvif = some u ∨ u ∈ wl.wlvifList)
  other : ∀ u, u ≠ v → VifSame (wl.vifs u) (wl'.vifs u)

section
variable {A : LinkAssume} (W : Wlcore) (v : VifId) (env : RemoveEnv)

/-- Before the roles are disabled, the flag is cleared and the scan and the remain-on-channel period
of the vif end. -/
theorem removeStart_eq : ∃ wl₁, (wl₁ = clearInitialized W.toWl1271 v ∨
      wl₁ = wl12xxRearmTxWatchdogLocked (clearInitialized W.toWl1271 v)) ∧
    ((W.onDriver fun wl => clearInitialized wl v).removeScan v).removeRoc v =
      { W with
        toWl1271 := wl₁
        toScan := (W.removeScan v).toScan
        toRoc := (W.removeRoc v).toRoc } := by
  by_cases hs : W.scanState ≠ .idle ∧ W.scanVif = some v
  · refine ⟨_, Or.inr rfl, ?_⟩
    by_cases hr : W.rocVif = some v <;>
      simp [Wlcore.removeRoc, Wlcore.removeScan, Wlcore.onDriver, Wlcore.completeScan, hs, hr]
  · refine ⟨_, Or.inl rfl, ?_⟩
    by_cases hr : W.rocVif = some v <;>
      simp [Wlcore.removeRoc, Wlcore.removeScan, Wlcore.onDriver, hs, hr]

/-- The steps before `deinit`. -/
def removeBegin (W : Wlcore) (v : VifId) (env : RemoveEnv) : Wlcore :=
  (((W.onDriver fun wl => clearInitialized wl v).removeScan v).removeRoc v).removeDisableRoles v env

theorem wl1271OpRemoveInterfaceLocked_eq {W : Wlcore} {v : VifId}
    (hinit : (W.vifs v).initialized = true) (hstate : W.state ≠ .off) (env : RemoveEnv) :
    W.wl1271OpRemoveInterfaceLocked v env =
      ((removeBegin W v env).removeDeinit v).onDriver fun wl =>
        removeSleepAuth wl (decide ((W.vifs v).bssType = .apBss)) env := by
  unfold Wlcore.wl1271OpRemoveInterfaceLocked
  rw [if_neg (by simp [hinit]), if_neg hstate]
  rfl

theorem removeBegin_links (hv : A.vif v) {env : RemoveEnv}
    (henv : Offers A.frame env.stopDev.tx) :
    LinkReach A (clearInitialized W.toWl1271 v) (removeBegin W v env).toWl1271 := by
  obtain ⟨wl₁, hwl₁, heq⟩ := removeStart_eq W v
  have hstart : LinkReach A (clearInitialized W.toWl1271 v) wl₁ := by
    rcases hwl₁ with rfl | rfl
    · exact .refl _
    · exact .rearm _
  unfold removeBegin
  rw [heq]
  exact hstart.trans (removeDisableRoles_keep
    { W with toWl1271 := wl₁, toScan := _, toRoc := _ } v hv henv).reach

theorem removeBegin_driver :
    DriverKeep (clearInitialized W.toWl1271 v) (removeBegin W v env).toWl1271 :=
  (removeBegin_links (A := .any) W v trivial (offers_any _)).driver

theorem txResetBa_driver : (W.txResetBa v).toWl1271 = W.toWl1271 := by
  dsimp only [Wlcore.txResetBa]
  split
  · rfl
  · split <;> rfl

/-- The driver's part of `deinit`, on a vif that gave its indices back. -/
theorem removeDeinit_driver :
    ∃ w, forgetRates w = forgetRates (W.vifs v) ∧
      (W.removeDeinit v).toWl1271 = Driver.removeDeinit (W.toWl1271.setVif v fun _ => w) v := by
  obtain ⟨w, _, _, hw, heq⟩ := freeIndices_change v W
  refine ⟨w, hw, ?_⟩
  show Driver.removeDeinit ((W.freeIndices v).txResetBa v).toWl1271 v = _
  rw [txResetBa_driver, heq]

theorem removeDeinit_removed : Removed v W.toWl1271 (W.removeDeinit v).toWl1271 := by
  obtain ⟨w, -, hdriver⟩ := removeDeinit_driver W v
  obtain ⟨_, _, _, _, _, _, _, _, _, _, _, _, heq⟩ :=
    removeDeinit_frame (W.toWl1271.setVif v fun _ => w) v
  rw [hdriver, heq]
  refine ⟨.of_parts rfl rfl, rfl, fun u hu => ?_, fun u hu => ?_⟩
  · replace hu : (if W.lastWlvif = some v then none else W.lastWlvif) = some u := hu
    split_ifs at hu with hv
    exact ⟨fun huv => hv (huv ▸ hu), Or.inl hu⟩
  · simp [Wl1271.setVif, hu, VifSame.refl]

theorem removeSleepAuth_quiet (wl : Wl1271) (wasAp : Bool) (env : RemoveEnv) :
    Quiet wl (removeSleepAuth wl wasAp env) := by
  obtain ⟨ret, heq⟩ := removeSleepAuth_cmd wl wasAp env
  rw [heq]
  exact .cmdEffect wl ret

/-- What the steps on links, a store into the vif and taking it off the list keep, a removal
keeps. -/
theorem wl1271OpRemoveInterfaceLocked_induction {I : Wl1271 → Prop} {W : Wlcore} {v : VifId}
    {env : RemoveEnv} (hset : ∀ wl f, I wl → I (wl.setVif v f))
    (hreach : ∀ wl wl', LinkReach A wl wl' → I wl → I wl')
    (hunlist : ∀ wl vs last, I wl → I { wl with wlvifList := vs, lastWlvif := last })
    (hv : A.vif v) (henv : Offers A.frame env.stopDev.tx) (hinit : (W.vifs v).initialized = true)
    (hstate : W.state ≠ .off) (h : I W.toWl1271) :
    I (W.wl1271OpRemoveInterfaceLocked v env).toWl1271 := by
  have hbegin := hreach _ _ (removeBegin_links W v hv henv) (hset _ _ h)
  obtain ⟨w, -, hdriver⟩ := removeDeinit_driver (removeBegin W v env) v
  have hloop := hreach _ _ (txResetLoop_links hv _) (hset _ forgetRoles (hset _ (fun _ => w) hbegin))
  have hdeinit : I ((removeBegin W v env).removeDeinit v).toWl1271 := by
    rw [hdriver]
    exact hset _ (fun w => { w with staHlidMap := fun _ => false })
      (hunlist _ _ _ (hset _ (fun w => { w with lastTxHlid := 0 }) hloop))
  rw [wl1271OpRemoveInterfaceLocked_eq hinit hstate]
  exact hreach _ _ (.quiet (removeSleepAuth_quiet _ _ env)) hdeinit

theorem removeSleepAuth_last (wl : Wl1271) (wasAp : Bool) (env : RemoveEnv) :
    (removeSleepAuth wl wasAp env).lastWlvif = wl.lastWlvif := by
  obtain ⟨ret, heq⟩ := removeSleepAuth_cmd wl wasAp env
  rw [heq]
  cases ret <;> rfl

theorem wl1271OpRemoveInterfaceLocked_removed {W : Wlcore} {v : VifId}
    (hinit : (W.vifs v).initialized = true) (hstate : W.state ≠ .off) (env : RemoveEnv) :
    Removed v W.toWl1271 (W.wl1271OpRemoveInterfaceLocked v env).toWl1271 := by
  have hbegin := removeBegin_driver W v env
  have hdeinit := removeDeinit_removed (removeBegin W v env) v
  have hsleep := removeSleepAuth_keep ((removeBegin W v env).removeDeinit v).toWl1271
    (decide ((W.vifs v).bssType = .apBss)) env
  rw [wl1271OpRemoveInterfaceLocked_eq hinit hstate]
  refine ⟨?_, ?_, fun u hu => ?_, fun u hu => ?_⟩
  · exact (PowerKeep.setVif _ v _).trans
      (hbegin.power.trans (hdeinit.power.trans hsleep.powerKeep))
  · exact hsleep.wlvifList.trans (hdeinit.list.trans (congrArg (·.erase v) hbegin.list))
  · obtain ⟨huv, hu⟩ := hdeinit.last u ((removeSleepAuth_last _ _ env).symm.trans hu)
    refine ⟨huv, ?_⟩
    rcases hu with hu | hu
    · exact hbegin.last.listed hu
    · exact Or.inr (hbegin.list ▸ hu)
  · have hclear : (clearInitialized W.toWl1271 v).vifs u = W.vifs u := update_of_ne hu _ _
    have hkeep := hbegin.vif u
    rw [hclear] at hkeep
    exact hkeep.trans ((hdeinit.other u hu).trans (.of_keep (hsleep.vif u)))

end

/-- The vifs in `wlvif_list` are different and initialized. -/
structure Listed (W : Wlcore) : Prop where
  nodup : W.wlvifList.Nodup
  initialized : ∀ v ∈ W.wlvifList, (W.vifs v).initialized = true

/-- Exactly the vifs in `wlvif_list` are initialized. -/
structure Listing (W : Wlcore) : Prop extends Listed W where
  listed : ∀ v, (W.vifs v).initialized = true → v ∈ W.wlvifList

theorem Listing.of_same {W W' : Wlcore} (h : Listing W) (hlist : W'.wlvifList = W.wlvifList)
    (hinit : ∀ u, (W'.vifs u).initialized = (W.vifs u).initialized) : Listing W' := by
  refine ⟨⟨hlist ▸ h.nodup, fun v hv => ?_⟩, fun v hv => ?_⟩
  · rw [hinit]
    exact h.initialized v (hlist ▸ hv)
  · rw [hlist]
    exact h.listed v ((hinit v).symm.trans hv)

theorem Listing.of_driver {W W' : Wlcore} (h : Listing W)
    (hk : DriverKeep W.toWl1271 W'.toWl1271) : Listing W' :=
  h.of_same hk.list fun u => (hk.vif u).initialized

/-- The vif that is removed is not initialized any more. -/
theorem wl1271OpRemoveInterfaceLocked_gone {W : Wlcore} {v : VifId}
    (hinit : (W.vifs v).initialized = true) (hstate : W.state ≠ .off) (env : RemoveEnv) :
    ((W.wl1271OpRemoveInterfaceLocked v env).vifs v).initialized = false := by
  have hsleep := removeSleepAuth_keep ((removeBegin W v env).removeDeinit v).toWl1271
    (decide ((W.vifs v).bssType = .apBss)) env
  obtain ⟨w, hw, hdriver⟩ := removeDeinit_driver (removeBegin W v env) v
  obtain ⟨_, _, _, _, _, _, _, _, _, _, _, _, heq⟩ :=
    removeDeinit_frame ((removeBegin W v env).toWl1271.setVif v fun _ => w) v
  have hbegin : ((removeBegin W v env).vifs v).initialized = false :=
    ((removeBegin_driver W v env).vif v).initialized.trans (by simp [clearInitialized, Wl1271.setVif])
  have hforget : (forgetRoles w).initialized = w.initialized := by
    unfold forgetRoles
    split <;> rfl
  rw [wl1271OpRemoveInterfaceLocked_eq hinit hstate]
  refine (VifSame.of_keep (hsleep.vif v)).initialized.trans ?_
  rw [hdriver, heq]
  simp only [Wl1271.setVif, update_self, hforget]
  exact (congrArg (·.initialized) hw).trans hbegin

theorem Listing.remove {W : Wlcore} {v : VifId} (h : Listing W) (hv : v ∈ W.wlvifList)
    (hstate : W.state ≠ .off) (env : RemoveEnv) :
    Listing (W.wl1271OpRemoveInterfaceLocked v env) := by
  have hr := wl1271OpRemoveInterfaceLocked_removed (h.initialized v hv) hstate env
  have hgone := wl1271OpRemoveInterfaceLocked_gone (h.initialized v hv) hstate env
  refine ⟨⟨hr.list ▸ h.nodup.erase v, fun u hu => ?_⟩, fun u hu => ?_⟩
  · rw [hr.list] at hu
    obtain ⟨huv, hu⟩ := h.nodup.mem_erase_iff.mp hu
    rw [(hr.other u huv).initialized]
    exact h.initialized u hu
  · have huv : u ≠ v := by
      rintro rfl
      rw [hgone] at hu
      cases hu
    rw [hr.list]
    exact h.nodup.mem_erase_iff.mpr ⟨huv, h.listed u ((hr.other u huv).initialized.symm.trans hu)⟩

/-- What every removal keeps holds after the interfaces of a list are removed, and then they are
not listed any more. -/
theorem foldl_removeInterface {I : Wlcore → Prop} {env : VifId → RemoveEnv}
    (hstep : ∀ W v, I W → Listing W → v ∈ W.wlvifList → W.state ≠ .off →
      I (W.wl1271OpRemoveInterfaceLocked v (env v)))
    {l : List VifId} {W : Wlcore} (hl : l.Nodup)
    (hsub : ∀ v ∈ l, v ∈ W.wlvifList) (hin : I W) (hlisted : Listing W)
    (hstate : W.state ≠ .off) :
    I (l.foldl (fun W v => W.wl1271OpRemoveInterfaceLocked v (env v)) W) ∧
      (l.foldl (fun W v => W.wl1271OpRemoveInterfaceLocked v (env v)) W).state ≠ .off ∧
      Listing (l.foldl (fun W v => W.wl1271OpRemoveInterfaceLocked v (env v)) W) ∧
      ∀ u, u ∈ (l.foldl (fun W v => W.wl1271OpRemoveInterfaceLocked v (env v)) W).wlvifList →
        u ∈ W.wlvifList ∧ u ∉ l := by
  induction l generalizing W with
  | nil => exact ⟨hin, hstate, hlisted, fun u hu => ⟨hu, List.not_mem_nil⟩⟩
  | cons v l ih =>
    obtain ⟨hv, hl⟩ := List.nodup_cons.mp hl
    have hmem := hsub v (by simp)
    have hr := wl1271OpRemoveInterfaceLocked_removed (hlisted.initialized v hmem) hstate (env v)
    have hsub' : ∀ u ∈ l, u ∈ (W.wl1271OpRemoveInterfaceLocked v (env v)).wlvifList := by
      intro u hu
      rw [hr.list]
      refine hlisted.nodup.mem_erase_iff.mpr ⟨?_, hsub u (by simp [hu])⟩
      rintro rfl
      exact hv hu
    obtain ⟨hin', hstate', hlisted', hgone⟩ := ih hl hsub'
      (hstep W v hin hlisted hmem hstate) (hlisted.remove hmem hstate (env v))
      (hr.power.power.state_ne_off hstate)
    refine ⟨hin', hstate', hlisted', fun u hu => ?_⟩
    obtain ⟨hu, hul⟩ := hgone u hu
    rw [hr.list] at hu
    obtain ⟨huv, hu⟩ := hlisted.nodup.mem_erase_iff.mp hu
    exact ⟨hu, by simp [huv, hul]⟩

/-! ## Adding an interface -/

/-- What booting the firmware and initialising a vif keep. -/
structure AddKeep (W W' : Wlcore) : Prop where
  power : W.state ≠ .off → W.toPower.MayRecover W'.toPower
  list : W'.wlvifList = W.wlvifList
  last : LastKeep W.toVifLinks W'.toVifLinks
  vif : ∀ u, VifSame (W.vifs u) (W'.vifs u)
  indices : W'.toIndices = W.toIndices
  scan : W'.toScan = W.toScan
  roc : W'.toRoc = W.toRoc
  baBitmap : W'.baBitmap = W.baBitmap
  klv : ∀ u, (W'.ext u).klvTemplateId = (W.ext u).klvTemplateId
  baRxBitmap : ∀ u, (W'.ext u).baRxBitmap = (W.ext u).baRxBitmap

/-- What the commands of the new role do. If `counts`, they may set the count of block-ack sessions
to zero. -/
structure RoleKeep (A : LinkAssume) (counts : Bool) (W W' : Wlcore) : Prop where
  reach : LinkReach A W.toWl1271 W'.toWl1271
  indices : W'.toIndices = W.toIndices
  scan : W'.toScan = W.toScan
  roc : W'.toRoc = W.toRoc
  baBitmap : W'.baBitmap = W.baBitmap
  sessions : W'.fwBaSessions = W.fwBaSessions
  count : W'.baRxSessionCount = W.baRxSessionCount ∨ counts = true ∧ W'.baRxSessionCount = 0
  ext : ∀ u, (W'.ext u).klvTemplateId = (W.ext u).klvTemplateId ∧
    (W'.ext u).baRxBitmap = (W.ext u).baRxBitmap

namespace RoleKeep

variable {A : LinkAssume} {b : Bool} {W W' W'' : Wlcore}

theorem trans (h : RoleKeep A b W W') (h' : RoleKeep A b W' W'') : RoleKeep A b W W'' := by
  refine ⟨h.reach.trans h'.reach, h'.indices.trans h.indices, h'.scan.trans h.scan,
    h'.roc.trans h.roc, h'.baBitmap.trans h.baBitmap, h'.sessions.trans h.sessions, ?_,
    fun u => ⟨(h'.ext u).1.trans (h.ext u).1, (h'.ext u).2.trans (h.ext u).2⟩⟩
  rcases h'.count with hsame | hzero
  · rw [hsame]
    exact h.count
  · exact Or.inr hzero

theorem of_iface (h : IfaceKeep A W W') : RoleKeep A b W W' :=
  ⟨h.reach, h.indices, h.scan, h.roc, congrArg BlockAck.baBitmap h.blockAck,
    congrArg BlockAck.fwBaSessions h.blockAck,
    Or.inl (congrArg BlockAck.baRxSessionCount h.blockAck), fun u => (h.ext u).parts⟩

end RoleKeep

section
variable {A : LinkAssume} (W : Wlcore) (v : VifId)

theorem addInterfaceBoot_keep (attempts : List BootAttempt) :
    AddKeep W (W.addInterfaceBoot attempts).2 := by
  unfold Wlcore.addInterfaceBoot
  split
  · rename_i hoff
    have hboot := (initFwLoop_bootKeep (attempts.take 3) W.toWl1271).links
    refine ⟨fun hs => absurd hoff hs, congrArg VifLinks.wlvifList hboot,
      Or.inl (congrArg VifLinks.lastWlvif hboot), fun u => ?_, rfl, rfl, rfl, rfl, fun _ => rfl,
      fun _ => rfl⟩
    rw [show (({ W with fwBaSessions := [] } : Wlcore).ofDriver
      (wl12xxInitFw W.toWl1271 attempts)).2.vifs = W.vifs from congrArg VifLinks.vifs hboot]
    exact .refl _
  · exact ⟨fun _ => .refl _, rfl, .refl _, fun _ => .refl _, rfl, rfl, rfl, rfl, fun _ => rfl,
      fun _ => rfl⟩

theorem AddKeep.role {W W' W'' : Wlcore} {b : Bool} (h : AddKeep W W')
    (hr : RoleKeep .any b W' W'') : AddKeep W W'' := by
  have hk := hr.reach.driver
  exact ⟨fun hs => (h.power hs).trans hk.power.power, hk.list.trans h.list,
    h.last.trans hk.last h.list, fun u => (h.vif u).trans (hk.vif u), hr.indices.trans h.indices,
    hr.scan.trans h.scan, hr.roc.trans h.roc, hr.baBitmap.trans h.baBitmap,
    fun u => (hr.ext u).1.trans (h.klv u), fun u => (hr.ext u).2.trans (h.baRxBitmap u)⟩

theorem wl1271SetBaPolicies_keep (ret : CmdRet) :
    RoleKeep A true W (W.wl1271SetBaPolicies v ret).2 := by
  have hset (b : Bool) : RoleKeep A true W
      { W.setExt v fun e => { e with baAllowed := true, baSupport := b } with
        baRxSessionCount := 0 } := by
    refine ⟨.refl _, rfl, rfl, rfl, rfl, rfl, Or.inr ⟨rfl, rfl⟩, fun u => ?_⟩
    by_cases hu : u = v
    · subst hu
      simp [Wlcore.setExt]
    · simp [Wlcore.setExt, hu]
  dsimp only [Wlcore.wl1271SetBaPolicies]
  split
  · exact (hset _).trans (.of_iface (.sendCmd _ ret))
  · exact hset _

theorem wl1271InitVifSpecific_keep (env : Wlcore.AddEnv) :
    RoleKeep A true W (W.wl1271InitVifSpecific v env).2 := by
  have hinit : RoleKeep A true W (W.sendCmd env.initVif).2 := .of_iface (.sendCmd W env.initVif)
  unfold Wlcore.wl1271InitVifSpecific
  split <;> rename_i W₁ heq <;> rw [heq] at hinit
  · exact hinit
  · have hba := hinit.trans (wl1271SetBaPolicies_keep W₁ v env.baInitiator)
    split <;> rename_i heq' <;> rw [heq'] at hba
    · exact hba
    · exact hba.trans (.of_iface (.sendCmd _ env.hwInitVif))

theorem addInterfaceRole_keep (env : Wlcore.AddEnv) :
    RoleKeep A (!(W.vifs v).dummyP2p) W (W.addInterfaceRole v env).2 := by
  have henable (b : Bool) (r : Wlcore.RoleField) :
      RoleKeep A b W (W.wl12xxCmdRoleEnable v r env.roleEnable).2 :=
    .of_iface (wl12xxCmdRoleEnable_keep W v r env.roleEnable)
  unfold Wlcore.addInterfaceRole
  cases (W.vifs v).dummyP2p with
  | false =>
    have hrole := henable true .role
    rw [if_pos (by decide)]
    split <;> rename_i W₁ heq <;> rw [heq] at hrole
    · exact hrole
    · exact hrole.trans (wl1271InitVifSpecific_keep W₁ v env)
  | true =>
    have hdev := henable false .dev
    rw [if_neg (by decide)]
    split <;> rename_i heq <;> rw [heq] at hdev
    · exact hdev
    · exact hdev.trans (.of_iface (.sendCmd _ env.initVif))

/-- After `wl12xx_init_vif_data` the interface is listed, or something failed. Once the firmware
runs, the commands of the role follow. -/
theorem addInterfaceInit_cases (env : Wlcore.AddEnv) :
    ∃ W', AddKeep W W' ∧
      (∀ A, RoleKeep A (!(W.vifs v).dummyP2p) (W.addInterfaceBoot env.attempts).2 W') ∧
      (W.addInterfaceInit v env = (false, W') ∨
        W.addInterfaceInit v env = (true, W'.listInterface v)) := by
  have hboot := addInterfaceBoot_keep W env.attempts
  rw [← (hboot.vif v).dummyP2p]
  unfold Wlcore.addInterfaceInit
  split <;> rename_i W₁ heq <;> rw [heq] at hboot ⊢
  · exact ⟨W₁, hboot, fun _ => .of_iface (.refl W₁), Or.inl rfl⟩
  · have hrole (A : LinkAssume) := addInterfaceRole_keep (A := A) W₁ v env
    split <;> rename_i W₂ heq' <;> rw [heq'] at hrole
    · exact ⟨W₂, hboot.role (hrole .any), hrole, Or.inl rfl⟩
    · exact ⟨W₂, hboot.role (hrole .any), hrole, Or.inr rfl⟩

end

end TiWlan.Iface
