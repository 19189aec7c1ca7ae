import TiWlan.Iface.Frame

/-!
# The operations on the interface state

Every operation that neither adds nor removes an interface works on one part of the
interface state: the scan, the remain-on-channel period or the block-ack sessions.
`OpKeep A p` is what an operation on the part `p` does under the assumptions `A`; there is one
lemma per operation, and `step_reach` for all of them (`step_keep` without assumptions). A
recovery and a stop are taken apart by `step_induction` and
`wlcoreOpStopLocked_vifs`.
-/

namespace TiWlan.Iface

open TiWlan.Driver TiWlan.Link TiWlan.Tx
open Function (update update_of_ne update_self)

/-! ## The parts -/

/-- The parts of the interface state; `driver` is the state under all of them. -/
inductive Part
  | scan | roc | blockAck | driver
  deriving DecidableEq

/-- The block-ack sessions are the same. -/
structure BaKeep (W W' : Wlcore) : Prop where
  blockAck : W'.toBlockAck = W.toBlockAck
  bits : ∀ u, (W'.ext u).baRxBitmap = (W.ext u).baRxBitmap

/-- What an operation on the part `p` does: it takes atomic steps on the driver state and keeps the
other parts. -/
structure OpKeep (A : LinkAssume) (p : Part) (W W' : Wlcore) : Prop where
  reach : LinkReach A W.toWl1271 W'.toWl1271
  indices : W'.toIndices = W.toIndices
  klv : ∀ u, (W'.ext u).klvTemplateId = (W.ext u).klvTemplateId
  scan : p ≠ .scan → W'.toScan = W.toScan
  roc : p ≠ .roc → W'.toRoc = W.toRoc
  ba : p ≠ .blockAck → BaKeep W W'

namespace OpKeep

variable {A : LinkAssume} {p : Part} {W W' W'' : Wlcore}

theorem driver (h : OpKeep A p W W') : DriverKeep W.toWl1271 W'.toWl1271 := h.reach.driver

theorem refl (W : Wlcore) : OpKeep A p W W :=
  ⟨.refl _, rfl, fun _ => rfl, fun _ => rfl, fun _ => rfl, fun _ => ⟨rfl, fun _ => rfl⟩⟩

theorem trans (h : OpKeep A p W W') (h' : OpKeep A p W' W'') : OpKeep A p W W'' :=
  ⟨h.reach.trans h'.reach, h'.indices.trans h.indices, fun u => (h'.klv u).trans (h.klv u),
    fun hp => (h'.scan hp).trans (h.scan hp), fun hp => (h'.roc hp).trans (h.roc hp),
    fun hp => ⟨(h'.ba hp).blockAck.trans (h.ba hp).blockAck,
      fun u => ((h'.ba hp).bits u).trans ((h.ba hp).bits u)⟩⟩

theorem of_iface (h : IfaceKeep A W W') : OpKeep A p W W' :=
  ⟨h.reach, h.indices, fun u => (h.ext u).parts.1, fun _ => h.scan, fun _ => h.roc,
    fun _ => ⟨h.blockAck, fun u => (h.ext u).parts.2⟩⟩

/-- The scan changes together with the driver state. -/
theorem of_scan (hd : LinkReach A W.toWl1271 W'.toWl1271) (hi : W'.toIndices = W.toIndices)
    (hr : W'.toRoc = W.toRoc) (hb : W'.toBlockAck = W.toBlockAck) (he : W'.ext = W.ext) :
    OpKeep A .scan W W' :=
  ⟨hd, hi, fun u => by rw [he], fun hp => absurd rfl hp, fun _ => hr,
    fun _ => ⟨hb, fun u => by rw [he]⟩⟩

/-- After an operation on the scan, the scan may change once more. -/
theorem setScan (h : OpKeep A .scan W W') (r : Scan) : OpKeep A .scan W { W' with toScan := r } :=
  ⟨h.reach, h.indices, h.klv, fun hp => absurd rfl hp, h.roc,
    fun hp => ⟨(h.ba hp).blockAck, (h.ba hp).bits⟩⟩

/-- The remain-on-channel period changes, and nothing else. -/
theorem setRoc (W : Wlcore) (r : Roc) : OpKeep A .roc W { W with toRoc := r } :=
  ⟨.refl _, rfl, fun _ => rfl, fun _ => rfl, fun hp => absurd rfl hp,
    fun _ => ⟨rfl, fun _ => rfl⟩⟩

/-- The block-ack sessions change together with the driver state. -/
theorem of_ba (hd : LinkReach A W.toWl1271 W'.toWl1271) (hi : W'.toIndices = W.toIndices)
    (hk : ∀ u, (W'.ext u).klvTemplateId = (W.ext u).klvTemplateId) (hs : W'.toScan = W.toScan)
    (hr : W'.toRoc = W.toRoc) : OpKeep A .blockAck W W' :=
  ⟨hd, hi, hk, fun _ => hs, fun _ => hr, fun hp => absurd rfl hp⟩

end OpKeep

/-! ## Adding an interface -/

/-- `wl1271_op_add_interface` gets as far as `wl12xx_init_vif_data`. -/
def ReachesInit (W : Wlcore) (v : VifId) (env : Wlcore.AddEnv) : Prop :=
  env.elpOk = true ∧ W.recoveryInProgress = false ∧ (W.vifs v).initialized = false

instance (W : Wlcore) (v : VifId) (env : Wlcore.AddEnv) : Decidable (ReachesInit W v env) := by
  unfold ReachesInit
  infer_instance

section
variable {v : VifId} {W : Wlcore} {dummyP2p : Bool} {env : Wlcore.AddEnv}

theorem wl1271OpAddInterface_of_not (A : LinkAssume) (h : ¬ ReachesInit W v env)
    (type : Option BssType) : (W.wl1271OpAddInterface v type dummyP2p env).1 = false ∧
      IfaceKeep A W (W.wl1271OpAddInterface v type dummyP2p env).2 := by
  unfold Wlcore.wl1271OpAddInterface
  split_ifs with help hbusy
  · exact ⟨rfl, .queueRecovery W⟩
  · exact ⟨rfl, .refl W⟩
  · refine absurd ⟨by simpa using help, ?_⟩ h
    simpa using hbusy

theorem wl1271OpAddInterface_unsupported (h : ReachesInit W v env) :
    W.wl1271OpAddInterface v none dummyP2p env = (false, W.zeroUnsupported v dummyP2p) := by
  unfold Wlcore.wl1271OpAddInterface
  rw [if_neg (by simp [h.1]), if_neg (by simp [h.2.1, h.2.2])]
  rfl

theorem wl1271OpAddInterface_some (h : ReachesInit W v env) (b : BssType) :
    W.wl1271OpAddInterface v (some b) dummyP2p env =
      ((W.clearVif v b dummyP2p).allocateIndices v b).addInterfaceInit v env := by
  unfold Wlcore.wl1271OpAddInterface
  rw [if_neg (by simp [h.1]), if_neg (by simp [h.2.1, h.2.2])]
  rfl

/-- A vif that is not initialized and has no links. -/
structure Fresh (w : Wl12xxVif) : Prop where
  initialized : w.initialized = false
  role : ∀ r, w.roleHlid r = none
  sta : ∀ h, w.staHlidMap h = false
  links : ∀ h, w.linksMap h = false

/-- What `wl12xx_init_vif_data` leaves of the other parts when the type is supported. -/
structure InitParts (v : VifId) (dummyP2p : Bool) (W W' : Wlcore) : Prop where
  conf : W'.toConf = W.toConf
  power : W'.toPower = W.toPower
  queues : W'.toTxQueues = W.toTxQueues
  acct : W'.toTxAccounting = W.toTxAccounting
  links : W'.linksMap = W.linksMap
  scan : W'.toScan = W.toScan
  roc : W'.toRoc = W.toRoc
  blockAck : W'.toBlockAck = W.toBlockAck
  bits : (W'.ext v).baRxBitmap = fun _ => false
  other : ∀ u, u ≠ v → (W'.ext u).baRxBitmap = (W.ext u).baRxBitmap
  dummyP2p : (W'.vifs v).dummyP2p = dummyP2p
  fresh : Fresh (W'.vifs v)
  list : W'.wlvifList = W.wlvifList
  last : W'.lastWlvif = W.lastWlvif
  vif : ∀ u, u ≠ v → W'.vifs u = W.vifs u

theorem Fresh.of_rates {w w' : Wl12xxVif} (h : Fresh w) (hw : forgetRates w' = forgetRates w) :
    Fresh w' := by
  refine ⟨(congrArg (·.initialized) hw).trans h.initialized, fun r => ?_, fun a => ?_, fun a => ?_⟩
  · have hrole := h.role r
    cases r
    · exact (congrArg (·.devHlid) hw).trans hrole
    · exact (congrArg (·.staHlid) hw).trans hrole
    · exact (congrArg (·.apGlobalHlid) hw).trans hrole
    · exact (congrArg (·.apBcastHlid) hw).trans hrole
  · exact (congrFun (congrArg (·.staHlidMap) hw) a).trans (h.sta a)
  · exact (congrFun (congrArg (·.linksMap) hw) a).trans (h.links a)

theorem initVifData_parts (W : Wlcore) (v : VifId) (b : BssType) (dummyP2p : Bool) :
    InitParts v dummyP2p W ((W.clearVif v b dummyP2p).allocateIndices v b) := by
  obtain ⟨w, i, k, hw, heq⟩ := allocateIndices_change v (W.clearVif v b dummyP2p) b
  have hself (f : VifId → Wl12xxVif) (w : Wl12xxVif) : update f v w v = w :=
    update_self _ _ _
  have hclear : Fresh ((W.clearVif v b dummyP2p).vifs v) ∧
      ((W.clearVif v b dummyP2p).vifs v).dummyP2p = dummyP2p := by
    simp only [Wlcore.clearVif, Wlcore.onDriver, Wl1271.setVif, Driver.wl12xxInitVifData, hself]
    exact ⟨⟨rfl, fun r => by cases r <;> rfl, fun _ => rfl, fun _ => rfl⟩, trivial⟩
  rw [heq]
  refine ⟨rfl, rfl, rfl, rfl, rfl, rfl, rfl, rfl, ?_, fun u hu => ?_, ?_, ?_, rfl, rfl,
    fun u hu => ?_⟩
  · simp [Wlcore.clearVif, Wlcore.onDriver, Wlcore.setExt, Wlcore.zeroExt]
  · simp [Wlcore.clearVif, Wlcore.onDriver, Wlcore.setExt, hu]
  · simp only [Wl1271.setVif, hself]
    exact (congrArg (·.dummyP2p) hw).trans hclear.2
  · simp only [Wl1271.setVif, hself]
    exact hclear.1.of_rates hw
  · exact (update_of_ne hu _ _).trans
      ((update_of_ne hu _ _).trans (update_of_ne hu _ _))

/-- An addition after `wl12xx_init_vif_data`. -/
structure AddInit (v : VifId) (type : Option BssType) (dummyP2p : Bool) (env : Wlcore.AddEnv)
    (W W₁ W₂ : Wlcore) : Prop where
  supported : type.isSome = true
  reaches : ReachesInit W v env
  init : InitParts v dummyP2p W W₁
  keep : AddKeep W₁ W₂
  role : ∀ A, RoleKeep A (!dummyP2p) (W₁.addInterfaceBoot env.attempts).2 W₂

/-- The ways through `wl1271_op_add_interface`: it returns early, the type is not supported, or the
vif is initialized and, unless that fails, listed. -/
theorem wl1271OpAddInterface_induction {W : Wlcore} {v : VifId} {type : Option BssType}
    {dummyP2p : Bool} {env : Wlcore.AddEnv} {I : Wlcore → Prop}
    (hearly : ∀ W', (∀ A, IfaceKeep A W W') → I W')
    (hunsupported : ReachesInit W v env → I (W.zeroUnsupported v dummyP2p))
    (hinit : ∀ W₁ W₂, AddInit v type dummyP2p env W W₁ W₂ → I W₂)
    (hlist : ∀ W₁ W₂, AddInit v type dummyP2p env W W₁ W₂ → I W₂ → I (W₂.listInterface v)) :
    I (W.wl1271OpAddInterface v type dummyP2p env).2 := by
  by_cases hr : ReachesInit W v env
  · cases type with
    | none =>
      rw [wl1271OpAddInterface_unsupported hr]
      exact hunsupported hr
    | some b =>
      rw [wl1271OpAddInterface_some hr]
      have hparts := initVifData_parts W v b dummyP2p
      obtain ⟨W', hk, hrole, hcase⟩ :=
        addInterfaceInit_cases ((W.clearVif v b dummyP2p).allocateIndices v b) v env
      rw [hparts.dummyP2p] at hrole
      have hi : AddInit v (some b) dummyP2p env W _ W' := ⟨rfl, hr, hparts, hk, hrole⟩
      rcases hcase with hcase | hcase <;> rw [hcase]
      · exact hinit _ _ hi
      · exact hlist _ _ hi (hinit _ _ hi)
  · exact hearly _ fun A => (wl1271OpAddInterface_of_not A hr type).2

theorem AddInit.list {type : Option BssType} {W W₁ W₂ : Wlcore}
    (h : AddInit v type dummyP2p env W W₁ W₂) :
    W₂.wlvifList = W.wlvifList := h.keep.list.trans h.init.list

theorem Listed.not_mem {v : VifId} {W : Wlcore} {env : Wlcore.AddEnv} (h : Listed W)
    (hr : ReachesInit W v env) : v ∉ W.wlvifList := by
  intro hmem
  have hinit := hr.2.2
  rw [h.initialized v hmem] at hinit
  cases hinit

/-- A vif changes that is not listed. -/
theorem Listing.of_other {v : VifId} {W W' : Wlcore} (h : Listing W) (hv : v ∉ W.wlvifList)
    (hlist : W'.wlvifList = W.wlvifList) (hself : (W'.vifs v).initialized = false)
    (hvif : ∀ u, u ≠ v → (W'.vifs u).initialized = (W.vifs u).initialized) : Listing W' := by
  refine h.of_same hlist fun u => ?_
  by_cases hu : u = v
  · rw [hu, hself]
    exact (Bool.eq_false_iff.mpr fun hinit => hv (h.listed v hinit)).symm
  · exact hvif u hu

theorem Listing.listInterface {v : VifId} {W : Wlcore} (h : Listing W) (hv : v ∉ W.wlvifList) :
    Listing (W.listInterface v) := by
  have hother {u : VifId} (hu : u ≠ v) : (W.listInterface v).vifs u = W.vifs u :=
    update_of_ne hu _ _
  have hself : (W.listInterface v).vifs v = { W.vifs v with initialized := true } :=
    update_self _ _ _
  refine ⟨⟨List.nodup_cons.mpr ⟨hv, h.nodup⟩, fun u hu => ?_⟩, fun u hu => ?_⟩
  · by_cases huv : u = v
    · rw [huv, hself]
    · rw [hother huv]
      exact h.initialized u ((List.mem_cons.mp hu).resolve_left huv)
  · by_cases huv : u = v
    · exact huv ▸ List.mem_cons_self
    · rw [hother huv] at hu
      exact List.mem_cons_of_mem v (h.listed u hu)

theorem Listing.addInterface {W : Wlcore} (h : Listing W) (v : VifId) (type : Option BssType)
    (dummyP2p : Bool) (env : Wlcore.AddEnv) :
    Listing (W.wl1271OpAddInterface v type dummyP2p env).2 := by
  refine wl1271OpAddInterface_induction (fun _ hk => h.of_driver (hk .any).driver) (fun hr => ?_)
    (fun W₁ W₂ hi => ?_) fun _ _ hi h₂ => h₂.listInterface (hi.list ▸ h.not_mem hi.reaches)
  · refine h.of_other (h.not_mem hr) rfl ?_ fun u hu => ?_
    · show (update W.vifs v _ v).initialized = false
      rw [update_self]
      rfl
    · exact congrArg Wl12xxVif.initialized (update_of_ne hu _ _)
  · refine h.of_other (h.not_mem hi.reaches) hi.list ?_ fun u hu => ?_
    · exact (hi.keep.vif v).initialized.trans hi.init.fresh.initialized
    · rw [(hi.keep.vif u).initialized, hi.init.vif u hu]

/-- What an addition does to the other parts. -/
structure Added (W W' : Wlcore) : Prop where
  scan : W'.toScan = W.toScan
  roc : W'.toRoc = W.toRoc
  power : W.state ≠ .off → W.toPower.MayRecover W'.toPower
  list : ∀ u ∈ W.wlvifList, u ∈ W'.wlvifList

/-- An addition concerns neither the scan nor the remain-on-channel period. -/
theorem wl1271OpAddInterface_added (W : Wlcore) (v : VifId) (type : Option BssType)
    (dummyP2p : Bool) (env : Wlcore.AddEnv) :
    Added W (W.wl1271OpAddInterface v type dummyP2p env).2 := by
  refine wl1271OpAddInterface_induction (fun W' hk => ?_)
    (fun _ => ⟨rfl, rfl, fun _ => .refl _, fun _ hu => hu⟩) (fun W₁ W₂ hi => ?_)
    fun _ _ _ h => ⟨h.scan, h.roc, h.power, fun u hu => List.mem_cons_of_mem v (h.list u hu)⟩
  · have hk := hk .any
    exact ⟨hk.scan, hk.roc, fun _ => hk.driver.power.power, fun u hu => hk.driver.list ▸ hu⟩
  · refine ⟨hi.keep.scan.trans hi.init.scan, hi.keep.roc.trans hi.init.roc, fun hs => ?_,
      fun u hu => hi.list ▸ hu⟩
    rw [← hi.init.power] at hs ⊢
    exact hi.keep.power hs

end

/-! ## Removing an interface -/

section
variable (W : Wlcore) (v : VifId) (env : RemoveEnv)

/-- Giving the indices back concerns no other part. -/
theorem freeIndices_parts : (W.freeIndices v).toScan = W.toScan ∧
    (W.freeIndices v).toRoc = W.toRoc ∧ BaKeep W (W.freeIndices v) := by
  obtain ⟨w, i, k, -, heq⟩ := freeIndices_change v W
  rw [heq]
  refine ⟨rfl, rfl, rfl, fun u => ?_⟩
  by_cases hu : u = v
  · subst hu
    simp
  · simp [hu]

/-- The steps before `deinit` end the scan and the remain-on-channel period of the vif. -/
theorem removeBegin_parts : (removeBegin W v env).toScan = (W.removeScan v).toScan ∧
    (removeBegin W v env).toRoc = (W.removeRoc v).toRoc ∧ BaKeep W (removeBegin W v env) := by
  obtain ⟨wl₁, -, heq⟩ := removeStart_eq W v
  unfold removeBegin
  rw [heq]
  have hroles := removeDisableRoles_keep (A := .any) { W with
    toWl1271 := wl₁, toScan := (W.removeScan v).toScan, toRoc := (W.removeRoc v).toRoc } v trivial
    (offers_any env.stopDev.tx)
  have hba := (OpKeep.of_iface (A := .any) (p := .driver) hroles).ba (by decide)
  exact ⟨hroles.scan, hroles.roc, hba.blockAck, hba.bits⟩

/-- The end of a removal keeps the scan and the remain-on-channel period. -/
theorem removeDeinit_parts (W : Wlcore) (v : VifId) :
    (W.removeDeinit v).toScan = W.toScan ∧ (W.removeDeinit v).toRoc = W.toRoc := by
  obtain ⟨hscan, hroc, -⟩ := freeIndices_parts W v
  unfold Wlcore.removeDeinit
  generalize W.freeIndices v = W₁ at hscan hroc ⊢
  have hreset : (W₁.txResetBa v).toScan = W₁.toScan ∧ (W₁.txResetBa v).toRoc = W₁.toRoc := by
    dsimp only [Wlcore.txResetBa]
    split
    · exact ⟨rfl, rfl⟩
    · split <;> exact ⟨rfl, rfl⟩
  exact ⟨hreset.1.trans hscan, hreset.2.trans hroc⟩

/-- What a removal does to the scan and to the remain-on-channel period. -/
theorem wl1271OpRemoveInterfaceLocked_parts {W : Wlcore} {v : VifId}
    (hinit : (W.vifs v).initialized = true) (hstate : W.state ≠ .off) (env : RemoveEnv) :
    (W.wl1271OpRemoveInterfaceLocked v env).toScan = (W.removeScan v).toScan ∧
      (W.wl1271OpRemoveInterfaceLocked v env).toRoc = (W.removeRoc v).toRoc := by
  obtain ⟨hscan, hroc, -⟩ := removeBegin_parts W v env
  obtain ⟨hscan', hroc'⟩ := removeDeinit_parts (removeBegin W v env) v
  rw [wl1271OpRemoveInterfaceLocked_eq hinit hstate]
  generalize (removeBegin W v env).removeDeinit v = W₁ at hscan' hroc' ⊢
  exact ⟨hscan'.trans hscan, hroc'.trans hroc⟩

end

/-- The vifs, the queues, the accounting and the state are the same. -/
structure QuietKeep (wl wl' : Wl1271) : Prop where
  conf : wl'.toConf = wl.toConf
  links : wl'.toVifLinks = wl.toVifLinks
  queues : wl'.toTxQueues = wl.toTxQueues
  acct : wl'.toTxAccounting = wl.toTxAccounting
  state : wl'.state = wl.state

/-- What holds after `wl1271_op_remove_interface`: what the removal keeps, and the recovery that it
may queue. -/
theorem wl1271OpRemoveInterface_induction {I : Wlcore → Prop} {W : Wlcore} {v : VifId}
    {env : RemoveEnv} (hin : I W)
    (hremove : v ∈ W.wlvifList → W.state ≠ .off → I (W.wl1271OpRemoveInterfaceLocked v env))
    (hquiet : ∀ W wl, I W → QuietKeep W.toWl1271 wl → I { W with toWl1271 := wl })
    (hrecovery : ∀ W : Wlcore, I W → I W.queueRecovery) (needFwChange : Bool) :
    I (W.wl1271OpRemoveInterface v env needFwChange) := by
  dsimp only [Wlcore.wl1271OpRemoveInterface]
  split
  · exact hin
  · rename_i hoff
    have hlocked : I (if v ∈ W.wlvifList then W.wl1271OpRemoveInterfaceLocked v env else W) := by
      split
      · rename_i hv
        exact hremove hv (not_or.mp hoff).1
      · exact hin
    generalize (if v ∈ W.wlvifList then W.wl1271OpRemoveInterfaceLocked v env else W) = W₁
      at hlocked ⊢
    split
    · exact hrecovery _ (hquiet W₁ { W₁.toWl1271 with intendedFwRecovery := true } hlocked
        ⟨rfl, rfl, rfl, rfl, rfl⟩)
    · exact hlocked

/-! ## Roles, stations and sessions -/

section
variable {A : LinkAssume} (W : Wlcore) (v : VifId)

/-- Calls on a running device that wakes up. -/
theorem whenAwake_cases (elpOk : Bool) (f : Wlcore → Wlcore) :
    W.whenAwake elpOk f = W ∨ W.whenAwake elpOk f = W.queueRecovery ∨
      (W.state = .on ∧ W.whenAwake elpOk f = f W) := by
  unfold Wlcore.whenAwake
  split_ifs with hstate help
  · exact Or.inl rfl
  · exact Or.inr (Or.inl rfl)
  · exact Or.inr (Or.inr ⟨not_not.mp hstate, rfl⟩)

theorem wl1271OpBssInfoChanged_keep (hv : (W.vifs v).initialized = true → A.vif v) (elpOk : Bool)
    (sta : Wlcore.StaRole) {ap : BssInfoAp} 
    (hfree : (W.vifs v).bssType = .apBss → StartsFree A (W.vifs v) ap) :
    IfaceKeep A W (W.wl1271OpBssInfoChanged v elpOk sta ap) := by
  unfold Wlcore.wl1271OpBssInfoChanged
  split
  · exact .refl W
  · rename_i hinit
    have hv := hv (by simpa using (not_or.mp hinit).2)
    rcases whenAwake_cases W elpOk fun W => W.onDriver fun wl =>
      if (wl.vifs v).bssType = .apBss then wl1271BssInfoChangedAp wl v ap
      else Wlcore.changeStaRole wl v sta with h | h | ⟨-, h⟩
    · rw [h]
      exact .refl W
    · rw [h]
      exact .queueRecovery W
    · rw [h]
      refine .of_driver ?_
      dsimp only
      split
      · rename_i hap
        exact wl1271BssInfoChangedAp_links hv _ (hfree hap)
      · exact changeStaRole_links hv _ sta

theorem wl1271FreeSta_keep (hv : A.vif v) (h : Hlid) : OpKeep A .blockAck W (W.wl1271FreeSta v h) := by
  unfold Wlcore.wl1271FreeSta
  split
  · exact .refl W
  · exact .of_ba (.single (.freeSta hv h)) rfl (fun _ => rfl) rfl rfl

theorem wl12xxStaAdd_keep (hv : A.vif v) (addPeer : CmdRet) :
    OpKeep A .blockAck W (W.wl12xxStaAdd v addPeer) := by
  unfold Wlcore.wl12xxStaAdd
  split <;> rename_i wl heq
  · rw [wl1271AllocateSta_none heq]
    exact .refl W
  · have halloc : LinkReach A W.toWl1271 wl := .single (.addSta hv heq)
    split
    · exact .of_iface (.of_driver halloc)
    · refine OpKeep.trans ?_ (wl1271FreeSta_keep _ v hv _)
      exact .of_iface (.of_driver (halloc.trans (.cmdEffect _ _)))

theorem wl12xxStaRemove_keep (hv : A.vif v) (h : Hlid) (removePeer : CmdRet) :
    OpKeep A .blockAck W (W.wl12xxStaRemove v h removePeer) := by
  unfold Wlcore.wl12xxStaRemove
  split_ifs
  · exact .refl W
  · exact wl1271FreeSta_keep W v hv h
  · exact .of_iface (.sendCmd W _)

theorem wl12xxOpStaState_keep (hv : A.vif v) (elpOk : Bool) (change : Wlcore.StaState) :
    OpKeep A .blockAck W (W.wl12xxOpStaState v elpOk change) := by
  unfold Wlcore.wl12xxOpStaState Wlcore.whenAwake
  split_ifs
  · exact .refl W
  · exact .refl W
  · exact .of_iface (.queueRecovery W)
  · dsimp only
    split
    · exact .refl W
    · cases change with
      | add ret => exact wl12xxStaAdd_keep W v hv ret
      | remove h ret => exact wl12xxStaRemove_keep W v hv h ret

theorem setBaBit_keep (o : BaOwner) (tid : ℕ) (b : Bool) :
    OpKeep A .blockAck W (W.setBaBit o tid b) := by
  unfold Wlcore.setBaBit
  split
  · cases o with
    | link l => exact .of_ba (.refl _) rfl (fun _ => rfl) rfl rfl
    | staVif u =>
      refine .of_ba (.refl _) rfl (fun u' => ?_) rfl rfl
      by_cases hu : u' = u
      · subst hu
        simp [Wlcore.setExt]
      · simp [Wlcore.setExt, hu]
  · exact .refl W

theorem wl1271OpAmpduAction_keep (action : Wlcore.AmpduAction) (h : Hlid) (tid : ℕ)
    (env : Wlcore.AmpduEnv) : OpKeep A .blockAck W (W.wl1271OpAmpduAction v action h tid env) := by
  have hset (o : BaOwner) (b : Bool) (n : ℤ) (l : List (BaOwner × ℕ)) :
      OpKeep A .blockAck W { W.setBaBit o tid b with baRxSessionCount := n, fwBaSessions := l } := by
    have hbit := setBaBit_keep (A := A) W o tid b
    exact .of_ba hbit.reach hbit.indices hbit.klv (hbit.scan (by decide)) (hbit.roc (by decide))
  have hcmd : OpKeep A .blockAck W (W.sendCmd env.session).2 := .of_iface (.sendCmd W _)
  unfold Wlcore.wl1271OpAmpduAction
  split
  · exact .refl W
  · split
    · exact .refl W
    · split
      · exact .refl W
      · split
        · exact .of_iface (.queueRecovery W)
        · cases action with
          | rxStart =>
            dsimp only [Wlcore.ampduRxStart]
            split_ifs
            all_goals first | exact .refl W | exact hcmd | exact hset _ _ _ _
          | rxStop =>
            dsimp only [Wlcore.ampduRxStop]
            split_ifs
            all_goals first | exact .refl W | exact hcmd | exact hset _ _ _ _
          | other => exact .refl W

/-! ### Scan -/

theorem completeScan_keep (aborted : Bool) : OpKeep A .scan W (W.completeScan aborted) :=
  .of_scan (.rearm _) rfl rfl rfl rfl

theorem wl1271OpHwScan_keep (env : Wlcore.ScanEnv) : OpKeep A .scan W (W.wl1271OpHwScan v env) := by
  unfold Wlcore.wl1271OpHwScan Wlcore.wl1271Scan
  split_ifs
  · exact .refl W
  · exact .of_iface (.queueRecovery W)
  · exact .refl W
  · exact .refl W
  · exact .of_scan (.cmdEffect _ _) rfl rfl rfl rfl

theorem scanCompleteNotify_keep (scanVif : Option VifId) (env : Wlcore.ScanEnv) :
    OpKeep A .scan W (W.scanCompleteNotify scanVif env) := by
  have hcmd : OpKeep A .scan W (W.onDriver fun wl => cmdEffect wl env.cmd) := .of_iface (.sendCmd W _)
  have hlog (W' : Wlcore) (h : OpKeep A .scan W W') (l : List ScanEvent) :
      OpKeep A .scan W { W' with scanLog := l } := h.setScan _
  dsimp only [Wlcore.scanCompleteNotify]
  split_ifs
  · exact .of_iface (.queueRecovery W)
  · exact hlog _ (hcmd.trans (.of_iface (.queueRecovery _))) _
  · exact hlog _ hcmd _
  · exact hlog _ (.of_iface (.queueRecovery W)) _
  · exact hlog _ (.refl W) _

theorem wl1271ScanCompleteWork_keep (env : Wlcore.ScanEnv) :
    OpKeep A .scan W (W.wl1271ScanCompleteWork env) := by
  have hidle : OpKeep A .scan W
      { ({ W with scanWorkPending := false } : Wlcore).onDriver wl12xxRearmTxWatchdogLocked with
        scanState := .idle, scanVif := none } := .of_scan (.rearm _) rfl rfl rfl rfl
  dsimp only [Wlcore.wl1271ScanCompleteWork]
  split_ifs
  · exact .refl W
  · exact .of_scan (.refl _) rfl rfl rfl rfl
  · exact hidle.trans (scanCompleteNotify_keep _ _ env)

theorem wl1271OpCancelHwScan_keep (env : Wlcore.ScanEnv) :
    OpKeep A .scan W (W.wl1271OpCancelHwScan env) := by
  have hlocked : OpKeep A .scan W (W.cancelHwScanLocked env) := by
    unfold Wlcore.cancelHwScanLocked
    split_ifs
    · exact .refl W
    · exact .of_iface (.queueRecovery W)
    · exact .of_iface (.sendCmd W _)
    · exact completeScan_keep W true
  exact hlocked.setScan _

/-! ### Remain on channel -/

theorem wl12xxOpRemainOnChannel_keep (hv : A.vif v) (duration : ℕ) (elpOk : Bool)
    (env : Wlcore.StartDevEnv) :
    OpKeep A .roc W (W.wl12xxOpRemainOnChannel v duration elpOk env) := by
  have hstart : OpKeep A .roc W (W.wl12xxStartDev v env).2 := .of_iface (wl12xxStartDev_keep W v hv env)
  unfold Wlcore.wl12xxOpRemainOnChannel
  split_ifs
  · exact .refl W
  · exact .refl W
  · exact .refl W
  · exact .of_iface (.queueRecovery W)
  · split <;> rename_i heq <;> rw [heq] at hstart
    · exact hstart
    · exact hstart.trans (.setRoc _ _)

/-- The remain-on-channel period ends for a vif as assumed. -/
structure RocAssumed (A : LinkAssume) (W : Wlcore) (env : Wlcore.RocEnv) : Prop where
  vif : ∀ u, W.rocVif = some u → (W.vifs u).initialized = true → A.vif u
  stopDev : Offers A.frame env.stopDev.tx

theorem wlcoreRocCompleted_keep {env : Wlcore.RocEnv} (henv : RocAssumed A W env) :
    OpKeep A .roc W (W.wlcoreRocCompleted env).2 := by
  unfold Wlcore.wlcoreRocCompleted Wlcore.rocCompletedLocked
  split_ifs
  · exact .refl W
  · exact .of_iface (.queueRecovery W)
  · split
    · exact .refl W
    · rename_i u hu
      split
      · exact .refl W
      · rename_i hinit
        have hstop : OpKeep A .roc W (W.wl12xxStopDev u env.stopDev).2 :=
          .of_iface (wl12xxStopDev_keep W u (henv.vif u hu (by simpa using hinit)) henv.stopDev)
        split <;> rename_i heq <;> rw [heq] at hstop
        · exact hstop
        · exact hstop.trans (.setRoc _ _)

theorem wl1271RocCompleteWork_keep {env : Wlcore.RocEnv} (henv : RocAssumed A W env) :
    OpKeep A .roc W (W.wl1271RocCompleteWork env) := by
  have hwork : OpKeep A .roc W { W with rocWorkDue := none } := .setRoc W _
  have hdone := hwork.trans (wlcoreRocCompleted_keep _ ⟨henv.vif, henv.stopDev⟩)
  unfold Wlcore.wl1271RocCompleteWork
  split
  · split <;> rename_i heq <;> rw [heq] at hdone
    · exact hdone.trans (.setRoc _ _)
    · exact hdone
  · exact .refl W

theorem wl12xxOpCancelRemainOnChannel_keep {env : Wlcore.RocEnv} (henv : RocAssumed A W env)
    (hpolls : ∀ p ∈ env.polls, Offers A.frame p.2) :
    OpKeep A .roc W (W.wl12xxOpCancelRemainOnChannel env) := by
  have hlinks := wl1271TxFlush_links W.toWl1271 hpolls env.flushTimedOut
  have hflush : OpKeep A .roc W (W.onDriver fun wl => wl1271TxFlush wl env.polls env.flushTimedOut) :=
    .of_iface (.of_driver hlinks)
  refine hflush.trans ((OpKeep.setRoc _ _).trans (wlcoreRocCompleted_keep _ ⟨?_, henv.stopDev⟩))
  intro u hu hinit
  refine henv.vif u hu ?_
  rw [← (hlinks.driver.vif u).initialized]
  exact hinit

theorem wl12xxTxWatchdogWork_keep : IfaceKeep A W W.wl12xxTxWatchdogWork := by
  -- a watchdog that fires and is armed again has been pending all the time
  have hagain (hp : W.txWatchdogPending = true) (ha : W.txAllocatedBlocks ≠ 0) :
      LinkReach A W.toWl1271
        (wl12xxRearmTxWatchdogLocked { W.toWl1271 with txWatchdogPending := false }) := by
    have hsame : wl12xxRearmTxWatchdogLocked { W.toWl1271 with txWatchdogPending := false } =
        wl12xxRearmTxWatchdogLocked W.toWl1271 := by
      simp [wl12xxRearmTxWatchdogLocked, hp, ha]
    rw [hsame]
    exact .rearm _
  -- a recovery that is queued leaves nothing to watch
  have hrecovery : LinkReach A W.toWl1271
      (wl12xxQueueRecoveryWork { W.toWl1271 with txWatchdogPending := false }) := by
    refine (LinkReach.queueRecovery W.toWl1271).trans (.single (.fire (Or.inl ?_)))
    exact W.toPower.queueRecoveryWork_not_on
  dsimp only [Wlcore.wl12xxTxWatchdogWork]
  split_ifs with hp hidle
  · exact .refl W
  · exact .of_driver (.single (.fire hidle))
  all_goals
    have hp : W.txWatchdogPending = true := by simpa using hp
    have ha : W.txAllocatedBlocks ≠ 0 := (not_or.mp hidle).2
    first
      | exact .of_driver (hagain hp ha)
      | exact .of_driver hrecovery

/-! ### One operation -/

/-- The part an operation works on, if it neither adds nor removes interfaces. -/
def opPart : Wlcore.Op → Option Part
  | .addInterface .. | .removeInterface .. | .recoveryWork .. | .stop => none
  | .staState .. | .ampduAction .. => some .blockAck
  | .hwScan .. | .scanCompleteEvent | .scanCompleteWork .. | .cancelHwScan .. => some .scan
  | .remainOnChannel .. | .cancelRemainOnChannel .. | .rocCompleteWork .. | .tick .. => some .roc
  | .bssInfoChanged .. | .setKey .. | .opTx .. | .txWork .. | .irq .. | .txWatchdogWork
  | .queueRecovery => some .driver

/-- The other operations. -/
theorem opPart_eq_none {op : Wlcore.Op} (h : opPart op = none) :
    (∃ v type dummyP2p env, op = .addInterface v type dummyP2p env) ∨
      (∃ v env needFwChange, op = .removeInterface v env needFwChange) ∨
      (∃ env, op = .recoveryWork env) ∨ op = .stop := by
  cases op <;> simp_all [opPart]

/-- The calls, frames and status blocks of an operation are as assumed. -/
def OpAssumed (A : LinkAssume) (W : Wlcore) : Wlcore.Op → Prop
  | .bssInfoChanged v _ _ ap =>
    ((W.vifs v).initialized = true → A.vif v) ∧
      ((W.vifs v).bssType = .apBss → StartsFree A (W.vifs v) ap)
  | .staState v _ _ | .remainOnChannel v _ _ _ => A.vif v
  | .setKey _ _ _ _ env => ∀ p ∈ env.polls, Offers A.frame p.2
  | .cancelRemainOnChannel env => RocAssumed A W env ∧ ∀ p ∈ env.polls, Offers A.frame p.2
  | .rocCompleteWork env => RocAssumed A W env
  | .opTx skb => A.frame skb
  | .txWork _ env => Offers A.frame env
  | .irq env =>
    IrqAssumed A.toAssume env { W.toWl1271 with txPending := true, txWorkQueued := false }
  | _ => True

theorem step_reach {op : Wlcore.Op} {p : Part} (hp : opPart op = some p)
    (hop : OpAssumed A W op) : OpKeep A p W (W.step op) := by
  cases op <;> cases hp
  case bssInfoChanged v elpOk sta ap =>
    exact .of_iface (wl1271OpBssInfoChanged_keep W v hop.1 elpOk sta hop.2)
  case staState v elpOk change => exact wl12xxOpStaState_keep W v hop elpOk change
  case setKey cmd v sta k env => exact .of_iface (.of_driver (wlcoreOpSetKey_links _ cmd v sta k hop))
  case ampduAction v action h tid env => exact wl1271OpAmpduAction_keep W v action h tid env
  case hwScan v env => exact wl1271OpHwScan_keep W v env
  case scanCompleteEvent => exact (OpKeep.refl W).setScan _
  case scanCompleteWork env => exact wl1271ScanCompleteWork_keep W env
  case cancelHwScan env => exact wl1271OpCancelHwScan_keep W env
  case remainOnChannel v duration elpOk env =>
    exact wl12xxOpRemainOnChannel_keep W v hop duration elpOk env
  case cancelRemainOnChannel env => exact wl12xxOpCancelRemainOnChannel_keep W hop.1 hop.2
  case rocCompleteWork env => exact wl1271RocCompleteWork_keep W hop
  case opTx skb => exact .of_iface (.of_driver (wl1271OpTx_links _ hop))
  case txWork elpOk env => exact .of_iface (.of_driver (runTxWork_links _ hop elpOk))
  case irq env => exact .of_iface (.of_driver (wlcoreIrq_links _ hop))
  case txWatchdogWork => exact .of_iface (wl12xxTxWatchdogWork_keep W)
  case queueRecovery => exact .of_iface (.queueRecovery W)
  case tick ms => exact .setRoc W _

theorem rocAssumed_any (env : Wlcore.RocEnv) : RocAssumed .any W env :=
  ⟨fun _ _ _ => trivial, offers_any _⟩

theorem opAssumed_any (op : Wlcore.Op) : OpAssumed .any W op := by
  cases op
  case bssInfoChanged v elpOk sta ap => exact ⟨fun _ => trivial, fun _ _ _ => Or.inr trivial⟩
  case cancelRemainOnChannel env => exact ⟨rocAssumed_any W env, fun p _ => offers_any p.2⟩
  case rocCompleteWork env => exact rocAssumed_any W env
  case setKey cmd v sta k env => exact fun p _ => offers_any p.2
  case txWork elpOk env => exact offers_any env
  case irq env => exact irqAssumed_any env _
  all_goals trivial

/-- Without assumptions. -/
theorem step_keep {op : Wlcore.Op} {p : Part} (hp : opPart op = some p) :
    OpKeep .any p W (W.step op) := step_reach W hp (opAssumed_any W op)

/-! ### Stop -/

/-- `wlcore_op_stop_locked` keeps the vifs. -/
theorem wlcoreOpStopLocked_vifs (wl : Wl1271) :
    (Driver.wlcoreOpStopLocked wl).wlvifList = wl.wlvifList ∧
      ∀ u, VifKeep (wl.vifs u) ((Driver.wlcoreOpStopLocked wl).vifs u) := by
  have hreset := wl12xxTxReset_keep (opStopCancel (opStopOff wl))
  rcases wlcoreOpStopLocked_cases wl with ⟨-, p, heq⟩ | ⟨-, wl₁, p, hwl, heq⟩ <;> rw [heq]
  · exact ⟨rfl, fun _ => .refl _⟩
  · rw [hwl] at hreset
    exact ⟨hreset.wlvifList, hreset.vif⟩

end

/-! ### Recovery -/

theorem padSecuritySeq_quiet (wl : Wl1271) (v : VifId) : Quiet wl (padSecuritySeq wl v) := by
  unfold padSecuritySeq
  split
  · exact .setVif wl v (.of_fields rfl rfl rfl rfl rfl rfl rfl rfl rfl)
      (.of_fields rfl rfl rfl rfl rfl rfl)
  · exact .of_parts (.refl wl) rfl rfl rfl

theorem foldl_padSecuritySeq_links {A : LinkAssume} (l : List VifId) (wl : Wl1271) :
    LinkReach A wl (l.foldl padSecuritySeq wl) :=
  .foldl (fun wl v _ => .quiet (padSecuritySeq_quiet wl v)) wl

theorem foldl_padSecuritySeq_keep {A : LinkAssume} (W : Wlcore) :
    IfaceKeep A W (W.onDriver fun wl => wl.wlvifList.foldl padSecuritySeq wl) :=
  .of_driver (foldl_padSecuritySeq_links _ _)

theorem Listing.of_quiet {W : Wlcore} {wl : Wl1271} (h : Listing W)
    (hk : QuietKeep W.toWl1271 wl) : Listing { W with toWl1271 := wl } :=
  h.of_same (congrArg VifLinks.wlvifList hk.links) fun u =>
    congrArg (fun l => (l.vifs u).initialized) hk.links

/-- What holds after the restart: the removals keep `I`, and the stop of a driver without vifs
gives `Post`. -/
theorem recoveryRestart_induction {I Post : Wlcore → Prop} {env : VifId → RemoveEnv}
    (hquiet : ∀ W wl, I W → QuietKeep W.toWl1271 wl → I { W with toWl1271 := wl })
    (hpad : ∀ W, I W → I (W.onDriver fun wl => wl.wlvifList.foldl padSecuritySeq wl))
    (hremove : ∀ W v, I W → Listing W → v ∈ W.wlvifList → W.state ≠ .off →
      I (W.wl1271OpRemoveInterfaceLocked v (env v)))
    (hstop : ∀ W, I W → W.wlvifList = [] → W.state ≠ .off → Post W.wlcoreOpStopLocked)
    (hquietPost : ∀ W wl, Post W → QuietKeep W.toWl1271 wl → Post { W with toWl1271 := wl })
    {W : Wlcore} (hin : I W) (hlisted : Listing W) (hstate : W.state ≠ .off) :
    Post (W.recoveryRestart env) := by
  have hpadKeep := (foldl_padSecuritySeq_links (A := .any) W.wlvifList W.toWl1271).driver
  have hquiet₁ : QuietKeep (W.wlvifList.foldl padSecuritySeq W.toWl1271)
      (wlcoreStopQueues (W.wlvifList.foldl padSecuritySeq W.toWl1271) .fwRestart) :=
    ⟨rfl, rfl, rfl, rfl, rfl⟩
  have hinv₁ := hquiet _ _ (hpad W hin) hquiet₁
  have hlisted₁ :=
    (hlisted.of_driver (foldl_padSecuritySeq_keep (A := .any) W).driver).of_quiet hquiet₁
  have hstate₁ : (wlcoreStopQueues (W.wlvifList.foldl padSecuritySeq W.toWl1271)
      .fwRestart).state ≠ .off := hpadKeep.power.power.state_ne_off hstate
  obtain ⟨hinv₂, hstate₂, -, hgone⟩ := foldl_removeInterface hremove hlisted₁.nodup
    (fun _ hv => hv) hinv₁ hlisted₁ hstate₁
  refine hquietPost _ _ (hstop _ hinv₂ ?_ hstate₂) ⟨rfl, rfl, rfl, rfl, rfl⟩
  exact List.eq_nil_iff_forall_not_mem.mpr fun u hu => (hgone u hu).2 (hgone u hu).1

/-- What holds after a recovery: what the restart keeps, if there is one. -/
theorem wl1271RecoveryWork_cases {I : Wlcore → Prop}
    (hquiet : ∀ W wl, I W → QuietKeep W.toWl1271 wl → I { W with toWl1271 := wl })
    {W : Wlcore} (hin : I W) {env : VifId → RemoveEnv}
    (hrestart : W.state ≠ .off → I (W.recoveryRestart env)) : I (W.wl1271RecoveryWork env) := by
  have hout (W : Wlcore) (h : I W) : I (W.onDriver recoveryOut) :=
    hquiet W _ h ⟨rfl, rfl, rfl, rfl, rfl⟩
  unfold Wlcore.wl1271RecoveryWork
  split_ifs with hoff hbug hno
  · exact hout W hin
  · exact hquiet W _ hin ⟨rfl, rfl, rfl, rfl, rfl⟩
  · exact hout W hin
  · exact hout _ (hrestart (not_or.mp hoff).1)

/-! ### The list of interfaces -/

theorem Listing.opStop {W : Wlcore} (h : Listing W) : Listing W.wlcoreOpStopLocked := by
  obtain ⟨hlist, hvif⟩ := wlcoreOpStopLocked_vifs W.toWl1271
  dsimp only [Wlcore.wlcoreOpStopLocked]
  split <;> exact h.of_same hlist fun u => (VifSame.of_keep (hvif u)).initialized

/-- The interface, and what happens around its removal, that an operation removes. -/
def removes : Wlcore.Op → VifId → RemoveEnv → Prop
  | .removeInterface v env _ => fun u e => u = v ∧ e = env
  | .recoveryWork env => fun u e => e = env u
  | _ => fun _ _ => False

/-- What one operation keeps: what an operation on one part, an addition, a removal and a stop keep,
and the changes around them. -/
theorem step_induction {A : LinkAssume} {I : Wlcore → Prop} {W : Wlcore} {op : Wlcore.Op}
    (hin : I W) (hlisted : Listing W) (hpart : ∀ p, opPart op = some p → I (W.step op))
    (hadd : ∀ v type dummyP2p env, op = .addInterface v type dummyP2p env →
      I (W.wl1271OpAddInterface v type dummyP2p env).2)
    (hremove : ∀ W v env, removes op v env → I W → Listing W → v ∈ W.wlvifList →
      W.state ≠ .off → I (W.wl1271OpRemoveInterfaceLocked v env))
    (hstop : ∀ W', I W' → op = .stop ∧ W' = W ∨ W'.wlvifList = [] → I W'.wlcoreOpStopLocked)
    (hquiet : ∀ W wl, I W → QuietKeep W.toWl1271 wl → I { W with toWl1271 := wl })
    (hkeep : ∀ W W', I W → IfaceKeep A W W' → I W') : I (W.step op) := by
  cases hop : opPart op with
  | some p => exact hpart p hop
  | none =>
    obtain ⟨v, type, dummyP2p, env, rfl⟩ | ⟨v, env, needFwChange, rfl⟩ | ⟨env, rfl⟩ | rfl :=
      opPart_eq_none hop
    · exact hadd v type dummyP2p env rfl
    · exact wl1271OpRemoveInterface_induction hin
        (fun hv => hremove W v env ⟨rfl, rfl⟩ hin hlisted hv) hquiet
        (fun W h => hkeep W _ h (.queueRecovery W)) needFwChange
    · refine wl1271RecoveryWork_cases hquiet hin fun hstate => ?_
      exact recoveryRestart_induction hquiet
        (fun W h => hkeep W _ h (foldl_padSecuritySeq_keep W)) (fun W v => hremove W v _ rfl)
        (fun W h hnil _ => hstop W h (Or.inr hnil)) hquiet hin hlisted hstate
    · exact hstop W hin (Or.inl ⟨rfl, rfl⟩)

/-- One operation keeps the interfaces listed as they should be. -/
theorem step_listing {W : Wlcore} (op : Wlcore.Op) (h : Listing W) : Listing (W.step op) :=
  step_induction (A := .any) h h (fun _ hp => h.of_driver (step_keep W hp).driver)
    (fun v type dummyP2p env _ => h.addInterface v type dummyP2p env)
    (fun _ _ env _ h _ hv hstate => h.remove hv hstate env) (fun _ h _ => h.opStop)
    (fun _ _ h hk => h.of_quiet hk) fun _ _ h hk => h.of_driver hk.driver

theorem probe_listing (c : Conf) : Listing (Wlcore.probe c) :=
  ⟨⟨List.nodup_nil, fun _ hv => absurd hv List.not_mem_nil⟩,
    fun _ hv => absurd hv Bool.false_ne_true⟩

end TiWlan.Iface
