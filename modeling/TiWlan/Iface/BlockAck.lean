import TiWlan.Iface.Operations
import TiWlan.Lib.Run

/-!
# Receiver block-ack sessions

`wl1271_op_ampdu_action` (`wlcore/main.c`, lines 4693–4812) records the sessions it enables in
eight bits per owner (`sta.ba_rx_bitmap` of a STA vif, `ba_bitmap` of the link of a station) and
counts them in `ba_rx_session_count`. The bits are also cleared when a station or an interface
goes away, and the count is set to zero when an interface is initialised
(`wl1271_set_ba_policies`, `wlcore/init.c`, lines 491–508); neither is undone in the firmware.

Main results: `baSessions_exact` for the runs in which stations, interfaces and the firmware go
away only without sessions, and `baSessions_forgotten` for a second interface that comes up
during a session.
-/

namespace TiWlan.Iface

open TiWlan.Driver TiWlan.Link TiWlan.Lib
open Function (update update_self)

variable {o : BaOwner} {type : Option BssType} {W W' : Wlcore} {action : Wlcore.AmpduAction}
  {env : Wlcore.AmpduEnv} {change : Wlcore.StaState} {tid : ℕ}

/-- The sessions in the firmware are counted, recorded bit by bit, and not too many. -/
structure BaExact (W : Wlcore) : Prop where
  nodup : W.fwBaSessions.Nodup
  count : W.baRxSessionCount = W.fwBaSessions.length
  recorded : ∀ o tid, (o, tid) ∈ W.fwBaSessions ↔ W.testBaBit o tid = true
  nonneg : 0 ≤ W.baRxSessionCount
  bounded : W.baRxSessionCount ≤ Wlcore.rxBaMaxSessions

/-- No session of the owner is recorded. -/
def NoBa (W : Wlcore) (o : BaOwner) : Prop := ∀ i, W.baBits o i = false

instance (W : Wlcore) (o : BaOwner) : Decidable (NoBa W o) :=
  inferInstanceAs (Decidable (∀ i, W.baBits o i = false))

/-- An exact record without a session. -/
theorem BaExact.noBa (h : BaExact W) (hnone : W.fwBaSessions = []) (o : BaOwner) : NoBa W o := by
  intro i
  have hbit := (h.recorded o i).not.mp (by simp [hnone])
  simpa [Wlcore.testBaBit] using hbit

/-! ## Clearing bits -/

/-- The bits of the owners in `P` may have been cleared; nothing else changed. -/
structure BaClears (P : BaOwner → Prop) (W W' : Wlcore) : Prop where
  count : W'.baRxSessionCount = W.baRxSessionCount
  sessions : W'.fwBaSessions = W.fwBaSessions
  bits : ∀ o, W'.baBits o = W.baBits o ∨ P o ∧ ∀ i, W'.baBits o i = false

namespace BaClears

variable {P Q : BaOwner → Prop} {W W' W'' : Wlcore}

theorem of_keep (h : BaKeep W W') : BaClears P W W' := by
  refine ⟨congrArg BlockAck.baRxSessionCount h.blockAck, congrArg BlockAck.fwBaSessions h.blockAck,
    fun o => Or.inl ?_⟩
  cases o with
  | link l => exact congrFun (congrArg BlockAck.baBitmap h.blockAck) l
  | staVif u => exact h.bits u

theorem trans (h : BaClears P W W') (h' : BaClears P W' W'') : BaClears P W W'' := by
  refine ⟨h'.count.trans h.count, h'.sessions.trans h.sessions, fun o => ?_⟩
  rcases h'.bits o with hsame' | hclear'
  · rcases h.bits o with hsame | ⟨hp, hclear⟩
    · exact Or.inl (hsame'.trans hsame)
    · exact Or.inr ⟨hp, fun i => by rw [hsame', hclear i]⟩
  · exact Or.inr hclear'

theorem mono (h : BaClears P W W') (hPQ : ∀ o, P o → Q o) : BaClears Q W W' :=
  ⟨h.count, h.sessions, fun o => (h.bits o).imp id fun hc => ⟨hPQ o hc.1, hc.2⟩⟩

/-- Where nothing was recorded, nothing is lost. -/
theorem bits_eq (h : BaClears P W W') (hno : ∀ o, P o → NoBa W o) (o : BaOwner) :
    W'.baBits o = W.baBits o := by
  rcases h.bits o with hsame | ⟨hp, hclear⟩
  · exact hsame
  · funext i
    rw [hclear i, hno o hp i]

/-- At most the bits of one STA vif were cleared. -/
theorem of_vif {v : VifId} (hba : W'.toBlockAck = W.toBlockAck)
    (hbits : ∀ i, (W'.ext v).baRxBitmap i = false)
    (hother : ∀ u, u ≠ v → (W'.ext u).baRxBitmap = (W.ext u).baRxBitmap) :
    BaClears (fun o => o = .staVif v) W W' := by
  refine ⟨congrArg BlockAck.baRxSessionCount hba, congrArg BlockAck.fwBaSessions hba, fun o => ?_⟩
  cases o with
  | link l => exact Or.inl (congrFun (congrArg BlockAck.baBitmap hba) l)
  | staVif u =>
    by_cases hu : u = v
    · subst hu
      exact Or.inr ⟨rfl, hbits⟩
    · exact Or.inl (hother u hu)

end BaClears

theorem testBaBit_congr (h : W'.baBits o = W.baBits o) (tid : ℕ) :
    W'.testBaBit o tid = W.testBaBit o tid := by
  unfold Wlcore.testBaBit
  rw [h]

theorem BaExact.of_clears {P : BaOwner → Prop} (h : BaExact W) (hc : BaClears P W W')
    (hno : ∀ o, P o → NoBa W o) : BaExact W' := by
  refine ⟨hc.sessions ▸ h.nodup, ?_, fun o tid => ?_, ?_, ?_⟩
  · rw [hc.count, hc.sessions]
    exact h.count
  · rw [hc.sessions, testBaBit_congr (hc.bits_eq hno o)]
    exact h.recorded o tid
  · rw [hc.count]
    exact h.nonneg
  · rw [hc.count]
    exact h.bounded

/-! ## Sessions -/

section
variable {W : Wlcore}

@[simp] theorem testBaBit_setBaBit (htid : tid < 8) (o o' : BaOwner) (tid' : ℕ) (b : Bool) :
    (W.setBaBit o tid b).testBaBit o' tid' =
      if o' = o ∧ tid' = tid then b else W.testBaBit o' tid' := by
  by_cases htid' : tid' < 8
  · have hidx : (⟨tid', htid'⟩ : Fin 8) = ⟨tid, htid⟩ ↔ tid' = tid := by simp
    cases o <;> cases o' <;>
      simp only [Wlcore.testBaBit, Wlcore.setBaBit, Wlcore.baBits, Wlcore.setExt, htid, htid',
        dite_true, Function.update_apply, reduceCtorEq, false_and, if_false, BaOwner.link.injEq,
        BaOwner.staVif.injEq]
    all_goals
      split_ifs <;> simp_all
  · have hne : ¬ (o' = o ∧ tid' = tid) := by
      rintro ⟨-, rfl⟩
      exact htid' htid
    simp [Wlcore.testBaBit, htid', hne]

/-- A new session is recorded and counted. -/
theorem BaExact.start (h : BaExact W) (htid : tid < 8) (hnew : ¬ W.testBaBit o tid = true)
    (hroom : ¬ Wlcore.rxBaMaxSessions ≤ W.baRxSessionCount) :
    BaExact { W.setBaBit o tid true with
      baRxSessionCount := W.baRxSessionCount + 1
      fwBaSessions := W.fwBaSessions.insert (o, tid) } := by
  have hmem : (o, tid) ∉ W.fwBaSessions := (h.recorded o tid).not.mpr hnew
  have hcount := h.count
  have hnonneg := h.nonneg
  refine ⟨h.nodup.insert, ?_, fun o' tid' => ?_, ?_, ?_⟩
  · show W.baRxSessionCount + 1 = ((W.fwBaSessions.insert (o, tid)).length : ℤ)
    rw [List.insert_of_not_mem hmem, List.length_cons]
    omega
  · show (o', tid') ∈ W.fwBaSessions.insert (o, tid) ↔ (W.setBaBit o tid true).testBaBit o' tid' = true
    rw [List.mem_insert_iff, testBaBit_setBaBit htid, h.recorded, Prod.mk.injEq]
    split_ifs with hsame
    · simp [hsame]
    · simp [hsame]
  · show 0 ≤ W.baRxSessionCount + 1
    omega
  · show W.baRxSessionCount + 1 ≤ Wlcore.rxBaMaxSessions
    omega

/-- A recorded session is disabled. -/
theorem BaExact.stop (h : BaExact W) (hset : W.testBaBit o tid = true) :
    BaExact { W.setBaBit o tid false with
      baRxSessionCount := W.baRxSessionCount - 1
      fwBaSessions := W.fwBaSessions.filter fun s => decide (s ≠ (o, tid)) } := by
  have htid : tid < 8 := by
    by_contra hge
    simp [Wlcore.testBaBit, hge] at hset
  have hmem : (o, tid) ∈ W.fwBaSessions := (h.recorded o tid).mpr hset
  have hpos := List.length_pos_of_mem hmem
  have hlen : (W.fwBaSessions.filter fun s => decide (s ≠ (o, tid))).length =
      W.fwBaSessions.length - 1 := by
    have herase := h.nodup.erase_eq_filter (o, tid)
    rw [← List.length_erase_of_mem hmem, herase]
    congr 2
    funext s
    by_cases hs : s = (o, tid) <;> simp [hs]
  have hcount := h.count
  have hbounded := h.bounded
  refine ⟨h.nodup.filter _, ?_, fun o' tid' => ?_, ?_, ?_⟩
  · show W.baRxSessionCount - 1 =
      ((W.fwBaSessions.filter fun s => decide (s ≠ (o, tid))).length : ℤ)
    rw [hlen]
    omega
  · show (o', tid') ∈ (W.fwBaSessions.filter fun s => decide (s ≠ (o, tid))) ↔
      (W.setBaBit o tid false).testBaBit o' tid' = true
    rw [List.mem_filter, testBaBit_setBaBit htid, h.recorded]
    split_ifs with hsame
    · simp [hsame]
    · simp [hsame]
  · show 0 ≤ W.baRxSessionCount - 1
    omega
  · show W.baRxSessionCount - 1 ≤ Wlcore.rxBaMaxSessions
    omega

theorem BaExact.of_keep (h : BaExact W) (hk : BaKeep W W') : BaExact W' :=
  h.of_clears (P := fun _ => False) (.of_keep hk) fun _ hp => hp.elim

theorem BaExact.of_iface (h : BaExact W) (hk : IfaceKeep .any W W') : BaExact W' :=
  h.of_keep ((OpKeep.of_iface (p := .driver) hk).ba (by decide))

theorem wl1271OpAmpduAction_exact {v : VifId} {l : Hlid} (h : BaExact W)
    (hstart : action = .rxStart → tid < 8 ∧ env.noRxBaSession = false) :
    BaExact (W.wl1271OpAmpduAction v action l tid env) := by
  have hcmd : BaExact (W.sendCmd env.session).2 := h.of_iface (.sendCmd W _)
  unfold Wlcore.wl1271OpAmpduAction
  split
  · exact h
  · split
    · exact h
    · split
      · exact h
      · split
        · exact h.of_iface (.queueRecovery W)
        · cases action with
          | rxStart =>
            obtain ⟨htid, hfw⟩ := hstart rfl
            unfold Wlcore.ampduRxStart
            rw [hfw]
            simp only [Bool.false_eq_true, if_false]
            split_ifs with _ hfull hset
            · exact h
            · exact h
            · exact h
            · exact h.start htid hset hfull
            · exact hcmd
          | rxStop =>
            unfold Wlcore.ampduRxStop
            split_ifs with hset
            · exact h
            · exact h.stop (by simpa using hset)
            · exact hcmd
          | other => exact h

end

/-! ## Stations -/

section
variable (W : Wlcore) (v : VifId)

theorem wl1271FreeSta_clears (h : Hlid) :
    BaClears (fun o => o = .link h) W (W.wl1271FreeSta v h) := by
  unfold Wlcore.wl1271FreeSta
  split
  · exact .of_keep ⟨rfl, fun _ => rfl⟩
  · refine ⟨rfl, rfl, fun o => ?_⟩
    cases o with
    | staVif u => exact Or.inl rfl
    | link l =>
      by_cases hl : l = h
      · exact Or.inr ⟨by rw [hl], fun i => by simp [Wlcore.baBits, hl]⟩
      · exact Or.inl (by simp [Wlcore.baBits, hl])

/-- A station that cannot be added gives its link back. -/
theorem wl12xxStaAdd_clears (addPeer : CmdRet) :
    BaClears (fun o => ∃ h, (wl1271AllocateSta W.toWl1271 v).1 = some h ∧ o = .link h) W
      (W.wl12xxStaAdd v addPeer) := by
  unfold Wlcore.wl12xxStaAdd
  split <;> rename_i wl heq
  · exact .of_keep ⟨rfl, fun _ => rfl⟩
  · rename_i h
    split
    · exact .of_keep ⟨rfl, fun _ => rfl⟩
    · have hcmd : BaClears (fun o => o = .link h) W { W with toWl1271 := cmdEffect wl addPeer } :=
        .of_keep ⟨rfl, fun _ => rfl⟩
      refine (hcmd.trans (wl1271FreeSta_clears _ v h)).mono fun o ho => ⟨h, ?_, ho⟩
      rw [heq]

/-- The owners whose bits a change of a station may clear. -/
def staOwners (v : VifId) : Wlcore.StaState → BaOwner → Prop
  | .add _ => fun o => ∃ h, (wl1271AllocateSta W.toWl1271 v).1 = some h ∧ o = .link h
  | .remove h _ => fun o => o = .link h

theorem wl12xxOpStaState_clears (elpOk : Bool) (change : Wlcore.StaState) :
    BaClears (staOwners W v change) W (W.wl12xxOpStaState v elpOk change) := by
  have hrefl : BaClears (staOwners W v change) W W := .of_keep ⟨rfl, fun _ => rfl⟩
  unfold Wlcore.wl12xxOpStaState Wlcore.whenAwake
  split_ifs
  · exact hrefl
  · exact hrefl
  · exact .of_keep ⟨rfl, fun _ => rfl⟩
  · dsimp only
    split
    · exact hrefl
    · cases change with
      | add ret => exact wl12xxStaAdd_clears W v ret
      | remove h ret =>
        show BaClears (fun o => o = .link h) W (W.wl12xxStaRemove v h ret)
        unfold Wlcore.wl12xxStaRemove
        split_ifs
        · exact hrefl
        · exact wl1271FreeSta_clears W v h
        · exact .of_keep ⟨rfl, fun _ => rfl⟩

end

/-! ## Interfaces -/

section
variable {W : Wlcore} {v : VifId}

/-- The owners on an interface: the vif itself and the stations of an AP. -/
def vifOwners (W : Wlcore) (v : VifId) (o : BaOwner) : Prop :=
  o = .staVif v ∨ ∃ h, (W.vifs v).staHlidMap h = true ∧ o = .link h

/-- An AP has no device role to stop. -/
theorem removeBegin_ap (hap : (W.vifs v).bssType = .apBss) (env : RemoveEnv) :
    (removeBegin W v env).vifs v = { W.vifs v with initialized := false } := by
  obtain ⟨wl₁, hwl₁, heq⟩ := removeStart_eq W v
  unfold removeBegin
  generalize ((W.onDriver fun wl => clearInitialized wl v).removeScan v).removeRoc v = W₁ at heq
  have hvif : W₁.vifs v = { W.vifs v with initialized := false } := by
    rw [heq]
    rcases hwl₁ with rfl | rfl <;> exact update_self _ _ _
  have hdisable (r : Wlcore.RoleField) (ret : CmdRet) :
      (W₁.wl12xxCmdRoleDisable v r ret).2.vifs v = W₁.vifs v := by
    unfold Wlcore.wl12xxCmdRoleDisable
    split
    · rfl
    · split
      · cases r <;> rfl
      · cases ret <;> rfl
  have hno : ¬ (Wlcore.hasKlvTemplate (W₁.vifs v).bssType = true ∧ (W₁.vifs v).devHlid.isSome) := by
    rw [hvif]
    simp [Wlcore.hasKlvTemplate, hap]
  unfold Wlcore.removeDisableRoles
  split_ifs
  · exact hvif
  · exact hvif
  · exact (hdisable _ _).trans hvif

/-- `deinit` clears bits of the interface only. -/
theorem removeDeinit_clears (W : Wlcore) (v : VifId) :
    BaClears (fun o => o = .staVif v ∨ (W.vifs v).bssType = .apBss ∧
      ∃ h, (W.vifs v).staHlidMap h = true ∧ o = .link h) W (W.removeDeinit v) := by
  obtain ⟨-, -, hindices⟩ := freeIndices_parts W v
  obtain ⟨w, _, _, hw, heq⟩ := freeIndices_change v W
  have hvif : (W.freeIndices v).vifs v = w := by
    rw [heq]
    exact update_self _ _ _
  have htype : w.bssType = (W.vifs v).bssType := congrArg (·.bssType) hw
  have hmap : w.staHlidMap = (W.vifs v).staHlidMap := congrArg (·.staHlidMap) hw
  have hreset : BaClears (fun o => o = .staVif v ∨ (W.vifs v).bssType = .apBss ∧
      ∃ h, (W.vifs v).staHlidMap h = true ∧ o = .link h) (W.freeIndices v)
      ((W.freeIndices v).txResetBa v) := by
    dsimp only [Wlcore.txResetBa]
    rw [hvif, htype, hmap]
    split_ifs with hap hlinks
    · refine ⟨rfl, rfl, fun o => ?_⟩
      cases o with
      | staVif u => exact Or.inl rfl
      | link l =>
        by_cases hl : w.linksMap l = true ∧ (W.vifs v).staHlidMap l = true
        · exact Or.inr ⟨Or.inr ⟨hap, l, hl.2, rfl⟩, fun i => by simp [Wlcore.baBits, hl]⟩
        · refine Or.inl ?_
          simp [Wlcore.baBits, hl]
    · refine BaClears.mono (P := fun o => o = .staVif v) ?_ fun o ho => Or.inl ho
      exact .of_vif rfl (fun i => by simp [Wlcore.setExt]) fun u hu => by simp [Wlcore.setExt, hu]
    · exact .of_keep ⟨rfl, fun _ => rfl⟩
  refine (BaClears.of_keep hindices).trans (hreset.trans (.of_keep ⟨rfl, fun u => ?_⟩))
  by_cases hu : u = v
  · subst hu
    simp [Wlcore.removeDeinit, Wlcore.setExt, Wlcore.onDriver]
  · simp [Wlcore.removeDeinit, Wlcore.setExt, Wlcore.onDriver, hu]

theorem wl1271OpRemoveInterfaceLocked_clears (hinit : (W.vifs v).initialized = true)
    (hstate : W.state ≠ .off) (env : RemoveEnv) :
    BaClears (vifOwners W v) W (W.wl1271OpRemoveInterfaceLocked v env) := by
  obtain ⟨-, -, hbegin⟩ := removeBegin_parts W v env
  have htype : ((removeBegin W v env).vifs v).bssType = (W.vifs v).bssType := by
    rw [((removeBegin_driver W v env).vif v).bssType]
    simp [clearInitialized, Wl1271.setVif]
  rw [wl1271OpRemoveInterfaceLocked_eq hinit hstate]
  have hdeinit : BaClears (vifOwners W v) (removeBegin W v env)
      ((removeBegin W v env).removeDeinit v) := by
    refine (removeDeinit_clears (removeBegin W v env) v).mono ?_
    rintro o (ho | ⟨hap, h, hsta, ho⟩)
    · exact Or.inl ho
    · refine Or.inr ⟨h, ?_, ho⟩
      rw [removeBegin_ap (htype ▸ hap)] at hsta
      exact hsta
  exact (BaClears.of_keep hbegin).trans (hdeinit.trans (.of_keep ⟨rfl, fun _ => rfl⟩))

/-! ### Adding an interface -/

/-- What an addition does to the sessions: it may set the count to zero, if it initialises a role
of its own, and a boot finds no session. -/
structure BaAdd (counts : Bool) (W W' : Wlcore) : Prop where
  count : W'.baRxSessionCount = W.baRxSessionCount ∨ counts = true ∧ W'.baRxSessionCount = 0
  sessions : W'.fwBaSessions = W.fwBaSessions ∨ W.state = .off ∧ W'.fwBaSessions = []
  bits : ∀ o, W'.baBits o = W.baBits o
  state : W.state ≠ .off → W'.state ≠ .off

namespace BaAdd

variable {b : Bool} {W W' W'' : Wlcore}

theorem trans (h : BaAdd b W W') (h' : BaAdd b W' W'') : BaAdd b W W'' := by
  refine ⟨?_, ?_, fun o => (h'.bits o).trans (h.bits o), fun hs => h'.state (h.state hs)⟩
  · rcases h'.count with hsame | hzero
    · rcases h.count with hsame' | ⟨hb, hzero'⟩
      · exact Or.inl (hsame.trans hsame')
      · exact Or.inr ⟨hb, hsame.trans hzero'⟩
    · exact Or.inr hzero
  · rcases h'.sessions with hsame | ⟨hoff, hnone⟩
    · rcases h.sessions with hsame' | ⟨hoff, hnone⟩
      · exact Or.inl (hsame.trans hsame')
      · exact Or.inr ⟨hoff, hsame.trans hnone⟩
    · exact Or.inr ⟨not_not.mp fun hs => h.state hs hoff, hnone⟩

theorem of_keep (hk : BaKeep W W') (hs : W.state ≠ .off → W'.state ≠ .off) : BaAdd b W W' := by
  have hclears : BaClears (fun _ => False) W W' := .of_keep hk
  exact ⟨Or.inl hclears.count, Or.inl hclears.sessions,
    hclears.bits_eq fun _ hp => hp.elim, hs⟩

end BaAdd

theorem addInterfaceBoot_ba {b : Bool} (W : Wlcore) (attempts : List BootAttempt) :
    BaAdd b W (W.addInterfaceBoot attempts).2 := by
  unfold Wlcore.addInterfaceBoot
  split
  · rename_i hoff
    exact ⟨Or.inl rfl, Or.inr ⟨hoff, rfl⟩, fun o => by cases o <;> rfl, fun hs => absurd hoff hs⟩
  · exact .of_keep ⟨rfl, fun _ => rfl⟩ id

theorem BaAdd.of_role {b : Bool} (h : RoleKeep .any b W W') : BaAdd b W W' := by
  refine ⟨h.count, Or.inl h.sessions, fun o => ?_, h.reach.driver.power.power.state_ne_off⟩
  cases o with
  | link l => exact congrFun h.baBitmap l
  | staVif u => exact (h.ext u).2

/-- The steps of an addition after `wl12xx_init_vif_data`. -/
theorem AddInit.ba {dummyP2p : Bool} {env : Wlcore.AddEnv} {W₁ W₂ : Wlcore}
    (h : AddInit v type dummyP2p env W W₁ W₂) : BaAdd (!dummyP2p) W₁ W₂ :=
  (addInterfaceBoot_ba W₁ env.attempts).trans (.of_role (h.role .any))

end

/-! ## Runs -/

/-- What holds between the operations. -/
structure BaInv (W : Wlcore) : Prop where
  exact : BaExact W
  off : W.state = .off → W.fwBaSessions = []

/-- A session is enabled for a tid that has a bit and by a firmware that has room for it, and
stations, interfaces and the firmware go away without a session. -/
def BaSafe (W : Wlcore) : Wlcore.Op → Prop
  | .ampduAction _ action _ tid env => action = .rxStart → tid < 8 ∧ env.noRxBaSession = false
  | .staState v _ (.add _) =>
      ∀ h, (wl1271AllocateSta W.toWl1271 v).1 = some h → NoBa W (.link h)
  | .staState _ _ (.remove h _) => NoBa W (.link h)
  | .addInterface v type dummyP2p env => ReachesInit W v env →
      NoBa W (.staVif v) ∧ (type.isSome = true → dummyP2p = false → W.fwBaSessions = [])
  | .removeInterface v _ _ =>
      NoBa W (.staVif v) ∧ ∀ h, (W.vifs v).staHlidMap h = true → NoBa W (.link h)
  | .recoveryWork _ | .stop => W.fwBaSessions = []
  | _ => True

section
variable {W : Wlcore} {v : VifId}

theorem BaInv.of_clears {P : BaOwner → Prop} (h : BaInv W) (hc : BaClears P W W')
    (hno : ∀ o, P o → NoBa W o) (hstate : W.state ≠ .off → W'.state ≠ .off) : BaInv W' := by
  refine ⟨h.exact.of_clears hc hno, fun hoff => ?_⟩
  rw [hc.sessions]
  exact h.off (not_not.mp fun hs => hstate hs hoff)

theorem BaInv.of_iface (h : BaInv W) (hk : IfaceKeep .any W W') : BaInv W' :=
  h.of_clears (P := fun _ => False) (.of_keep ((OpKeep.of_iface (p := .driver) hk).ba (by decide)))
    (fun _ hf => hf.elim) hk.driver.power.power.state_ne_off

/-- The steps of an addition after `wl12xx_init_vif_data`. -/
theorem BaInv.of_add {b : Bool} (h : BaInv W) (hadd : BaAdd b W W')
    (hfresh : b = true → W.fwBaSessions = []) : BaInv W' := by
  have hsessions : W'.fwBaSessions = W.fwBaSessions := by
    rcases hadd.sessions with hsame | ⟨hoff, hnone⟩
    · exact hsame
    · rw [hnone, h.off hoff]
  have hcount : W'.baRxSessionCount = W.baRxSessionCount := by
    rcases hadd.count with hsame | ⟨hb, hzero⟩
    · exact hsame
    · rw [hzero, h.exact.count, hfresh hb]
      rfl
  exact h.of_clears (P := fun _ => False) ⟨hcount, hsessions, fun o => Or.inl (hadd.bits o)⟩
    (fun _ hp => hp.elim) hadd.state

theorem wl1271OpAddInterface_ba {dummyP2p : Bool} {env : Wlcore.AddEnv} (h : BaInv W)
    (hsafe : BaSafe W (.addInterface v type dummyP2p env)) :
    BaInv (W.wl1271OpAddInterface v type dummyP2p env).2 := by
  have hno (hr : ReachesInit W v env) (o : BaOwner) (ho : o = .staVif v) : NoBa W o :=
    ho ▸ (hsafe hr).1
  refine wl1271OpAddInterface_induction (fun _ hk => h.of_iface (hk .any)) (fun hr => ?_)
    (fun W₁ W₂ hi => ?_) fun _ _ _ h₂ => h₂.of_clears (P := fun _ => False)
      (.of_keep ⟨rfl, fun _ => rfl⟩) (fun _ hp => hp.elim) id
  · refine h.of_clears (.of_vif rfl (fun i => ?_) fun u hu => ?_) (hno hr) id
    · simp [Wlcore.zeroUnsupported, Wlcore.onDriver, Wlcore.setExt, Wlcore.zeroExt]
    · simp [Wlcore.zeroUnsupported, Wlcore.onDriver, Wlcore.setExt, hu]
  · have hclears := BaClears.of_vif hi.init.blockAck (congrFun hi.init.bits) hi.init.other
    have hstate : W.state ≠ .off → W₁.state ≠ .off := by
      rw [show W₁.state = W.state from congrArg Power.state hi.init.power]
      exact id
    refine (h.of_clears hclears (hno hi.reaches) hstate).of_add hi.ba fun hd => ?_
    rw [hclears.sessions]
    exact (hsafe hi.reaches).2 hi.supported (by simpa using hd)

theorem wlcoreOpStopLocked_ba (h : BaInv W) (hnone : W.fwBaSessions = []) :
    BaInv W.wlcoreOpStopLocked := by
  have hnone' : W.wlcoreOpStopLocked.fwBaSessions = [] := by
    dsimp only [Wlcore.wlcoreOpStopLocked]
    split
    · exact hnone
    · rfl
  have hclears : BaClears (fun _ => False) W W.wlcoreOpStopLocked := by
    refine ⟨?_, hnone'.trans hnone.symm, fun o => Or.inl ?_⟩
    · dsimp only [Wlcore.wlcoreOpStopLocked]
      split <;> rfl
    · dsimp only [Wlcore.wlcoreOpStopLocked]
      split <;> cases o <;> rfl
  exact ⟨h.exact.of_clears hclears fun _ hp => hp.elim, fun _ => hnone'⟩

theorem wl1271OpRemoveInterfaceLocked_ba (h : BaInv W) (hinit : (W.vifs v).initialized = true)
    (hstate : W.state ≠ .off) (env : RemoveEnv) (hno : ∀ o, vifOwners W v o → NoBa W o) :
    BaInv (W.wl1271OpRemoveInterfaceLocked v env) :=
  h.of_clears (wl1271OpRemoveInterfaceLocked_clears hinit hstate env) hno
    (wl1271OpRemoveInterfaceLocked_removed hinit hstate env).power.power.state_ne_off

theorem wl1271RecoveryWork_ba (h : BaInv W) (hlisted : Listing W) (hnone : W.fwBaSessions = [])
    (env : VifId → RemoveEnv) : BaInv (W.wl1271RecoveryWork env) := by
  -- without a session nothing is lost, and the removals of a recovery enable none
  have hkeep {W : Wlcore} (W' : Wlcore) (h : BaExact W ∧ W.fwBaSessions = []) (hk : BaKeep W W') :
      BaExact W' ∧ W'.fwBaSessions = [] :=
    ⟨h.1.of_keep hk, (congrArg BlockAck.fwBaSessions hk.blockAck).trans h.2⟩
  have hquiet (W : Wlcore) (wl : Wl1271) (h : BaExact W ∧ W.fwBaSessions = [])
      (_ : QuietKeep W.toWl1271 wl) := hkeep { W with toWl1271 := wl } h ⟨rfl, fun _ => rfl⟩
  suffices hout : BaExact (W.wl1271RecoveryWork env) ∧ (W.wl1271RecoveryWork env).fwBaSessions = []
    from ⟨hout.1, fun _ => hout.2⟩
  refine wl1271RecoveryWork_cases hquiet ⟨h.exact, hnone⟩ fun hstate => ?_
  refine recoveryRestart_induction hquiet (fun W h => hkeep _ h ⟨rfl, fun _ => rfl⟩)
    (fun W v h hlisted hv hstate => ?_) (fun W h _ hstate => ?_) hquiet ⟨h.exact, hnone⟩ hlisted
    hstate
  · have hclears := wl1271OpRemoveInterfaceLocked_clears (hlisted.initialized v hv) hstate (env v)
    exact ⟨h.1.of_clears hclears fun o _ => h.1.noBa h.2 o, hclears.sessions.trans h.2⟩
  · refine ⟨(wlcoreOpStopLocked_ba ⟨h.1, fun _ => h.2⟩ h.2).exact, ?_⟩
    dsimp only [Wlcore.wlcoreOpStopLocked]
    rw [if_neg hstate]

theorem wl1271OpAmpduAction_ba {l : Hlid} (h : BaInv W)
    (hstart : action = .rxStart → tid < 8 ∧ env.noRxBaSession = false) :
    BaInv (W.wl1271OpAmpduAction v action l tid env) := by
  refine ⟨wl1271OpAmpduAction_exact h.exact hstart, fun hoff => ?_⟩
  have hk := wl1271OpAmpduAction_keep (A := .any) W v action l tid env
  have hoff' : W.state = .off := hk.driver.power.power.off_of_off hoff
  have hsame : W.wl1271OpAmpduAction v action l tid env = W := by
    unfold Wlcore.wl1271OpAmpduAction
    rw [hoff']
    simp
  rw [hsame]
  exact h.off hoff'

theorem wl12xxOpStaState_ba {elpOk : Bool} (h : BaInv W)
    (hsafe : BaSafe W (.staState v elpOk change)) : BaInv (W.wl12xxOpStaState v elpOk change) := by
  have hk := wl12xxOpStaState_keep (A := .any) W v trivial elpOk change
  refine h.of_clears (wl12xxOpStaState_clears W v elpOk change) (fun o ho => ?_)
    hk.driver.power.power.state_ne_off
  cases change with
  | add ret =>
    obtain ⟨l, hl, rfl⟩ := ho
    exact hsafe l hl
  | remove l ret =>
    have ho : o = .link l := ho
    rw [ho]
    exact hsafe

theorem wl1271OpRemoveInterface_ba {env : RemoveEnv} {needFwChange : Bool} (h : BaInv W)
    (hlisted : Listing W) (hsafe : BaSafe W (.removeInterface v env needFwChange)) :
    BaInv (W.wl1271OpRemoveInterface v env needFwChange) := by
  have hno (o : BaOwner) (ho : vifOwners W v o) : NoBa W o := by
    rcases ho with rfl | ⟨l, hl, rfl⟩
    · exact hsafe.1
    · exact hsafe.2 l hl
  have hquiet (W : Wlcore) (wl : Wl1271) (h : BaInv W) (hk : QuietKeep W.toWl1271 wl) :
      BaInv { W with toWl1271 := wl } :=
    ⟨h.exact.of_keep ⟨rfl, fun _ => rfl⟩, fun hoff => h.off (hk.state.symm.trans hoff)⟩
  exact wl1271OpRemoveInterface_induction h
    (fun hv hstate =>
      wl1271OpRemoveInterfaceLocked_ba h (hlisted.initialized v hv) hstate env hno)
    hquiet (fun W h => h.of_iface (.queueRecovery W)) needFwChange

/-- One operation. -/
theorem step_ba {op : Wlcore.Op} (h : BaInv W) (hlisted : Listing W) (hsafe : BaSafe W op) :
    BaInv (W.step op) := by
  cases hpart : opPart op with
  | some p =>
    have hk := step_keep W hpart
    by_cases hp : p = .blockAck
    · obtain ⟨v, elpOk, change, rfl⟩ | ⟨v, action, l, tid, env, rfl⟩ :
          (∃ v elpOk change, op = .staState v elpOk change) ∨
          ∃ v action l tid env, op = .ampduAction v action l tid env := by
        subst hp
        cases op <;> simp_all [opPart]
      · exact wl12xxOpStaState_ba h hsafe
      · exact wl1271OpAmpduAction_ba h hsafe
    · exact h.of_clears (P := fun _ => False) (.of_keep (hk.ba hp)) (fun _ hf => hf.elim)
        hk.driver.power.power.state_ne_off
  | none =>
    obtain ⟨v, type, dummyP2p, env, rfl⟩ | ⟨v, env, needFwChange, rfl⟩ | ⟨env, rfl⟩ | rfl :=
      opPart_eq_none hpart
    · exact wl1271OpAddInterface_ba h hsafe
    · exact wl1271OpRemoveInterface_ba h hlisted hsafe
    · exact wl1271RecoveryWork_ba h hlisted hsafe env
    · exact wlcoreOpStopLocked_ba h hsafe

theorem probe_ba (c : Conf) : BaInv (Wlcore.probe c) := by
  refine ⟨⟨List.nodup_nil, rfl, fun o tid => ?_, le_refl _, Int.zero_le_ofNat 3⟩, fun _ => rfl⟩
  have hbit : (Wlcore.probe c).testBaBit o tid = false := by
    unfold Wlcore.testBaBit
    split
    · cases o <;> rfl
    · rfl
  rw [hbit]
  exact ⟨fun hmem => absurd hmem List.not_mem_nil, fun hf => by cases hf⟩

end

/-- In every run in which sessions have a tid below 8 and a firmware with room for them, and no
station, interface or firmware goes away, or comes up, during a session, the sessions in the
firmware are exactly those recorded, and they are counted. -/
theorem baSessions_exact (c : Conf) (ops : List Wlcore.Op)
    (h : Along Wlcore.step BaSafe (Wlcore.probe c) ops) :
    BaExact (run Wlcore.step (Wlcore.probe c) ops) := by
  have hstep (W : Wlcore) (op : Wlcore.Op) (hW : BaInv W ∧ Listing W) (hop : BaSafe W op) :
      BaInv (W.step op) ∧ Listing (W.step op) :=
    ⟨step_ba hW.1 hW.2 hop, step_listing op hW.2⟩
  exact (Along.induction hstep ⟨probe_ba c, probe_listing c⟩ h).1.exact

instance (W : Wlcore) (op : Wlcore.Op) : Decidable (BaSafe W op) := by
  unfold BaSafe
  split <;> infer_instance

/-- A STA has two sessions, and ends one. -/
def staSessionOps : List Wlcore.Op :=
  [.addInterface 0 (some .staBss) false { attempts := [.boots 10] },
    .ampduAction 0 .rxStart 0 3 {}, .ampduAction 0 .rxStart 0 5 {}, .ampduAction 0 .rxStop 0 3 {}]

theorem baSessions_exact_staSession :
    Along Wlcore.step BaSafe (Wlcore.probe (chipConf .wl128x)) staSessionOps ∧
      (run Wlcore.step (Wlcore.probe (chipConf .wl128x)) staSessionOps).fwBaSessions =
        [(.staVif 0, 5)] ∧
      BaExact (run Wlcore.step (Wlcore.probe (chipConf .wl128x)) staSessionOps) :=
  have h : Along Wlcore.step BaSafe (Wlcore.probe (chipConf .wl128x)) staSessionOps := by
    decide +kernel
  ⟨h, by decide +kernel, baSessions_exact (chipConf .wl128x) staSessionOps h⟩

/-- A second interface comes up during a session. -/
def secondInterfaceOps : List Wlcore.Op :=
  [.addInterface 0 (some .staBss) false { attempts := [.boots 10] },
    .ampduAction 0 .rxStart 0 3 {}, .addInterface 1 (some .apBss) false {}]

/-- The session is still enabled in the firmware, but the count is zero. -/
theorem baSessions_forgotten :
    ¬ BaExact (run Wlcore.step (Wlcore.probe (chipConf .wl128x)) secondInterfaceOps) := by
  intro h
  have hsessions : (run Wlcore.step (Wlcore.probe (chipConf .wl128x))
      secondInterfaceOps).fwBaSessions = [(.staVif 0, 3)] := by
    decide +kernel
  have hcount : (run Wlcore.step (Wlcore.probe (chipConf .wl128x))
      secondInterfaceOps).baRxSessionCount = 0 := by
    decide +kernel
  have hexact := h.count
  rw [hsessions, hcount] at hexact
  cases hexact

end TiWlan.Iface
