import TiWlan.Driver.Wlcore
import TiWlan.Link.Ownership
import TiWlan.Tx.Keep

/-!
# Atomic steps of the roles and stations

What the operations on a running device do to the links, to the queues and to the firmware
accounting is a chain of a few atomic steps: a link is taken for a role or a station, given
back, the data path runs, the Tx watchdog fires, or something happens that concerns none of
these. `LinkAtom` lists the steps and `LinkReach` is their closure; there is one lemma
`f_links` per function `f` of `wlcore/cmd.c` (lines 351–785), of the key and AP handling in
`wlcore/main.c` (lines 3005–3267, 3858–3943 and 4502–4593) and of the data path.

Adding and removing interfaces, the boot and the stop of the firmware are no such steps.
-/

namespace TiWlan.Link

open TiWlan.Driver TiWlan.Tx
open Function (update update_of_ne update_self)

/-! ## What all steps keep -/

/-- The type and the indices of a vif are the same. -/
structure VifSame (w w' : Wl12xxVif) : Prop where
  initialized : w'.initialized = w.initialized
  bssType : w'.bssType = w.bssType
  dummyP2p : w'.dummyP2p = w.dummyP2p
  rateIdx : w'.rateIdx = w.rateIdx

namespace VifSame

variable {w w' w'' : Wl12xxVif}

theorem refl (w : Wl12xxVif) : VifSame w w := ⟨rfl, rfl, rfl, rfl⟩

theorem trans (h : VifSame w w') (h' : VifSame w' w'') : VifSame w w'' :=
  ⟨h'.initialized.trans h.initialized, h'.bssType.trans h.bssType, h'.dummyP2p.trans h.dummyP2p,
    h'.rateIdx.trans h.rateIdx⟩

/-- The fields that the indices are read from. -/
theorem of_fields (hi : w'.initialized = w.initialized) (hb : w'.bssType = w.bssType)
    (hd : w'.dummyP2p = w.dummyP2p) (h₁ : w'.basicRateIdx = w.basicRateIdx)
    (h₂ : w'.apRateIdx = w.apRateIdx) (h₃ : w'.p2pRateIdx = w.p2pRateIdx)
    (h₄ : w'.mgmtRateIdx = w.mgmtRateIdx) (h₅ : w'.bcastRateIdx = w.bcastRateIdx)
    (h₆ : w'.ucastRateIdx = w.ucastRateIdx) : VifSame w w' := by
  refine ⟨hi, hb, hd, funext fun f => ?_⟩
  cases f <;> simp only [Wl12xxVif.rateIdx, h₁, h₂, h₃, h₄, h₅, h₆]

theorem of_keep (h : VifKeep w w') : VifSame w w' := by
  obtain ⟨_, _, _, _, rfl⟩ := h
  exact .of_fields rfl rfl rfl rfl rfl rfl rfl rfl rfl

theorem setRoleHlid (w : Wl12xxVif) (r : RoleLink) (h : Option Hlid) :
    VifSame w (w.setRoleHlid r h) := by
  cases r <;> exact .of_fields rfl rfl rfl rfl rfl rfl rfl rfl rfl

end VifSame

/-- The list of vifs and what `VifSame` says of them are the same, the last vif served is on the
list if it was before, and at most a recovery was queued. -/
structure DriverKeep (wl wl' : Wl1271) : Prop where
  power : PowerKeep wl wl'
  list : wl'.wlvifList = wl.wlvifList
  last : LastKeep wl.toVifLinks wl'.toVifLinks
  vif : ∀ v, VifSame (wl.vifs v) (wl'.vifs v)

namespace DriverKeep

variable {wl wl' wl'' : Wl1271}

theorem refl (wl : Wl1271) : DriverKeep wl wl := ⟨.refl _, rfl, .refl _, fun _ => .refl _⟩

theorem trans (h : DriverKeep wl wl') (h' : DriverKeep wl' wl'') : DriverKeep wl wl'' :=
  ⟨h.power.trans h'.power, h'.list.trans h.list, h.last.trans h'.last h.list,
    fun v => (h.vif v).trans (h'.vif v)⟩

theorem of_tx (h : TxKeep wl wl') : DriverKeep wl wl' :=
  ⟨h.powerKeep, h.wlvifList, h.last, fun v => .of_keep (h.vif v)⟩

theorem of_update {v : VifId} {w : Wl12xxVif} (hp : PowerKeep wl wl')
    (hl : wl'.wlvifList = wl.wlvifList) (hlast : wl'.lastWlvif = wl.lastWlvif)
    (hv : wl'.vifs = update wl.vifs v w) (hw : VifSame (wl.vifs v) w) : DriverKeep wl wl' := by
  refine ⟨hp, hl, Or.inl hlast, fun u => ?_⟩
  rw [hv]
  by_cases hu : u = v
  · subst hu
    rwa [update_self]
  · rw [update_of_ne hu]
    exact .refl _

theorem setVif (wl : Wl1271) (v : VifId) {f : Wl12xxVif → Wl12xxVif}
    (hf : VifSame (wl.vifs v) (f (wl.vifs v))) : DriverKeep wl (wl.setVif v f) :=
  .of_update (.of_parts rfl rfl) rfl rfl rfl hf

end DriverKeep

/-! ## Quiet steps -/

/-- The links that a vif has and names are the same. -/
structure HlidSame (w w' : Wl12xxVif) : Prop where
  role : ∀ r, w'.roleHlid r = w.roleHlid r
  sta : w'.staHlidMap = w.staHlidMap
  links : w'.linksMap = w.linksMap

theorem HlidSame.refl (w : Wl12xxVif) : HlidSame w w := ⟨fun _ => rfl, rfl, rfl⟩

theorem HlidSame.trans {w w' w'' : Wl12xxVif} (h : HlidSame w w') (h' : HlidSame w' w'') :
    HlidSame w w'' :=
  ⟨fun r => (h'.role r).trans (h.role r), h'.sta.trans h.sta, h'.links.trans h.links⟩

theorem HlidSame.of_fields {w w' : Wl12xxVif} (h₁ : w'.devHlid = w.devHlid)
    (h₂ : w'.staHlid = w.staHlid) (h₃ : w'.apGlobalHlid = w.apGlobalHlid)
    (h₄ : w'.apBcastHlid = w.apBcastHlid) (hs : w'.staHlidMap = w.staHlidMap)
    (hl : w'.linksMap = w.linksMap) : HlidSame w w' := by
  refine ⟨fun r => ?_, hs, hl⟩
  cases r
  · exact h₁
  · exact h₂
  · exact h₃
  · exact h₄

theorem HlidSame.of_keep {w w' : Wl12xxVif} (h : VifKeep w w') : HlidSame w w' := by
  obtain ⟨_, _, _, _, rfl⟩ := h
  exact .of_fields rfl rfl rfl rfl rfl rfl

/-- Neither the links nor the frames nor the memory of the firmware are concerned; the Tx watchdog
may be armed. -/
structure Quiet (wl wl' : Wl1271) : Prop where
  driver : DriverKeep wl wl'
  vif : ∀ u, HlidSame (wl.vifs u) (wl'.vifs u)
  links : wl'.linksMap = wl.linksMap
  queues : wl'.toTxQueues = wl.toTxQueues
  allocated : wl'.txAllocatedBlocks = wl.txAllocatedBlocks
  available : wl'.txBlocksAvailable = wl.txBlocksAvailable
  watchdog : wl.txWatchdogPending = true → wl'.txWatchdogPending = true

namespace Quiet

variable (wl : Wl1271)

/-- A field of a vif changes that is no link. -/
theorem setVif (v : VifId) {f : Wl12xxVif → Wl12xxVif}
    (hf : VifSame (wl.vifs v) (f (wl.vifs v))) (hl : HlidSame (wl.vifs v) (f (wl.vifs v))) :
    Quiet wl (wl.setVif v f) := by
  refine ⟨.setVif wl v hf, fun u => ?_, rfl, rfl, rfl, rfl, id⟩
  show HlidSame (wl.vifs u) (update wl.vifs v (f (wl.vifs v)) u)
  by_cases hu : u = v
  · subst hu
    rwa [update_self]
  · rw [update_of_ne hu]
    exact .refl _

/-- Nothing changes but the power state, the works and the commands that were sent. -/
theorem of_parts {wl wl' : Wl1271} (hp : PowerKeep wl wl') (hl : wl'.toVifLinks = wl.toVifLinks)
    (hq : wl'.toTxQueues = wl.toTxQueues) (ha : wl'.toTxAccounting = wl.toTxAccounting) :
    Quiet wl wl' := by
  have hvifs : wl'.vifs = wl.vifs := congrArg VifLinks.vifs hl
  refine ⟨⟨hp, congrArg VifLinks.wlvifList hl, Or.inl (congrArg VifLinks.lastWlvif hl),
    fun v => ?_⟩, fun u => ?_,
    congrArg VifLinks.linksMap hl, hq, congrArg TxAccounting.txAllocatedBlocks ha,
    congrArg TxAccounting.txBlocksAvailable ha, fun h => ?_⟩
  · rw [hvifs]
    exact .refl _
  · rw [hvifs]
    exact .refl _
  · rw [show wl'.txWatchdogPending = wl.txWatchdogPending from
      congrArg TxAccounting.txWatchdogPending ha]
    exact h

theorem refl : Quiet wl wl := .of_parts (.refl wl) rfl rfl rfl

theorem trans {wl wl' wl'' : Wl1271} (h : Quiet wl wl') (h' : Quiet wl' wl'') : Quiet wl wl'' :=
  ⟨h.driver.trans h'.driver, fun u => (h.vif u).trans (h'.vif u), h'.links.trans h.links,
    h'.queues.trans h.queues, h'.allocated.trans h.allocated, h'.available.trans h.available,
    fun hw => h'.watchdog (h.watchdog hw)⟩

theorem queueRecovery : Quiet wl (wl12xxQueueRecoveryWork wl) :=
  .of_parts (TxKeep.queueRecovery wl).powerKeep rfl rfl rfl

theorem rearm : Quiet wl (wl12xxRearmTxWatchdogLocked wl) := by
  refine ⟨⟨.of_parts rfl rfl, rfl, .refl _, fun _ => .refl _⟩, fun _ => .refl _, rfl, rfl, rfl, rfl,
    fun h => ?_⟩
  show (wl.txWatchdogPending || wl.txAllocatedBlocks != 0) = true
  rw [h, Bool.true_or]

theorem cmdEffect (ret : CmdRet) : Quiet wl (Driver.cmdEffect wl ret) := by
  unfold Driver.cmdEffect
  split
  · exact .queueRecovery wl
  · exact .refl wl

theorem sendKeyCmd (cmd : KeyCmd) (ret : CmdRet) : Quiet wl (Driver.sendKeyCmd wl cmd ret).2 := by
  unfold Driver.sendKeyCmd
  split
  · exact .of_parts (.of_parts rfl rfl) rfl rfl rfl
  · exact .of_parts (.refl wl) rfl rfl rfl
  · exact .queueRecovery wl

end Quiet

/-! ## The atomic steps -/

/-- What is assumed beside the assumptions on the data path: which vifs the operations are called
for, and whether a role may get a link although it has one. -/
structure LinkAssume extends Assume where
  vif : VifId → Prop
  retake : Prop

/-- Nothing is assumed. -/
def LinkAssume.any : LinkAssume where
  frame := fun _ => True
  status := fun _ _ => True
  dummy := True
  vif := fun _ => True
  retake := True

theorem offers_any (env : TxWorkEnv) : Offers LinkAssume.any.frame env := fun _ _ _ _ => trivial

/-- The atomic steps, under assumptions on the environment. -/
inductive LinkAtom (A : LinkAssume) : Wl1271 → Wl1271 → Prop
  /-- the data path runs; the firmware that is off gets no frame -/
  | tx {wl wl' : Wl1271} (hreach : Reach A.toAssume (none, wl) (none, wl'))
      (hoff : wl.state = .off → wl'.txAllocatedBlocks = wl.txAllocatedBlocks) :
      LinkAtom A wl wl'
  /-- something else happens -/
  | quiet {wl wl' : Wl1271} (hq : Quiet wl wl') : LinkAtom A wl wl'
  /-- the Tx watchdog fires and has nothing to watch -/
  | fire {wl : Wl1271} (h : wl.state ≠ .on ∨ wl.txAllocatedBlocks = 0) :
      LinkAtom A wl { wl with txWatchdogPending := false }
  /-- a role gets a link -/
  | take {wl wl' : Wl1271} {v : VifId} {r : RoleLink} (hv : A.vif v)
      (hfree : (wl.vifs v).roleHlid r = none ∨ A.retake)
      (heq : allocateRoleLink wl v r = (true, wl')) : LinkAtom A wl wl'
  /-- a role gives its link back -/
  | give {wl : Wl1271} {v : VifId} (hv : A.vif v) (r : RoleLink) :
      LinkAtom A wl (freeRoleLink wl v r)
  /-- a station gets a link -/
  | addSta {wl wl' : Wl1271} {v : VifId} {h : Hlid} (hv : A.vif v)
      (heq : wl1271AllocateSta wl v = (some h, wl')) : LinkAtom A wl wl'
  /-- a station gives its link back -/
  | freeSta {wl : Wl1271} {v : VifId} (hv : A.vif v) (h : Hlid) :
      LinkAtom A wl (wl1271FreeSta wl v h)

/-- Chains of atomic steps. -/
def LinkReach (A : LinkAssume) : Wl1271 → Wl1271 → Prop := Relation.ReflTransGen (LinkAtom A)

namespace LinkReach

variable {A : LinkAssume} {wl wl' wl'' : Wl1271}

theorem refl (wl : Wl1271) : LinkReach A wl wl := Relation.ReflTransGen.refl

theorem trans (h : LinkReach A wl wl') (h' : LinkReach A wl' wl'') : LinkReach A wl wl'' :=
  Relation.ReflTransGen.trans h h'

theorem single (h : LinkAtom A wl wl') : LinkReach A wl wl' := Relation.ReflTransGen.single h

theorem quiet (h : Quiet wl wl') : LinkReach A wl wl' := single (.quiet h)

theorem queueRecovery (wl : Wl1271) : LinkReach A wl (wl12xxQueueRecoveryWork wl) :=
  quiet (.queueRecovery wl)

theorem rearm (wl : Wl1271) : LinkReach A wl (wl12xxRearmTxWatchdogLocked wl) :=
  quiet (.rearm wl)

theorem cmdEffect (wl : Wl1271) (ret : CmdRet) : LinkReach A wl (Driver.cmdEffect wl ret) :=
  quiet (.cmdEffect wl ret)

theorem give {v : VifId} (hv : A.vif v) (wl : Wl1271) (r : RoleLink) :
    LinkReach A wl (freeRoleLink wl v r) := single (.give hv r)

theorem foldl {α : Type} {f : Wl1271 → α → Wl1271} {l : List α}
    (hf : ∀ wl, ∀ a ∈ l, LinkReach A wl (f wl a)) (wl : Wl1271) :
    LinkReach A wl (l.foldl f wl) :=
  Lib.foldl_rel refl trans hf wl

/-- What the atomic steps preserve, the functions preserve. -/
theorem invariant {I : Wl1271 → Prop} (hstep : ∀ wl wl', LinkAtom A wl wl' → I wl → I wl')
    (h : LinkReach A wl wl') (hwl : I wl) : I wl' := by
  induction h with
  | refl => exact hwl
  | tail _ hatom ih => exact hstep _ _ hatom ih

end LinkReach

/-! ## The frame of the atomic steps -/

theorem allocateRoleLink_some {wl wl' : Wl1271} {v : VifId} {r : RoleLink}
    (heq : allocateRoleLink wl v r = (true, wl')) :
    ∃ h, wl.linksMap h = false ∧ wl' = { wl with
      linksMap := update wl.linksMap h true
      vifs := update wl.vifs v
        ({ wl.vifs v with linksMap := update (wl.vifs v).linksMap h true }.setRoleHlid r
          (some h)) } := by
  unfold allocateRoleLink at heq
  split at heq
  · cases heq
  · rename_i h wl₁ halloc
    obtain ⟨hfree, rfl⟩ := wl12xxAllocateLink_some halloc
    cases heq
    refine ⟨h, hfree, ?_⟩
    simp [Wl1271.setVif]

theorem allocateRoleLink_false {wl wl' : Wl1271} {v : VifId} {r : RoleLink}
    (heq : allocateRoleLink wl v r = (false, wl')) : wl' = wl := by
  unfold allocateRoleLink at heq
  split at heq
  · rename_i halloc
    cases heq
    exact wl12xxAllocateLink_none halloc
  · cases heq

/-- A role gives a link back that it has. -/
theorem freeRoleLink_eq {wl : Wl1271} {v : VifId} {r : RoleLink} {h : Hlid}
    (hr : (wl.vifs v).roleHlid r = some h) :
    freeRoleLink wl v r = { drainLinkQueues wl h with
      vifs := update wl.vifs v
        ({ wl.vifs v with linksMap := update (wl.vifs v).linksMap h false }.setRoleHlid r none)
      linksMap := update wl.linksMap h false } := by
  unfold freeRoleLink
  rw [hr]
  simp [Wl1271.setVif, wl12xxFreeLink, wl1271TxResetLinkQueues, drainLinkQueues,
    wl1271HandleTxLowWatermark] <;> rfl

theorem freeRoleLink_none {wl : Wl1271} {v : VifId} {r : RoleLink}
    (hr : (wl.vifs v).roleHlid r = none) : freeRoleLink wl v r = wl := by
  unfold freeRoleLink
  rw [hr]

theorem LinkAtom.driver {A : LinkAssume} {wl wl' : Wl1271} (hatom : LinkAtom A wl wl') :
    DriverKeep wl wl' := by
  have hlinks (w : Wl12xxVif) (m : Hlid → Bool) : VifSame w { w with linksMap := m } :=
    .of_fields rfl rfl rfl rfl rfl rfl rfl rfl rfl
  cases hatom with
  | tx hreach hoff => exact .of_tx hreach.keep
  | quiet hq => exact hq.driver
  | fire h => exact ⟨.of_parts rfl rfl, rfl, .refl _, fun _ => .refl _⟩
  | @take wl' v r hv hfree heq =>
    obtain ⟨h, -, rfl⟩ := allocateRoleLink_some heq
    exact .of_update (.of_parts rfl rfl) rfl rfl rfl ((hlinks _ _).trans (.setRoleHlid _ r _))
  | @give v hv r =>
    cases hr : (wl.vifs v).roleHlid r with
    | none =>
      rw [freeRoleLink_none hr]
      exact .refl wl
    | some h =>
      rw [freeRoleLink_eq hr]
      exact .of_update (.of_parts rfl rfl) rfl rfl rfl ((hlinks _ _).trans (.setRoleHlid _ r _))
  | addSta hv heq =>
    obtain ⟨-, rfl⟩ := wl1271AllocateSta_some heq
    exact .of_update (.of_parts rfl rfl) rfl rfl rfl
      (.of_fields rfl rfl rfl rfl rfl rfl rfl rfl rfl)
  | @freeSta v hv h =>
    cases hsta : (wl.vifs v).staHlidMap h with
    | false =>
      rw [wl1271FreeSta_of_not hsta]
      exact .refl wl
    | true =>
      obtain ⟨_, heq⟩ := wl1271FreeSta_frame hsta
      rw [heq]
      exact .of_update (.of_parts rfl rfl) rfl rfl rfl
        (.of_fields rfl rfl rfl rfl rfl rfl rfl rfl rfl)

theorem LinkReach.driver {A : LinkAssume} {wl wl' : Wl1271} (h : LinkReach A wl wl') :
    DriverKeep wl wl' :=
  h.invariant (I := DriverKeep wl) (fun _ _ hatom hk => hk.trans hatom.driver) (.refl wl)

/-! ## Roles -/

section
variable {A : LinkAssume} {v : VifId} (hv : A.vif v) (wl : Wl1271)
include hv

theorem roleStart_links (r : RoleLink) (newSession : Bool) (ret : CmdRet) :
    LinkReach A wl (roleStart r newSession wl v ret).2 := by
  have hlink : LinkReach A wl (roleStartLink wl v r).2 := by
    unfold roleStartLink
    split
    · rename_i hnone
      cases heq : allocateRoleLink wl v r with
      | mk b wl' =>
        cases b with
        | false =>
          rw [allocateRoleLink_false heq]
          exact .refl wl
        | true => exact .single (.take hv (Or.inl hnone) heq)
    · exact .refl wl
  unfold roleStart
  split
  · exact .refl wl
  · split <;> rename_i wl₁ heq <;> rw [heq] at hlink
    · exact hlink
    · have hsession : LinkReach A wl₁ (if newSession = true then wl₁.setVif v fun w =>
          { w with sessionCounter := newSessionId w.sessionCounter } else wl₁) := by
        split
        · exact .quiet (.setVif wl₁ v (.of_fields rfl rfl rfl rfl rfl rfl rfl rfl rfl)
            (.of_fields rfl rfl rfl rfl rfl rfl))
        · exact .refl wl₁
      dsimp only
      split
      · exact hlink.trans hsession
      · exact (hlink.trans hsession).trans ((LinkReach.cmdEffect _ ret).trans (.give hv _ r))

theorem wl1271Join_links (ret : CmdRet) : LinkReach A wl (wl1271Join wl v ret).2 := by
  have hset : LinkReach A wl (wl.setVif v fun w => { w with encryptionType := .none }) :=
    .quiet (.setVif wl v (.of_fields rfl rfl rfl rfl rfl rfl rfl rfl rfl)
      (.of_fields rfl rfl rfl rfl rfl rfl))
  dsimp only [wl1271Join]
  split <;> exact hset.trans (roleStart_links hv _ _ _ ret)

theorem wl12xxCmdRoleStopDev_links (env : RoleStopEnv) :
    LinkReach A wl (wl12xxCmdRoleStopDev wl v env).2 := by
  unfold wl12xxCmdRoleStopDev
  split_ifs
  · exact .refl wl
  · exact .cmdEffect wl _
  · split
    · exact .give hv wl .dev
    · exact (LinkReach.queueRecovery wl).trans (.give hv _ .dev)
    · exact .queueRecovery wl

theorem wl12xxCmdRoleStopSta_links (env : RoleStopEnv) :
    LinkReach A wl (wl12xxCmdRoleStopSta wl v env).2 := by
  unfold wl12xxCmdRoleStopSta
  split_ifs
  · exact .refl wl
  · exact .cmdEffect wl _
  · split
    · exact (LinkReach.queueRecovery wl).trans (.give hv _ .sta)
    · exact .give hv wl .sta

theorem changeStaRole_links (change : Wlcore.StaRole) :
    LinkReach A wl (Wlcore.changeStaRole wl v change) := by
  cases change with
  | join ret => exact wl1271Join_links hv wl ret
  | stop env => exact wl12xxCmdRoleStopSta_links hv wl env

/-! ## AP roles -/

omit hv in
/-- The global link of an AP leaves the field of its broadcast link alone. -/
theorem allocateRoleLink_apBcast {wl wl' : Wl1271}
    (heq : allocateRoleLink wl v .apGlobal = (true, wl')) :
    (wl'.vifs v).roleHlid .apBcast = (wl.vifs v).roleHlid .apBcast := by
  obtain ⟨h, -, rfl⟩ := allocateRoleLink_some heq
  simp [Wl12xxVif.roleHlid, Wl12xxVif.setRoleHlid]

/-- The fields of an AP may be written: they hold nothing. -/
def ApFree (A : LinkAssume) (w : Wl12xxVif) : Prop :=
  (w.apGlobalHlid = none ∧ w.apBcastHlid = none) ∨ A.retake

theorem wl12xxCmdRoleStartAp_links (hfree : ApFree A (wl.vifs v)) (env : StartApEnv) :
    LinkReach A wl (wl12xxCmdRoleStartAp wl v env).2 := by
  have hfree₁ : (wl.vifs v).roleHlid .apGlobal = none ∨ A.retake := Or.imp_left (fun h => h.1) hfree
  have hfree₂ : (wl.vifs v).roleHlid .apBcast = none ∨ A.retake := Or.imp_left (fun h => h.2) hfree
  unfold wl12xxCmdRoleStartAp
  split
  · exact .refl wl
  · split <;> rename_i wl₁ heq
    · rw [allocateRoleLink_false heq]
      exact .refl wl
    · have hglobal : LinkReach A wl wl₁ := .single (.take hv hfree₁ heq)
      split <;> rename_i wl₂ heq'
      · rw [allocateRoleLink_false heq']
        exact hglobal.trans (.give hv wl₁ .apGlobal)
      · rw [← allocateRoleLink_apBcast heq] at hfree₂
        have hbcast : LinkReach A wl₁ wl₂ := .single (.take hv hfree₂ heq')
        split
        · exact hglobal.trans hbcast
        · exact (hglobal.trans hbcast).trans ((LinkReach.cmdEffect wl₂ _).trans
            ((LinkReach.give hv _ .apBcast).trans (.give hv _ .apGlobal)))

theorem wl12xxCmdRoleStopAp_links (ret : CmdRet) :
    LinkReach A wl (wl12xxCmdRoleStopAp wl v ret).2 := by
  unfold wl12xxCmdRoleStopAp
  split
  · exact (LinkReach.give hv wl .apBcast).trans (.give hv _ .apGlobal)
  · exact .cmdEffect wl ret

omit hv in
theorem apInitHwencLoop_links (v : VifId) (ks : List ApKey) (rets : List CmdRet) (wl : Wl1271) :
    LinkReach A wl (apInitHwencLoop v ks rets wl).2 := by
  induction ks generalizing rets wl with
  | nil => exact .refl wl
  | cons k ks ih =>
    have hsend : LinkReach A wl (sendKeyCmd wl (apKeyCmd (wl.vifs v) k) (rets.headD .ok)).2 :=
      .quiet (.sendKeyCmd wl _ _)
    unfold apInitHwencLoop
    split <;> rename_i heq <;> rw [heq] at hsend
    · exact hsend
    · exact hsend.trans (ih _ _)

omit hv in
theorem wl1271ApInitHwenc_links (v : VifId) (env : HwencEnv) :
    LinkReach A wl (wl1271ApInitHwenc wl v env).2 := by
  have hloop := apInitHwencLoop_links (A := A) v (wl.vifs v).recordedApKeys env.keys wl
  have hsend : LinkReach A wl (apInitHwencSend wl v env).2 := by
    unfold apInitHwencSend
    split <;> rename_i heq <;> rw [heq] at hloop
    · exact hloop
    · split
      · exact hloop.trans (.cmdEffect _ _)
      · exact hloop
  have hdrop (wl : Wl1271) : Quiet wl (wl.setVif v fun w => { w with recordedApKeys := [] }) :=
    .setVif wl v (.of_fields rfl rfl rfl rfl rfl rfl rfl rfl rfl)
      (.of_fields rfl rfl rfl rfl rfl rfl)
  exact hsend.trans (.quiet (hdrop _))

omit hv in
theorem setApStarted_links (v : VifId) (b : Bool) :
    LinkReach A wl (wl.setVif v fun w => { w with apStarted := b }) :=
  .quiet (.setVif wl v (.of_fields rfl rfl rfl rfl rfl rfl rfl rfl rfl)
    (.of_fields rfl rfl rfl rfl rfl rfl))

/-- An AP that is started has no links yet. -/
def StartsFree (A : LinkAssume) (w : Wl12xxVif) (b : BssInfoAp) : Prop :=
  b.enableBeacon = some true → w.apStarted = false → ApFree A w

theorem bssInfoBeacon_links {b : BssInfoAp} (hfree : StartsFree A (wl.vifs v) b) :
    LinkReach A wl (bssInfoBeacon wl v b).2 := by
  unfold bssInfoBeacon
  split
  · exact .refl wl
  · rename_i hbeacon
    unfold bssInfoStartAp
    split
    · exact .refl wl
    · rename_i hstarted
      have hstart := wl12xxCmdRoleStartAp_links hv wl
        (hfree hbeacon (by simpa using hstarted)) b.start
      split <;> rename_i wl₁ heq <;> rw [heq] at hstart
      · exact hstart
      · have henc := hstart.trans (wl1271ApInitHwenc_links wl₁ v b.hwenc)
        split <;> rename_i heq' <;> rw [heq'] at henc
        · exact henc
        · exact henc.trans (setApStarted_links _ v true)
  · have hstop := wl12xxCmdRoleStopAp_links hv wl b.stop
    unfold bssInfoStopAp
    split
    · exact .refl wl
    · split <;> rename_i heq <;> rw [heq] at hstop
      · exact hstop
      · exact hstop.trans (setApStarted_links _ v false)

theorem wl1271BssInfoChangedAp_links {b : BssInfoAp} (hfree : StartsFree A (wl.vifs v) b) :
    LinkReach A wl (wl1271BssInfoChangedAp wl v b) := by
  have hbeacon := bssInfoBeacon_links hv wl hfree
  unfold wl1271BssInfoChangedAp
  split
  · exact .cmdEffect wl _
  · split <;> rename_i heq <;> rw [heq] at hbeacon
    · exact hbeacon
    · exact hbeacon.trans (.cmdEffect _ _)

end

/-! ## Keys -/

section
variable (wl : Wl1271) (v : VifId) (sta : Option KeySta) (k : KeyConf)

theorem runCmd_quiet (ret : CmdRet) : Quiet wl (runCmd wl ret).2 := by
  cases ret
  · exact .refl wl
  · exact .refl wl
  · exact .queueRecovery wl

theorem wl1271SetKey_quiet (add : Bool) (keyType : KeyType) (txSeq : ℕ × ℕ) (ret : CmdRet) :
    Quiet wl (wl1271SetKey wl v add k keyType txSeq sta ret).2 := by
  have hrecord (r : ApKey) (b : Bool) : Quiet wl (wl1271RecordApKey wl v r b).2 := by
    have hadd : Quiet wl (wl.setVif v fun w =>
        { w with recordedApKeys := w.recordedApKeys ++ [r] }) :=
      .setVif wl v (.of_fields rfl rfl rfl rfl rfl rfl rfl rfl rfl)
        (.of_fields rfl rfl rfl rfl rfl rfl)
    dsimp only [wl1271RecordApKey]
    split_ifs
    all_goals first
      | exact .refl wl
      | exact hadd
  dsimp only [wl1271SetKey]
  split_ifs
  all_goals first
    | exact .refl wl
    | exact hrecord _ _
    | exact .sendKeyCmd wl _ ret

theorem wlcoreSetKey_quiet (cmd : SetKeyCmd) (env : SetKeyEnv) :
    Quiet wl (wlcoreSetKey wl cmd v sta k env).2 := by
  have harp (wl : Wl1271) (keyType : KeyType) :
      Quiet wl (updateArpRsp wl v keyType sta env.arpRsp).2 := by
    dsimp only [updateArpRsp]
    split
    · have hset : Quiet wl (wl.setVif v fun w => { w with encryptionType := keyType }) :=
        .setVif wl v (.of_fields rfl rfl rfl rfl rfl rfl rfl rfl rfl)
          (.of_fields rfl rfl rfl rfl rfl rfl)
      exact hset.trans (runCmd_quiet _ _)
    · exact .refl wl
  unfold wlcoreSetKey
  split
  · exact .refl wl
  · split
    · exact .refl wl
    · rename_i keyType _
      cases cmd with
      | setKey =>
        have hset := wl1271SetKey_quiet wl v sta k true keyType (keyTxSeq (wl.vifs v) keyType)
          env.keyCmd
        dsimp only
        split <;> rename_i heq <;> rw [heq] at hset
        · exact hset
        · exact hset.trans (harp _ keyType)
      | disableKey => exact wl1271SetKey_quiet wl v sta k false keyType (0, 0) env.keyCmd

theorem wlcoreHwSetKey_quiet (cmd : SetKeyCmd) (env : SetKeyEnv) :
    Quiet wl (wlcoreHwSetKey wl cmd v sta k env).2 := by
  have hset := wlcoreSetKey_quiet wl v sta k cmd env
  have hcfg (wl : Wl1271) (n : ℕ) : Quiet wl (wl18xxSetHostCfgBitmap wl n env.hostCfg).2 := by
    unfold wl18xxSetHostCfgBitmap
    split
    · exact .of_parts (.of_parts rfl rfl) rfl rfl rfl
    · exact runCmd_quiet wl _
  have hcount (wl : Wl1271) (n : ℤ) : Quiet wl { wl with extraSpareVifCount := n } :=
    .of_parts (.of_parts rfl rfl) rfl rfl rfl
  unfold wlcoreHwSetKey
  split
  · unfold wl18xxSetKey
    split
    · exact hset
    · split <;> rename_i heq <;> rw [heq] at hset
      · exact hset
      · rename_i wl₁
        cases cmd with
        | setKey =>
          have hset' := hset.trans (hcfg wl₁ wl18xxTxHwExtraBlockSpare)
          dsimp only
          split <;> rename_i heq' <;> rw [heq'] at hset'
          · exact hset'
          · exact hset'.trans (hcount _ _)
        | disableKey =>
          have hset' := hset.trans (hcfg wl₁ wl18xxTxHwBlockSpare)
          dsimp only
          split <;> rename_i heq' <;> rw [heq'] at hset'
          · exact hset'
          · exact hset'.trans (hcount _ _)
  · exact hset

end

/-! ## The data path -/

section
variable {A : LinkAssume} (wl : Wl1271)

/-- A driver that is off sends nothing. -/
theorem wlcoreTxWorkLocked_off {wl : Wl1271} (hoff : wl.state = .off) (env : TxWorkEnv) :
    wlcoreTxWorkLocked wl env = (.ok, wl) := by
  unfold wlcoreTxWorkLocked
  rw [if_pos (by rw [hoff]; decide)]

theorem wlcoreTxWorkLocked_links {env : TxWorkEnv} (henv : Offers A.frame env) :
    LinkReach A wl (wlcoreTxWorkLocked wl env).2 :=
  .single (.tx (wlcoreTxWorkLocked_reach henv wl) fun hoff => by rw [wlcoreTxWorkLocked_off hoff])

theorem wl1271TxWork_links {env : TxWorkEnv} (henv : Offers A.frame env) (elpOk : Bool) :
    LinkReach A wl (wl1271TxWork wl elpOk env) := by
  have htx := wlcoreTxWorkLocked_links wl henv
  unfold wl1271TxWork
  split
  · exact .queueRecovery wl
  · split <;> rename_i heq <;> rw [heq] at htx
    · exact htx.trans (.queueRecovery _)
    · exact htx

theorem runTxWork_links {env : TxWorkEnv} (henv : Offers A.frame env) (elpOk : Bool) :
    LinkReach A wl (runTxWork wl elpOk env) := by
  have htaken : LinkReach A wl { wl with txWorkQueued := false } :=
    .quiet (.of_parts (.of_parts rfl rfl) rfl rfl rfl)
  unfold runTxWork
  split
  · exact htaken.trans (wl1271TxWork_links _ henv elpOk)
  · exact .refl wl

theorem wl1271OpTx_links {skb : Skb} (hskb : A.frame skb) : LinkReach A wl (wl1271OpTx wl skb) := by
  refine .single (.tx (.single (.opTx hskb)) fun _ => ?_)
  unfold wl1271OpTx
  split <;> rfl

theorem drainLinkQueues_links (h : Hlid) : LinkReach A wl (drainLinkQueues wl h) :=
  .single (.tx (.single (.drain h)) fun _ => rfl)

theorem wl1271TxFlush_links {polls : List (Bool × TxWorkEnv)}
    (hpolls : ∀ p ∈ polls, Offers A.frame p.2) (timedOut : Bool) :
    LinkReach A wl (wl1271TxFlush wl polls timedOut) := by
  have hstop (ts : TxStop) (wl : Wl1271) : LinkReach A wl { wl with toTxStop := ts } :=
    .quiet (.of_parts (.of_parts rfl rfl) rfl rfl rfl)
  have hbegin : LinkReach A wl (txFlushBegin wl) := by
    unfold txFlushBegin
    split
    · exact .refl wl
    · exact hstop _ wl
  have hpoll : ∀ wl, ∀ p ∈ polls, LinkReach A wl (txFlushPoll wl p.1 p.2) := by
    intro wl p hp
    unfold txFlushPoll
    split
    · exact wl1271TxWork_links wl (hpolls p hp) p.1
    · exact .refl wl
  have hend (wl : Wl1271) : LinkReach A wl (txFlushEnd wl timedOut) := by
    have hreset : LinkReach A wl (resetAllLinkQueues wl) :=
      .foldl (f := wl1271TxResetLinkQueues) (fun wl h _ => drainLinkQueues_links wl h) wl
    unfold txFlushEnd
    split
    · exact hreset.trans (hstop _ _)
    · exact hstop _ wl
  unfold wl1271TxFlush
  split
  · exact .refl wl
  · exact (hbegin.trans (.foldl hpoll _)).trans (hend _)

theorem wlcoreOpSetKey_links (cmd : SetKeyCmd) (v : VifId) (sta : Option KeySta) (k : KeyConf)
    {env : Wlcore.KeyOpEnv} (hpolls : ∀ p ∈ env.polls, Offers A.frame p.2) :
    LinkReach A wl (Wlcore.wlcoreOpSetKey wl cmd v sta k env) := by
  have hstop (ts : TxStop) (wl : Wl1271) : LinkReach A wl { wl with toTxStop := ts } :=
    .quiet (.of_parts (.of_parts rfl rfl) rfl rfl rfl)
  have hkey (wl : Wl1271) : LinkReach A wl (if wl.state ≠ .on then wl
      else if !env.elpOk then wl12xxQueueRecoveryWork wl
      else (wlcoreHwSetKey wl cmd v sta k env.keys).2) := by
    split_ifs
    · exact .refl wl
    · exact .queueRecovery wl
    · exact .quiet (wlcoreHwSetKey_quiet wl v sta k cmd env.keys)
  dsimp only [Wlcore.wlcoreOpSetKey, opSetKeyBegin, opSetKeyEnd]
  by_cases hspare : needsExtraSpare k.cipher = true
  · simp only [hspare, if_true]
    exact (((hstop _ wl).trans (wl1271TxFlush_links _ hpolls env.flushTimedOut)).trans
      (hkey _)).trans (hstop _ _)
  · simp only [hspare, if_false, Bool.false_eq_true]
    exact hkey wl

theorem wlcoreIrq_links {env : IrqEnv}
    (henv : IrqAssumed A.toAssume env { wl with txPending := true, txWorkQueued := false }) :
    LinkReach A wl (wlcoreIrq wl env).2 := by
  have hbegin : LinkReach A wl { wl with txPending := true, txWorkQueued := false } :=
    .quiet (.of_parts (.of_parts rfl rfl) rfl rfl rfl)
  have hlocked : LinkReach A { wl with txPending := true, txWorkQueued := false }
      (wlcoreIrqLocked { wl with txPending := true, txWorkQueued := false } env).2 := by
    refine .single (.tx (wlcoreIrqLocked_reach henv) fun hoff => ?_)
    unfold wlcoreIrqLocked
    rw [if_pos (by rw [hoff]; decide)]
  have hfinish (wl : Wl1271) : LinkReach A wl (irqFinish wl) :=
    .quiet (.of_parts (.of_parts rfl rfl) rfl rfl rfl)
  unfold wlcoreIrq
  split <;> rename_i heq <;> rw [heq] at hlocked
  · exact hbegin.trans hlocked
  · exact (hbegin.trans hlocked).trans ((LinkReach.queueRecovery _).trans (hfinish _))
  · exact (hbegin.trans hlocked).trans (hfinish _)

end

end TiWlan.Link
