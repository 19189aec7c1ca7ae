import TiWlan.Link.Ownership
import TiWlan.Tx.Ledger

/-!
# The counters of station links

What the operations of the driver do to `links[hlid].allocated_pkts`, `links[hlid].prev_freed_pkts`, to
the packets that the firmware holds and to the descriptors that these use.

Main results:

* `StaKeep` and one lemma `f_staKeep` per function that adds or removes links, stations and
  interfaces: the stations that are left keep their counters;
* `allocated_pkts`: a packet that is handed over is counted for the station on its link;
* `wlcoreFwStatus_status`: a status read brings the counters of all stations up to date and keeps
  their sum modulo 256 (`wlcore/main.c`, lines 356–387).
-/

namespace TiWlan.Link

open TiWlan.Lib TiWlan.Driver TiWlan.Tx
open Function (update update_of_ne update_self)

variable {ret : CmdRet} {wl' : Wl1271} (st : FwStatus) (wl : Wl1271) (attempts : List BootAttempt)

/-! ## Stations keep their counters -/

/-- The stations that are left were there before and keep their counters; the packets in the
firmware and their descriptors are the same. -/
structure StaKeep (wl wl' : Wl1271) : Prop where
  list : ∀ u ∈ wl'.wlvifList, u ∈ wl.wlvifList
  initialized : ∀ u ∈ wl'.wlvifList, (wl'.vifs u).initialized = (wl.vifs u).initialized
  bssType : ∀ u ∈ wl'.wlvifList, (wl'.vifs u).bssType = (wl.vifs u).bssType
  sta : ∀ u ∈ wl'.wlvifList, (wl'.vifs u).bssType = .apBss → ∀ h,
    (wl'.vifs u).staHlidMap h = true → (wl.vifs u).staHlidMap h = true ∧
      wl'.allocatedPkts h = wl.allocatedPkts h ∧ wl'.prevFreedPkts h = wl.prevFreedPkts h
  held : wl'.fwHeld = wl.fwHeld
  slots : wl'.txFramesMap = wl.txFramesMap

namespace StaKeep

variable {wl wl' wl'' : Wl1271} {v : VifId}

theorem refl (wl : Wl1271) : StaKeep wl wl :=
  ⟨fun _ hu => hu, fun _ _ => rfl, fun _ _ => rfl, fun _ _ _ _ hs => ⟨hs, rfl, rfl⟩, rfl, rfl⟩

theorem trans (h : StaKeep wl wl') (h' : StaKeep wl' wl'') : StaKeep wl wl'' := by
  refine ⟨fun u hu => h.list u (h'.list u hu), fun u hu => ?_, fun u hu => ?_,
    fun u hu hap l hs => ?_, h'.held.trans h.held, h'.slots.trans h.slots⟩
  · exact (h'.initialized u hu).trans (h.initialized u (h'.list u hu))
  · exact (h'.bssType u hu).trans (h.bssType u (h'.list u hu))
  · obtain ⟨hs', ha', hp'⟩ := h'.sta u hu hap l hs
    obtain ⟨hs₀, ha, hp⟩ := h.sta u (h'.list u hu) ((h'.bssType u hu).symm.trans hap) l hs'
    exact ⟨hs₀, ha'.trans ha, hp'.trans hp⟩

/-- The data path, where it leaves the counters of links alone. -/
theorem of_keep (hk : TxKeep wl wl') (ha : wl'.allocatedPkts = wl.allocatedPkts)
    (hp : wl'.prevFreedPkts = wl.prevFreedPkts) (hh : wl'.fwHeld = wl.fwHeld)
    (hm : wl'.txFramesMap = wl.txFramesMap) : StaKeep wl wl' where
  list u hu := hk.wlvifList ▸ hu
  initialized u _ := by
    obtain ⟨_, _, _, _, hw⟩ := hk.vif u
    rw [hw]
  bssType u _ := hk.bssType u
  sta u _ _ l hs := ⟨hk.staHlidMap u ▸ hs, congrFun ha l, congrFun hp l⟩
  held := hh
  slots := hm

theorem cmdEffect (wl : Wl1271) (ret : CmdRet) : StaKeep wl (cmdEffect wl ret) := by
  have hk := cmdEffect_keep wl ret
  cases ret <;> exact of_keep hk rfl rfl rfl rfl

theorem queueRecovery (wl : Wl1271) : StaKeep wl (wl12xxQueueRecoveryWork wl) :=
  of_keep (TxKeep.queueRecovery wl) rfl rfl rfl rfl

/-- One vif changes, its stations being among the old ones. -/
theorem of_vif (hlist : wl'.wlvifList = wl.wlvifList) {w : Wl12xxVif}
    (hvifs : wl'.vifs = update wl.vifs v w) (hinit : w.initialized = (wl.vifs v).initialized)
    (hbss : w.bssType = (wl.vifs v).bssType)
    (hsta : ∀ h, w.staHlidMap h = true → (wl.vifs v).staHlidMap h = true)
    (ha : wl'.allocatedPkts = wl.allocatedPkts) (hp : wl'.prevFreedPkts = wl.prevFreedPkts)
    (hh : wl'.fwHeld = wl.fwHeld) (hm : wl'.txFramesMap = wl.txFramesMap) : StaKeep wl wl' := by
  have hvif (u : VifId) : (wl'.vifs u).initialized = (wl.vifs u).initialized ∧
      (wl'.vifs u).bssType = (wl.vifs u).bssType ∧
      ∀ h, (wl'.vifs u).staHlidMap h = true → (wl.vifs u).staHlidMap h = true := by
    rw [hvifs]
    by_cases huv : u = v
    · subst huv
      rw [update_self]
      exact ⟨hinit, hbss, hsta⟩
    · rw [update_of_ne huv]
      exact ⟨rfl, rfl, fun _ hs => hs⟩
  exact ⟨fun u hu => hlist ▸ hu, fun u _ => (hvif u).1, fun u _ => (hvif u).2.1,
    fun u _ _ h hs => ⟨(hvif u).2.2 h hs, congrFun ha h, congrFun hp h⟩, hh, hm⟩

end StaKeep

section
variable {wl wl' : Wl1271} {v : VifId}

theorem wl12xxAllocateLink_staKeep (wl : Wl1271) (v : VifId) :
    StaKeep wl (wl12xxAllocateLink wl v).2 := by
  cases heq : wl12xxAllocateLink wl v with
  | mk r wl' =>
    cases r with
    | none =>
      rw [wl12xxAllocateLink_none heq]
      exact .refl wl
    | some h =>
      obtain ⟨-, rfl⟩ := wl12xxAllocateLink_some heq
      exact .of_vif rfl rfl rfl rfl (fun _ hs => hs) rfl rfl rfl rfl

theorem wl12xxFreeLink_staKeep (wl : Wl1271) (v : VifId) (h : Hlid) :
    StaKeep wl (wl12xxFreeLink wl v h) :=
  .of_vif rfl rfl rfl rfl (fun _ hs => hs) rfl rfl rfl rfl

theorem wl1271FreeSta_staKeep (wl : Wl1271) (v : VifId) (h : Hlid) :
    StaKeep wl (wl1271FreeSta wl v h) := by
  cases hsta : (wl.vifs v).staHlidMap h with
  | false =>
    rw [wl1271FreeSta_of_not hsta]
    exact .refl wl
  | true =>
    obtain ⟨_, heq⟩ := wl1271FreeSta_frame hsta
    rw [heq]
    refine .of_vif rfl rfl rfl rfl (fun h' hs => ?_) rfl rfl rfl rfl
    by_cases hh' : h' = h
    · simp [hh'] at hs
    · simpa [hh'] using hs

theorem wl12xxStaRemove_staKeep (wl : Wl1271) (v : VifId) (h : Hlid) (ret : CmdRet) :
    StaKeep wl (wl12xxStaRemove wl v h ret) := by
  unfold wl12xxStaRemove
  split
  · exact .refl wl
  · split
    · exact wl1271FreeSta_staKeep wl v h
    · exact .cmdEffect wl ret

theorem wl1271FreeSta_gone (wl : Wl1271) (v : VifId) (h : Hlid) :
    ((wl1271FreeSta wl v h).vifs v).staHlidMap h = false := by
  cases hsta : (wl.vifs v).staHlidMap h with
  | false => rw [wl1271FreeSta_of_not hsta, hsta]
  | true =>
    obtain ⟨_, heq⟩ := wl1271FreeSta_frame hsta
    simp [heq]

/-- At most one station was added, with the counters that its link had. -/
structure StaAdded (wl wl' : Wl1271) (v : VifId) (h : Hlid) : Prop where
  list : wl'.wlvifList = wl.wlvifList
  initialized : ∀ u, (wl'.vifs u).initialized = (wl.vifs u).initialized
  bssType : ∀ u, (wl'.vifs u).bssType = (wl.vifs u).bssType
  sta : ∀ u l, (wl'.vifs u).staHlidMap l = true →
    (wl.vifs u).staHlidMap l = true ∨ u = v ∧ l = h
  mono : ∀ u l, (wl.vifs u).staHlidMap l = true → (wl'.vifs u).staHlidMap l = true
  new : (wl'.vifs v).staHlidMap h = true
  accounting : wl'.toTxAccounting = wl.toTxAccounting
  slots : wl'.txFramesMap = wl.txFramesMap
  state : wl'.state = wl.state

theorem wl1271AllocateSta_added {h : Hlid} (heq : wl1271AllocateSta wl v = (some h, wl')) :
    StaAdded wl wl' v h := by
  obtain ⟨-, rfl⟩ := wl1271AllocateSta_some heq
  have hvif (u : VifId) : (update wl.vifs v { wl.vifs v with
        linksMap := update (wl.vifs v).linksMap h true
        staHlidMap := update (wl.vifs v).staHlidMap h true } u) = wl.vifs u ∨ u = v := by
    by_cases huv : u = v
    · exact Or.inr huv
    · exact Or.inl (update_of_ne huv _ _)
  refine ⟨rfl, fun u => ?_, fun u => ?_, fun u l hs => ?_, fun u l hs => ?_, ?_, rfl, rfl, rfl⟩
  · rcases hvif u with heq | rfl
    · exact congrArg Wl12xxVif.initialized heq
    · simp
  · rcases hvif u with heq | rfl
    · exact congrArg Wl12xxVif.bssType heq
    · simp
  · rcases hvif u with heq | rfl
    · exact Or.inl (by simpa only [heq] using hs)
    · by_cases hl : l = h
      · exact Or.inr ⟨rfl, hl⟩
      · exact Or.inl (by simpa [hl] using hs)
  · rcases hvif u with heq | rfl
    · simpa only [heq] using hs
    · by_cases hl : l = h
      · simp [hl]
      · simpa [hl] using hs
  · simp

/-- A station that could not be added leaves nothing behind. -/
theorem wl12xxStaAdd_none (heq : wl12xxStaAdd wl v ret = (none, wl')) : StaKeep wl wl' := by
  unfold wl12xxStaAdd at heq
  split at heq
  · rename_i hsta
    cases heq
    rw [wl1271AllocateSta_none hsta]
    exact .refl wl
  · rename_i h wl₁ hsta
    split at heq
    · cases heq
    · cases heq
      have hadd := wl1271AllocateSta_added hsta
      have hk := (StaKeep.cmdEffect wl₁ ret).trans (wl1271FreeSta_staKeep (cmdEffect wl₁ ret) v h)
      have hgone := wl1271FreeSta_gone (cmdEffect wl₁ ret) v h
      have hacct := hadd.accounting
      refine ⟨fun u hu => hadd.list ▸ hk.list u hu,
        fun u hu => (hk.initialized u hu).trans (hadd.initialized u),
        fun u hu => (hk.bssType u hu).trans (hadd.bssType u), fun u hu hap l hs => ?_,
        hk.held.trans (congrArg TxAccounting.fwHeld hacct), hk.slots.trans hadd.slots⟩
      obtain ⟨hs₁, ha, hp⟩ := hk.sta u hu hap l hs
      refine ⟨(hadd.sta u l hs₁).resolve_right ?_,
        ha.trans (congrFun (congrArg TxAccounting.allocatedPkts hacct) l),
        hp.trans (congrFun (congrArg TxAccounting.prevFreedPkts hacct) l)⟩
      rintro ⟨rfl, rfl⟩
      simp [hgone] at hs

theorem wl12xxStaAdd_some {h : Hlid} (heq : wl12xxStaAdd wl v ret = (some h, wl')) :
    StaAdded wl wl' v h := by
  unfold wl12xxStaAdd at heq
  split at heq
  · cases heq
  · rename_i hsta
    split at heq
    · cases heq
      exact wl1271AllocateSta_added hsta
    · cases heq

/-! ## Removing an interface -/

/-- The loop over the links of a vif only clears counters of that vif's links. -/
theorem txResetLoop_staKeep {wl₀ : Wl1271} (ho : LinksOwned wl₀) (hv : v ∈ wl₀.wlvifList)
    (hs : List Hlid) (hlinks : ∀ h ∈ hs, (wl₀.vifs v).linksMap h = true) (hk : StaKeep wl₀ wl) :
    StaKeep wl₀ (hs.foldl (txResetWlvifLink v) wl) := by
  induction hs generalizing wl with
  | nil => exact hk
  | cons h hs ih =>
    refine ih (fun h' hh' => hlinks h' (by simp [hh'])) ?_
    -- the station on this link is gone before its counters are cleared
    have hfree : StaKeep wl (if (wl.vifs v).bssType = .apBss then wl1271FreeSta wl v h else wl) := by
      split
      · exact wl1271FreeSta_staKeep wl v h
      · exact .refl wl
    have hk' := hk.trans hfree
    refine ⟨hk'.list, hk'.initialized, hk'.bssType, fun u hu hap l hsta => ?_, hk'.held, hk'.slots⟩
    have hold := hk'.sta u hu hap l hsta
    have hne : l ≠ h := by
      rintro rfl
      have huv : u = v := ho.disjoint u (hk'.list u hu) v hv l
        ((ho.vif u (hk'.list u hu)).sta l hold.1) (hlinks l (by simp))
      subst huv
      have hap₀ : (wl.vifs u).bssType = .apBss := (hfree.bssType u hu).symm.trans hap
      have hsta' : ((if (wl.vifs u).bssType = .apBss then wl1271FreeSta wl u l else wl).vifs
          u).staHlidMap l = true := hsta
      rw [if_pos hap₀, wl1271FreeSta_gone] at hsta'
      cases hsta'
    refine ⟨hold.1, ?_, ?_⟩
    · exact (update_of_ne hne _ _).trans hold.2.1
    · exact (update_of_ne hne _ _).trans hold.2.2

/-- Vifs other than `v` are untouched, and `v` is not listed any more. -/
theorem StaKeep.of_unlisted (hlist : ∀ u ∈ wl'.wlvifList, u ∈ wl.wlvifList ∧ u ≠ v)
    (hvifs : ∀ u, u ≠ v → wl'.vifs u = wl.vifs u) (hacct : wl'.toTxAccounting = wl.toTxAccounting)
    (hslots : wl'.txFramesMap = wl.txFramesMap) : StaKeep wl wl' := by
  have hvif (u : VifId) (hu : u ∈ wl'.wlvifList) : wl'.vifs u = wl.vifs u := hvifs u (hlist u hu).2
  refine ⟨fun u hu => (hlist u hu).1, fun u hu => by rw [hvif u hu], fun u hu => by rw [hvif u hu],
    fun u hu _ h hs => ⟨hvif u hu ▸ hs, ?_, ?_⟩, congrArg TxAccounting.fwHeld hacct, hslots⟩
  · exact congrFun (congrArg TxAccounting.allocatedPkts hacct) h
  · exact congrFun (congrArg TxAccounting.prevFreedPkts hacct) h

theorem removeDeinit_staKeep (ho : LinksOwned wl) (hv : v ∈ wl.wlvifList) :
    StaKeep wl (removeDeinit wl v) := by
  have hforget : StaKeep wl (wl.setVif v forgetRoles) := by
    refine .of_vif rfl rfl ?_ ?_ (fun h hs => ?_) rfl rfl rfl rfl
    · unfold forgetRoles
      split <;> rfl
    · unfold forgetRoles
      split <;> rfl
    · unfold forgetRoles at hs
      split at hs <;> exact hs
  have ho₁ := forgetRoles_owned ho hv
  have hloop := txResetLoop_staKeep ho₁ hv
    (allHlids.filter ((wl.setVif v forgetRoles).vifs v).linksMap)
    (fun h hh => (List.mem_filter.mp hh).2) (.refl (wl.setVif v forgetRoles))
  have hlist := (removeDeinit_owned ho hv).2
  refine (hforget.trans hloop).trans (.of_unlisted (v := v) (fun u hu => ?_) (fun u huv => ?_) rfl rfl)
  · refine ⟨List.mem_of_mem_erase hu, ?_⟩
    rw [hlist] at hu
    exact (ho.nodup.mem_erase_iff.mp hu).1
  · exact (update_of_ne huv _ _).trans (update_of_ne huv _ _)

theorem wl1271OpRemoveInterfaceLocked_staKeep (ho : LinksOwned wl) (hv : v ∈ wl.wlvifList)
    (hinit : (wl.vifs v).initialized = true) (hstate : wl.state ≠ .off) (env : RemoveEnv) :
    StaKeep wl (wl1271OpRemoveInterfaceLocked wl v env) := by
  have ho₁ : LinksOwned (clearInitialized wl v) := ho.setVif hv (ho.vif v hv).dev rfl rfl
  have hlist := (wl1271OpRemoveInterfaceLocked_owned ho hv hinit hstate env).2
  unfold wl1271OpRemoveInterfaceLocked at hlist ⊢
  rw [if_neg (by simp [hinit]), if_neg hstate] at hlist ⊢
  obtain ⟨ret, hroles⟩ := removeDisableRoles_cmd (ho₁.vif v hv).dev env
  rw [hroles] at hlist ⊢
  obtain ⟨ret', hauth⟩ := removeSleepAuth_cmd (removeDeinit (cmdEffect (clearInitialized wl v) ret) v)
    (decide ((wl.vifs v).bssType = .apBss)) env
  rw [hauth] at hlist ⊢
  have hk := cmdEffect_keep (clearInitialized wl v) ret
  have hrest := ((StaKeep.cmdEffect _ ret).trans
    (removeDeinit_staKeep (ho₁.of_keep hk) (hk.wlvifList ▸ hv))).trans (.cmdEffect _ ret')
  -- the vif itself, whose flag was cleared, is not on the list any more
  have hne : ∀ u ∈ wl.wlvifList.erase v, (clearInitialized wl v).vifs u = wl.vifs u :=
    fun u hu => update_of_ne (ho.nodup.mem_erase_iff.mp hu).1 _ _
  refine ⟨hrest.list, fun u hu => ?_, fun u hu => ?_, fun u hu hap h hs => ?_, hrest.held,
    hrest.slots⟩
  · exact (hrest.initialized u hu).trans (congrArg _ (hne u (hlist ▸ hu)))
  · exact (hrest.bssType u hu).trans (congrArg _ (hne u (hlist ▸ hu)))
  · have := hrest.sta u hu hap h hs
    rwa [hne u (hlist ▸ hu)] at this

end

/-! ## Frames -/

/-- The frame counts as a packet of the station on its link. -/
def countedFor (wl : Wl1271) (v : Option VifId) (skb : Skb) (h : Hlid) : Bool :=
  !wl12xxIsDummyPacket wl skb && match v with
    | none => false
    | some v => decide ((wl.vifs v).bssType = .apBss) && (wl.vifs v).staHlidMap h

/-- What `wl1271_tx_allocate` does to the packets and counters of links: the packet gets a free
descriptor and is counted, or nothing changes. -/
structure HandedOver (wl wl' : Wl1271) (v : Option VifId) (skb : Skb) (h : Hlid) : Prop where
  packet : ∃ id blocks, wl.txFramesMap id = false ∧ wl'.txFramesMap = update wl.txFramesMap id true ∧
    wl'.fwHeld = wl.fwHeld ++ [⟨id, h, skb.ac, blocks⟩]
  counted : wl'.allocatedPkts = if countedFor wl v skb h then
      update wl.allocatedPkts h (u8 (wl.allocatedPkts h + 1)) else wl.allocatedPkts
  prev : wl'.prevFreedPkts = wl.prevFreedPkts

theorem allocated_pkts {v : Option VifId} {skb : Skb} {extra off : ℕ} {h : Hlid} {gem : Bool}
    {r : Except Errno TxAlloc × Wl1271} (hpath : TxAllocated wl v skb extra off h gem r)
    (hkeep : TxKeep wl r.2) : HandedOver wl r.2 v skb h ∨ StaKeep wl r.2 := by
  cases hpath with
  | full | noId => exact Or.inr (.refl wl)
  | handed _ hid => exact Or.inl ⟨⟨_, _, (findFirstZeroBit_some hid).2, rfl, rfl⟩, rfl, rfl⟩
  | noBlocks _ hid =>
    have hfree := (findFirstZeroBit_some hid).2
    refine Or.inr (.of_keep hkeep ?_ ?_ ?_ ?_) <;> simp [wl1271FreeTxId, ← hfree]

/-- A completion frees at most the descriptor it names. -/
structure Completed (wl wl' : Wl1271) (id : ℕ) : Prop where
  keep : TxKeep wl wl'
  allocated : wl'.allocatedPkts = wl.allocatedPkts
  prev : wl'.prevFreedPkts = wl.prevFreedPkts
  held : wl'.fwHeld = wl.fwHeld
  slots : ∀ i : TxId, i.val ≠ id → wl'.txFramesMap i = wl.txFramesMap i

theorem Completed.refl (id : ℕ) : Completed wl wl id :=
  ⟨.refl wl, rfl, rfl, rfl, fun _ _ => rfl⟩

/-- Freeing the descriptor after changes elsewhere. -/
theorem Completed.free {wl wl₁ : Wl1271} (hk : TxKeep wl wl₁)
    (hacct : wl₁.toTxAccounting = wl.toTxAccounting) (hmap : wl₁.txFramesMap = wl.txFramesMap)
    (slot : TxId) : Completed wl (wl1271FreeTxId wl₁ slot) slot.val := by
  have hk' := hk.trans (wl1271FreeTxId_keep wl₁ slot)
  have hparts : (wl1271FreeTxId wl₁ slot).allocatedPkts = wl₁.allocatedPkts ∧
      (wl1271FreeTxId wl₁ slot).prevFreedPkts = wl₁.prevFreedPkts ∧
      (wl1271FreeTxId wl₁ slot).fwHeld = wl₁.fwHeld := by
    unfold wl1271FreeTxId
    split <;> exact ⟨rfl, rfl, rfl⟩
  obtain ⟨ha, hp, hh⟩ := hparts
  refine ⟨hk', ha.trans (congrArg _ hacct), hp.trans (congrArg _ hacct), hh.trans (congrArg _ hacct),
    fun i hi => ?_⟩
  rw [← hmap]
  unfold wl1271FreeTxId
  split
  · exact update_of_ne (fun hne => hi (congrArg Fin.val hne)) _ _
  · rfl

theorem Completed.defer {wl wl₁ : Wl1271} (hk : TxKeep wl wl₁)
    (hacct : wl₁.toTxAccounting = wl.toTxAccounting) (hmap : wl₁.txFramesMap = wl.txFramesMap)
    (slot : TxId) (skb : Skb) : Completed wl (deferFrame wl₁ slot skb) slot.val := by
  have hdefer : TxKeep wl₁ { wl₁ with
      deferredTxQueue := wl₁.deferredTxQueue ++ [skb]
      netstackWorkQueued := true } := .of_parts rfl rfl rfl rfl rfl
  exact .free (hk.trans hdefer) hacct hmap slot

theorem completedFrame_slot {wl : Wl1271} {id : ℕ} {slot : TxId} {skb : Skb}
    (h : completedFrame wl id = some (slot, skb)) : slot.val = id := by
  unfold completedFrame at h
  split_ifs at h
  obtain ⟨skb', -, heq⟩ := Option.map_eq_some_iff.mp h
  cases heq
  rfl

theorem wl1271TxCompletePacket_completed (r : TxResult) :
    Completed wl (wl1271TxCompletePacket wl r) r.id := by
  unfold wl1271TxCompletePacket
  split
  · exact .refl wl r.id
  · rename_i slot skb hslot
    rw [← completedFrame_slot hslot]
    split
    · exact .free (.refl wl) rfl rfl slot
    · have hvif := completeVif_parts wl r skb
      exact .defer (completeVif_keep wl r skb) hvif.2.1
        (congrArg TxQueues.txFramesMap hvif.1) slot skb

theorem wl18xxTxCompletePacket_completed (b : ℕ) :
    Completed wl (wl18xxTxCompletePacket wl b) (b &&& 0x7f) := by
  unfold wl18xxTxCompletePacket
  split
  · exact .refl wl _
  · rename_i slot skb hslot
    rw [← completedFrame_slot hslot]
    split
    · exact .free (.refl wl) rfl rfl slot
    · exact .defer (.refl wl) rfl rfl slot skb

/-! ## The status block -/

/-- The counters of a link after the status was taken over. -/
structure LinkUpdated (st : FwStatus) (wl : Wl1271) (h : Hlid) : Prop where
  prev : wl.prevFreedPkts h = st.txLnkFreePkts h
  allocated : wl.allocatedPkts h < 2 ^ 8

/-- What reading the status does to the counters of links: their sum stays, modulo 256, what is
up to date stays so, and the links in `up` are brought up to date. -/
structure StatusStep (st : FwStatus) (up : Hlid → Prop) (wl wl' : Wl1271) : Prop where
  sum : ∀ h, (wl'.allocatedPkts h + wl'.prevFreedPkts h) % 2 ^ 8 =
    (wl.allocatedPkts h + wl.prevFreedPkts h) % 2 ^ 8
  stays : ∀ h, LinkUpdated st wl h → LinkUpdated st wl' h
  updated : ∀ h, up h → LinkUpdated st wl' h
  held : wl'.fwHeld = wl.fwHeld
  slots : wl'.txFramesMap = wl.txFramesMap

namespace StatusStep

variable {st : FwStatus} {wl wl' wl'' : Wl1271} {up up' : Hlid → Prop}

theorem trans (h : StatusStep st up wl wl') (h' : StatusStep st up' wl' wl'') :
    StatusStep st (fun l => up l ∨ up' l) wl wl'' := by
  refine ⟨fun l => (h'.sum l).trans (h.sum l), fun l hl => h'.stays l (h.stays l hl), ?_,
    h'.held.trans h.held, h'.slots.trans h.slots⟩
  rintro l (hl | hl)
  · exact h'.stays l (h.updated l hl)
  · exact h'.updated l hl

theorem mono (h : StatusStep st up wl wl') (hup : ∀ l, up' l → up l) : StatusStep st up' wl wl' :=
  ⟨h.sum, h.stays, fun l hl => h.updated l (hup l hl), h.held, h.slots⟩

/-- Nothing changes in the counters. -/
theorem of_eq (ha : wl'.allocatedPkts = wl.allocatedPkts) (hp : wl'.prevFreedPkts = wl.prevFreedPkts)
    (hh : wl'.fwHeld = wl.fwHeld) (hm : wl'.txFramesMap = wl.txFramesMap) :
    StatusStep st (fun _ => False) wl wl' := by
  refine ⟨fun l => by rw [ha, hp], fun l hl => ⟨?_, ?_⟩, fun _ hl => hl.elim, hh, hm⟩
  · rw [hp]
    exact hl.prev
  · rw [ha]
    exact hl.allocated

theorem foldl {α : Type} {f : Wl1271 → α → Wl1271} {up : α → Hlid → Prop}
    (hf : ∀ wl a, StatusStep st (fun h => up a h) wl (f wl a)) (l : List α) (wl : Wl1271) :
    StatusStep st (fun h => ∃ a ∈ l, up a h) wl (l.foldl f wl) := by
  induction l generalizing wl with
  | nil => exact (of_eq rfl rfl rfl rfl).mono (by simp)
  | cons a l ih => exact ((hf wl a).trans (ih (f wl a))).mono (by simp)

end StatusStep

/-- The counter arithmetic of one link: `u8` differences keep the sum. -/
theorem updateCounters_sum (a p r : ℕ) :
    (u8 ((a : ℤ) - u8 ((r : ℤ) - p)) + r) % 2 ^ 8 = (a + p) % 2 ^ 8 := by
  unfold u8
  omega

theorem StatusStep.psRegulate {st : FwStatus} {wl wl' : Wl1271} {up : Hlid → Prop}
    (hstep : StatusStep st up wl wl') (h : Hlid) (n : ℕ) (found : Bool) :
    StatusStep st up wl (wl12xxIrqPsRegulateLink wl' h n found) := by
  have hsame {wl'' : Wl1271} (hs : StatusStep st (fun _ => False) wl' wl'') :
      StatusStep st up wl wl'' := (hstep.trans hs).mono fun _ hl => Or.inl hl
  dsimp only [wl12xxIrqPsRegulateLink]
  split_ifs
  · unfold wl12xxPsLinkEnd
    split <;> exact hsame (.of_eq rfl rfl rfl rfl)
  · unfold wl12xxPsLinkStart
    split_ifs <;> exact hsame (.of_eq rfl rfl rfl rfl)
  · exact hstep

/-- The counters of one link are brought up to date. -/
theorem StatusStep.link {st : FwStatus} {wl wl' : Wl1271} {h : Hlid}
    (hp : wl'.prevFreedPkts = update wl.prevFreedPkts h (st.txLnkFreePkts h))
    (ha : wl'.allocatedPkts = update wl.allocatedPkts h
      (u8 ((wl.allocatedPkts h : ℤ) - u8 ((st.txLnkFreePkts h : ℤ) - wl.prevFreedPkts h))))
    (hh : wl'.fwHeld = wl.fwHeld) (hm : wl'.txFramesMap = wl.txFramesMap) :
    StatusStep st (fun l => l = h) wl wl' := by
  have hnew : LinkUpdated st wl' h := by
    refine ⟨by rw [hp, update_self], ?_⟩
    rw [ha, update_self]
    exact u8_lt _
  refine ⟨fun l => ?_, fun l hl => ?_, fun l hl => hl ▸ hnew, hh, hm⟩
  · rw [hp, ha]
    by_cases hlh : l = h
    · subst hlh
      simp only [update_self]
      exact updateCounters_sum _ _ _
    · simp only [update_of_ne hlh]
  · by_cases hlh : l = h
    · exact hlh ▸ hnew
    · refine ⟨?_, ?_⟩
      · rw [hp, update_of_ne hlh]
        exact hl.prev
      · rw [ha, update_of_ne hlh]
        exact hl.allocated

theorem updateLinkStatus_status (h : Hlid) :
    StatusStep st (fun l => l = h) wl (updateLinkStatus st wl h) := by
  unfold updateLinkStatus
  refine StatusStep.psRegulate ?_ h _ _
  exact .link rfl rfl rfl rfl

theorem wl12xxIrqUpdateLinksStatus_status (v : VifId) :
    StatusStep st (fun h => (wl.vifs v).staHlidMap h = true) wl
      (wl12xxIrqUpdateLinksStatus st wl v) := by
  have hps : StatusStep st (fun _ => False) wl { wl with apFwPsMap := st.linkPsBitmap } :=
    .of_eq rfl rfl rfl rfl
  have hloop := StatusStep.foldl (updateLinkStatus_status st)
    (allHlids.filter (wl.vifs v).staHlidMap) { wl with apFwPsMap := st.linkPsBitmap }
  refine (hps.trans hloop).mono fun h hs => Or.inr ⟨h, ?_, rfl⟩
  simp [allHlids, hs]

theorem updateVifsLoop_status (vs : List VifId) (wl : Wl1271) :
    StatusStep st (fun h => ∃ v ∈ vs, (wl.vifs v).staHlidMap h = true) wl
      (vs.foldl (wl12xxIrqUpdateLinksStatus st) wl) := by
  induction vs generalizing wl with
  | nil =>
    have hnone : StatusStep st (fun _ => False) wl wl := .of_eq rfl rfl rfl rfl
    exact hnone.mono (by simp)
  | cons v vs ih =>
    have hstep := wl12xxIrqUpdateLinksStatus_status st wl v
    have hkeep := wl12xxIrqUpdateLinksStatus_keep st wl v
    refine (hstep.trans (ih (wl12xxIrqUpdateLinksStatus st wl v))).mono fun h hs => ?_
    obtain ⟨u, hu, hs⟩ := hs
    rcases List.mem_cons.mp hu with rfl | hu
    · exact Or.inl hs
    · exact Or.inr ⟨u, hu, by rw [hkeep.staHlidMap]; exact hs⟩

/-- After a status read the counters of all stations are up to date. -/
theorem wlcoreFwStatus_status (st : FwStatus) :
    StatusStep st (fun h => ∃ v ∈ wl.wlvifList, (wl.vifs v).bssType = .apBss ∧
      (wl.vifs v).staHlidMap h = true) wl (wlcoreFwStatus wl st) := by
  have hacct : StatusStep st (fun _ => False) wl
      { wl with toTxAccounting := fwStatusAccounting wl st } := .of_eq rfl rfl rfl rfl
  refine (hacct.trans (updateVifsLoop_status st _ _)).mono ?_
  rintro h ⟨v, hv, hap, hs⟩
  exact Or.inr ⟨v, List.mem_filter.mpr ⟨hv, by simpa using hap⟩, hs⟩

/-! ## Booting -/

/-- Booting leaves links, counters and descriptors alone. -/
structure BootKeep (wl wl' : Wl1271) : Prop where
  links : wl'.toVifLinks = wl.toVifLinks
  allocated : wl'.allocatedPkts = wl.allocatedPkts
  prev : wl'.prevFreedPkts = wl.prevFreedPkts
  held : wl'.fwHeld = wl.fwHeld
  slots : wl'.txFramesMap = wl.txFramesMap

theorem initFwLoop_bootKeep (as : List BootAttempt) (wl : Wl1271) :
    BootKeep wl (initFwLoop as wl).2 := by
  refine initFwLoop_induction wl ?_ ?_ ?_ ?_ ⟨rfl, rfl, rfl, rfl, rfl⟩ <;> intros <;>
    rename_i hk <;> exact ⟨hk.links, hk.allocated, hk.prev, hk.held, hk.slots⟩

theorem initFwLoop_state (as : List BootAttempt) (wl : Wl1271)
    (h : (initFwLoop as wl).1 = true) : (initFwLoop as wl).2.state = .on := by
  induction as generalizing wl with
  | nil => cases h
  | cons a as ih =>
    cases heq : bootAttempt wl a with
    | mk booted wl₁ =>
      rw [initFwLoop, heq] at h ⊢
      cases booted with
      | true => rfl
      | false => exact ih wl₁ h

theorem addInterfaceBoot_bootKeep :
    BootKeep wl (addInterfaceBoot wl attempts).2 ∧
      ((addInterfaceBoot wl attempts).1 = true → (addInterfaceBoot wl attempts).2.state ≠ .off) := by
  unfold addInterfaceBoot
  split
  · refine ⟨initFwLoop_bootKeep _ wl, fun h => ?_⟩
    rw [wl12xxInitFw, initFwLoop_state _ wl h]
    decide
  · rename_i hstate
    exact ⟨⟨rfl, rfl, rfl, rfl, rfl⟩, fun _ => hstate⟩

theorem BootKeep.staKeep {wl : Wl1271} (h : BootKeep wl wl') : StaKeep wl wl' := by
  have hvifs : wl'.vifs = wl.vifs := congrArg VifLinks.vifs h.links
  have hlist : wl'.wlvifList = wl.wlvifList := congrArg VifLinks.wlvifList h.links
  refine ⟨fun u hu => hlist ▸ hu, fun u _ => by rw [hvifs], fun u _ => by rw [hvifs],
    fun u _ _ l hs => ⟨hvifs ▸ hs, congrFun h.allocated l, congrFun h.prev l⟩, h.held, h.slots⟩

theorem BootKeep.owned {wl : Wl1271} (h : BootKeep wl wl') (ho : LinksOwned wl) :
    LinksOwned wl' := by
  unfold LinksOwned
  rw [h.links]
  exact ho

end TiWlan.Link
