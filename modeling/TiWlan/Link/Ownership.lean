import TiWlan.Driver.Keep

/-!
# Who owns which link

A host link id is taken by `wl12xx_allocate_link` and given back by `wl12xx_free_link`
(`wlcore/cmd.c`, lines 313–345); `wl->links_map` says which ids are taken and every vif keeps
the ones it owns in its own `links_map`. `Owned` is the invariant of this bookkeeping: the links of
two listed vifs are different, they are all taken, and the system link belongs to nobody.

Results: `Owned` is kept by adding and removing stations, roles and interfaces
(`wlcore/main.c`, lines 2249–2496 and 4502–4593), by everything that the data path does
(`Owned.of_keep`), and after a recovery no vif is left (`recoveryRestart_wlvifList`).
-/

namespace TiWlan.Link

open TiWlan.Driver
open Function (update update_of_ne update_self)

variable {h : Hlid} {w : Wl12xxVif}

/-- A listed vif: its stations are among its links, and its links are taken. -/
structure VifOwned (links : Hlid → Bool) (w : Wl12xxVif) : Prop where
  dev : w.devHlid = none
  sta : ∀ h, w.staHlidMap h = true → w.linksMap h = true
  links : ∀ h, w.linksMap h = true → links h = true
  system : w.linksMap systemHlid = false

/-- The bookkeeping of links. -/
structure Owned (vifs : VifId → Wl12xxVif) (list : List VifId) (links : Hlid → Bool) : Prop where
  nodup : list.Nodup
  system : links systemHlid = true
  vif : ∀ v ∈ list, VifOwned links (vifs v)
  disjoint : ∀ u ∈ list, ∀ v ∈ list, ∀ h,
    (vifs u).linksMap h = true → (vifs v).linksMap h = true → u = v

/-- `Owned` of a driver state. -/
def LinksOwned (wl : Wl1271) : Prop := Owned wl.vifs wl.wlvifList wl.linksMap

section
variable {vifs : VifId → Wl12xxVif} {list : List VifId} {links links' : Hlid → Bool}
variable {v : VifId} {h : Hlid}

theorem Owned.nil (hsys : links systemHlid = true) : Owned vifs [] links :=
  ⟨List.nodup_nil, hsys, fun _ hv => absurd hv List.not_mem_nil,
    fun _ hu => absurd hu List.not_mem_nil⟩

/-- One listed vif and the taken links change together. -/
theorem Owned.update (ho : Owned vifs list links) (hsys : links' systemHlid = true)
    (hw : VifOwned links' w)
    (hother : ∀ u ∈ list, u ≠ v → ∀ h, (vifs u).linksMap h = true →
      links' h = true ∧ w.linksMap h = false) :
    Owned (update vifs v w) list links' := by
  have hdisjoint : ∀ u ∈ list, u ≠ v → ∀ h, (vifs u).linksMap h = true →
      w.linksMap h = true → False := by
    intro u hu huv h hlink hlink'
    simp [(hother u hu huv h hlink).2] at hlink'
  refine ⟨ho.nodup, hsys, fun u hu => ?_, fun u hu u' hu' h hlink hlink' => ?_⟩
  · by_cases huv : u = v
    · subst huv
      rwa [update_self]
    · rw [update_of_ne huv]
      have hold := ho.vif u hu
      exact ⟨hold.dev, hold.sta, fun h hl => (hother u hu huv h hl).1,
        hold.system⟩
  · by_cases huv : u = v <;> by_cases huv' : u' = v
    · rw [huv, huv']
    · subst huv
      rw [update_self] at hlink
      rw [update_of_ne huv'] at hlink'
      exact (hdisjoint u' hu' huv' h hlink' hlink).elim
    · subst huv'
      rw [update_self] at hlink'
      rw [update_of_ne huv] at hlink
      exact (hdisjoint u hu huv h hlink hlink').elim
    · rw [update_of_ne huv] at hlink
      rw [update_of_ne huv'] at hlink'
      exact ho.disjoint u hu u' hu' h hlink hlink'

/-- A vif that is not listed may change in any way. -/
theorem Owned.update_unlisted (ho : Owned vifs list links) (hv : v ∉ list) (w : Wl12xxVif) :
    Owned (Function.update vifs v w) list links := by
  have hne : ∀ u ∈ list, u ≠ v := fun u hu huv => hv (huv ▸ hu)
  refine ⟨ho.nodup, ho.system, fun u hu => ?_, fun u hu u' hu' h => ?_⟩
  · rw [update_of_ne (hne u hu)]
    exact ho.vif u hu
  · rw [update_of_ne (hne u hu), update_of_ne (hne u' hu')]
    exact ho.disjoint u hu u' hu' h

/-- A vif without links joins the list. -/
theorem Owned.insert (ho : Owned vifs list links) (hv : v ∉ list) (hw : VifOwned links w)
    (hlinks : ∀ h, w.linksMap h = false) : Owned (Function.update vifs v w) (v :: list) links := by
  have hold := ho.update_unlisted hv w
  refine ⟨List.nodup_cons.mpr ⟨hv, ho.nodup⟩, ho.system, fun u hu => ?_,
    fun u hu u' hu' h hlink hlink' => ?_⟩
  · rcases List.mem_cons.mp hu with rfl | hu
    · rwa [update_self]
    · exact hold.vif u hu
  · rcases List.mem_cons.mp hu with rfl | hu
    · simp [hlinks] at hlink
    · rcases List.mem_cons.mp hu' with rfl | hu'
      · simp [hlinks] at hlink'
      · exact hold.disjoint u hu u' hu' h hlink hlink'

/-- A vif leaves the list. -/
theorem Owned.erase (ho : Owned vifs list links) (v : VifId) : Owned vifs (list.erase v) links :=
  ⟨ho.nodup.erase v, ho.system, fun u hu => ho.vif u (List.mem_of_mem_erase hu),
    fun u hu u' hu' => ho.disjoint u (List.mem_of_mem_erase hu) u' (List.mem_of_mem_erase hu')⟩

/-- A link of another vif is not the vif's own. -/
theorem Owned.not_own (ho : Owned vifs list links) {u : VifId} (hu : u ∈ list) (hv : v ∈ list)
    (huv : u ≠ v) (hl : (vifs u).linksMap h = true) : (vifs v).linksMap h = false := by
  by_contra hl'
  exact huv (ho.disjoint u hu v hv h hl (by simpa using hl'))

/-- A listed vif takes a free link, perhaps with a station on it. -/
theorem Owned.allocate (ho : Owned vifs list links) (hv : v ∈ list) (hfree : links h = false)
    (hdev : w.devHlid = (vifs v).devHlid)
    (hlinks : w.linksMap = Function.update (vifs v).linksMap h true)
    (hsta : ∀ h', w.staHlidMap h' = true → (vifs v).staHlidMap h' = true ∨ h' = h) :
    Owned (Function.update vifs v w) list (Function.update links h true) := by
  have hw := ho.vif v hv
  have hne : systemHlid ≠ h := by
    rintro rfl
    simp [ho.system] at hfree
  refine ho.update (by rw [update_of_ne hne]; exact ho.system) ?_ ?_
  · refine ⟨hdev.trans hw.dev, fun h' hs => ?_, fun h' hl => ?_, ?_⟩
    · rw [hlinks]
      by_cases hh : h' = h
      · simp [hh]
      · simpa [hh] using hw.sta h' ((hsta h' hs).resolve_right hh)
    · rw [hlinks] at hl
      by_cases hh : h' = h
      · simp [hh]
      · simpa [hh] using hw.links h' (by simpa [hh] using hl)
    · simpa [hlinks, hne] using hw.system
  · intro u hu huv h' hl
    have hh : h' ≠ h := by
      rintro rfl
      simp [(ho.vif u hu).links h' hl] at hfree
    rw [hlinks, update_of_ne hh, update_of_ne hh]
    exact ⟨(ho.vif u hu).links h' hl, ho.not_own hu hv huv hl⟩

/-- A listed vif gives a link back, and with it the station on it. -/
theorem Owned.free (ho : Owned vifs list links) (hv : v ∈ list) (hlink : (vifs v).linksMap h = true)
    (hdev : w.devHlid = (vifs v).devHlid)
    (hlinks : w.linksMap = Function.update (vifs v).linksMap h false)
    (hsta : ∀ h', w.staHlidMap h' = true → (vifs v).staHlidMap h' = true ∧ h' ≠ h) :
    Owned (Function.update vifs v w) list (Function.update links h false) := by
  have hw := ho.vif v hv
  have hne : systemHlid ≠ h := by
    rintro rfl
    simp [hw.system] at hlink
  refine ho.update (by rw [update_of_ne hne]; exact ho.system) ?_ ?_
  · refine ⟨hdev.trans hw.dev, fun h' hs => ?_, fun h' hl => ?_, ?_⟩
    · obtain ⟨hs, hh⟩ := hsta h' hs
      rw [hlinks, update_of_ne hh]
      exact hw.sta h' hs
    · rw [hlinks] at hl
      by_cases hh : h' = h
      · simp [hh] at hl
      · rw [update_of_ne hh] at hl ⊢
        exact hw.links h' hl
    · rw [hlinks, update_of_ne hne]
      exact hw.system
  · intro u hu huv h' hl
    have hh : h' ≠ h := by
      rintro rfl
      exact huv (ho.disjoint u hu v hv h' hl hlink)
    rw [hlinks, update_of_ne hh, update_of_ne hh]
    exact ⟨(ho.vif u hu).links h' hl, ho.not_own hu hv huv hl⟩

end

section
variable {wl wl' : Wl1271} {v : VifId}

/-- The data path does not touch the bookkeeping. -/
theorem LinksOwned.of_keep (ho : LinksOwned wl) (hk : TxKeep wl wl') : LinksOwned wl' := by
  have hdev (u : VifId) : (wl'.vifs u).devHlid = (wl.vifs u).devHlid := by
    obtain ⟨_, _, _, _, hu⟩ := hk.vif u
    rw [hu]
  refine ⟨hk.wlvifList ▸ ho.nodup, hk.linksMap ▸ ho.system, fun u hu => ?_, fun u hu u' hu' h => ?_⟩
  · have hold := ho.vif u (hk.wlvifList ▸ hu)
    refine ⟨(hdev u).trans hold.dev, ?_, ?_, ?_⟩
    · rw [hk.staHlidMap, hk.vifLinksMap]
      exact hold.sta
    · rw [hk.vifLinksMap, hk.linksMap]
      exact hold.links
    · rw [hk.vifLinksMap]
      exact hold.system
  · rw [hk.vifLinksMap, hk.vifLinksMap]
    exact ho.disjoint u (hk.wlvifList ▸ hu) u' (hk.wlvifList ▸ hu') h

/-! ## Links and stations -/

theorem wl12xxAllocateLink_some (heq : wl12xxAllocateLink wl v = (some h, wl')) :
    wl.linksMap h = false ∧ wl' = { wl with
      linksMap := update wl.linksMap h true
      vifs := update wl.vifs v
        { wl.vifs v with linksMap := update (wl.vifs v).linksMap h true } } := by
  unfold wl12xxAllocateLink at heq
  split at heq
  · cases heq
  · rename_i hfind
    cases heq
    have := List.find?_some hfind
    exact ⟨by simpa using this, rfl⟩

theorem wl12xxAllocateLink_none (heq : wl12xxAllocateLink wl v = (none, wl')) : wl' = wl := by
  unfold wl12xxAllocateLink at heq
  split at heq
  · cases heq
    rfl
  · cases heq

theorem wl12xxAllocateLink_owned (ho : LinksOwned wl) (hv : v ∈ wl.wlvifList) :
    LinksOwned (wl12xxAllocateLink wl v).2 := by
  cases heq : wl12xxAllocateLink wl v with
  | mk r wl' =>
    cases r with
    | none =>
      rw [wl12xxAllocateLink_none heq]
      exact ho
    | some h =>
      obtain ⟨hfree, rfl⟩ := wl12xxAllocateLink_some heq
      exact Owned.allocate ho hv hfree rfl rfl fun _ hs => Or.inl hs

/-- A role's link is given back. -/
theorem wl12xxFreeLink_owned (ho : LinksOwned wl) (hv : v ∈ wl.wlvifList)
    (hlink : (wl.vifs v).linksMap h = true) (hsta : (wl.vifs v).staHlidMap h = false) :
    LinksOwned (wl12xxFreeLink wl v h) := by
  refine Owned.free ho hv hlink rfl rfl fun h' hs => ⟨hs, ?_⟩
  rintro rfl
  simp [hsta] at hs

/-- The new station is on a free link. -/
theorem wl1271AllocateSta_some (heq : wl1271AllocateSta wl v = (some h, wl')) :
    wl.linksMap h = false ∧ wl' = { wl with
      linksMap := update wl.linksMap h true
      vifs := update wl.vifs v
        { wl.vifs v with
          linksMap := update (wl.vifs v).linksMap h true
          staHlidMap := update (wl.vifs v).staHlidMap h true }
      activeStaCount := wl.activeStaCount + 1 } := by
  unfold wl1271AllocateSta at heq
  split at heq
  · cases heq
  · split at heq
    · cases heq
    · rename_i hlink
      obtain ⟨hfree, rfl⟩ := wl12xxAllocateLink_some hlink
      cases heq
      refine ⟨hfree, ?_⟩
      simp [Wl1271.setVif]

theorem wl1271AllocateSta_none (heq : wl1271AllocateSta wl v = (none, wl')) : wl' = wl := by
  unfold wl1271AllocateSta at heq
  split at heq
  · cases heq
    rfl
  · split at heq
    · rename_i hlink
      cases heq
      exact wl12xxAllocateLink_none hlink
    · cases heq

theorem wl1271AllocateSta_owned (ho : LinksOwned wl) (hv : v ∈ wl.wlvifList) :
    LinksOwned (wl1271AllocateSta wl v).2 := by
  cases heq : wl1271AllocateSta wl v with
  | mk r wl' =>
    cases r with
    | none =>
      rw [wl1271AllocateSta_none heq]
      exact ho
    | some h =>
      obtain ⟨hfree, rfl⟩ := wl1271AllocateSta_some heq
      refine Owned.allocate ho hv hfree rfl rfl fun h' hs => ?_
      by_cases hh : h' = h
      · exact Or.inr hh
      · exact Or.inl (by simpa [hh] using hs)

theorem wl1271FreeSta_owned (ho : LinksOwned wl) (hv : v ∈ wl.wlvifList) (h : Hlid) :
    LinksOwned (wl1271FreeSta wl v h) := by
  cases hsta : (wl.vifs v).staHlidMap h with
  | false =>
    rw [wl1271FreeSta_of_not hsta]
    exact ho
  | true =>
    obtain ⟨_, heq⟩ := wl1271FreeSta_frame hsta
    rw [heq]
    refine Owned.free ho hv ((ho.vif v hv).sta h hsta) rfl rfl fun h' hs => ?_
    by_cases hh : h' = h
    · simp [hh] at hs
    · exact ⟨by simpa [hh] using hs, hh⟩

theorem wl12xxStaAdd_owned (ho : LinksOwned wl) (hv : v ∈ wl.wlvifList) (ret : CmdRet) :
    LinksOwned (wl12xxStaAdd wl v ret).2 := by
  have halloc := wl1271AllocateSta_owned ho hv
  unfold wl12xxStaAdd
  split <;> rename_i wl₁ heq <;> rw [heq] at halloc
  · exact halloc
  · have hlist : wl₁.wlvifList = wl.wlvifList := by
      obtain ⟨-, rfl⟩ := wl1271AllocateSta_some heq
      rfl
    have hk := cmdEffect_keep wl₁ ret
    split
    · exact halloc
    · exact wl1271FreeSta_owned (halloc.of_keep hk) (hk.wlvifList ▸ hlist ▸ hv) _

theorem wl12xxStaRemove_owned (ho : LinksOwned wl) (hv : v ∈ wl.wlvifList) (h : Hlid)
    (ret : CmdRet) : LinksOwned (wl12xxStaRemove wl v h ret) := by
  unfold wl12xxStaRemove
  split
  · exact ho
  · split
    · exact wl1271FreeSta_owned ho hv h
    · exact ho.of_keep (cmdEffect_keep wl ret)

/-! ## Interfaces -/

theorem txResetWlvifLink_owned (ho : LinksOwned wl) (hv : v ∈ wl.wlvifList) (h : Hlid) :
    LinksOwned (txResetWlvifLink v wl h) := by
  dsimp only [txResetWlvifLink]
  split
  · exact wl1271FreeSta_owned ho hv h
  · exact ho

theorem txResetLoop_owned (hs : List Hlid) (ho : LinksOwned wl) (hv : v ∈ wl.wlvifList) :
    LinksOwned (hs.foldl (txResetWlvifLink v) wl) := by
  induction hs generalizing wl with
  | nil => exact ho
  | cons h hs ih =>
    obtain ⟨_, _, _, _, _, _, _, _, _, _, _, _, _, heq⟩ := txResetLoop_frame [h] wl v
    refine ih (txResetWlvifLink_owned ho hv h) ?_
    rw [show txResetWlvifLink v wl h = _ from heq]
    exact hv

/-- A listed vif without a device role forgets the links of its roles. -/
theorem LinksOwned.setVif (ho : LinksOwned wl) (hv : v ∈ wl.wlvifList)
    {f : Wl12xxVif → Wl12xxVif} (hdev : (f (wl.vifs v)).devHlid = none)
    (hlinks : (f (wl.vifs v)).linksMap = (wl.vifs v).linksMap)
    (hsta : (f (wl.vifs v)).staHlidMap = (wl.vifs v).staHlidMap) : LinksOwned (wl.setVif v f) := by
  have hw := ho.vif v hv
  refine Owned.update ho ho.system ⟨hdev, ?_, ?_, ?_⟩
    fun u hu huv h hl => ⟨(ho.vif u hu).links h hl, hlinks ▸ ho.not_own hu hv huv hl⟩
  · rw [hsta, hlinks]
    exact hw.sta
  · rw [hlinks]
    exact hw.links
  · rw [hlinks]
    exact hw.system

theorem forgetRoles_owned (ho : LinksOwned wl) (hv : v ∈ wl.wlvifList) :
    LinksOwned (wl.setVif v forgetRoles) := by
  refine ho.setVif hv ?_ ?_ ?_ <;> unfold forgetRoles <;> split <;> rfl

theorem removeDeinit_owned (ho : LinksOwned wl) (hv : v ∈ wl.wlvifList) :
    LinksOwned (removeDeinit wl v) ∧ (removeDeinit wl v).wlvifList = wl.wlvifList.erase v := by
  have hloop := txResetLoop_owned (allHlids.filter ((wl.setVif v forgetRoles).vifs v).linksMap)
    (forgetRoles_owned ho hv) hv
  have hreset : LinksOwned (wl12xxTxResetWlvif (wl.setVif v forgetRoles) v) :=
    hloop.of_keep (TxKeep.setLastTxHlid _ v 0)
  have hlist : (removeDeinit wl v).wlvifList = wl.wlvifList.erase v := by
    obtain ⟨_, _, _, _, _, _, _, _, _, _, _, _, heq⟩ := removeDeinit_frame wl v
    rw [heq]
  have hout : v ∉ wl.wlvifList.erase v := fun hmem => (ho.nodup.mem_erase_iff.mp hmem).1 rfl
  refine ⟨(hreset.erase v).update_unlisted (fun hmem => hout ?_) _, hlist⟩
  rw [← hlist]
  exact hmem

/-- `__wl1271_op_remove_interface` of a listed vif takes it off the list. -/
theorem wl1271OpRemoveInterfaceLocked_owned (ho : LinksOwned wl) (hv : v ∈ wl.wlvifList)
    (hinit : (wl.vifs v).initialized = true) (hstate : wl.state ≠ .off) (env : RemoveEnv) :
    LinksOwned (wl1271OpRemoveInterfaceLocked wl v env) ∧
      (wl1271OpRemoveInterfaceLocked wl v env).wlvifList = wl.wlvifList.erase v := by
  have ho₁ : LinksOwned (clearInitialized wl v) := ho.setVif hv (ho.vif v hv).dev rfl rfl
  unfold wl1271OpRemoveInterfaceLocked
  rw [if_neg (by simp [hinit]), if_neg hstate]
  obtain ⟨ret, hroles⟩ := removeDisableRoles_cmd (ho₁.vif v hv).dev env
  have hk := cmdEffect_keep (clearInitialized wl v) ret
  obtain ⟨ho₂, hlist⟩ := removeDeinit_owned (ho₁.of_keep hk) (hk.wlvifList ▸ hv)
  rw [hroles]
  have hk' := removeSleepAuth_keep (removeDeinit (cmdEffect (clearInitialized wl v) ret) v)
    (decide ((wl.vifs v).bssType = .apBss)) env
  refine ⟨ho₂.of_keep hk', hk'.wlvifList.trans (hlist.trans ?_)⟩
  exact congrArg (·.erase v) hk.wlvifList

end

end TiWlan.Link
