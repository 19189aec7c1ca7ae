import TiWlan.Iface.Operations
import TiWlan.Lib.Holding
import TiWlan.Lib.Run
import TiWlan.Tx.Conservation
import TiWlan.Tx.Flow

/-!
# Who names which link

A link id is taken by `wl12xx_allocate_link` and given back by `wl12xx_free_link`
(`wlcore/cmd.c`, lines 313–345) in about ten functions that start and stop roles and add and
remove stations. The map `wl->links_map`, the maps of the vifs and the fields that name
links should always agree (`LinksExact`).

They agree as long as an AP is started, an interface removed and the driver stopped only
when no role has a link left (`LinksSafe`, `links_exact`). The source does not see to that: after
a failed `wl1271_ap_init_hwenc` the AP is not marked as started but keeps the links of its
role, and the next start (`wl1271_bss_info_changed_ap`, `wlcore/main.c`, lines 3858–3943)
overwrites the fields that name them (`links_leaked`); `__wl1271_op_remove_interface` (lines
2365–2496) overwrites them likewise.
-/

namespace TiWlan.Iface

open TiWlan.Driver TiWlan.Lib TiWlan.Link TiWlan.Tx
open Function (update update_of_ne update_self)

variable {A : LinkAssume} {w w' : Wl12xxVif}

/-! ## Names -/

/-- How often a field names a link. -/
def nameOf (field : Option Hlid) (h : Hlid) : ℕ := if field = some h then 1 else 0

/-- How often a vif names a link: in the fields of its roles, and as the link of a station. -/
def names (w : Wl12xxVif) (h : Hlid) : ℕ :=
  nameOf w.devHlid h + nameOf w.staHlid h + nameOf w.apGlobalHlid h + nameOf w.apBcastHlid h +
    (w.staHlidMap h).toNat

/-- The maps and the names of links agree. -/
structure LinksExact (wl : Wl1271) : Prop where
  /-- the taken links are the system link and the links of the listed vifs -/
  taken : ∀ h, wl.linksMap h = true ↔
    h = systemHlid ∨ ∃ v ∈ wl.wlvifList, (wl.vifs v).linksMap h = true
  system : ∀ v ∈ wl.wlvifList, (wl.vifs v).linksMap systemHlid = false
  disjoint : ∀ u ∈ wl.wlvifList, ∀ v ∈ wl.wlvifList, ∀ h,
    (wl.vifs u).linksMap h = true → (wl.vifs v).linksMap h = true → u = v
  /-- a vif names its links and no others -/
  named : ∀ v ∈ wl.wlvifList, ∀ h, 0 < names (wl.vifs v) h ↔ (wl.vifs v).linksMap h = true
  /-- no two names are equal -/
  once : ∀ v ∈ wl.wlvifList, ∀ h, names (wl.vifs v) h ≤ 1
  /-- a link that is not taken has no frames -/
  queues : ∀ h, wl.linksMap h = false → ∀ q, wl.txQueue h q = []

section
variable {w : Wl12xxVif} {r : RoleLink} {l : Hlid}

@[simp] theorem nameOf_none (h : Hlid) : nameOf none h = 0 := rfl

@[simp] theorem nameOf_some (l h : Hlid) : nameOf (some l) h = if h = l then 1 else 0 := by
  simp [nameOf, eq_comm]

/-- The name in the field of a role, and the other names. -/
theorem names_setRoleHlid (w : Wl12xxVif) (r : RoleLink) (field : Option Hlid) (h : Hlid) :
    names (w.setRoleHlid r field) h + nameOf (w.roleHlid r) h = names w h + nameOf field h := by
  cases r <;> simp only [names, Wl12xxVif.roleHlid, Wl12xxVif.setRoleHlid] <;> omega

theorem names_setRoleHlid_some (hr : w.roleHlid r = none) (l h : Hlid) :
    names (w.setRoleHlid r (some l)) h = names w h + if h = l then 1 else 0 := by
  have hset := names_setRoleHlid w r (some l) h
  rwa [hr, nameOf_none, nameOf_some, Nat.add_zero] at hset

theorem names_setRoleHlid_none (hr : w.roleHlid r = some l) (h : Hlid) :
    names (w.setRoleHlid r none) h + (if h = l then 1 else 0) = names w h := by
  have hset := names_setRoleHlid w r none h
  rwa [hr, nameOf_none, nameOf_some, Nat.add_zero] at hset

theorem names_pos_of_role (hr : w.roleHlid r = some l) : 0 < names w l := by
  have hset := names_setRoleHlid_none hr l
  rw [if_pos rfl] at hset
  omega

theorem names_congr (h : HlidSame w w') : names w' = names w := by
  have hdev : w'.devHlid = w.devHlid := h.role .dev
  have hsta : w'.staHlid = w.staHlid := h.role .sta
  have hglobal : w'.apGlobalHlid = w.apGlobalHlid := h.role .apGlobal
  have hbcast : w'.apBcastHlid = w.apBcastHlid := h.role .apBcast
  funext a
  simp only [names, hdev, hsta, hglobal, hbcast, h.sta]

end

/-! ## Links that are held -/

/-- The system link is taken for good. -/
def systemLink (h : Hlid) : ℕ := if h = systemHlid then 1 else 0

/-- Every taken link is the system link or named once, and the vifs know their links. -/
structure LinksHeld (wl : Wl1271) : Prop where
  exact : Exact systemLink names wl.linksMap wl.vifs wl.wlvifList
  vif : ∀ v ∈ wl.wlvifList, ∀ h, names (wl.vifs v) h = ((wl.vifs v).linksMap h).toNat
  nodup : wl.wlvifList.Nodup

namespace LinksHeld

variable {wl wl' : Wl1271} {v : VifId} {l : Hlid} {w : Wl12xxVif}

/-- The vifs keep their links and names. -/
theorem of_same (h : LinksHeld wl) (hlist : wl'.wlvifList = wl.wlvifList)
    (hmap : wl'.linksMap = wl.linksMap)
    (hvif : ∀ u ∈ wl.wlvifList, HlidSame (wl.vifs u) (wl'.vifs u)) : LinksHeld wl' := by
  refine ⟨?_, fun u hu a => ?_, hlist ▸ h.nodup⟩
  · rw [hlist, hmap]
    exact h.exact.congr fun u hu a => by rw [names_congr (hvif u hu)]
  · rw [hlist] at hu
    rw [names_congr (hvif u hu), (hvif u hu).links]
    exact h.vif u hu a

/-- One listed vif and the map change together. -/
theorem update (h : LinksHeld wl) (hv : v ∈ wl.wlvifList) (hlist : wl'.wlvifList = wl.wlvifList)
    (hvifs : wl'.vifs = update wl.vifs v w)
    (hchange : ∀ a, names w a + (wl.linksMap a).toNat =
      names (wl.vifs v) a + (wl'.linksMap a).toNat)
    (hw : ∀ a, names w a = (w.linksMap a).toNat) : LinksHeld wl' := by
  refine ⟨?_, fun u hu a => ?_, hlist ▸ h.nodup⟩
  · rw [hlist, hvifs]
    exact h.exact.update h.nodup hv hchange
  · rw [hlist] at hu
    rw [hvifs]
    by_cases huv : u = v
    · subst huv
      rw [update_self]
      exact hw a
    · rw [update_of_ne huv]
      exact h.vif u hu a

/-- Nobody names a link that is free. -/
theorem names_eq_zero (h : LinksHeld wl) (hv : v ∈ wl.wlvifList) (hfree : wl.linksMap l = false) :
    names (wl.vifs v) l = 0 := by
  have hle := h.exact.held_le hv l
  rw [hfree, Bool.toNat_false] at hle
  omega

/-- A listed vif takes a free link and names it. -/
theorem take (h : LinksHeld wl) (hv : v ∈ wl.wlvifList) (hfree : wl.linksMap l = false)
    (hnames : ∀ a, names w a = names (wl.vifs v) a + if a = l then 1 else 0)
    (hlinks : w.linksMap = Function.update (wl.vifs v).linksMap l true)
    (hlist : wl'.wlvifList = wl.wlvifList) (hvifs : wl'.vifs = Function.update wl.vifs v w)
    (hmap : wl'.linksMap = Function.update wl.linksMap l true) : LinksHeld wl' := by
  refine h.update hv hlist hvifs (fun a => ?_) fun a => ?_
  · rw [hnames, hmap]
    by_cases ha : a = l
    · subst ha
      simp [hfree]
    · simp [ha]
  · rw [hnames, hlinks]
    by_cases ha : a = l
    · subst ha
      simp [h.names_eq_zero hv hfree]
    · simp [ha, h.vif v hv a]

/-- A listed vif gives back a link that it named, and forgets the name. -/
theorem give (h : LinksHeld wl) (hv : v ∈ wl.wlvifList)
    (hnames : ∀ a, names w a + (if a = l then 1 else 0) = names (wl.vifs v) a)
    (hlinks : w.linksMap = Function.update (wl.vifs v).linksMap l false)
    (hlist : wl'.wlvifList = wl.wlvifList) (hvifs : wl'.vifs = Function.update wl.vifs v w)
    (hmap : wl'.linksMap = Function.update wl.linksMap l false) : LinksHeld wl' := by
  have hone := h.exact.held_le_one hv l
  have hl := hnames l
  rw [if_pos rfl] at hl
  have htaken : wl.linksMap l = true := h.exact.taken_of_held hv (by omega)
  refine h.update hv hlist hvifs (fun a => ?_) fun a => ?_
  · rw [← hnames, hmap]
    by_cases ha : a = l
    · subst ha
      simp [htaken]
    · simp [ha]
  · rw [hlinks]
    by_cases ha : a = l
    · subst ha
      simp only [update_self, Bool.toNat_false]
      omega
    · have hother := hnames a
      rw [if_neg ha, h.vif v hv a] at hother
      simpa [ha] using hother

end LinksHeld

/-! ## Atomic steps -/

/-- The environment: frames and calls are for listed vifs, and the dummy packet is the driver's
own. No role gets a link that has one. -/
def listedAssume (c : Conf) (vs : List VifId) : LinkAssume where
  frame := fun skb => NotDummy c skb ∧ ∀ v, skb.vif = some v → v ∈ vs
  status := fun _ _ => True
  dummy := True
  vif := fun v => v ∈ vs
  retake := False

/-- Only the dummy packet is excluded. -/
def foreignAssume (c : Conf) : LinkAssume := { LinkAssume.any with frame := NotDummy c }

/-- The invariant: links are held, only links that are served have frames, and the frames are
counted. -/
structure LinkInv (c : Conf) (wl : Wl1271) : Prop where
  held : LinksHeld wl
  served : QueuesServed wl
  ledger : Ledger c (none, wl)

section
variable {c : Conf} {vs : List VifId} {wl wl' : Wl1271} {v : VifId} {r : RoleLink} {l : Hlid}

/-- The frames are counted, whatever happens to the links. -/
theorem ledger_links (hA : ∀ skb, A.frame skb → NotDummy c skb) (hatom : LinkAtom A wl wl')
    (h : Ledger c (none, wl)) : Ledger c (none, wl') := by
  have hconf := hatom.driver.power.conf
  cases hatom with
  | tx hreach hoff => exact ledger_reach hA hreach h
  | quiet hq => exact h.congr hconf hq.queues
  | fire hidle => exact h.congr rfl rfl
  | take hv hfree heq =>
    obtain ⟨_, -, rfl⟩ := allocateRoleLink_some heq
    exact h.congr rfl rfl
  | @give v hv r =>
    cases hr : (wl.vifs v).roleHlid r with
    | none =>
      rw [freeRoleLink_none hr]
      exact h
    | some l =>
      rw [freeRoleLink_eq hr]
      exact (ledger_drain h l).congr rfl rfl
  | addSta hv heq =>
    obtain ⟨-, rfl⟩ := wl1271AllocateSta_some heq
    exact h.congr rfl rfl
  | @freeSta v hv l =>
    cases hsta : (wl.vifs v).staHlidMap l with
    | false =>
      rw [wl1271FreeSta_of_not hsta]
      exact h
    | true =>
      obtain ⟨_, heq⟩ := wl1271FreeSta_frame hsta
      rw [heq]
      exact (ledger_drain h l).congr rfl rfl

theorem ledger_linkReach (hA : ∀ skb, A.frame skb → NotDummy c skb) (hreach : LinkReach A wl wl')
    (h : Ledger c (none, wl)) : Ledger c (none, wl') :=
  hreach.invariant (I := fun wl => Ledger c (none, wl)) (fun _ _ => ledger_links hA) h

/-- Links that have frames stay with their vifs. -/
theorem queuesServed_of_links (hs : QueuesServed wl) (hlist : wl'.wlvifList = wl.wlvifList)
    (hq : ∀ h q, wl'.txQueue h q ≠ [] → wl.txQueue h q ≠ [] ∧
      ∀ u, (wl.vifs u).linksMap h = true → (wl'.vifs u).linksMap h = true) :
    QueuesServed wl' := by
  intro h q hne
  obtain ⟨hne, hlinks⟩ := hq h q hne
  rcases hs h q hne with hsys | ⟨u, hu, hl⟩
  · exact Or.inl hsys
  · exact Or.inr ⟨u, hlist ▸ hu, hlinks u hl⟩

/-- A link is emptied and then taken away from its vif. -/
theorem queuesServed_drain (hs : QueuesServed wl) (hlist : wl'.wlvifList = wl.wlvifList)
    (hqueues : wl'.toTxQueues = (drainLinkQueues wl l).toTxQueues)
    (hlinks : ∀ u h, h ≠ l → (wl.vifs u).linksMap h = true → (wl'.vifs u).linksMap h = true) :
    QueuesServed wl' := by
  have hqueue : wl'.txQueue = update wl.txQueue l fun _ => [] :=
    congrArg TxQueues.txQueue hqueues
  refine queuesServed_of_links hs hlist fun h q hne => ?_
  rw [hqueue] at hne
  by_cases hl : h = l
  · rw [hl, update_self] at hne
    exact absurd rfl hne
  · rw [update_of_ne hl] at hne
    exact ⟨hne, fun u => hlinks u h hl⟩

/-- The links of a vif that one link is taken from. -/
theorem linksMap_of_update (hvifs : wl'.vifs = update wl.vifs v w) {b : Bool}
    (hw : w.linksMap = update (wl.vifs v).linksMap l b) (u : VifId) {h : Hlid} (hl : h ≠ l)
    (hlink : (wl.vifs u).linksMap h = true) : (wl'.vifs u).linksMap h = true := by
  rw [hvifs]
  by_cases hu : u = v
  · subst hu
    rw [update_self, hw, update_of_ne hl]
    exact hlink
  · rw [update_of_ne hu]
    exact hlink

/-- A free link is taken for a listed vif. -/
theorem LinkInv.take (h : LinkInv c wl) (hv : v ∈ wl.wlvifList) (hfree : wl.linksMap l = false)
    (hnames : ∀ a, names w a = names (wl.vifs v) a + if a = l then 1 else 0)
    (hlinks : w.linksMap = update (wl.vifs v).linksMap l true)
    (hlist : wl'.wlvifList = wl.wlvifList) (hvifs : wl'.vifs = update wl.vifs v w)
    (hmap : wl'.linksMap = update wl.linksMap l true) (hqueue : wl'.txQueue = wl.txQueue)
    (hledger : Ledger c (none, wl')) : LinkInv c wl' := by
  refine ⟨h.held.take hv hfree hnames hlinks hlist hvifs hmap, ?_, hledger⟩
  refine queuesServed_of_links h.served hlist fun a q hne => ⟨hqueue ▸ hne, fun u hl => ?_⟩
  by_cases ha : a = l
  · subst ha
    rw [hvifs]
    by_cases hu : u = v
    · subst hu
      rw [update_self, hlinks, update_self]
    · rw [update_of_ne hu]
      exact hl
  · exact linksMap_of_update hvifs hlinks u ha hl

/-- A listed vif gives a link back. -/
theorem LinkInv.give (h : LinkInv c wl) (hv : v ∈ wl.wlvifList)
    (hnames : ∀ a, names w a + (if a = l then 1 else 0) = names (wl.vifs v) a)
    (hlinks : w.linksMap = update (wl.vifs v).linksMap l false)
    (hlist : wl'.wlvifList = wl.wlvifList) (hvifs : wl'.vifs = update wl.vifs v w)
    (hmap : wl'.linksMap = update wl.linksMap l false)
    (hqueues : wl'.toTxQueues = (drainLinkQueues wl l).toTxQueues)
    (hledger : Ledger c (none, wl')) :
    LinkInv c wl' :=
  ⟨h.held.give hv hnames hlinks hlist hvifs hmap,
    queuesServed_drain h.served hlist hqueues fun u _ => linksMap_of_update hvifs hlinks u, hledger⟩

/-- The data path does not touch the links. -/
theorem LinkInv.tx (h : LinkInv c wl) (hlist : wl.wlvifList = vs)
    (hreach : Reach (listedAssume c vs).toAssume (none, wl) (none, wl')) : LinkInv c wl' := by
  have hk := hreach.keep
  have hserved : wl'.wlvifList = vs ∧ QueuesServed wl' := by
    refine hreach.invariant (I := fun s => s.2.wlvifList = vs ∧ QueuesServed s.2) ?_
      ⟨hlist, h.served⟩
    rintro s s' hatom ⟨hl, hs⟩
    exact ⟨hatom.keep.wlvifList.trans hl,
      served_atom (P := (listedAssume c vs).toAssume) (fun _ hp => hp.2) hl hatom hs⟩
  exact ⟨h.held.of_same hk.wlvifList hk.linksMap fun u _ => .of_keep (hk.vif u), hserved.2,
    ledger_reach (P := (listedAssume c vs).toAssume) (fun _ hp => hp.1) hreach h.ledger⟩

/-- The links, the names and the queues are the same. -/
theorem LinkInv.of_links (h : LinkInv c wl) (hlist : wl'.wlvifList = wl.wlvifList)
    (hmap : wl'.linksMap = wl.linksMap)
    (hvif : ∀ u ∈ wl.wlvifList, HlidSame (wl.vifs u) (wl'.vifs u))
    (hqueue : wl'.txQueue = wl.txQueue) (hledger : Ledger c (none, wl')) : LinkInv c wl' := by
  refine ⟨h.held.of_same hlist hmap hvif, fun a q hne => ?_, hledger⟩
  rw [hqueue] at hne
  rcases h.served a q hne with hsys | ⟨u, hu, hl⟩
  · exact Or.inl hsys
  · refine Or.inr ⟨u, hlist ▸ hu, ?_⟩
    rw [(hvif u hu).links]
    exact hl

theorem LinkInv.of_same (h : LinkInv c wl) (hconf : wl'.toConf = wl.toConf)
    (hlist : wl'.wlvifList = wl.wlvifList) (hmap : wl'.linksMap = wl.linksMap)
    (hvif : ∀ u ∈ wl.wlvifList, HlidSame (wl.vifs u) (wl'.vifs u))
    (hqueues : wl'.toTxQueues = wl.toTxQueues) : LinkInv c wl' :=
  h.of_links hlist hmap hvif (congrArg TxQueues.txQueue hqueues) (h.ledger.congr hconf hqueues)

theorem link_atom (hatom : LinkAtom (listedAssume c vs) wl wl') (hlist : wl.wlvifList = vs)
    (h : LinkInv c wl) : LinkInv c wl' := by
  have hk := hatom.driver
  have hledger := ledger_links (A := listedAssume c vs) (fun _ hp => hp.1) hatom h.ledger
  cases hatom with
  | tx hreach hoff => exact h.tx hlist hreach
  | quiet hq => exact h.of_same hk.power.conf hk.list hq.links (fun u _ => hq.vif u) hq.queues
  | fire hidle => exact h.of_same rfl rfl rfl (fun _ _ => .refl _) rfl
  | @take wl' v r hv hfree heq =>
    have hmem : v ∈ wl.wlvifList := hlist.symm ▸ hv
    obtain ⟨l, hl, rfl⟩ := allocateRoleLink_some heq
    have hnone : (wl.vifs v).roleHlid r = none := hfree.resolve_right id
    refine h.take hmem hl (fun a => ?_) ?_ rfl rfl rfl rfl hledger
    · have hset := names_setRoleHlid_some
        (w := { wl.vifs v with linksMap := update (wl.vifs v).linksMap l true }) (r := r)
        (by cases r <;> exact hnone) l a
      exact hset
    · cases r <;> rfl
  | @give v hv r =>
    have hmem : v ∈ wl.wlvifList := hlist.symm ▸ hv
    cases hr : (wl.vifs v).roleHlid r with
    | none =>
      rw [freeRoleLink_none hr]
      exact h
    | some l =>
      rw [freeRoleLink_eq hr] at hledger ⊢
      refine h.give hmem (fun a => ?_) ?_ rfl rfl rfl rfl hledger
      · have hset := names_setRoleHlid_none
          (w := { wl.vifs v with linksMap := update (wl.vifs v).linksMap l false }) (r := r)
          (l := l) (by cases r <;> exact hr) a
        exact hset
      · cases r <;> rfl
  | @addSta wl' v l hv heq =>
    have hmem : v ∈ wl.wlvifList := hlist.symm ▸ hv
    obtain ⟨hl, rfl⟩ := wl1271AllocateSta_some heq
    have hzero := h.held.names_eq_zero hmem hl
    refine h.take hmem hl (fun a => ?_) rfl rfl rfl rfl rfl hledger
    by_cases ha : a = l
    · subst ha
      simp only [names, update_self, Bool.toNat_true, if_true] at hzero ⊢
      omega
    · simp only [names, update_of_ne ha, if_neg ha, Nat.add_zero]
  | @freeSta v hv l =>
    have hmem : v ∈ wl.wlvifList := hlist.symm ▸ hv
    cases hsta : (wl.vifs v).staHlidMap l with
    | false =>
      rw [wl1271FreeSta_of_not hsta]
      exact h
    | true =>
      obtain ⟨_, heq⟩ := wl1271FreeSta_frame hsta
      rw [heq] at hledger ⊢
      refine h.give hmem (fun a => ?_) rfl rfl rfl rfl rfl hledger
      by_cases ha : a = l
      · subst ha
        simp only [names, update_self, Bool.toNat_false, if_true, hsta, Bool.toNat_true]
      · simp only [names, update_of_ne ha, if_neg ha, Nat.add_zero]

theorem LinkInv.reach (h : LinkInv c wl) (hreach : LinkReach (listedAssume c wl.wlvifList) wl wl') :
    LinkInv c wl' := by
  have hinv : wl'.wlvifList = wl.wlvifList ∧ LinkInv c wl' := by
    refine hreach.invariant (I := fun x => x.wlvifList = wl.wlvifList ∧ LinkInv c x) ?_ ⟨rfl, h⟩
    rintro x x' hatom ⟨hl, hx⟩
    exact ⟨hatom.driver.list.trans hl, link_atom hatom hl hx⟩
  exact hinv.2

end

/-! ## Removing an interface -/

/-- Every link that a vif still has is that of a station of an AP. -/
def Released (w : Wl12xxVif) : Prop :=
  ∀ h, w.linksMap h = true → w.bssType = .apBss ∧ w.staHlidMap h = true

instance (w : Wl12xxVif) : Decidable (Released w) :=
  inferInstanceAs (Decidable (∀ h, w.linksMap h = true → w.bssType = .apBss ∧ w.staHlidMap h = true))

section
variable {c : Conf} {wl wl' : Wl1271} {v : VifId}

/-- The loop of `wl12xx_tx_reset_wlvif` takes one link after the other from a released vif. -/
theorem txResetWlvifLink_released (hr : Released (wl.vifs v)) (h : Hlid) :
    Released ((txResetWlvifLink v wl h).vifs v) ∧
      ∀ a, ((txResetWlvifLink v wl h).vifs v).linksMap a = true →
        (wl.vifs v).linksMap a = true ∧ a ≠ h := by
  by_cases hap : (wl.vifs v).bssType = .apBss
  · have hvifs : (txResetWlvifLink v wl h).vifs = (wl1271FreeSta wl v h).vifs := by
      dsimp only [txResetWlvifLink]
      rw [if_pos hap]
    rw [hvifs]
    cases hsta : (wl.vifs v).staHlidMap h with
    | false =>
      rw [wl1271FreeSta_of_not hsta]
      refine ⟨hr, fun a ha => ⟨ha, ?_⟩⟩
      rintro rfl
      rw [(hr a ha).2] at hsta
      cases hsta
    | true =>
      obtain ⟨_, heq⟩ := wl1271FreeSta_frame hsta
      simp only [heq, update_self]
      have hother (a : Hlid) (ha : update (wl.vifs v).linksMap h false a = true) :
          (wl.vifs v).linksMap a = true ∧ a ≠ h := by
        by_cases hah : a = h
        · subst hah
          rw [update_self] at ha
          cases ha
        · rw [update_of_ne hah] at ha
          exact ⟨ha, hah⟩
      refine ⟨fun a ha => ⟨hap, ?_⟩, hother⟩
      obtain ⟨hlink, hah⟩ := hother a ha
      show update (wl.vifs v).staHlidMap h false a = true
      rw [update_of_ne hah]
      exact (hr a hlink).2
  · have hvifs : (txResetWlvifLink v wl h).vifs = wl.vifs := by
      dsimp only [txResetWlvifLink]
      rw [if_neg hap]
    rw [hvifs]
    exact ⟨hr, fun a ha => absurd (hr a ha).1 hap⟩

theorem txResetLoop_released (hs : List Hlid) (hr : Released (wl.vifs v)) {a : Hlid}
    (ha : ((hs.foldl (txResetWlvifLink v) wl).vifs v).linksMap a = true) :
    (wl.vifs v).linksMap a = true ∧ a ∉ hs := by
  induction hs generalizing wl with
  | nil => exact ⟨ha, List.not_mem_nil⟩
  | cons h hs ih =>
    obtain ⟨hr', hother⟩ := txResetWlvifLink_released hr h
    obtain ⟨hlink, hnot⟩ := ih hr' ha
    obtain ⟨hlink, hne⟩ := hother a hlink
    exact ⟨hlink, by simp [hne, hnot]⟩

/-- A released vif names no link as a role. -/
theorem LinkInv.roleHlid_none (h : LinkInv c wl) (hv : v ∈ wl.wlvifList)
    (hr : Released (wl.vifs v)) (r : RoleLink) : (wl.vifs v).roleHlid r = none := by
  cases hrole : (wl.vifs v).roleHlid r with
  | none => rfl
  | some l =>
    have hlink : (wl.vifs v).linksMap l = true := by
      have hpos := names_pos_of_role hrole
      rw [h.held.vif v hv l] at hpos
      cases hl : (wl.vifs v).linksMap l with
      | true => rfl
      | false =>
        rw [hl] at hpos
        cases hpos
    -- the link would be named by the role and by the station
    have hset := names_setRoleHlid_none hrole l
    rw [if_pos rfl] at hset
    have hsta : 1 ≤ names ((wl.vifs v).setRoleHlid r none) l := by
      have hmap : ((wl.vifs v).setRoleHlid r none).staHlidMap = (wl.vifs v).staHlidMap := by
        cases r <;> rfl
      simp only [names, hmap, (hr l hlink).2, Bool.toNat_true]
      omega
    have hone := h.held.exact.held_le_one hv l
    omega

/-- A vif without links leaves the list. -/
theorem LinkInv.unlist (h : LinkInv c wl) (hv : v ∈ wl.wlvifList)
    (hnone : ∀ a, (wl.vifs v).linksMap a = false) (hlist : wl'.wlvifList = wl.wlvifList.erase v)
    (hother : ∀ u, u ≠ v → wl'.vifs u = wl.vifs u) (hmap : wl'.linksMap = wl.linksMap)
    (hconf : wl'.toConf = wl.toConf) (hqueues : wl'.toTxQueues = wl.toTxQueues) :
    LinkInv c wl' := by
  have hmem {u : VifId} (hu : u ∈ wl.wlvifList.erase v) : u ≠ v ∧ u ∈ wl.wlvifList :=
    h.held.nodup.mem_erase_iff.mp hu
  refine ⟨⟨?_, fun u hu a => ?_, hlist ▸ h.held.nodup.erase v⟩, fun a q hne => ?_,
    h.ledger.congr hconf hqueues⟩
  · have herase : Exact systemLink names wl.linksMap wl.vifs (wl.wlvifList.erase v) :=
      h.held.exact.erase hv fun a => by
        rw [h.held.vif v hv a, hnone a, Bool.toNat_false, Nat.zero_add]
    rw [hlist, hmap]
    exact herase.congr fun u hu a => by rw [hother u (hmem hu).1]
  · rw [hlist] at hu
    rw [hother u (hmem hu).1]
    exact h.held.vif u (hmem hu).2 a
  · rw [show wl'.txQueue = wl.txQueue from congrArg TxQueues.txQueue hqueues] at hne
    rcases h.served a q hne with hsys | ⟨u, hu, hl⟩
    · exact Or.inl hsys
    · have huv : u ≠ v := by
        rintro rfl
        rw [hnone a] at hl
        cases hl
      refine Or.inr ⟨u, ?_, ?_⟩
      · rw [hlist]
        exact h.held.nodup.mem_erase_iff.mpr ⟨huv, hu⟩
      · rw [hother u huv]
        exact hl

/-- One vif changes, but not its links. -/
theorem hlidSame_update {f : VifId → Wl12xxVif} (h : HlidSame (f v) w) (u : VifId) :
    HlidSame (f u) (update f v w u) := by
  by_cases hu : u = v
  · subst hu
    rwa [update_self]
  · rw [update_of_ne hu]
    exact .refl _

theorem forgetRoles_same (hr : ∀ r, w.roleHlid r = none) : HlidSame w (forgetRoles w) := by
  have hdev : w.devHlid = none := hr .dev
  have hsta : w.staHlid = none := hr .sta
  have hglobal : w.apGlobalHlid = none := hr .apGlobal
  have hbcast : w.apBcastHlid = none := hr .apBcast
  unfold forgetRoles
  split
  · exact .of_fields hdev.symm hsta.symm rfl rfl rfl rfl
  · exact .of_fields hdev.symm rfl hglobal.symm hbcast.symm rfl rfl

/-- `deinit` of a vif whose roles have been stopped. -/
theorem LinkInv.removeDeinit (h : LinkInv c wl) (hv : v ∈ wl.wlvifList)
    (hr : Released (wl.vifs v)) : LinkInv c (Driver.removeDeinit wl v) := by
  have hsame := forgetRoles_same (h.roleHlid_none hv hr)
  have hself : (wl.setVif v forgetRoles).vifs v = forgetRoles (wl.vifs v) :=
    update_self _ _ _
  have hforget : LinkInv c (wl.setVif v forgetRoles) :=
    h.of_same rfl rfl rfl (fun u _ => hlidSame_update hsame u) rfl
  have hreleased : Released ((wl.setVif v forgetRoles).vifs v) := by
    have htype : (forgetRoles (wl.vifs v)).bssType = (wl.vifs v).bssType := by
      unfold forgetRoles
      split <;> rfl
    rw [hself]
    intro a ha
    rw [hsame.links] at ha
    rw [htype, hsame.sta]
    exact hr a ha
  have hloop := txResetLoop_links (A := listedAssume c wl.wlvifList) (v := v) hv wl
  have hnone : ∀ a, (((allHlids.filter ((wl.setVif v forgetRoles).vifs v).linksMap).foldl
      (txResetWlvifLink v) (wl.setVif v forgetRoles)).vifs v).linksMap a = false := by
    intro a
    by_contra ha
    rw [Bool.not_eq_false] at ha
    obtain ⟨hlink, hnot⟩ := txResetLoop_released _ hreleased ha
    exact hnot (List.mem_filter.mpr ⟨List.mem_finRange a, hlink⟩)
  have hlist := hloop.driver.list
  refine (hforget.reach hloop).unlist (v := v) ?_ hnone rfl (fun u hu => ?_) rfl rfl rfl
  · rw [hlist]
    exact hv
  · exact (update_of_ne hu _ _).trans (update_of_ne hu _ _)

end

section
variable {c : Conf} {W : Wlcore} {v : VifId} {env : RemoveEnv}

/-- A vif keeps its links while its indices are given back. -/
theorem hlidSame_of_rates (hw : forgetRates w' = forgetRates w) : HlidSame w w' :=
  .of_fields (congrArg (·.devHlid) hw) (congrArg (·.staHlid) hw) (congrArg (·.apGlobalHlid) hw)
    (congrArg (·.apBcastHlid) hw) (congrArg (·.staHlidMap) hw) (congrArg (·.linksMap) hw)

theorem LinkInv.removeInterface (h : LinkInv c W.toWl1271) (hv : v ∈ W.wlvifList)
    (hinit : (W.vifs v).initialized = true) (hstate : W.state ≠ .off)
    (henv : Offers (listedAssume c W.wlvifList).frame env.stopDev.tx)
    (hr : Released ((removeBegin W v env).vifs v)) :
    LinkInv c (W.wl1271OpRemoveInterfaceLocked v env).toWl1271 := by
  rw [wl1271OpRemoveInterfaceLocked_eq hinit hstate]
  have hself : HlidSame (W.vifs v) { W.vifs v with initialized := false } :=
    .of_fields rfl rfl rfl rfl rfl rfl
  have hclear : LinkInv c (clearInitialized W.toWl1271 v) :=
    h.of_same rfl rfl rfl (fun u _ => hlidSame_update hself u) rfl
  have hlinks : LinkReach (listedAssume c W.wlvifList) (clearInitialized W.toWl1271 v)
      (removeBegin W v env).toWl1271 := removeBegin_links W v hv henv
  have hbegin : LinkInv c (removeBegin W v env).toWl1271 := hclear.reach hlinks
  have hmem : v ∈ (removeBegin W v env).wlvifList := by
    rw [hlinks.driver.list]
    exact hv
  have hdeinit : LinkInv c ((removeBegin W v env).removeDeinit v).toWl1271 := by
    obtain ⟨w, hw, hdriver⟩ := removeDeinit_driver (removeBegin W v env) v
    have hsame := hlidSame_of_rates hw
    have htype : w.bssType = ((removeBegin W v env).vifs v).bssType := congrArg (·.bssType) hw
    have hself : ((removeBegin W v env).toWl1271.setVif v fun _ => w).vifs v = w :=
      update_self _ _ _
    have hset : LinkInv c ((removeBegin W v env).toWl1271.setVif v fun _ => w) :=
      hbegin.of_same rfl rfl rfl (fun u _ => hlidSame_update hsame u) rfl
    rw [hdriver]
    refine hset.removeDeinit hmem ?_
    rw [hself]
    intro a ha
    rw [hsame.links] at ha
    rw [htype, hsame.sta]
    exact hr a ha
  exact hdeinit.reach (.quiet (removeSleepAuth_quiet _ _ env))

theorem removeInterface_ledger (h : Ledger c (none, W.toWl1271))
    (hinit : (W.vifs v).initialized = true) (hstate : W.state ≠ .off)
    (henv : Offers (NotDummy c) env.stopDev.tx) :
    Ledger c (none, (W.wl1271OpRemoveInterfaceLocked v env).toWl1271) :=
  wl1271OpRemoveInterfaceLocked_induction (A := foreignAssume c)
    (I := fun wl => Ledger c (none, wl)) (fun _ _ h => h.congr rfl rfl)
    (fun _ _ hl h => ledger_linkReach (fun _ hp => hp) hl h) (fun _ _ _ h => h.congr rfl rfl)
    trivial henv hinit hstate h

end

/-! ## Adding an interface -/

section
variable {c : Conf} {wl : Wl1271} {W : Wlcore} {v : VifId}

/-- A failed attempt to boot drops the deferred frames, but leaves the queues alone. -/
theorem initFwLoop_frames (h : Ledger c (none, wl)) (attempts : List BootAttempt) :
    Ledger c (none, (initFwLoop attempts wl).2) ∧
      (initFwLoop attempts wl).2.txQueue = wl.txQueue :=
  initFwLoop_induction (I := fun wl' => Ledger c (none, wl') ∧ wl'.txQueue = wl.txQueue) wl
    (fun _ _ h => ⟨h.1.congr rfl rfl, h.2⟩) (fun _ _ _ _ h => ⟨h.1.congr rfl rfl, h.2⟩)
    (fun wl' h => ⟨ledger_flushDeferred (show Ledger c (none, { wl' with
      netstackWorkQueued := false }) from h.1.congr rfl rfl), h.2⟩)
    (fun _ _ _ h => ⟨h.1.congr rfl rfl, h.2⟩) ⟨h, rfl⟩

theorem LinkInv.boot (h : LinkInv c W.toWl1271) (attempts : List BootAttempt) :
    LinkInv c (W.addInterfaceBoot attempts).2.toWl1271 ∧
      (W.addInterfaceBoot attempts).2.toVifLinks = W.toVifLinks := by
  unfold Wlcore.addInterfaceBoot
  split
  · have hlinks := (initFwLoop_bootKeep (attempts.take 3) W.toWl1271).links
    obtain ⟨hledger, hqueue⟩ := initFwLoop_frames h.ledger (attempts.take 3)
    refine ⟨h.of_links (congrArg VifLinks.wlvifList hlinks) (congrArg VifLinks.linksMap hlinks)
      (fun u _ => ?_) hqueue hledger, hlinks⟩
    show HlidSame (W.vifs u) ((initFwLoop (attempts.take 3) W.toWl1271).2.vifs u)
    rw [show (initFwLoop (attempts.take 3) W.toWl1271).2.vifs = W.vifs from
      congrArg VifLinks.vifs hlinks]
    exact .refl _
  · exact ⟨h, rfl⟩

/-- Operations for no vif leave the links of every vif alone. -/
theorem LinkReach.hlidSame (hA : ∀ v, ¬ A.vif v) {wl wl' : Wl1271} (hreach : LinkReach A wl wl')
    (u : VifId) : HlidSame (wl.vifs u) (wl'.vifs u) := by
  refine hreach.invariant (I := fun x => HlidSame (wl.vifs u) (x.vifs u)) ?_ (.refl _)
  intro x x' hatom hx
  cases hatom with
  | tx hreach hoff => exact hx.trans (.of_keep (hreach.keep.vif u))
  | quiet hq => exact hx.trans (hq.vif u)
  | fire hidle => exact hx
  | take hv | give hv | addSta hv | freeSta hv => exact absurd hv (hA _)

/-- A vif without links is listed. -/
theorem LinkInv.listInterface (h : LinkInv c W.toWl1271) (hv : v ∉ W.wlvifList)
    (hnames : ∀ a, names (W.vifs v) a = 0) (hlinks : ∀ a, (W.vifs v).linksMap a = false) :
    LinkInv c (W.listInterface v).toWl1271 := by
  have hother (u : VifId) (hu : u ∈ W.wlvifList) : (W.listInterface v).vifs u = W.vifs u :=
    update_of_ne (fun huv : u = v => hv (huv ▸ hu)) _ _
  have hself : (W.listInterface v).vifs v = { W.vifs v with initialized := true } :=
    update_self _ _ _
  refine ⟨⟨?_, ?_, List.nodup_cons.mpr ⟨hv, h.held.nodup⟩⟩, ?_, h.ledger.congr rfl rfl⟩
  · have hexact := h.held.exact.congr (g := (W.listInterface v).vifs) fun u hu a => by
      rw [hother u hu]
    refine hexact.cons fun a => ?_
    rw [hself]
    exact (congrArg (· + _) (hnames a)).trans (Nat.zero_add _)
  · intro u hu a
    rcases List.mem_cons.mp hu with rfl | hu
    · rw [hself]
      show names (W.vifs u) a = ((W.vifs u).linksMap a).toNat
      rw [hnames, hlinks]
      rfl
    · rw [hother u hu]
      exact h.held.vif u hu a
  · intro a q hne
    rcases h.served a q hne with hsys | ⟨u, hu, hl⟩
    · exact Or.inl hsys
    · exact Or.inr ⟨u, List.mem_cons_of_mem v hu, by rw [hother u hu]; exact hl⟩

theorem Fresh.names (h : Fresh w) (a : Hlid) : names w a = 0 := by
  have hdev : w.devHlid = none := h.role .dev
  have hsta : w.staHlid = none := h.role .sta
  have hglobal : w.apGlobalHlid = none := h.role .apGlobal
  have hbcast : w.apBcastHlid = none := h.role .apBcast
  simp only [Iface.names, hdev, hsta, hglobal, hbcast, h.sta a, nameOf_none, Bool.toNat_false]

theorem LinkInv.addInterface (h : LinkInv c W.toWl1271) (hlisted : Listing W)
    (type : Option BssType) (dummyP2p : Bool) (env : Wlcore.AddEnv) :
    LinkInv c (W.wl1271OpAddInterface v type dummyP2p env).2.toWl1271 := by
  have hne (hr : ReachesInit W v env) {u : VifId} (hu : u ∈ W.wlvifList) : u ≠ v :=
    fun huv => hlisted.not_mem hr (huv ▸ hu)
  have hboot {W₁ W₂ : Wlcore} (hi : AddInit v type dummyP2p env W W₁ W₂) :=
    LinkInv.boot (W := W₁) (h.of_same hi.init.conf hi.init.list hi.init.links (fun u hu => by
      rw [hi.init.vif u (hne hi.reaches hu)]
      exact .refl _) hi.init.queues) env.attempts
  refine wl1271OpAddInterface_induction (I := fun W => LinkInv c W.toWl1271)
    (fun _ hk => h.reach (hk _).reach) (fun hr => ?_)
    (fun W₁ W₂ hi => (hboot hi).1.reach (hi.role _).reach) fun W₁ W₂ hi h₂ => ?_
  · refine h.of_same rfl rfl rfl (fun u hu => ?_) rfl
    show HlidSame (W.vifs u) (update W.vifs v _ u)
    rw [update_of_ne (hne hr hu)]
    exact .refl _
  · have hsame : HlidSame (W₁.vifs v) (W₂.vifs v) := by
      rw [← show (W₁.addInterfaceBoot env.attempts).2.vifs = W₁.vifs from
        congrArg VifLinks.vifs (hboot hi).2]
      exact LinkReach.hlidSame (A := listedAssume c []) (fun _ => List.not_mem_nil)
        (hi.role _).reach v
    refine h₂.listInterface (hi.list ▸ hlisted.not_mem hi.reaches) (fun a => ?_) fun a => ?_
    · rw [names_congr hsame]
      exact hi.init.fresh.names a
    · rw [hsame.links]
      exact hi.init.fresh.links a

end

/-! ## Stop and recovery -/

section
variable {c : Conf} {wl : Wl1271} {W : Wlcore}

theorem opStop_links (h : Ledger c (none, wl)) (hstate : wl.state ≠ .off)
    (hnodup : wl.wlvifList.Nodup) (hnames : ∀ v ∈ wl.wlvifList, ∀ a, names (wl.vifs v) a = 0)
    (hlinks : ∀ v ∈ wl.wlvifList, ∀ a, (wl.vifs v).linksMap a = false) :
    LinkInv c (Driver.wlcoreOpStopLocked wl) := by
  obtain ⟨hlist, hvif⟩ := wlcoreOpStopLocked_vifs wl
  obtain ⟨t, -, ht, hq, -⟩ := opStop_frames h hstate
  have hmap : (Driver.wlcoreOpStopLocked wl).linksMap = systemLinkOnly := by
    rw [Driver.wlcoreOpStopLocked, if_neg hstate]
    rfl
  have hzero (u : VifId) (hu : u ∈ wl.wlvifList) (a : Hlid) :
      names ((Driver.wlcoreOpStopLocked wl).vifs u) a = 0 := by
    rw [names_congr (.of_keep (hvif u))]
    exact hnames u hu a
  refine ⟨⟨fun a => ?_, fun u hu a => ?_, hlist ▸ hnodup⟩, fun a q hne => ?_,
    opStop_ledger h⟩
  · have hsum : (wl.wlvifList.map fun u => names ((Driver.wlcoreOpStopLocked wl).vifs u) a).sum = 0 := by
      refine List.sum_eq_zero fun n hn => ?_
      obtain ⟨u, hu, rfl⟩ := List.mem_map.mp hn
      exact hzero u hu a
    rw [hlist, hmap, hsum]
    by_cases ha : a = systemHlid <;> simp [systemLink, systemLinkOnly, ha]
  · rw [hlist] at hu
    rw [hzero u hu, (HlidSame.of_keep (hvif u)).links, hlinks u hu]
    rfl
  · refine absurd ?_ hne
    rw [ht]
    exact hq.empty a q

theorem LinkInv.opStop (h : LinkInv c W.toWl1271)
    (hlinks : W.state ≠ .off → ∀ v ∈ W.wlvifList, ∀ a, (W.vifs v).linksMap a = false) :
    LinkInv c W.wlcoreOpStopLocked.toWl1271 := by
  have hstop : LinkInv c (Driver.wlcoreOpStopLocked W.toWl1271) := by
    by_cases hstate : W.state = .off
    · rcases wlcoreOpStopLocked_cases W.toWl1271 with ⟨-, p, heq⟩ | ⟨hon, -⟩
      · rw [heq]
        exact h.of_same rfl rfl rfl (fun _ _ => .refl _) rfl
      · exact absurd hstate hon
    · refine opStop_links h.ledger hstate h.held.nodup (fun v hv a => ?_) (hlinks hstate)
      rw [h.held.vif v hv a, hlinks hstate v hv a]
      rfl
  dsimp only [Wlcore.wlcoreOpStopLocked]
  split <;> exact hstop

theorem LinkInv.of_quiet (h : LinkInv c W.toWl1271) {wl : Wl1271}
    (hk : QuietKeep W.toWl1271 wl) : LinkInv c wl := by
  refine h.of_same hk.conf (congrArg VifLinks.wlvifList hk.links)
    (congrArg VifLinks.linksMap hk.links) (fun u _ => ?_) hk.queues
  rw [show wl.vifs = W.vifs from congrArg VifLinks.vifs hk.links]
  exact .refl _

/-- During a recovery links may be forgotten; the stop at its end makes up for it. -/
theorem LinkInv.recoveryWork (h : LinkInv c W.toWl1271) (hlisted : Listing W)
    {env : VifId → RemoveEnv} (henv : ∀ v, Offers (NotDummy c) (env v).stopDev.tx) :
    LinkInv c (W.wl1271RecoveryWork env).toWl1271 := by
  have hquiet (W : Wlcore) (wl : Wl1271) (h : Ledger c (none, W.toWl1271))
      (hk : QuietKeep W.toWl1271 wl) : Ledger c (none, wl) := h.congr hk.conf hk.queues
  have hpad (W : Wlcore) (h : Ledger c (none, W.toWl1271)) :
      Ledger c (none, W.wlvifList.foldl padSecuritySeq W.toWl1271) :=
    ledger_linkReach (A := foreignAssume c) (fun _ hp => hp) (foldl_padSecuritySeq_links _ _) h
  have hremove (W : Wlcore) (v : VifId) (h : Ledger c (none, W.toWl1271)) (hlisted : Listing W)
      (hv : v ∈ W.wlvifList) (hstate : W.state ≠ .off) :
      Ledger c (none, (W.wl1271OpRemoveInterfaceLocked v (env v)).toWl1271) :=
    removeInterface_ledger h (hlisted.initialized v hv) hstate (henv v)
  have hstop (W : Wlcore) (h : Ledger c (none, W.toWl1271)) (hnil : W.wlvifList = [])
      (hstate : W.state ≠ .off) : LinkInv c W.wlcoreOpStopLocked.toWl1271 := by
    have hnone (u : VifId) (hu : u ∈ W.wlvifList) : False := by
      rw [hnil] at hu
      exact List.not_mem_nil hu
    have hstop := opStop_links h hstate (hnil ▸ List.nodup_nil) (fun u hu => (hnone u hu).elim)
      fun u hu => (hnone u hu).elim
    dsimp only [Wlcore.wlcoreOpStopLocked]
    rw [if_neg hstate]
    exact hstop
  have hquietPost (W : Wlcore) (wl : Wl1271) (h : LinkInv c W.toWl1271)
      (hk : QuietKeep W.toWl1271 wl) : LinkInv c wl := h.of_quiet hk
  refine wl1271RecoveryWork_cases hquietPost h fun hstate => ?_
  exact recoveryRestart_induction hquiet hpad hremove hstop hquietPost h.ledger hlisted hstate

end

/-! ## Runs -/

theorem LinkInv.links {c : Conf} {wl : Wl1271} (h : LinkInv c wl) : LinksExact wl := by
  have hnamed (v : VifId) (hv : v ∈ wl.wlvifList) (a : Hlid) :
      0 < names (wl.vifs v) a ↔ (wl.vifs v).linksMap a = true := by
    rw [h.held.vif v hv a]
    cases (wl.vifs v).linksMap a <;> decide
  have hexact := h.held.exact
  have htaken {v : VifId} (hv : v ∈ wl.wlvifList) {a : Hlid}
      (ha : (wl.vifs v).linksMap a = true) : wl.linksMap a = true :=
    hexact.taken_of_held hv ((hnamed v hv a).mpr ha)
  refine ⟨fun a => ⟨fun ha => ?_, ?_⟩, fun v hv => ?_, fun u hu v hv a hau hav => ?_, hnamed,
    fun v hv a => hexact.held_le_one hv a, fun a ha q => ?_⟩
  · by_cases hsys : a = systemHlid
    · exact Or.inl hsys
    · have hsum := hexact a
      rw [ha, systemLink, if_neg hsys, Nat.zero_add, Bool.toNat_true] at hsum
      have hne : (wl.wlvifList.map fun v => names (wl.vifs v) a).sum ≠ 0 := by omega
      obtain ⟨n, hn, hpos⟩ := List.exists_mem_ne_zero_of_sum_ne_zero hne
      obtain ⟨v, hv, rfl⟩ := List.mem_map.mp hn
      exact Or.inr ⟨v, hv, (hnamed v hv a).mp (Nat.pos_of_ne_zero hpos)⟩
  · rintro (rfl | ⟨v, hv, ha⟩)
    · exact hexact.taken_of_base (by decide)
    · exact htaken hv ha
  · -- the system link counts once already
    have hle : names (wl.vifs v) systemHlid ≤
        (wl.wlvifList.map fun v => names (wl.vifs v) systemHlid).sum :=
      List.le_sum_of_mem (List.mem_map.mpr ⟨v, hv, rfl⟩)
    have hsum := hexact systemHlid
    have hone := Bool.toNat_le (wl.linksMap systemHlid)
    rw [systemLink, if_pos rfl] at hsum
    by_contra hlink
    have hpos := (hnamed v hv systemHlid).mpr (Bool.of_not_eq_false hlink)
    omega
  · exact hexact.eq_of_held hu hv ((hnamed u hu a).mpr hau) ((hnamed v hv a).mpr hav)
  · by_contra hne
    have htrue : wl.linksMap a = true := by
      rcases h.served a q hne with hsys | ⟨v, hv, hl⟩
      · exact hsys ▸ hexact.taken_of_base (by decide)
      · exact htaken hv hl
    rw [ha] at htrue
    cases htrue

/-- The conditions under which the links stay exact. Calls and frames are for listed vifs, and
mac80211 does not offer the driver's dummy packet. An AP is only started when it has no links
left, the roles of an interface are stopped when it is removed, and the driver is only
stopped when no vif has links. -/
def LinksSafe (c : Conf) (W : Wlcore) : Wlcore.Op → Prop
  | .removeInterface v env _ => v ∈ W.wlvifList → W.state ≠ .off →
      Offers (listedAssume c W.wlvifList).frame env.stopDev.tx ∧
        Released ((removeBegin W v env).vifs v)
  | .bssInfoChanged v _ _ ap =>
    (W.vifs v).bssType = .apBss → StartsFree (listedAssume c W.wlvifList) (W.vifs v) ap
  | .staState v _ _ | .remainOnChannel v _ _ _ => v ∈ W.wlvifList
  | .setKey _ _ _ _ env => ∀ p ∈ env.polls, Offers (listedAssume c W.wlvifList).frame p.2
  | .cancelRemainOnChannel env =>
    Offers (listedAssume c W.wlvifList).frame env.stopDev.tx ∧
      ∀ p ∈ env.polls, Offers (listedAssume c W.wlvifList).frame p.2
  | .rocCompleteWork env => Offers (listedAssume c W.wlvifList).frame env.stopDev.tx
  | .opTx skb => (listedAssume c W.wlvifList).frame skb
  | .txWork _ env => Offers (listedAssume c W.wlvifList).frame env
  | .irq env =>
    IrqAssumed (listedAssume c W.wlvifList).toAssume env
      { W.toWl1271 with txPending := true, txWorkQueued := false }
  | .recoveryWork env => ∀ v, Offers (NotDummy c) (env v).stopDev.tx
  | .stop => W.state ≠ .off → ∀ v ∈ W.wlvifList, ∀ h, (W.vifs v).linksMap h = false
  | _ => True

section
variable {c : Conf} {W : Wlcore} {op : Wlcore.Op}

theorem LinksSafe.assumed (h : LinksSafe c W op) (hlisted : Listing W) :
    OpAssumed (listedAssume c W.wlvifList) W op := by
  cases op
  case bssInfoChanged v elpOk sta ap => exact ⟨hlisted.listed v, h⟩
  case cancelRemainOnChannel env => exact ⟨⟨fun u _ => hlisted.listed u, h.1⟩, h.2⟩
  case rocCompleteWork env => exact ⟨fun u _ => hlisted.listed u, h⟩
  all_goals first
    | exact h
    | trivial

theorem step_linkInv (hop : LinksSafe c W op) (h : LinkInv c W.toWl1271) (hlisted : Listing W) :
    LinkInv c (W.step op).toWl1271 := by
  cases hpart : opPart op with
  | some p => exact h.reach (step_reach W hpart (hop.assumed hlisted)).reach
  | none =>
    obtain ⟨v, type, dummyP2p, env, rfl⟩ | ⟨v, env, needFwChange, rfl⟩ | ⟨env, rfl⟩ | rfl :=
      opPart_eq_none hpart
    · exact h.addInterface hlisted type dummyP2p env
    · refine @wl1271OpRemoveInterface_induction (fun W => LinkInv c W.toWl1271) _ _ _ h
        (fun hv hstate => ?_) (fun W _ h hk => h.of_quiet hk) (fun W h => ?_) needFwChange
      · obtain ⟨henv, hr⟩ := hop hv hstate
        exact h.removeInterface hv (hlisted.initialized v hv) hstate henv hr
      · exact h.reach (.queueRecovery _)
    · exact h.recoveryWork hlisted hop
    · exact h.opStop hop

/-- A fresh driver has no interfaces, and only the system link is taken. -/
theorem probe_linkInv (c : Conf) : LinkInv c (Wlcore.probe c).toWl1271 := by
  refine ⟨⟨.nil fun a => ?_, fun v hv => absurd hv List.not_mem_nil, List.nodup_nil⟩,
    fun a q hne => absurd rfl hne, probe_ledger c⟩
  show systemLink a = (systemLinkOnly a).toNat
  by_cases ha : a = systemHlid <;> simp [systemLink, systemLinkOnly, ha]

end

/-- An AP with a station runs beside a STA vif that joins, leaves and is removed. -/
def apStaOps : List Wlcore.Op :=
  [.addInterface 0 (some .apBss) false { attempts := [.boots 10] },
    .bssInfoChanged 0 true (.stop {}) { enableBeacon := some true },
    .staState 0 true (.add .ok),
    .addInterface 1 (some .staBss) false {},
    .bssInfoChanged 1 true (.join .ok) {},
    .bssInfoChanged 1 true (.stop {}) {},
    .removeInterface 1 {} false]

/-- The first start of an AP fails after its role was started: a recorded key cannot be sent. -/
def apRestartOps : List Wlcore.Op :=
  [.addInterface 0 (some .apBss) false { attempts := [.boots 10] },
    .setKey .setKey 0 none { id := 1, cipher := .ccmp, keyidx := 0 } {},
    .bssInfoChanged 0 true (.stop {}) { enableBeacon := some true, hwenc := { keys := [.noMem] } },
    .bssInfoChanged 0 true (.stop {}) { enableBeacon := some true }]

end TiWlan.Iface
