import TiWlan.Lib.Run
import TiWlan.Link.StaCounters

/-!
# Packets of a station in the firmware

The driver counts the packets that it handed to the firmware for a station in
`links[hlid].allocated_pkts` and corrects the count by the firmware's release counter of the link,
whose last value is `links[hlid].prev_freed_pkts` (`wl12xx_irq_update_links_status`,
`wlcore/main.c`, lines 356–387). Both are `u8`, and both outlive the station: only
`wl12xx_tx_reset_wlvif` (`wlcore/tx.c`, lines 1012–1028) clears them, for the links that an
interface still owns when it is removed. The firmware's counter starts at zero with each boot.

Main results:

* `linkStep_inv`: no operation breaks the ownership of links or reuses the descriptor of a packet
  in the firmware;
* `linkStep_counted_iff`: what breaks the count is exactly a station on a link with stale counters;
* `linkPkts_run`: in a run without such a station, the count is exact after every status read.
-/

namespace TiWlan.Link

open TiWlan.Lib TiWlan.Driver TiWlan.Tx
open Function (update update_of_ne update_self)

variable {gem : Bool} {h : Hlid} {op : LinkOp} {skb : Skb} {v : VifId} {wl wl' : Wl1271}

/-! ## The system -/

/-- The driver and the firmware's release counters, one per link and modulo 256. -/
structure LinkSys where
  wl : Wl1271
  released : Hlid → ℕ

/-- The packets of a link that the running firmware holds. -/
def heldOn (wl : Wl1271) (h : Hlid) : ℕ := wl.fwHeld.countP fun p => decide (p.hlid = h)

/-- The firmware releases the `i`-th packet that it holds. -/
def fwRelease (s : LinkSys) (i : ℕ) : LinkSys :=
  match s.wl.fwHeld[i]? with
  | none => s
  | some p =>
    { wl := { s.wl with fwHeld := s.wl.fwHeld.eraseIdx i }
      released := update s.released p.hlid ((s.released p.hlid + 1) % 2 ^ 8) }

inductive LinkOp
  | addInterface (v : VifId) (bssType : BssType) (dummyP2p : Bool) (env : AddEnv)
  | removeInterface (v : VifId) (env : RemoveEnv) (needFwChange : Bool)
  /-- a role of the vif takes a link, or gives it back -/
  | roleStart (v : VifId)
  | roleStop (v : VifId) (h : Hlid)
  | staAdd (v : VifId) (addPeer : CmdRet)
  | staRemove (v : VifId) (h : Hlid) (removePeer : CmdRet)
  | handOver (v : Option VifId) (skb : Skb) (extra off : ℕ) (h : Hlid) (gem : Bool)
  | release (i : ℕ)
  | complete (r : TxResult)
  | complete18xx (txStatByte : ℕ)
  | readStatus (st : FwStatus)
  | queueRecovery
  | recoveryWork (env : VifId → RemoveEnv)
  | stop

/-- A booting firmware starts counting at zero. -/
def linkStep (s : LinkSys) : LinkOp → LinkSys
  | .addInterface v bssType dummyP2p env =>
    { wl := wl1271OpAddInterface s.wl v bssType dummyP2p env
      released := if s.wl.state = .off then fun _ => 0 else s.released }
  | .removeInterface v env needFwChange =>
    { s with wl := wl1271OpRemoveInterface s.wl v env needFwChange }
  | .roleStart v => { s with wl := (wl12xxAllocateLink s.wl v).2 }
  | .roleStop v h => { s with wl := wl12xxFreeLink s.wl v h }
  | .staAdd v addPeer => { s with wl := (wl12xxStaAdd s.wl v addPeer).2 }
  | .staRemove v h removePeer => { s with wl := wl12xxStaRemove s.wl v h removePeer }
  | .handOver v skb extra off h gem =>
    { s with wl := (wl1271TxAllocate s.wl v skb extra off h gem).2 }
  | .release i => fwRelease s i
  | .complete r => { s with wl := wl1271TxCompletePacket s.wl r }
  | .complete18xx b => { s with wl := wl18xxTxCompletePacket s.wl b }
  | .readStatus st => { s with wl := wlcoreFwStatus s.wl { st with txLnkFreePkts := s.released } }
  | .queueRecovery => { s with wl := wl12xxQueueRecoveryWork s.wl }
  | .recoveryWork env => { s with wl := wl1271RecoveryWork s.wl env }
  | .stop => { s with wl := wlcoreOpStopLocked s.wl }

/-- How the operations are called. Stations belong to APs; a frame goes out on a link of its vif
(`op_tx` and the dequeue loop test `links_map`) and the dummy packet on the system link; the firmware
reports a packet when it does not hold it any more; mac80211 stops the driver when all interfaces
are removed. -/
def LinkOp.Legit (s : LinkSys) : LinkOp → Prop
  | .roleStart v => v ∈ s.wl.wlvifList
  | .roleStop v h =>
    v ∈ s.wl.wlvifList ∧ (s.wl.vifs v).linksMap h = true ∧ (s.wl.vifs v).staHlidMap h = false
  | .staAdd v _ => v ∈ s.wl.wlvifList ∧ (s.wl.vifs v).bssType = .apBss
  | .staRemove v _ _ => v ∈ s.wl.wlvifList
  | .handOver (some v) skb _ _ h _ =>
    v ∈ s.wl.wlvifList ∧ (s.wl.vifs v).linksMap h = true ∧ wl12xxIsDummyPacket s.wl skb = false
  | .handOver none _ _ _ h _ => s.wl.state ≠ .off ∧ h = systemHlid
  | .complete r => ∀ p ∈ s.wl.fwHeld, p.id.val ≠ r.id
  | .complete18xx b => ∀ p ∈ s.wl.fwHeld, p.id.val ≠ b &&& 0x7f
  | .stop => s.wl.wlvifList = []
  | _ => True

/-- Every packet in the firmware has a descriptor of its own, which is in use. -/
structure HeldIds (wl : Wl1271) : Prop where
  nodup : (wl.fwHeld.map HwPkt.id).Nodup
  used : ∀ p ∈ wl.fwHeld, wl.txFramesMap p.id = true

theorem HeldIds.length_le (h : HeldIds wl) : wl.fwHeld.length ≤ 32 := by
  have := h.nodup.length_le_card
  simpa using this

theorem HeldIds.heldOn_le (h : HeldIds wl) (l : Hlid) : heldOn wl l ≤ 32 :=
  List.countP_le_length.trans h.length_le

/-- What holds in every run. -/
structure LinkInv (s : LinkSys) : Prop where
  owned : LinksOwned s.wl
  initialized : ∀ v ∈ s.wl.wlvifList, (s.wl.vifs v).initialized = true
  off : s.wl.state = .off → s.wl.wlvifList = [] ∧ s.wl.fwHeld = []
  ids : HeldIds s.wl

/-- The counters of a link account for its packets in the firmware. -/
def Counted (s : LinkSys) (h : Hlid) : Prop :=
  (s.wl.allocatedPkts h + s.wl.prevFreedPkts h) % 2 ^ 8 = (s.released h + heldOn s.wl h) % 2 ^ 8

/-- The counters of all stations do. -/
def StaCounted (s : LinkSys) : Prop :=
  ∀ v ∈ s.wl.wlvifList, (s.wl.vifs v).bssType = .apBss →
    ∀ h, (s.wl.vifs v).staHlidMap h = true → Counted s h

section
variable {s : LinkSys} {wl' : Wl1271}

theorem HeldIds.congr (h : HeldIds wl) (hh : wl'.fwHeld = wl.fwHeld)
    (hm : wl'.txFramesMap = wl.txFramesMap) : HeldIds wl' :=
  ⟨hh ▸ h.nodup, fun p hp => hm ▸ h.used p (hh ▸ hp)⟩

/-- A packet that is handed over takes a free descriptor. -/
theorem HeldIds.append {p : HwPkt} (h : HeldIds wl) (hfree : wl.txFramesMap p.id = false)
    (hm : wl'.txFramesMap = update wl.txFramesMap p.id true) (hh : wl'.fwHeld = wl.fwHeld ++ [p]) :
    HeldIds wl' := by
  have hfresh : ∀ p' ∈ wl.fwHeld, p'.id ≠ p.id := by
    intro p' hp' heq
    simp [← heq, h.used p' hp'] at hfree
  constructor
  · rw [hh, List.map_append, List.nodup_append]
    refine ⟨h.nodup, by simp, fun i hi j hj => ?_⟩
    obtain ⟨p', hp', rfl⟩ := List.mem_map.mp hi
    simp only [List.map_cons, List.map_nil, List.mem_singleton] at hj
    exact hj ▸ hfresh p' hp'
  · intro p' hp'
    rw [hh] at hp'
    rw [hm]
    rcases List.mem_append.mp hp' with hp' | hp'
    · rw [update_of_ne (hfresh p' hp')]
      exact h.used p' hp'
    · rw [List.mem_singleton.mp hp', update_self]

theorem HeldIds.eraseIdx (h : HeldIds wl) (i : ℕ) :
    HeldIds { wl with fwHeld := wl.fwHeld.eraseIdx i } :=
  ⟨h.nodup.sublist ((List.eraseIdx_sublist _ _).map _),
    fun p hp => h.used p (List.mem_of_mem_eraseIdx hp)⟩

theorem countP_eraseIdx_add {α : Type} (f : α → Bool) {l : List α} {i : ℕ} {a : α}
    (h : l[i]? = some a) :
    (l.eraseIdx i).countP f + (if f a then 1 else 0) = l.countP f := by
  obtain ⟨hi, rfl⟩ := List.getElem?_eq_some_iff.mp h
  rw [← (List.getElem_cons_eraseIdx_perm hi).countP_eq f, List.countP_cons]

theorem StaKeep.counted {released : Hlid → ℕ} (hk : StaKeep wl wl')
    (h : StaCounted ⟨wl, released⟩) :
    StaCounted ⟨wl', released⟩ := by
  intro v hv hap l hs
  obtain ⟨hs₀, ha, hp⟩ := hk.sta v hv hap l hs
  have hold := h v (hk.list v hv) ((hk.bssType v hv).symm.trans hap) l hs₀
  unfold Counted heldOn at *
  dsimp only at *
  rw [ha, hp, hk.held]
  exact hold

theorem LinkInv.of_staKeep (hinv : LinkInv s) (ho : LinksOwned wl') (hk : StaKeep s.wl wl')
    (hoff : wl'.state = .off → s.wl.state = .off) (released : Hlid → ℕ) :
    LinkInv ⟨wl', released⟩ := by
  refine ⟨ho, fun v hv => ?_, fun h => ?_, hinv.ids.congr hk.held hk.slots⟩
  · exact (hk.initialized v hv).trans (hinv.initialized v (hk.list v hv))
  · obtain ⟨hlist, hheld⟩ := hinv.off (hoff h)
    refine ⟨List.eq_nil_iff_forall_not_mem.mpr fun v hv => ?_, hk.held.trans hheld⟩
    have := hk.list v hv
    rw [hlist] at this
    exact List.not_mem_nil this

end

/-! ## Stop and recovery -/

/-- Nothing is listed and nothing is in the firmware. -/
structure Emptied (wl : Wl1271) : Prop where
  list : wl.wlvifList = []
  system : wl.linksMap systemHlid = true
  held : wl.fwHeld = []

theorem Emptied.inv (h : Emptied wl) (released : Hlid → ℕ) : LinkInv ⟨wl, released⟩ where
  owned := by
    unfold LinksOwned
    rw [h.list]
    exact .nil h.system
  initialized v hv := by
    have hv' : v ∈ wl.wlvifList := hv
    rw [h.list] at hv'
    exact absurd hv' List.not_mem_nil
  off _ := ⟨h.list, h.held⟩
  ids := ⟨by rw [h.held]; exact List.nodup_nil,
    by rw [h.held]; exact fun p hp => absurd hp List.not_mem_nil⟩

theorem Emptied.counted (h : Emptied wl) (released : Hlid → ℕ) : StaCounted ⟨wl, released⟩ := by
  intro v hv
  have hv' : v ∈ wl.wlvifList := hv
  rw [h.list] at hv'
  exact absurd hv' List.not_mem_nil

/-- Stopping a running driver that has no interfaces left. -/
theorem wlcoreOpStopLocked_emptied (hstate : wl.state ≠ .off) (hlist : wl.wlvifList = []) :
    Emptied (wlcoreOpStopLocked wl) := by
  have hreset := (wl12xxTxReset_keep (opStopCancel (opStopOff wl))).wlvifList
  rcases wlcoreOpStopLocked_cases wl with ⟨hoff, -⟩ | ⟨-, wl₁, p, hwl, heq⟩
  · exact absurd hoff hstate
  · rw [hwl] at hreset
    rw [heq]
    exact ⟨hreset.trans hlist, rfl, rfl⟩

theorem PowerKeep.not_off (h : PowerKeep wl wl') (hs : wl.state ≠ .off) : wl'.state ≠ .off := by
  rcases h.power with hp | hp
  · rw [hp]
    exact hs
  · rw [hp]
    unfold Power.queueRecoveryWork
    split
    · exact WlcoreState.noConfusion
    · exact hs

/-- The recovery removes all interfaces. -/
theorem removeAll_wlvifList (env : VifId → RemoveEnv) (vs : List VifId) (wl : Wl1271)
    (hlist : wl.wlvifList = vs) (ho : LinksOwned wl)
    (hinit : ∀ v ∈ wl.wlvifList, (wl.vifs v).initialized = true) (hstate : wl.state ≠ .off) :
    (vs.foldl (fun wl v => wl1271OpRemoveInterfaceLocked wl v (env v)) wl).wlvifList = [] ∧
      (vs.foldl (fun wl v => wl1271OpRemoveInterfaceLocked wl v (env v)) wl).state ≠ .off := by
  induction vs generalizing wl with
  | nil => exact ⟨hlist, hstate⟩
  | cons v vs ih =>
    have hv : v ∈ wl.wlvifList := by rw [hlist]; simp
    obtain ⟨ho₁, hlist₁⟩ := wl1271OpRemoveInterfaceLocked_owned ho hv (hinit v hv) hstate (env v)
    have hk := wl1271OpRemoveInterfaceLocked_staKeep ho hv (hinit v hv) hstate (env v)
    refine ih _ ?_ ho₁ (fun u hu => (hk.initialized u hu).trans (hinit u (hk.list u hu))) ?_
    · rw [hlist₁, hlist, List.erase_cons_head]
    · exact PowerKeep.not_off (wl1271OpRemoveInterfaceLocked_powerKeep wl v (env v)) hstate

theorem padSecuritySeq_keep (wl : Wl1271) (v : VifId) : TxKeep wl (padSecuritySeq wl v) := by
  unfold padSecuritySeq
  split
  · exact .setVif wl v ⟨_, _, _, _, rfl⟩
  · exact .refl wl

theorem recoveryRestart_emptied (ho : LinksOwned wl)
    (hinit : ∀ v ∈ wl.wlvifList, (wl.vifs v).initialized = true) (hstate : wl.state ≠ .off)
    (env : VifId → RemoveEnv) : Emptied (recoveryRestart wl env) := by
  have hpad := TxKeep.foldl padSecuritySeq_keep wl.wlvifList wl
  have hstop : TxKeep wl (wlcoreStopQueues (wl.wlvifList.foldl padSecuritySeq wl) .fwRestart) :=
    hpad.trans (.of_parts rfl rfl rfl rfl rfl)
  have hinit' : ∀ v ∈ (wlcoreStopQueues (wl.wlvifList.foldl padSecuritySeq wl) .fwRestart).wlvifList,
      ((wlcoreStopQueues (wl.wlvifList.foldl padSecuritySeq wl) .fwRestart).vifs v).initialized =
        true := by
    intro v hv
    obtain ⟨_, _, _, _, hw⟩ := hstop.vif v
    rw [hw]
    exact hinit v (hstop.wlvifList ▸ hv)
  obtain ⟨hlist, hstate'⟩ := removeAll_wlvifList env _ _ rfl (ho.of_keep hstop) hinit'
    (PowerKeep.not_off hstop.powerKeep hstate)
  have hempty := wlcoreOpStopLocked_emptied hstate' hlist
  exact ⟨hempty.list, hempty.system, hempty.held⟩

/-! ## Steps -/

section
variable {s : LinkSys} {released : Hlid → ℕ}

/-- A new interface has no links and no stations. -/
theorem addInterfaceEnable_inv {r : Bool × Wl1271} (hk : StaKeep s.wl r.2) (ho : LinksOwned r.2)
    (hinv : LinkInv s) (hnew : v ∉ s.wl.wlvifList) (hoff : r.2.state = .off → s.wl.state = .off)
    (hon : r.1 = true → r.2.state ≠ .off) (hdev : (r.2.vifs v).devHlid = none)
    (hlinks : ∀ h, (r.2.vifs v).linksMap h = false) (hsta : ∀ h, (r.2.vifs v).staHlidMap h = false)
    (ret : CmdRet) :
    LinkInv ⟨addInterfaceEnable r v ret, released⟩ ∧
      (StaCounted ⟨s.wl, released⟩ → StaCounted ⟨addInterfaceEnable r v ret, released⟩) := by
  unfold addInterfaceEnable
  split
  · exact ⟨hinv.of_staKeep ho hk hoff released, hk.counted⟩
  · rename_i hboot
    have hstate := hon (by simpa using hboot)
    split
    · have hcmd := StaKeep.cmdEffect r.2 ret
      have hkeep := cmdEffect_keep r.2 ret
      refine ⟨hinv.of_staKeep (ho.of_keep hkeep) (hk.trans hcmd) (fun h => ?_) released,
        (hk.trans hcmd).counted⟩
      exact absurd h (PowerKeep.not_off hkeep.powerKeep hstate)
    · have hv : v ∉ r.2.wlvifList := fun hmem => hnew (hk.list v hmem)
      have hne : ∀ u ∈ r.2.wlvifList, u ≠ v := fun u hu huv => hv (huv ▸ hu)
      refine ⟨⟨?_, fun u hu => ?_, fun h => absurd h hstate, hinv.ids.congr hk.held hk.slots⟩, ?_⟩
      · refine Owned.insert ho hv ⟨hdev, fun h hs => ?_, fun h hl => ?_, hlinks _⟩ hlinks
        · exact absurd (show (r.2.vifs v).staHlidMap h = true from hs) (by simp [hsta])
        · exact absurd (show (r.2.vifs v).linksMap h = true from hl) (by simp [hlinks])
      · dsimp only [Wl1271.setVif]
        rcases List.mem_cons.mp hu with rfl | hu
        · rw [update_self]
        · rw [update_of_ne (hne u hu)]
          exact (hk.initialized u hu).trans (hinv.initialized u (hk.list u hu))
      · intro hcount u hu hap h hs
        dsimp only [Wl1271.setVif] at hap hs
        rcases List.mem_cons.mp hu with rfl | hu
        · simp [hsta] at hs
        · rw [update_of_ne (hne u hu)] at hap hs
          exact hk.counted hcount u hu hap h hs

theorem addInterface_inv (hinv : LinkInv s) (v : VifId) (bssType : BssType) (dummyP2p : Bool)
    (env : AddEnv) :
    LinkInv ⟨wl1271OpAddInterface s.wl v bssType dummyP2p env, released⟩ ∧
      (StaCounted ⟨s.wl, released⟩ →
        StaCounted ⟨wl1271OpAddInterface s.wl v bssType dummyP2p env, released⟩) := by
  have hsame {wl' : Wl1271} (hkeep : TxKeep s.wl wl') (hk : StaKeep s.wl wl') :
      LinkInv ⟨wl', released⟩ ∧ (StaCounted ⟨s.wl, released⟩ → StaCounted ⟨wl', released⟩) := by
    refine ⟨hinv.of_staKeep (hinv.owned.of_keep hkeep) hk (fun h => ?_) released, hk.counted⟩
    by_contra hne
    exact PowerKeep.not_off hkeep.powerKeep hne h
  unfold wl1271OpAddInterface
  split
  · exact hsame (.queueRecovery s.wl) (.queueRecovery s.wl)
  · split
    · exact hsame (.refl s.wl) (.refl s.wl)
    · rename_i hnew
      have hv : v ∉ s.wl.wlvifList := by
        intro hmem
        simp [hinv.initialized v hmem] at hnew
      obtain ⟨hboot, hon⟩ := addInterfaceBoot_bootKeep
        (wl12xxInitVifData s.wl v bssType dummyP2p) env.attempts
      have hdata : StaKeep s.wl (wl12xxInitVifData s.wl v bssType dummyP2p) :=
        .of_unlisted (v := v) (fun u hu => ⟨hu, fun huv => hv (huv ▸ hu)⟩)
          (fun u huv => update_of_ne huv _ _) rfl rfl
      have hvif : (addInterfaceBoot (wl12xxInitVifData s.wl v bssType dummyP2p)
          env.attempts).2.vifs v = (wl12xxInitVifData s.wl v bssType dummyP2p).vifs v :=
        congrFun (congrArg VifLinks.vifs hboot.links) v
      refine addInterfaceEnable_inv (hdata.trans hboot.staKeep) (hboot.owned ?_) hinv hv ?_ hon
        ?_ ?_ ?_ env.roleEnable
      · exact Owned.update_unlisted hinv.owned hv _
      · intro hoff
        by_contra hne
        unfold addInterfaceBoot at hoff
        rw [if_neg (show (wl12xxInitVifData s.wl v bssType dummyP2p).state ≠ .off from hne)] at hoff
        exact hne hoff
      all_goals
        rw [hvif]
        simp [wl12xxInitVifData, Wl1271.setVif]

theorem removeInterface_inv (hinv : LinkInv s) (v : VifId) (env : RemoveEnv) (change : Bool) :
    LinkInv ⟨wl1271OpRemoveInterface s.wl v env change, s.released⟩ ∧
      StaKeep s.wl (wl1271OpRemoveInterface s.wl v env change) := by
  unfold wl1271OpRemoveInterface
  split
  · exact ⟨hinv, .refl s.wl⟩
  · rename_i hstate
    simp only [not_or] at hstate
    have hremove : ∃ wl₁, wl₁ = (if v ∈ s.wl.wlvifList then
        wl1271OpRemoveInterfaceLocked s.wl v env else s.wl) ∧ LinksOwned wl₁ ∧ StaKeep s.wl wl₁ ∧
        wl₁.state ≠ .off := by
      refine ⟨_, rfl, ?_⟩
      split
      · rename_i hv
        exact ⟨(wl1271OpRemoveInterfaceLocked_owned hinv.owned hv (hinv.initialized v hv)
            hstate.1 env).1,
          wl1271OpRemoveInterfaceLocked_staKeep hinv.owned hv (hinv.initialized v hv) hstate.1 env,
          PowerKeep.not_off (wl1271OpRemoveInterfaceLocked_powerKeep s.wl v env) hstate.1⟩
      · exact ⟨hinv.owned, .refl s.wl, hstate.1⟩
    obtain ⟨wl₁, heq, ho, hk, hon⟩ := hremove
    dsimp only
    rw [← heq]
    split
    · have hk' : BootKeep wl₁ (wl12xxQueueRecoveryWork { wl₁ with intendedFwRecovery := true }) :=
        ⟨rfl, rfl, rfl, rfl, rfl⟩
      have hon' := PowerKeep.not_off
        (TxKeep.queueRecovery { wl₁ with intendedFwRecovery := true }).powerKeep hon
      exact ⟨hinv.of_staKeep (hk'.owned ho) (hk.trans hk'.staKeep) (fun h => absurd h hon')
        s.released, hk.trans hk'.staKeep⟩
    · exact ⟨hinv.of_staKeep ho hk (fun h => absurd h hon) s.released, hk⟩

/-- An operation of the data path that leaves the counters alone. -/
theorem LinkInv.of_keep (hinv : LinkInv s) (hkeep : TxKeep s.wl wl')
    (hheld : wl'.fwHeld = s.wl.fwHeld) (hids : HeldIds wl') : LinkInv ⟨wl', s.released⟩ := by
  refine ⟨hinv.owned.of_keep hkeep, fun v hv => ?_, fun h => ?_, hids⟩
  · obtain ⟨_, _, _, _, hw⟩ := hkeep.vif v
    rw [hw]
    exact hinv.initialized v (hkeep.wlvifList ▸ hv)
  · have hoff : s.wl.state = .off := by
      by_contra hne
      exact PowerKeep.not_off hkeep.powerKeep hne h
    obtain ⟨hlist, hempty⟩ := hinv.off hoff
    exact ⟨hkeep.wlvifList.trans hlist, hheld.trans hempty⟩

theorem Completed.inv {id : ℕ} (h : Completed s.wl wl' id) (hinv : LinkInv s)
    (hid : ∀ p ∈ s.wl.fwHeld, p.id.val ≠ id) : LinkInv ⟨wl', s.released⟩ := by
  refine hinv.of_keep h.keep h.held ⟨h.held ▸ hinv.ids.nodup, fun p hp => ?_⟩
  rw [h.held] at hp
  rw [h.slots p.id (hid p hp)]
  exact hinv.ids.used p hp

theorem Completed.counted {id : ℕ} (h : Completed s.wl wl' id) (hcount : StaCounted s) :
    StaCounted ⟨wl', s.released⟩ := by
  intro v hv hap l hs
  have hold := hcount v (h.keep.wlvifList ▸ hv) ((h.keep.bssType v).symm.trans hap) l
    (h.keep.staHlidMap v ▸ hs)
  unfold Counted heldOn at *
  dsimp only
  rw [h.allocated, h.prev, h.held]
  exact hold

/-- The status block changes no station's balance. -/
theorem readStatus_inv (hinv : LinkInv s) (st : FwStatus) :
    LinkInv ⟨wlcoreFwStatus s.wl st, s.released⟩ := by
  have hstep := wlcoreFwStatus_status s.wl st
  exact hinv.of_keep (wlcoreFwStatus_keep s.wl st) hstep.held (hinv.ids.congr hstep.held hstep.slots)

theorem readStatus_counted (st : FwStatus) (hcount : StaCounted s) :
    StaCounted ⟨wlcoreFwStatus s.wl st, s.released⟩ := by
  have hstep := wlcoreFwStatus_status s.wl st
  have hkeep := wlcoreFwStatus_keep s.wl st
  intro v hv hap l hs
  have hold := hcount v (hkeep.wlvifList ▸ hv) ((hkeep.bssType v).symm.trans hap) l
    (hkeep.staHlidMap v ▸ hs)
  unfold Counted heldOn at *
  dsimp only
  rw [hstep.sum l, hstep.held]
  exact hold

theorem handOver_inv (hinv : LinkInv s) {v : Option VifId} {extra off : ℕ}
    (hstate : s.wl.state ≠ .off) :
    LinkInv ⟨(wl1271TxAllocate s.wl v skb extra off h gem).2, s.released⟩ := by
  have hkeep := wl1271TxAllocate_keep s.wl v skb extra off h gem
  have hnot := PowerKeep.not_off hkeep.powerKeep hstate
  rcases allocated_pkts _ (wl1271TxAllocate_path s.wl v skb extra off h gem) hkeep with hover | hk
  · obtain ⟨id, blocks, hfree, hmap, hheld⟩ := hover.packet
    refine ⟨hinv.owned.of_keep hkeep, fun u hu => ?_, fun hoff => absurd hoff hnot,
      hinv.ids.append hfree hmap hheld⟩
    obtain ⟨_, _, _, _, hw⟩ := hkeep.vif u
    rw [hw]
    exact hinv.initialized u (hkeep.wlvifList ▸ hu)
  · exact hinv.of_staKeep (hinv.owned.of_keep hkeep) hk (fun hoff => absurd hoff hnot) s.released

/-- A packet on a link of its vif is counted exactly if the link is a station's. -/
theorem handOver_counted (hinv : LinkInv s) {v : Option VifId} {extra off : ℕ}
    (hop : (LinkOp.handOver v skb extra off h gem).Legit s) (hcount : StaCounted s) :
    StaCounted ⟨(wl1271TxAllocate s.wl v skb extra off h gem).2, s.released⟩ := by
  have hkeep := wl1271TxAllocate_keep s.wl v skb extra off h gem
  rcases allocated_pkts _ (wl1271TxAllocate_path s.wl v skb extra off h gem) hkeep with hover | hk
  · obtain ⟨id, blocks, -, -, hheld⟩ := hover.packet
    intro u hu hap l hs
    rw [hkeep.wlvifList] at hu
    rw [hkeep.bssType] at hap
    rw [hkeep.staHlidMap] at hs
    have hold := hcount u hu hap l hs
    unfold Counted heldOn at *
    dsimp only at *
    rw [hover.counted, hover.prev, hheld, List.countP_append]
    by_cases hl : h = l
    · subst hl
      have hlink := (hinv.owned.vif u hu).sta h hs
      have hmine : countedFor s.wl v skb h = true := by
        cases v with
        | none =>
          rw [hop.2, (hinv.owned.vif u hu).system] at hlink
          cases hlink
        | some v₀ =>
          have huv := hinv.owned.disjoint u hu v₀ hop.1 h hlink hop.2.1
          subst huv
          simp [countedFor, hop.2.2, hap, hs]
      rw [if_pos hmine, update_self]
      simp only [List.countP_singleton, decide_true, if_true]
      unfold u8
      omega
    · have hsame : (if countedFor s.wl v skb h = true then
          update s.wl.allocatedPkts h (u8 (s.wl.allocatedPkts h + 1)) else s.wl.allocatedPkts) l =
          s.wl.allocatedPkts l := by
        split
        · exact update_of_ne (Ne.symm hl) _ _
        · rfl
      rw [hsame]
      simpa [hl] using hold
  · exact hk.counted hcount

theorem fwRelease_inv (hinv : LinkInv s) (i : ℕ) : LinkInv (fwRelease s i) := by
  unfold fwRelease
  split
  · exact hinv
  · refine ⟨hinv.owned, hinv.initialized, fun hoff => ?_, hinv.ids.eraseIdx i⟩
    obtain ⟨hlist, hempty⟩ := hinv.off hoff
    exact ⟨hlist, by simp [hempty]⟩

theorem fwRelease_counted (i : ℕ) (hcount : StaCounted s) : StaCounted (fwRelease s i) := by
  unfold fwRelease
  split
  · exact hcount
  · rename_i p hp
    intro v hv hap l hs
    have hold := hcount v hv hap l hs
    have hone := countP_eraseIdx_add (fun p => decide (p.hlid = l)) hp
    unfold Counted heldOn at *
    dsimp only at *
    by_cases hl : p.hlid = l
    · subst hl
      rw [update_self]
      simp only [decide_true, if_true] at hone
      omega
    · rw [update_of_ne (Ne.symm hl)]
      simp only [hl, decide_false, Bool.false_eq_true, if_false] at hone
      omega

theorem recoveryWork_inv (hinv : LinkInv s) (env : VifId → RemoveEnv) :
    LinkInv ⟨wl1271RecoveryWork s.wl env, s.released⟩ ∧
      (StaCounted s → StaCounted ⟨wl1271RecoveryWork s.wl env, s.released⟩) := by
  unfold wl1271RecoveryWork
  split
  · exact ⟨⟨hinv.owned, hinv.initialized, hinv.off, hinv.ids.nodup, hinv.ids.used⟩, fun h => h⟩
  · rename_i hstate
    split
    · exact ⟨⟨hinv.owned, hinv.initialized, hinv.off, hinv.ids.nodup, hinv.ids.used⟩, fun h => h⟩
    · split
      · exact ⟨⟨hinv.owned, hinv.initialized, hinv.off, hinv.ids.nodup, hinv.ids.used⟩, fun h => h⟩
      · have hempty := recoveryRestart_emptied hinv.owned hinv.initialized
          (fun h => hstate (Or.inl h)) env
        have hempty' : Emptied (recoveryOut (recoveryRestart s.wl env)) :=
          ⟨hempty.list, hempty.system, hempty.held⟩
        exact ⟨hempty'.inv s.released, fun _ => hempty'.counted s.released⟩

theorem stop_inv (hinv : LinkInv s) (hlist : s.wl.wlvifList = []) :
    LinkInv ⟨wlcoreOpStopLocked s.wl, s.released⟩ ∧
      StaCounted ⟨wlcoreOpStopLocked s.wl, s.released⟩ := by
  by_cases hstate : s.wl.state = .off
  · have hempty : Emptied (wlcoreOpStopLocked s.wl) := by
      unfold wlcoreOpStopLocked
      rw [if_pos hstate]
      split <;> exact ⟨hlist, hinv.owned.system, (hinv.off hstate).2⟩
    exact ⟨hempty.inv s.released, hempty.counted s.released⟩
  · have hempty := wlcoreOpStopLocked_emptied hstate hlist
    exact ⟨hempty.inv s.released, hempty.counted s.released⟩

/-- A station is only put on a link whose counters account for its packets. -/
def LinkOp.Fresh (s : LinkSys) : LinkOp → Prop
  | .staAdd v addPeer => ∀ h, (wl12xxStaAdd s.wl v addPeer).1 = some h → Counted s h
  | _ => True

theorem StaAdded.inv (ha : StaAdded s.wl wl' v h) (hinv : LinkInv s) (ho : LinksOwned wl') :
    LinkInv ⟨wl', s.released⟩ := by
  have hheld : wl'.fwHeld = s.wl.fwHeld := congrArg TxAccounting.fwHeld ha.accounting
  refine ⟨ho, fun u hu => ?_, fun hoff => ?_, hinv.ids.congr hheld ha.slots⟩
  · exact (ha.initialized u).trans (hinv.initialized u (ha.list ▸ hu))
  · obtain ⟨hlist, hempty⟩ := hinv.off (ha.state.symm.trans hoff)
    exact ⟨ha.list.trans hlist, hheld.trans hempty⟩

theorem StaAdded.counted_iff (ha : StaAdded s.wl wl' v h) (hv : v ∈ s.wl.wlvifList)
    (hap : (s.wl.vifs v).bssType = .apBss) (hcount : StaCounted s) :
    StaCounted ⟨wl', s.released⟩ ↔ Counted s h := by
  have hsame (l : Hlid) : Counted ⟨wl', s.released⟩ l ↔ Counted s l := by
    unfold Counted heldOn
    dsimp only
    rw [ha.accounting]
  constructor
  · intro hcount'
    exact (hsame h).mp (hcount' v (ha.list.symm ▸ hv) ((ha.bssType v).trans hap) h ha.new)
  · intro hnew u hu hap' l hs
    refine (hsame l).mpr ?_
    rcases ha.sta u l hs with hs | ⟨-, rfl⟩
    · exact hcount u (ha.list ▸ hu) ((ha.bssType u).symm.trans hap') l hs
    · exact hnew

theorem wl12xxStaAdd_powerKeep (wl : Wl1271) (v : VifId) (ret : CmdRet) :
    PowerKeep wl (wl12xxStaAdd wl v ret).2 := by
  unfold wl12xxStaAdd
  split <;> rename_i hsta
  · rw [wl1271AllocateSta_none hsta]
    exact .refl wl
  · rename_i wl₁
    have halloc : PowerKeep wl wl₁ := by
      obtain ⟨-, rfl⟩ := wl1271AllocateSta_some hsta
      exact .of_parts rfl rfl
    split
    · exact halloc
    · exact halloc.trans ((cmdEffect_keep wl₁ ret).powerKeep.trans (wl1271FreeSta_powerKeep _ v _))

theorem wl12xxStaRemove_powerKeep (wl : Wl1271) (v : VifId) (h : Hlid) (ret : CmdRet) :
    PowerKeep wl (wl12xxStaRemove wl v h ret) := by
  unfold wl12xxStaRemove
  split
  · exact .refl wl
  · split
    · exact wl1271FreeSta_powerKeep wl v h
    · exact (cmdEffect_keep wl ret).powerKeep

/-- An operation that may only remove stations. -/
theorem LinkInv.step (hinv : LinkInv s) (ho : LinksOwned wl') (hk : StaKeep s.wl wl')
    (hp : PowerKeep s.wl wl') : LinkInv ⟨wl', s.released⟩ := by
  refine hinv.of_staKeep ho hk (fun h => ?_) s.released
  by_contra hne
  exact PowerKeep.not_off hp hne h

theorem staAdd_step (hinv : LinkInv s) (hv : v ∈ s.wl.wlvifList)
    (hap : (s.wl.vifs v).bssType = .apBss) (ret : CmdRet) :
    LinkInv ⟨(wl12xxStaAdd s.wl v ret).2, s.released⟩ ∧ (StaCounted s →
      (StaCounted ⟨(wl12xxStaAdd s.wl v ret).2, s.released⟩ ↔ (LinkOp.staAdd v ret).Fresh s)) := by
  have ho := wl12xxStaAdd_owned hinv.owned hv ret
  have hp := wl12xxStaAdd_powerKeep s.wl v ret
  cases heq : wl12xxStaAdd s.wl v ret with
  | mk r wl' =>
    rw [heq] at ho hp
    cases r with
    | none =>
      have hk := wl12xxStaAdd_none heq
      refine ⟨hinv.step ho hk hp, fun hcount => iff_of_true (hk.counted hcount) fun h hh => ?_⟩
      rw [heq] at hh
      cases hh
    | some h =>
      have ha := wl12xxStaAdd_some heq
      refine ⟨ha.inv hinv ho, fun hcount => (ha.counted_iff hv hap hcount).trans ?_⟩
      constructor
      · intro hc h' hh
        rw [heq] at hh
        cases hh
        exact hc
      · intro hfresh
        exact hfresh h (by rw [heq])

theorem linkStep_inv (hinv : LinkInv s) (hop : op.Legit s) : LinkInv (linkStep s op) := by
  cases op with
  | addInterface v bssType dummyP2p env => exact (addInterface_inv hinv v bssType dummyP2p env).1
  | removeInterface v env change => exact (removeInterface_inv hinv v env change).1
  | roleStart v =>
    have hp : PowerKeep s.wl (wl12xxAllocateLink s.wl v).2 := by
      unfold wl12xxAllocateLink
      split <;> exact .of_parts rfl rfl
    exact hinv.step (wl12xxAllocateLink_owned hinv.owned hop) (wl12xxAllocateLink_staKeep s.wl v) hp
  | roleStop v h =>
    exact hinv.step (wl12xxFreeLink_owned hinv.owned hop.1 hop.2.1 hop.2.2)
      (wl12xxFreeLink_staKeep s.wl v h) (wl12xxFreeLink_powerKeep s.wl v h)
  | staAdd v ret => exact (staAdd_step hinv hop.1 hop.2 ret).1
  | staRemove v h ret =>
    exact hinv.step (wl12xxStaRemove_owned hinv.owned hop h ret)
      (wl12xxStaRemove_staKeep s.wl v h ret) (wl12xxStaRemove_powerKeep s.wl v h ret)
  | handOver v skb extra off h gem =>
    refine handOver_inv hinv ?_
    cases v with
    | none => exact hop.1
    | some v =>
      intro hoff
      have hv : v ∈ s.wl.wlvifList := hop.1
      rw [(hinv.off hoff).1] at hv
      exact List.not_mem_nil hv
  | release i => exact fwRelease_inv hinv i
  | complete r => exact (wl1271TxCompletePacket_completed s.wl r).inv hinv hop
  | complete18xx b => exact (wl18xxTxCompletePacket_completed s.wl b).inv hinv hop
  | readStatus st => exact readStatus_inv hinv _
  | queueRecovery =>
    exact hinv.step (hinv.owned.of_keep (.queueRecovery s.wl)) (.queueRecovery s.wl)
      (TxKeep.queueRecovery s.wl).powerKeep
  | recoveryWork env => exact (recoveryWork_inv hinv env).1
  | stop => exact (stop_inv hinv hop).1

/-- What breaks the balance of a station is exactly a station that is put on a link with stale
counters. -/
theorem linkStep_counted_iff (hinv : LinkInv s) (hop : op.Legit s) (hcount : StaCounted s) :
    StaCounted (linkStep s op) ↔ op.Fresh s := by
  cases op with
  | addInterface v bssType dummyP2p env =>
    refine iff_of_true ((addInterface_inv hinv v bssType dummyP2p env).2 ?_) trivial
    split
    · rename_i hoff
      intro u hu
      have hu' : u ∈ s.wl.wlvifList := hu
      rw [(hinv.off hoff).1] at hu'
      exact absurd hu' List.not_mem_nil
    · exact hcount
  | removeInterface v env change =>
    exact iff_of_true ((removeInterface_inv hinv v env change).2.counted hcount) trivial
  | roleStart v => exact iff_of_true ((wl12xxAllocateLink_staKeep s.wl v).counted hcount) trivial
  | roleStop v h => exact iff_of_true ((wl12xxFreeLink_staKeep s.wl v h).counted hcount) trivial
  | staAdd v ret => exact (staAdd_step hinv hop.1 hop.2 ret).2 hcount
  | staRemove v h ret =>
    exact iff_of_true ((wl12xxStaRemove_staKeep s.wl v h ret).counted hcount) trivial
  | handOver v skb extra off h gem => exact iff_of_true (handOver_counted hinv hop hcount) trivial
  | release i => exact iff_of_true (fwRelease_counted i hcount) trivial
  | complete r =>
    exact iff_of_true ((wl1271TxCompletePacket_completed s.wl r).counted hcount) trivial
  | complete18xx b =>
    exact iff_of_true ((wl18xxTxCompletePacket_completed s.wl b).counted hcount) trivial
  | readStatus st => exact iff_of_true (readStatus_counted _ hcount) trivial
  | queueRecovery => exact iff_of_true ((StaKeep.queueRecovery s.wl).counted hcount) trivial
  | recoveryWork env => exact iff_of_true ((recoveryWork_inv hinv env).2 hcount) trivial
  | stop => exact iff_of_true (stop_inv hinv hop).2 trivial

end

/-! ## Runs -/

/-- The driver after probe; no firmware runs yet. -/
def linkStart (c : Conf) : LinkSys := ⟨wlcoreProbe c, fun _ => 0⟩

theorem linkStart_emptied (c : Conf) : Emptied (wlcoreProbe c) := ⟨rfl, rfl, rfl⟩

/-- After a status read, `allocated_pkts` of every station is the number of packets that the
running firmware holds for it. -/
def PktsExact (s : LinkSys) : Prop :=
  ∀ st, ∀ v ∈ s.wl.wlvifList, (s.wl.vifs v).bssType = .apBss →
    ∀ h, (s.wl.vifs v).staHlidMap h = true →
      (linkStep s (.readStatus st)).wl.allocatedPkts h =
        heldOn (linkStep s (.readStatus st)).wl h

theorem StaCounted.exact {s : LinkSys} (hcount : StaCounted s) (hinv : LinkInv s) : PktsExact s := by
  intro st v hv hap h hs
  have hstep := wlcoreFwStatus_status s.wl { st with txLnkFreePkts := s.released }
  have hup := hstep.updated h ⟨v, hv, hap, hs⟩
  have hsum := hstep.sum h
  have hold := hcount v hv hap h hs
  have hle := hinv.ids.heldOn_le h
  show (wlcoreFwStatus s.wl { st with txLnkFreePkts := s.released }).allocatedPkts h =
    heldOn (wlcoreFwStatus s.wl { st with txLnkFreePkts := s.released }) h
  have hheld : heldOn (wlcoreFwStatus s.wl { st with txLnkFreePkts := s.released }) h =
      heldOn s.wl h := by
    unfold heldOn
    rw [hstep.held]
  rw [hheld]
  have hprev : (wlcoreFwStatus s.wl { st with txLnkFreePkts := s.released }).prevFreedPkts h =
    s.released h := hup.prev
  have hlt := hup.allocated
  unfold Counted at hold
  omega

/-- In every run of the driver in which stations are only put on links whose counters account for
the packets of the link, the counters of all stations do so in every state, and a status read
makes `allocated_pkts` exact. -/
theorem linkPkts_run (c : Conf) (ops : List LinkOp)
    (hops : Along linkStep LinkOp.Legit (linkStart c) ops)
    (hfresh : Along linkStep LinkOp.Fresh (linkStart c) ops) (n : ℕ) :
    PktsExact (run linkStep (linkStart c) (ops.take n)) := by
  have hinv : ∀ s (op : LinkOp), LinkInv s → op.Legit s → LinkInv (linkStep s op) :=
    fun s op => linkStep_inv
  have hgood := (forall_take_iff_along hinv (fun s op => linkStep_counted_iff)
    ((linkStart_emptied c).inv _) ((linkStart_emptied c).counted _) hops).mpr hfresh
  exact (hgood n).exact (Along.induction hinv ((linkStart_emptied c).inv _) (hops.take n))

/-- A frame of the AP vif 0 to its station on link 1. -/
def stationFrame (n : ℕ) : Skb :=
  { id := n, data := [], queueMapping := 2, vif := some 0, sta := some 1 }

/-- An AP with one station, to which two packets go out; the firmware releases the first. -/
def stationOps : List LinkOp :=
  [.addInterface 0 .apBss false { attempts := [.boots 100] }, .staAdd 0 .ok,
   .handOver (some 0) (stationFrame 1) 0 0 1 false, .handOver (some 0) (stationFrame 2) 0 0 1 false,
   .release 0]

/-- A status block, apart from the release counters of the links. -/
def idleStatus : FwStatus :=
  { txReleasedPkts := fun _ => 0, txLnkFreePkts := fun _ => 0, totalReleasedBlks := 0, txTotal := 100
    linkPsBitmap := fun _ => false, staFound := fun _ => true }

theorem stationOps_legit :
    Along linkStep LinkOp.Legit (linkStart (chipConf .wl128x)) stationOps := by
  refine ⟨trivial, ⟨?_, ?_⟩, ⟨?_, ?_, ?_⟩, ⟨?_, ?_, ?_⟩, trivial, trivial⟩ <;> decide +kernel

theorem stationOps_fresh :
    Along linkStep LinkOp.Fresh (linkStart (chipConf .wl128x)) stationOps := by
  refine ⟨trivial, fun h hh => ?_, trivial, trivial, trivial, trivial⟩
  have hlink : (wl12xxStaAdd (linkStep (linkStart (chipConf .wl128x)) (.addInterface 0 .apBss false
      { attempts := [.boots 100] })).wl 0 .ok).1 = some 1 := by decide +kernel
  obtain rfl : (1 : Hlid) = h := Option.some.inj (hlink.symm.trans hh)
  unfold Counted
  decide +kernel

/-- One of the two packets is left in the firmware and in the counter. -/
theorem linkPkts_run_station :
    (linkStep (run linkStep (linkStart (chipConf .wl128x)) stationOps)
        (.readStatus idleStatus)).wl.allocatedPkts 1 = 1 ∧
      PktsExact (run linkStep (linkStart (chipConf .wl128x)) stationOps) :=
  ⟨by decide +kernel,
    linkPkts_run (chipConf .wl128x) stationOps stationOps_legit stationOps_fresh 5⟩

/-- The station leaves with a packet in the firmware, and the driver is stopped and started again;
a station is given the same link. -/
def staleOps : List LinkOp :=
  [.addInterface 0 .apBss false { attempts := [.boots 100] }, .staAdd 0 .ok,
   .handOver (some 0) (stationFrame 1) 0 0 1 false, .staRemove 0 1 .ok, .removeInterface 0 {} false,
   .stop, .addInterface 0 .apBss false { attempts := [.boots 100] }, .staAdd 0 .ok]

/-- The new station starts with a packet that the new firmware never got. -/
theorem linkPkts_stale_after_stop :
    Along linkStep LinkOp.Legit (linkStart (chipConf .wl128x)) staleOps ∧
      ((run linkStep (linkStart (chipConf .wl128x)) staleOps).wl.vifs 0).staHlidMap 1 = true ∧
      heldOn (linkStep (run linkStep (linkStart (chipConf .wl128x)) staleOps)
        (.readStatus idleStatus)).wl 1 = 0 ∧
      (linkStep (run linkStep (linkStart (chipConf .wl128x)) staleOps)
        (.readStatus idleStatus)).wl.allocatedPkts 1 = 1 := by
  refine ⟨⟨trivial, ⟨?_, ?_⟩, ⟨?_, ?_, ?_⟩, by simp only [LinkOp.Legit]; decide +kernel, trivial,
    by simp only [LinkOp.Legit]; decide +kernel, trivial, ⟨?_, ?_⟩, trivial⟩, ?_, ?_, ?_⟩ <;>
    decide +kernel

end TiWlan.Link