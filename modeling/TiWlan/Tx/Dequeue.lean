import TiWlan.Lib.RoundRobin
import TiWlan.Tx.Ledger

/-!
# What the scheduler serves

`wl1271_skb_dequeue` (`wlcore/tx.c`, lines 552–607) looks at the vifs after the last one that
was served, at the system link, at the vifs up to the last one, and at the dummy packet. A vif
(lines 519–550) looks at its links in a round robin of its own. Among the queues of a link
`wl1271_select_queue` (lines 468–494) takes the category with the fewest packets in the firmware,
where a category with `0xffffffff` packets would never be taken: `HasWork` are the links on which
it finds a queue.

Results:
* `wl1271SkbDequeue_cases`: what is returned and which cursors move, for every state. It is the
  first link with work of the first vif with work in the order `searchOrder`, unless the system
  link comes before it.
* `wl1271SkbDequeue_none`: if no frame is found then there is none on any link that the scheduler
  looks at, and the dummy packet is not pending.
-/

namespace TiWlan.Tx

open TiWlan.Lib TiWlan.Driver
open Function (update)

variable {h : Hlid} {vs : List VifId} {skb : Skb} {v : VifId} {wl wl' : Wl1271}

/-! ## One link -/

/-- A queue of the link can be selected: it has a frame, and the counter of its category is below
the initial minimum of `wl1271_select_queue`. -/
def HasWork (wl : Wl1271) (h : Hlid) : Prop :=
  ∃ q, wl.txQueue h q ≠ [] ∧ wl.txAllocatedPkts q < 0xffffffff

instance (wl : Wl1271) (h : Hlid) : Decidable (HasWork wl h) :=
  inferInstanceAs (Decidable (∃ q, wl.txQueue h q ≠ [] ∧ wl.txAllocatedPkts q < 0xffffffff))

theorem selectQueue_none {queues : Ac → List Skb} (h : wl1271SelectQueue wl queues = none)
    (q : Ac) :
    queues q = [] ∨ ¬ wl.txAllocatedPkts q < 0xffffffff := by
  unfold wl1271SelectQueue at h
  rw [show List.range 4 = [0, 1, 2, 3] from rfl] at h
  simp only [List.foldl_cons, List.foldl_nil, wl1271TxGetQueue] at h
  -- only the branch in which no turn picks a queue gives `none`
  split_ifs at h
  fin_cases q <;> simp_all <;> tauto

theorem selectQueue_some {queues : Ac → List Skb} {q : Ac}
    (h : wl1271SelectQueue wl queues = some q) :
    queues q ≠ [] ∧ wl.txAllocatedPkts q < 0xffffffff := by
  unfold wl1271SelectQueue at h
  rw [show List.range 4 = [0, 1, 2, 3] from rfl] at h
  simp only [List.foldl_cons, List.foldl_nil, wl1271TxGetQueue] at h
  split_ifs at h <;> cases h <;> simp_all <;> omega

/-- The first frame of the selected queue is taken off the link. -/
def LinkServes (wl : Wl1271) (h : Hlid) (skb : Skb) (wl' : Wl1271) : Prop :=
  ∃ q rest, wl1271SelectQueue wl (wl.txQueue h) = some q ∧ wl.txQueue h q = skb :: rest ∧
    wl' = { wl with toTxQueues := (wl.toTxQueues.setQueue h q rest).decCount skb.ac }

theorem LinkServes.hasWork (hs : LinkServes wl h skb wl') : HasWork wl h := by
  obtain ⟨q, rest, hsel, -, -⟩ := hs
  exact ⟨q, selectQueue_some hsel⟩

/-- A link with work is served, and one without is left as it is. -/
theorem wl12xxLnkSkbDequeue_cases (wl : Wl1271) (h : Hlid) :
    (¬ HasWork wl h ∧ wl12xxLnkSkbDequeue wl h = (none, wl)) ∨
      ∃ skb wl', LinkServes wl h skb wl' ∧ wl12xxLnkSkbDequeue wl h = (some skb, wl') := by
  unfold wl12xxLnkSkbDequeue
  cases hsel : wl1271SelectQueue wl (wl.txQueue h) with
  | none =>
    refine Or.inl ⟨?_, rfl⟩
    rintro ⟨q, hne, hlt⟩
    rcases selectQueue_none hsel q with hnil | hge
    · exact hne hnil
    · exact hge hlt
  | some q =>
    cases hq : wl.txQueue h q with
    | nil => exact absurd hq (selectQueue_some hsel).1
    | cons skb rest => exact Or.inr ⟨skb, _, ⟨q, rest, hsel, hq, rfl⟩, by simp [hq]⟩

/-! ## One vif -/

/-- What a search without result leaves alone. -/
structure Searched (wl wl' : Wl1271) : Prop where
  queues : wl'.toTxQueues = wl.toTxQueues
  accounting : wl'.toTxAccounting = wl.toTxAccounting
  lastWlvif : wl'.lastWlvif = wl.lastWlvif
  keep : TxKeep wl wl'

theorem Searched.refl (wl : Wl1271) : Searched wl wl := ⟨rfl, rfl, rfl, .refl wl⟩

theorem Searched.trans {wl'' : Wl1271} (h : Searched wl wl') (h' : Searched wl' wl'') :
    Searched wl wl'' :=
  ⟨h'.queues.trans h.queues, h'.accounting.trans h.accounting, h'.lastWlvif.trans h.lastWlvif,
    h.keep.trans h'.keep⟩

theorem Searched.hasWork (hs : Searched wl wl') : HasWork wl' h ↔ HasWork wl h := by
  unfold HasWork
  rw [hs.queues, hs.accounting]

/-- A search without result that looked at the vifs `vs` and moved at most their cursors. -/
structure Skipped (vs : List VifId) (wl wl' : Wl1271) : Prop extends Searched wl wl' where
  others : ∀ u, u ∉ vs → wl'.vifs u = wl.vifs u

/-- The links in the order in which a vif looks at them. -/
def linkOrder (wl : Wl1271) (v : VifId) : List Hlid :=
  allHlids.map fun i => (wl.vifs v).lastTxHlid + 1 + i

/-- The first of the links `hs` of the vif that has work is served. -/
structure VifServes (wl : Wl1271) (v : VifId) (hs : List Hlid) (skb : Skb) (h : Hlid)
    (wl' : Wl1271) : Prop where
  order : ∃ pre post, hs = pre ++ h :: post ∧
    ∀ k ∈ pre, (wl.vifs v).linksMap k = true → ¬ HasWork wl k
  link : (wl.vifs v).linksMap h = true
  served : ∃ wl₁, LinkServes wl h skb wl₁ ∧
    wl' = wl₁.setVif v fun wlvif => { wlvif with lastTxHlid := h }

theorem vifSkbDequeueLoop_cases (v : VifId) (hs : List Hlid) (wl : Wl1271) :
    ((∀ h ∈ hs, (wl.vifs v).linksMap h = true → ¬ HasWork wl h) ∧
      ∃ wl', Skipped [v] wl wl' ∧ vifSkbDequeueLoop v hs wl = (none, wl')) ∨
    ∃ skb h wl', VifServes wl v hs skb h wl' ∧
      vifSkbDequeueLoop v hs wl = (some (skb, h), wl') := by
  induction hs with
  | nil =>
    refine Or.inl ⟨by simp, wl.setVif v fun wlvif => { wlvif with lastTxHlid := 0 },
      ⟨⟨rfl, rfl, rfl, .setLastTxHlid _ _ _⟩, ?_⟩, rfl⟩
    intro u hu
    exact Function.update_of_ne (by simpa using hu) _ _
  | cons h₀ hs ih =>
    unfold vifSkbDequeueLoop
    -- a link that is passed over leaves the search as it was
    have hpass : ((wl.vifs v).linksMap h₀ = true → ¬ HasWork wl h₀) →
        ((∀ h ∈ h₀ :: hs, (wl.vifs v).linksMap h = true → ¬ HasWork wl h) ∧
          ∃ wl', Skipped [v] wl wl' ∧ vifSkbDequeueLoop v hs wl = (none, wl')) ∨
        ∃ skb h wl', VifServes wl v (h₀ :: hs) skb h wl' ∧
          vifSkbDequeueLoop v hs wl = (some (skb, h), wl') := by
      intro h₀idle
      rcases ih with ⟨hidle, hskip⟩ | ⟨skb, h, wl', hserve, heq⟩
      · refine Or.inl ⟨?_, hskip⟩
        rintro h (- | ⟨_, hmem⟩)
        · exact h₀idle
        · exact hidle h hmem
      · obtain ⟨pre, post, hsplit, hidle⟩ := hserve.order
        refine Or.inr ⟨skb, h, wl', ⟨⟨h₀ :: pre, post, by rw [hsplit]; rfl, ?_⟩, hserve.link,
          hserve.served⟩, heq⟩
        rintro k (- | ⟨_, hmem⟩)
        · exact h₀idle
        · exact hidle k hmem
    split_ifs with hlink
    · exact hpass fun hmap => by simp [hmap] at hlink
    · rcases wl12xxLnkSkbDequeue_cases wl h₀ with ⟨hidle, heq⟩ | ⟨skb, wl₁, hserve, heq⟩
      · rw [heq]
        exact hpass fun _ => hidle
      · rw [heq]
        exact Or.inr ⟨skb, h₀, _, ⟨⟨[], hs, rfl, by simp⟩, by simpa using hlink, wl₁, hserve, rfl⟩,
          rfl⟩

/-- Round robin from any link visits all of them. -/
theorem mem_allHlids_from (start h : Hlid) : h ∈ allHlids.map fun i => start + i := by
  refine List.mem_map.mpr ⟨h - start, List.mem_finRange _, ?_⟩
  rw [add_sub_cancel]

/-- A link of the vif has work. -/
def VifHasWork (wl : Wl1271) (v : VifId) : Prop :=
  ∃ h, (wl.vifs v).linksMap h = true ∧ HasWork wl h

instance (wl : Wl1271) (v : VifId) : Decidable (VifHasWork wl v) :=
  inferInstanceAs (Decidable (∃ h, (wl.vifs v).linksMap h = true ∧ HasWork wl h))

theorem Searched.vifHasWork (hs : Searched wl wl') : VifHasWork wl' v ↔ VifHasWork wl v := by
  unfold VifHasWork
  simp only [hs.hasWork, hs.keep.vifLinksMap]

theorem VifServes.vifHasWork {hs : List Hlid} (hserve : VifServes wl v hs skb h wl') :
    VifHasWork wl v := by
  obtain ⟨wl₁, hlink, -⟩ := hserve.served
  exact ⟨h, hserve.link, hlink.hasWork⟩

theorem wl12xxVifSkbDequeue_cases (wl : Wl1271) (v : VifId) :
    (¬ VifHasWork wl v ∧ ∃ wl', Skipped [v] wl wl' ∧ wl12xxVifSkbDequeue wl v = (none, wl')) ∨
    ∃ skb h wl', VifServes wl v (linkOrder wl v) skb h wl' ∧
      wl12xxVifSkbDequeue wl v = (some (skb, h), wl') := by
  rcases vifSkbDequeueLoop_cases v (linkOrder wl v) wl with ⟨hidle, hskip⟩ | hserve
  · refine Or.inl ⟨?_, hskip⟩
    rintro ⟨h, hmap, hwork⟩
    exact hidle h (mem_allHlids_from _ h) hmap hwork
  · exact Or.inr hserve

/-! ## All vifs -/

theorem Skipped.append {us : List VifId} {wl'' : Wl1271} (h : Skipped vs wl wl')
    (h' : Skipped us wl' wl'') : Skipped (vs ++ us) wl wl'' := by
  refine ⟨h.toSearched.trans h'.toSearched, ?_⟩
  intro u hu
  rw [List.mem_append, not_or] at hu
  rw [h'.others u hu.2, h.others u hu.1]

/-- The first of the vifs `vs` with work is served, after those in front of it were skipped. -/
structure PassServes (wl : Wl1271) (vs pre : List VifId) (v : VifId) (skb : Skb) (h : Hlid)
    (wl' : Wl1271) : Prop where
  order : ∃ post, vs = pre ++ v :: post
  idle : ∀ u ∈ pre, ¬ VifHasWork wl u
  served : ∃ wl₁ wl₂, Skipped pre wl wl₁ ∧ VifServes wl₁ v (linkOrder wl₁ v) skb h wl₂ ∧
    wl' = { wl₂ with lastWlvif := some v }

theorem vifPass_cases (vs : List VifId) (wl : Wl1271) :
    ((∀ v ∈ vs, ¬ VifHasWork wl v) ∧
      ∃ wl', Skipped vs wl wl' ∧ vifPass false vs wl = (none, wl')) ∨
    ∃ pre v skb h wl', PassServes wl vs pre v skb h wl' ∧
      vifPass false vs wl = (some (skb, h), wl') := by
  induction vs generalizing wl with
  | nil => exact Or.inl ⟨by simp, wl, ⟨.refl wl, fun _ _ => rfl⟩, rfl⟩
  | cons v₀ vs ih =>
    unfold vifPass
    rcases wl12xxVifSkbDequeue_cases wl v₀ with ⟨hidle₀, wl₁, hskip₀, heq⟩ | ⟨skb, h, wl₁, hs, heq⟩
    · simp only [heq, Bool.false_eq_true, false_and, if_false]
      rcases ih wl₁ with ⟨hidle, wl', hskip, heq'⟩ | ⟨pre, v, skb, h, wl', hpass, heq'⟩
      · refine Or.inl ⟨?_, wl', hskip₀.append hskip, heq'⟩
        rintro v (- | ⟨_, hmem⟩)
        · exact hidle₀
        · exact fun hwork => hidle v hmem (hskip₀.vifHasWork.mpr hwork)
      · obtain ⟨post, hsplit⟩ := hpass.order
        obtain ⟨wl₂, wl₃, hskip, hserve, rfl⟩ := hpass.served
        refine Or.inr ⟨v₀ :: pre, v, skb, h, _, ⟨⟨post, by rw [hsplit]; rfl⟩, ?_,
          wl₂, wl₃, hskip₀.append hskip, hserve, rfl⟩, heq'⟩
        rintro u (- | ⟨_, hmem⟩)
        · exact hidle₀
        · exact fun hwork => hpass.idle u hmem (hskip₀.vifHasWork.mpr hwork)
    · rw [heq]
      exact Or.inr ⟨[], v₀, skb, h, _, ⟨⟨vs, rfl⟩, by simp, wl, wl₁,
        ⟨.refl wl, fun _ _ => rfl⟩, hs, rfl⟩, rfl⟩

/-- The vifs up to the last one that was served, or all of them. -/
def vifsUpToLast (wl : Wl1271) : List VifId :=
  match wl.lastWlvif with
  | none => wl.wlvifList
  | some l => upTo l wl.wlvifList

/-- The pass that stops at the last vif is a pass over the vifs up to it. -/
theorem vifPass_true (vs : List VifId) (wl : Wl1271) :
    vifPass true vs wl =
      vifPass false (match wl.lastWlvif with
        | none => vs
        | some l => upTo l vs) wl := by
  induction vs generalizing wl with
  | nil =>
    cases wl.lastWlvif <;> rfl
  | cons v vs ih =>
    rcases wl12xxVifSkbDequeue_cases wl v with ⟨-, wl₁, hskip, heq⟩ | ⟨skb, h, wl₁, -, heq⟩
    · have hlast := hskip.lastWlvif
      cases hl : wl.lastWlvif with
      | none =>
        rw [hl] at hlast
        have ih' := ih wl₁
        simp only [hlast] at ih'
        simp [vifPass, heq, hlast, ih']
      | some l =>
        rw [hl] at hlast
        have ih' := ih wl₁
        simp only [hlast] at ih'
        by_cases hv : v = l
        · subst hv
          simp [vifPass, heq, hlast, upTo]
        · have hne : l ≠ v := Ne.symm hv
          simp [vifPass, heq, hlast, upTo, hv, hne, ih']
    · cases hl : wl.lastWlvif with
      | none => simp [vifPass, heq]
      | some l =>
        by_cases hv : v = l
        · subst hv
          simp [vifPass, heq, upTo]
        · simp [vifPass, heq, upTo, hv]

/-! ## The whole search -/

/-- The vifs in the order in which they are looked at. -/
def searchOrder (wl : Wl1271) : List VifId := vifsAfterLast wl ++ vifsUpToLast wl

/-- What `wl1271_skb_dequeue` does. -/
inductive DequeueCase (wl : Wl1271) : Option (Skb × Hlid) × Wl1271 → Prop
  /-- the first vif with work is served; the system link is looked at after the first pass -/
  | vif {pre : List VifId} {v : VifId} {skb : Skb} {h : Hlid} {wl' : Wl1271}
      (hserve : PassServes wl (searchOrder wl) pre v skb h wl')
      (hsys : v ∈ vifsAfterLast wl ∨ ¬ HasWork wl systemHlid) :
      DequeueCase wl (some (skb, h), wl')
  | system {skb : Skb} {wl₁ wl' : Wl1271} (hidle : ∀ u ∈ vifsAfterLast wl, ¬ VifHasWork wl u)
      (hskip : Skipped (vifsAfterLast wl) wl wl₁) (hserve : LinkServes wl₁ systemHlid skb wl') :
      DequeueCase wl (some (skb, systemHlid), wl')
  | idle {wl₁ : Wl1271} (hidle : ∀ u ∈ searchOrder wl, ¬ VifHasWork wl u)
      (hsys : ¬ HasWork wl systemHlid) (hskip : Skipped (searchOrder wl) wl wl₁) :
      DequeueCase wl (dummySkbDequeue wl₁)

theorem wl1271SkbDequeue_cases (wl : Wl1271) : DequeueCase wl (wl1271SkbDequeue wl) := by
  unfold wl1271SkbDequeue
  rcases vifPass_cases (vifsAfterLast wl) wl with ⟨hidle, wl₁, hskip, heq⟩ |
    ⟨pre, v, skb, h, wl', hserve, heq⟩
  · simp only [heq]
    rcases wl12xxLnkSkbDequeue_cases wl₁ systemHlid with ⟨hsys, heq₁⟩ | ⟨skb, wl', hserve, heq₁⟩
    · have hsys' : ¬ HasWork wl systemHlid := fun hwork => hsys (hskip.hasWork.mpr hwork)
      have hupto : vifsUpToLast wl₁ = vifsUpToLast wl := by
        unfold vifsUpToLast
        rw [hskip.lastWlvif, hskip.keep.wlvifList]
      have hpass : vifPass true wl₁.wlvifList wl₁ = vifPass false (vifsUpToLast wl) wl₁ := by
        rw [vifPass_true, ← hupto]
        rfl
      simp only [heq₁, hpass]
      rcases vifPass_cases (vifsUpToLast wl) wl₁ with ⟨hidle₂, wl₂, hskip₂, heq₂⟩ |
        ⟨pre, v, skb, h, wl', hserve, heq₂⟩
      · simp only [heq₂]
        refine .idle ?_ hsys' (hskip.append hskip₂)
        intro u hu hwork
        rcases List.mem_append.mp hu with hu | hu
        · exact hidle u hu hwork
        · exact hidle₂ u hu (hskip.vifHasWork.mpr hwork)
      · simp only [heq₂]
        obtain ⟨post, hsplit⟩ := hserve.order
        obtain ⟨wl₂, wl₃, hskip₂, hvif, rfl⟩ := hserve.served
        have hboth : PassServes wl (searchOrder wl) (vifsAfterLast wl ++ pre) v skb h
            { wl₃ with lastWlvif := some v } := by
          refine ⟨⟨post, ?_⟩, ?_, wl₂, wl₃, hskip.append hskip₂, hvif, rfl⟩
          · rw [searchOrder, hsplit, List.append_assoc]
          · intro u hu hwork
            rcases List.mem_append.mp hu with hu | hu
            · exact hidle u hu hwork
            · exact hserve.idle u hu (hskip.vifHasWork.mpr hwork)
        exact .vif hboth (Or.inr hsys')
    · simp only [heq₁]
      exact .system hidle hskip hserve
  · simp only [heq]
    obtain ⟨post, hsplit⟩ := hserve.order
    have hfirst : PassServes wl (searchOrder wl) pre v skb h wl' := by
      refine ⟨⟨post ++ vifsUpToLast wl, ?_⟩, hserve.idle, hserve.served⟩
      rw [searchOrder, hsplit, List.append_assoc]
      rfl
    have hmem : v ∈ vifsAfterLast wl := by
      rw [hsplit]
      simp
    exact .vif hfirst (Or.inl hmem)

/-- Both passes together look at every vif. -/
theorem mem_searchOrder (hv : v ∈ wl.wlvifList) : v ∈ searchOrder wl := by
  unfold searchOrder vifsAfterLast vifsUpToLast
  cases wl.lastWlvif with
  | none => simpa using hv
  | some l => exact mem_rotation hv

theorem mem_wlvifList_of_searchOrder (hv : v ∈ searchOrder wl) : v ∈ wl.wlvifList := by
  unfold searchOrder vifsAfterLast vifsUpToLast at hv
  cases hl : wl.lastWlvif with
  | none =>
    rw [hl] at hv
    simpa using hv
  | some l =>
    rw [hl] at hv
    exact mem_of_mem_rotation hv

theorem PassServes.mem_order {pre : List VifId} (hserve : PassServes wl vs pre v skb h wl') :
    v ∈ vs := by
  obtain ⟨post, hsplit⟩ := hserve.order
  rw [hsplit]
  simp

theorem PassServes.link {pre : List VifId} (hserve : PassServes wl vs pre v skb h wl') :
    (wl.vifs v).linksMap h = true := by
  obtain ⟨wl₁, wl₂, hskip, hvif, -⟩ := hserve.served
  rw [← hskip.keep.vifLinksMap v]
  exact hvif.link

/-- The order of the search right after `v` was served. -/
theorem searchOrder_last (hlast : wl.lastWlvif = some v) :
    searchOrder wl = rotation v wl.wlvifList := by
  unfold searchOrder vifsAfterLast vifsUpToLast
  rw [hlast]
  rfl

/-! ## What is taken -/

/-- No link that the scheduler looks at has work. -/
def AllIdle (wl : Wl1271) : Prop := ∀ h, Served wl h → ¬ HasWork wl h

/-- What `wl1271_skb_dequeue` returns, and what it takes off the queues. -/
inductive Taken (wl : Wl1271) : Option (Skb × Hlid) × Wl1271 → Prop
  | frame {skb : Skb} {h : Hlid} {q : Ac} {rest : List Skb} {wl' : Wl1271} (hserved : Served wl h)
      (hwork : HasWork wl h) (hqueue : wl.txQueue h q = skb :: rest)
      (htaken : wl'.toTxQueues = (wl.toTxQueues.setQueue h q rest).decCount skb.ac) :
      Taken wl (some (skb, h), wl')
  | dummy {wl' : Wl1271} (hidle : AllIdle wl) (hpending : wl.dummyPacketPending = true)
      (htaken : wl'.toTxQueues =
        { wl.toTxQueues with dummyPacketPending := false }.decCount wl.dummyPacket.ac) :
      Taken wl (some (wl.dummyPacket, systemHlid), wl')
  | none {wl' : Wl1271} (hidle : AllIdle wl) (hpending : wl.dummyPacketPending = false)
      (hsame : Searched wl wl') : Taken wl (none, wl')

theorem LinkServes.taken {wl₁ wl₂ : Wl1271} (hs : LinkServes wl₁ h skb wl₂)
    (hsame : Searched wl wl₁) (hserved : Served wl h) (heq : wl'.toTxQueues = wl₂.toTxQueues) :
    Taken wl (some (skb, h), wl') := by
  have hwork : HasWork wl h := hsame.hasWork.mp hs.hasWork
  obtain ⟨q, rest, -, hqueue, rfl⟩ := hs
  rw [hsame.queues] at hqueue heq
  exact .frame hserved hwork hqueue heq

theorem wl1271SkbDequeue_taken (wl : Wl1271) : Taken wl (wl1271SkbDequeue wl) := by
  have hcase := wl1271SkbDequeue_cases wl
  generalize wl1271SkbDequeue wl = r at hcase
  cases hcase with
  | @vif pre v skb h wl' hserve hsys =>
    have hserved : Served wl h :=
      Or.inr ⟨v, mem_wlvifList_of_searchOrder hserve.mem_order, hserve.link⟩
    obtain ⟨wl₁, wl₂, hskip, hvif, rfl⟩ := hserve.served
    obtain ⟨wl₃, hlink, rfl⟩ := hvif.served
    exact hlink.taken hskip.toSearched hserved rfl
  | system hidle hskip hserve => exact hserve.taken hskip.toSearched (Or.inl rfl) rfl
  | @idle wl₁ hidle hsys hskip =>
    have hall : AllIdle wl := by
      rintro h (rfl | ⟨v, hv, hmap⟩)
      · exact hsys
      · intro hwork
        exact hidle v (mem_searchOrder hv) ⟨h, hmap, hwork⟩
    have hdummy : wl₁.dummyPacket = wl.dummyPacket := congrArg Conf.dummyPacket hskip.keep.conf
    unfold dummySkbDequeue
    split_ifs with hpending
    · rw [hskip.queues] at hpending
      rw [hdummy, hskip.queues]
      exact .dummy hall hpending rfl
    · rw [hskip.queues] at hpending
      exact .none hall (by simpa using hpending) hskip.toSearched

/-! ## Who owns a link -/

/-- The vifs are listed once, a link belongs to at most one of them and the system link to
none. -/
structure LinksOwned (wl : Wl1271) : Prop where
  listed : wl.wlvifList.Nodup
  owner : ∀ u ∈ wl.wlvifList, ∀ v ∈ wl.wlvifList, ∀ h,
    (wl.vifs u).linksMap h = true → (wl.vifs v).linksMap h = true → u = v
  system : ∀ v ∈ wl.wlvifList, (wl.vifs v).linksMap systemHlid = false

/-! ## No frame is found -/

/-- The counters of packets in the firmware are below the initial minimum of
`wl1271_select_queue`. -/
def Selectable (a : TxAccounting) : Prop := ∀ q, a.txAllocatedPkts q < 0xffffffff

/-- A link without frames. -/
def LinkIdle (t : TxQueues) (h : Hlid) : Prop := ∀ q, t.txQueue h q = []

theorem linkIdle_of_not_hasWork (hp : Selectable wl.toTxAccounting) (hwork : ¬ HasWork wl h) :
    LinkIdle wl.toTxQueues h := by
  intro q
  by_contra hne
  exact hwork ⟨q, hne, hp q⟩

/-- With counters that can be selected, links without work are links without frames. -/
theorem allIdle_iff (hp : Selectable wl.toTxAccounting) :
    AllIdle wl ↔ ∀ h, Served wl h → LinkIdle wl.toTxQueues h := by
  constructor
  · intro hidle h hs
    exact linkIdle_of_not_hasWork hp (hidle h hs)
  · rintro hidle h hs ⟨q, hne, -⟩
    exact hne (hidle h hs q)

/-- If `wl1271_skb_dequeue` finds nothing, no link that it looks at has a frame and the dummy
packet is not pending. -/
theorem wl1271SkbDequeue_none (hp : Selectable wl.toTxAccounting)
    (heq : wl1271SkbDequeue wl = (none, wl')) :
    Searched wl wl' ∧ (∀ h, Served wl h → LinkIdle wl.toTxQueues h) ∧
      wl.dummyPacketPending = false := by
  have htaken := wl1271SkbDequeue_taken wl
  rw [heq] at htaken
  cases htaken with
  | none hidle hpending hsame => exact ⟨hsame, (allIdle_iff hp).mp hidle, hpending⟩

/-! ## What every search leaves alone -/

/-- What a search for the next frame leaves alone, whether or not it finds one. -/
structure Chosen (wl wl' : Wl1271) : Prop where
  oops : wl'.oops = wl.oops
  accounting : wl'.toTxAccounting = wl.toTxAccounting
  stop : wl'.toTxStop = wl.toTxStop

theorem Chosen.refl (wl : Wl1271) : Chosen wl wl := ⟨rfl, rfl, rfl⟩

theorem Chosen.trans {wl'' : Wl1271} (h : Chosen wl wl') (h' : Chosen wl' wl'') : Chosen wl wl'' :=
  ⟨h'.oops.trans h.oops, h'.accounting.trans h.accounting, h'.stop.trans h.stop⟩

theorem wl12xxLnkSkbDequeue_chosen (wl : Wl1271) (h : Hlid) :
    Chosen wl (wl12xxLnkSkbDequeue wl h).2 := by
  unfold wl12xxLnkSkbDequeue
  split
  · exact .refl wl
  · split
    · exact .refl wl
    · exact ⟨rfl, rfl, rfl⟩

theorem vifSkbDequeueLoop_chosen (v : VifId) (hs : List Hlid) (wl : Wl1271) :
    Chosen wl (vifSkbDequeueLoop v hs wl).2 := by
  induction hs generalizing wl with
  | nil => exact ⟨rfl, rfl, rfl⟩
  | cons h hs ih =>
    have hlnk := wl12xxLnkSkbDequeue_chosen wl h
    unfold vifSkbDequeueLoop
    split
    · exact ih wl
    · split <;> rename_i heq <;> rw [heq] at hlnk
      · exact hlnk.trans (ih _)
      · exact hlnk.trans ⟨rfl, rfl, rfl⟩

theorem vifPass_chosen (b : Bool) (vs : List VifId) (wl : Wl1271) :
    Chosen wl (vifPass b vs wl).2 := by
  induction vs generalizing wl with
  | nil => exact .refl wl
  | cons v vs ih =>
    have hvif : Chosen wl (wl12xxVifSkbDequeue wl v).2 := vifSkbDequeueLoop_chosen _ _ _
    unfold vifPass
    split <;> rename_i heq <;> rw [heq] at hvif
    · exact hvif.trans ⟨rfl, rfl, rfl⟩
    · split
      · exact hvif
      · exact hvif.trans (ih _)

theorem wl1271SkbDequeue_chosen (wl : Wl1271) : Chosen wl (wl1271SkbDequeue wl).2 := by
  have hfirst := vifPass_chosen false (vifsAfterLast wl) wl
  unfold wl1271SkbDequeue
  split <;> rename_i wl₁ heq <;> rw [heq] at hfirst
  · exact hfirst
  · have hsys := wl12xxLnkSkbDequeue_chosen wl₁ systemHlid
    split <;> rename_i wl₂ heq₂ <;> rw [heq₂] at hsys
    · exact hfirst.trans hsys
    · have hsecond := vifPass_chosen true wl₂.wlvifList wl₂
      split <;> rename_i wl₃ heq₃ <;> rw [heq₃] at hsecond
      · exact hfirst.trans (hsys.trans hsecond)
      · refine hfirst.trans (hsys.trans (hsecond.trans ?_))
        unfold dummySkbDequeue
        split
        · exact ⟨rfl, rfl, rfl⟩
        · exact .refl _

end TiWlan.Tx
