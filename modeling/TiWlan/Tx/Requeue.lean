import TiWlan.Tx.Admission
import TiWlan.Tx.Dequeue

/-!
# Is a frame that was put back the next one?

`wl1271_skb_queue_head` (`wlcore/tx.c`, lines 609–628) puts a frame that did not fit back to the
head of its queue and sets the cursor of its vif in front of its link, to "make sure we dequeue the
same packet next time". The cursor over the vifs, `last_wlvif`, is left alone: it says that the vif
of the frame was just served, so that every other vif and the system link come first.

Results:
* `requeued_next_iff`: the next frame is the one that was put back exactly when it is one of the
  system link, or no other vif and not the system link has work.
* `requeued_not_next`: two vifs with a frame each, and the other one comes next.
-/

namespace TiWlan.Tx

open TiWlan.Lib TiWlan.Driver
open Function (update update_of_ne update_self)

variable {h : Hlid} {p : Skb} {v : VifId} {wl wl' : Wl1271}

/-- The links are as `op_tx` finds them, and a frame is queued in its category. -/
structure Wired (wl : Wl1271) : Prop extends LinksOwned wl where
  category : ∀ h q, ∀ skb ∈ wl.txQueue h q, skb.ac = q

/-! ## Putting a frame back -/

/-- The queues, the counters and the links are as they were, and the vif starts with link `h`. -/
structure PutBack (wl : Wl1271) (v : VifId) (h : Hlid) (wl' : Wl1271) : Prop where
  queues : wl'.txQueue = wl.txQueue
  counters : wl'.txAllocatedPkts = wl.txAllocatedPkts
  list : wl'.wlvifList = wl.wlvifList
  links : ∀ u, (wl'.vifs u).linksMap = (wl.vifs u).linksMap
  cursor : (wl'.vifs v).lastTxHlid = h + 11

/-- A frame was taken off link `h`, and nothing else happened to the queues and the links. -/
structure TakenOff (wl : Wl1271) (h : Hlid) (p : Skb) (wl' : Wl1271) : Prop where
  selected : ∃ q rest, wl1271SelectQueue wl (wl.txQueue h) = some q ∧ wl.txQueue h q = p :: rest ∧
    wl'.txQueue = update wl.txQueue h (update (wl.txQueue h) q rest)
  counters : wl'.txAllocatedPkts = wl.txAllocatedPkts
  keep : TxKeep wl wl'

/-- Selection depends on the queues of the link and on the counters. -/
theorem selectQueue_congr (h : wl'.txAllocatedPkts = wl.txAllocatedPkts) (queues : Ac → List Skb) :
    wl1271SelectQueue wl' queues = wl1271SelectQueue wl queues := by
  unfold wl1271SelectQueue
  rw [h]

theorem TakenOff.of_serves {wl₁ wl₂ : Wl1271} (hsame : Searched wl wl₁)
    (hserve : LinkServes wl₁ h p wl₂) : TakenOff wl h p wl₂ := by
  have hcount : wl₁.txAllocatedPkts = wl.txAllocatedPkts := by rw [hsame.accounting]
  obtain ⟨q, rest, hsel, hhead, rfl⟩ := hserve
  rw [selectQueue_congr hcount, hsame.queues] at hsel
  rw [hsame.queues] at hhead
  refine ⟨⟨q, rest, hsel, hhead, ?_⟩, hcount, hsame.keep.trans (.of_parts rfl rfl rfl rfl rfl)⟩
  show update wl₁.txQueue h (update (wl₁.txQueue h) q rest) = _
  rw [hsame.queues]

theorem TakenOff.putBack (ht : TakenOff wl h p wl') (hcat : ∀ q, ∀ skb ∈ wl.txQueue h q, skb.ac = q)
    (hdummy : wl12xxIsDummyPacket wl p = false) :
    PutBack wl v h (wl1271SkbQueueHead wl' (some v) p h) := by
  obtain ⟨q, rest, -, hhead, hqueues⟩ := ht.selected
  have hac : p.ac = q := hcat q p (by rw [hhead]; simp)
  have hdummy' : ¬ wl12xxIsDummyPacket wl' p = true := by
    unfold wl12xxIsDummyPacket at hdummy ⊢
    rw [ht.keep.conf]
    simpa using hdummy
  unfold wl1271SkbQueueHead
  rw [if_neg hdummy']
  constructor
  · -- the frame is back where it was
    show update wl'.txQueue h (update (wl'.txQueue h) p.ac (p :: wl'.txQueue h p.ac)) = _
    rw [hqueues, hac]
    simp [← hhead]
  · exact ht.counters
  · exact ht.keep.wlvifList
  · intro u
    rw [← ht.keep.vifLinksMap u]
    show (update wl'.vifs v _ u).linksMap = _
    by_cases hu : u = v
    · subst hu
      rw [update_self]
      rfl
    · rw [update_of_ne hu]
  · show (update wl'.vifs v _ v).lastTxHlid = _
    rw [update_self]

section PutBack

variable {wl wl' : Wl1271} {v : VifId} {h : Hlid}

theorem PutBack.hasWork (hb : PutBack wl v h wl') {k : Hlid} : HasWork wl' k ↔ HasWork wl k := by
  unfold HasWork
  rw [hb.queues, hb.counters]

theorem PutBack.vifHasWork (hb : PutBack wl v h wl') {u : VifId} :
    VifHasWork wl' u ↔ VifHasWork wl u := by
  unfold VifHasWork
  simp only [hb.hasWork, hb.links]

/-- Link `h` gives the same frame again. -/
theorem PutBack.same_frame (hb : PutBack wl v h wl') {p' : Skb} {wl₁ wl₂ wl₃ : Wl1271}
    (ht : TakenOff wl h p wl₁) (hsame : Searched wl' wl₂) (hserve : LinkServes wl₂ h p' wl₃) :
    p' = p := by
  have hcount : wl₂.txAllocatedPkts = wl.txAllocatedPkts := by
    rw [hsame.accounting, hb.counters]
  obtain ⟨q, rest, hsel, hhead, -⟩ := ht.selected
  obtain ⟨q', rest', hsel', hhead', -⟩ := hserve
  rw [selectQueue_congr hcount, hsame.queues, hb.queues, hsel] at hsel'
  obtain rfl : q = q' := Option.some.inj hsel'
  rw [hsame.queues, hb.queues, hhead] at hhead'
  exact (List.cons.inj hhead').1.symm

/-- The vif looks at link `h` first. -/
theorem PutBack.linkOrder (hb : PutBack wl v h wl') : ∃ rest, linkOrder wl' v = h :: rest := by
  have hfirst : ∀ k : Hlid, k + 11 + 1 + 0 = k := by decide
  refine ⟨allHlids.tail.map fun i => h + 11 + 1 + i, ?_⟩
  rw [Tx.linkOrder, hb.cursor, show allHlids = 0 :: allHlids.tail from rfl, List.map_cons, hfirst]
  rfl

end PutBack

/-! ## The next frame -/

theorem PassServes.takenOff {pre : List VifId} {skb : Skb}
    (hserve : PassServes wl (searchOrder wl) pre v skb h wl') : TakenOff wl h skb wl' := by
  have hv := mem_wlvifList_of_searchOrder hserve.mem_order
  obtain ⟨wl₁, wl₂, hskip, hvif, rfl⟩ := hserve.served
  obtain ⟨wl₃, hlink, rfl⟩ := hvif.served
  have ht := TakenOff.of_serves hskip.toSearched hlink
  have hkeep := ht.keep.trans (.setLastTxHlid wl₃ v h)
  exact ⟨ht.selected, ht.counters, hkeep.trans (.setLastWlvif (hkeep.wlvifList ▸ hv))⟩

section Next

variable {wl wl₁ wl₂ : Wl1271} {v : VifId} {h : Hlid} {p : Skb}

/-- When the frame comes again, the search passed all other vifs and the system link. -/
theorem others_idle_of_next (hw : Wired wl) (hb : PutBack wl v h wl₂)
    (hlast : wl₂.lastWlvif = some v) (hv : v ∈ wl.wlvifList)
    (hmap : (wl.vifs v).linksMap h = true)
    (hnext : (wl1271SkbDequeue wl₂).1 = some (p, h)) :
    (∀ u ∈ wl.wlvifList, u ≠ v → ¬ VifHasWork wl u) ∧ ¬ HasWork wl systemHlid := by
  have hsystem : h ≠ systemHlid := by
    rintro rfl
    rw [hw.system v hv] at hmap
    cases hmap
  have hcase := wl1271SkbDequeue_cases wl₂
  generalize wl1271SkbDequeue wl₂ = r at hnext hcase
  cases hcase with
  | @vif pre u skb k wl' hserve hsys =>
    obtain ⟨rfl, rfl⟩ := Prod.mk.inj (Option.some.inj hnext)
    have hu : u ∈ wl.wlvifList := hb.list ▸ mem_wlvifList_of_searchOrder hserve.mem_order
    have huv : u = v := hw.owner u hu v hv k (hb.links u ▸ hserve.link) hmap
    subst huv
    obtain ⟨post, hsplit⟩ := hserve.order
    rw [searchOrder_last hlast, hb.list] at hsplit
    constructor
    · intro w hw' hne hwork
      have hnodup := (rotation_perm hw.listed hu).nodup_iff.mpr hw.listed
      have hahead := ahead_rotation_self hw.listed hu hw' hne
      rw [hsplit] at hnodup hahead
      exact hserve.idle w (mem_of_ahead hnodup hne hahead) (hb.vifHasWork.mpr hwork)
    · rcases hsys with hafter | hsys
      · unfold vifsAfterLast at hafter
        rw [hlast, hb.list] at hafter
        exact absurd hafter (notMem_after_self hw.listed hu)
      · exact fun hwork => hsys (hb.hasWork.mpr hwork)
  | system =>
    exact absurd (Prod.mk.inj (Option.some.inj hnext)).2.symm hsystem
  | @idle wl' =>
    unfold dummySkbDequeue at hnext
    split_ifs at hnext
    exact absurd (Prod.mk.inj (Option.some.inj hnext)).2.symm hsystem

/-- When nothing else has work, the search comes to the vif, its link and the frame. -/
theorem next_of_others_idle (hb : PutBack wl v h wl₂) (ht : TakenOff wl h p wl₁)
    (hv : v ∈ wl.wlvifList) (hmap : (wl.vifs v).linksMap h = true)
    (hidle : ∀ u ∈ wl.wlvifList, u ≠ v → ¬ VifHasWork wl u)
    (hsystem : ¬ HasWork wl systemHlid) : (wl1271SkbDequeue wl₂).1 = some (p, h) := by
  have hwork : HasWork wl h := by
    obtain ⟨q, rest, hsel, -, -⟩ := ht.selected
    exact ⟨q, selectQueue_some hsel⟩
  have hvwork : VifHasWork wl₂ v := hb.vifHasWork.mpr ⟨h, hmap, hwork⟩
  have hcase := wl1271SkbDequeue_cases wl₂
  generalize wl1271SkbDequeue wl₂ = r at hcase ⊢
  cases hcase with
  | @vif pre u skb k wl' hserve =>
    obtain ⟨wl₃, wl₄, hskip, hvif, -⟩ := hserve.served
    -- the vif that is served has work, so it is `v`
    have huv : u = v := by
      by_contra hne
      have hu : u ∈ wl.wlvifList := hb.list ▸ mem_wlvifList_of_searchOrder hserve.mem_order
      exact hidle u hu hne (hb.vifHasWork.mp (hskip.vifHasWork.mp hvif.vifHasWork))
    subst huv
    -- its cursor was not moved on the way, so link `h` is the first one
    have hpre : u ∉ pre := fun hmem => hserve.idle u hmem hvwork
    obtain ⟨rest, hrest⟩ := hb.linkOrder
    have hsame : linkOrder wl₃ u = h :: rest := by
      rw [← hrest, linkOrder, hskip.others u hpre]
      rfl
    obtain ⟨hs, post, hsplit, hbefore⟩ := hvif.order
    rw [hsame] at hsplit
    obtain ⟨wl₅, hlink, -⟩ := hvif.served
    cases hs with
    | nil =>
      obtain ⟨rfl, -⟩ := List.cons.inj hsplit
      rw [hb.same_frame ht hskip.toSearched hlink]
    | cons k₀ hs =>
      obtain ⟨rfl, -⟩ := List.cons.inj hsplit
      refine absurd (hskip.hasWork.mpr (hb.hasWork.mpr hwork)) (hbefore h List.mem_cons_self ?_)
      rw [hskip.keep.vifLinksMap, hb.links]
      exact hmap
  | @system skb wl₃ wl' _ hskip hserve =>
    exact absurd (hb.hasWork.mp (hskip.hasWork.mp hserve.hasWork)) hsystem
  | @idle wl' hnone =>
    exact absurd hvwork (hnone v (mem_searchOrder (hb.list ▸ hv)))

/-- A frame of the system link comes again, since the vifs in front of it are still idle. -/
theorem next_of_system (hb : PutBack wl v systemHlid wl₂) (ht : TakenOff wl systemHlid p wl₁)
    (hafter : vifsAfterLast wl₂ = vifsAfterLast wl)
    (hidle : ∀ u ∈ vifsAfterLast wl, ¬ VifHasWork wl u) :
    (wl1271SkbDequeue wl₂).1 = some (p, systemHlid) := by
  have hwork : HasWork wl₂ systemHlid := by
    obtain ⟨q, rest, hsel, -, -⟩ := ht.selected
    exact hb.hasWork.mpr ⟨q, selectQueue_some hsel⟩
  have hcase := wl1271SkbDequeue_cases wl₂
  generalize wl1271SkbDequeue wl₂ = r at hcase ⊢
  cases hcase with
  | @vif pre u skb k wl' hserve hsys =>
    rcases hsys with hmem | hsys
    · obtain ⟨wl₃, wl₄, hskip, hvif, -⟩ := hserve.served
      have hu := hb.vifHasWork.mp (hskip.vifHasWork.mp hvif.vifHasWork)
      exact absurd hu (hidle u (hafter ▸ hmem))
    · exact absurd hwork hsys
  | @system skb wl₃ wl' _ hskip hserve => rw [hb.same_frame ht hskip.toSearched hserve]
  | @idle wl' _ hsys => exact absurd hwork hsys

end Next

theorem wl1271SkbQueueHead_lastWlvif (wl : Wl1271) (v : VifId) (skb : Skb) (h : Hlid) :
    (wl1271SkbQueueHead wl (some v) skb h).lastWlvif = wl.lastWlvif := by
  unfold wl1271SkbQueueHead
  split <;> rfl

/-- A frame that was dequeued for vif `v` and link `h` and is put back at once is the next one to
be dequeued, exactly when it is one of the system link or nothing else has work. -/
theorem requeued_next_iff (wl wl₁ : Wl1271) (p : Skb) (h : Hlid) (v : VifId) (hw : Wired wl)
    (hdeq : wl1271SkbDequeue wl = (some (p, h), wl₁)) (hdummy : wl12xxIsDummyPacket wl p = false)
    (hown : h = systemHlid ∨ v ∈ wl.wlvifList ∧ (wl.vifs v).linksMap h = true) :
    (wl1271SkbDequeue (wl1271SkbQueueHead wl₁ (some v) p h)).1 = some (p, h) ↔
      h = systemHlid ∨
        (∀ u ∈ wl.wlvifList, u ≠ v → ¬ VifHasWork wl u) ∧ ¬ HasWork wl systemHlid := by
  have hcase := wl1271SkbDequeue_cases wl
  rw [hdeq] at hcase
  generalize hr : (some (p, h), wl₁) = r at hcase
  cases hcase with
  | @vif pre u skb k wl' hserve =>
    obtain ⟨hfst, rfl⟩ := Prod.mk.inj hr
    obtain ⟨rfl, rfl⟩ := Prod.mk.inj (Option.some.inj hfst)
    have hu := mem_wlvifList_of_searchOrder hserve.mem_order
    have hsystem : h ≠ systemHlid := by
      rintro rfl
      exact absurd hserve.link (by simp [hw.system u hu])
    obtain ⟨hv, hmap⟩ := hown.resolve_left hsystem
    obtain rfl : u = v := hw.owner u hu v hv h hserve.link hmap
    have hb : PutBack wl u h (wl1271SkbQueueHead wl₁ (some u) p h) :=
      hserve.takenOff.putBack (hw.category h) hdummy
    have hlast : (wl1271SkbQueueHead wl₁ (some u) p h).lastWlvif = some u := by
      obtain ⟨_, _, -, -, rfl⟩ := hserve.served
      exact wl1271SkbQueueHead_lastWlvif _ u p h
    constructor
    · exact fun hnext => Or.inr (others_idle_of_next hw hb hlast hu hmap hnext)
    · rintro (hsys | ⟨hidle, hsys⟩)
      · exact absurd hsys hsystem
      · exact next_of_others_idle hb hserve.takenOff hu hmap hidle hsys
  | @system skb wl₂ wl' hidle hskip hserve =>
    obtain ⟨hfst, rfl⟩ := Prod.mk.inj hr
    obtain ⟨rfl, rfl⟩ := Prod.mk.inj (Option.some.inj hfst)
    have ht := TakenOff.of_serves hskip.toSearched hserve
    have hb : PutBack wl v systemHlid (wl1271SkbQueueHead wl₁ (some v) p systemHlid) :=
      ht.putBack (hw.category systemHlid) hdummy
    have hafter : vifsAfterLast (wl1271SkbQueueHead wl₁ (some v) p systemHlid) =
        vifsAfterLast wl := by
      have hlast : wl₁.lastWlvif = wl.lastWlvif := by
        obtain ⟨_, _, -, -, rfl⟩ := hserve
        exact hskip.lastWlvif
      unfold vifsAfterLast
      rw [wl1271SkbQueueHead_lastWlvif, hlast, hb.list]
    exact iff_of_true (next_of_system hb ht hafter hidle) (Or.inl rfl)
  | @idle wl₂ _ _ hskip =>
    -- the only frame left is the dummy packet
    unfold dummySkbDequeue at hr
    split_ifs at hr
    · obtain ⟨rfl, -⟩ := Prod.mk.inj (Option.some.inj (Prod.mk.inj hr).1)
      unfold wl12xxIsDummyPacket at hdummy
      rw [hskip.keep.conf] at hdummy
      simp at hdummy
    · cases hr

/-- A driver with one frame queued for its only vif. -/
def oneBacklog : Wl1271 := wl1271OpTx staDriver (staFrame 1)

theorem oneBacklog_wired : Wired oneBacklog :=
  ⟨⟨by decide +kernel, by decide +kernel, by decide +kernel⟩, by decide +kernel⟩

theorem requeued_next_alone :
    (wl1271SkbDequeue oneBacklog).1 = some (staFrame 1, 1) ∧
    (wl1271SkbDequeue (wl1271SkbQueueHead (wl1271SkbDequeue oneBacklog).2 (some 0) (staFrame 1)
      1)).1 = some (staFrame 1, 1) := by
  have hfst : (wl1271SkbDequeue oneBacklog).1 = some (staFrame 1, 1) := by decide +kernel
  refine ⟨hfst, (requeued_next_iff oneBacklog _ (staFrame 1) 1 0 oneBacklog_wired
    (Prod.ext hfst rfl) (by decide +kernel) (by decide +kernel)).mpr (Or.inr ⟨?_, ?_⟩)⟩
  · decide +kernel
  · decide +kernel

/-- Two associated vifs with a frame each. -/
def twoBacklogs : Wl1271 :=
  wl1271OpTx (wl1271OpTx twoStaDriver (staFrame 1)) { staFrame 2 with vif := some 1 }

/-- The frame of the first vif is dequeued and put back, and the frame of the second one comes
next. -/
theorem requeued_not_next :
    Wired twoBacklogs ∧ (wl1271SkbDequeue twoBacklogs).1 = some (staFrame 1, 1) ∧
    (wl1271SkbDequeue (wl1271SkbQueueHead (wl1271SkbDequeue twoBacklogs).2 (some 0) (staFrame 1)
      1)).1 = some ({ staFrame 2 with vif := some 1 }, 2) := by
  refine ⟨⟨⟨?_, ?_, ?_⟩, ?_⟩, ?_, ?_⟩ <;> decide +kernel

end TiWlan.Tx
