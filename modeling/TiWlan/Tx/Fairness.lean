import TiWlan.Lib.Run
import TiWlan.Tx.Admission
import TiWlan.Tx.Dequeue

/-!
# The round robins are fair

`wl1271_skb_dequeue` (`wlcore/tx.c`, lines 552–607) continues with the vif after the last one that
was served, and `wl12xx_vif_skb_dequeue` (lines 519–550) with the link after the last one. The
cursor of a vif is set back to 0 when the vif is found empty.

The runs here are sequences of dequeues and of frames that arrive through `wl1271_op_tx`
(`wlcore/main.c`, line 1201), from any state, while the system link has no frame to send. A frame
is served in the turn of the vif that `last_wlvif` points to afterwards; links that belong to
several vifs are not excluded.

Results: between two frames of one vif every other vif that had work all the time is served
(`vifs_fair`), and between two frames of one link of a vif every other link of the vif that had work
all the time is served (`links_fair`). Both are instances of `Turn.ahead`.
-/

namespace TiWlan.Tx

open TiWlan.Lib TiWlan.Driver
open Function (update)

variable {h k : Hlid} {ops : List SchedOp} {op : SchedOp} {skb : Skb} {v w : VifId}
  {wl wl' : Wl1271}

/-! ## Runs -/

/-- The driver asks for a frame, or mac80211 hands one over. -/
inductive SchedOp
  | dequeue
  | opTx (skb : Skb)

/-- One operation. -/
def schedStep (wl : Wl1271) : SchedOp → Wl1271
  | .dequeue => (wl1271SkbDequeue wl).2
  | .opTx skb => wl1271OpTx wl skb

/-- A dequeue would serve the vif from link `h`: it returns a frame of the link, not the dummy
packet, and makes the vif the last one that was served. -/
structure ServesFrom (wl : Wl1271) (v : VifId) (h : Hlid) : Prop where
  link : (wl.vifs v).linksMap h = true
  queued : HasWork wl h
  frame : ∃ skb, (wl1271SkbDequeue wl).1 = some (skb, h)
  last : (wl1271SkbDequeue wl).2.lastWlvif = some v

/-- A dequeue would serve the vif. -/
def ServesVif (wl : Wl1271) (v : VifId) : Prop := ∃ h, ServesFrom wl v h

/-- The system link has nothing to send. -/
def SystemIdle (wl : Wl1271) : Prop := ¬ HasWork wl systemHlid

/-- Somewhere in the run a dequeue is made at a state with `P`. -/
def DequeuedAt (P : Wl1271 → Prop) (wl : Wl1271) (ops : List SchedOp) : Prop :=
  ∃ pre post, ops = pre ++ .dequeue :: post ∧ P (run schedStep wl pre)

/-- `P` holds in every state of the run. -/
def Throughout (P : Wl1271 → Prop) (wl : Wl1271) (ops : List SchedOp) : Prop :=
  ∀ pre post, ops = pre ++ post → P (run schedStep wl pre)

theorem Throughout.start {P : Wl1271 → Prop} (h : Throughout P wl ops) : P wl := h [] ops rfl

theorem throughout_nil {P : Wl1271 → Prop} (h : P wl) : Throughout P wl [] := by
  intro pre post hsplit
  rw [(List.nil_eq_append_iff.mp hsplit).1]
  exact h

theorem throughout_cons {P : Wl1271 → Prop} (h : P wl)
    (hrest : Throughout P (schedStep wl op) ops) :
    Throughout P wl (op :: ops) := by
  intro pre post hsplit
  cases pre with
  | nil => exact h
  | cons op' pre =>
    obtain ⟨rfl, htail⟩ := List.cons.inj hsplit
    exact hrest pre post htail

theorem Throughout.finish {P : Wl1271 → Prop} (h : Throughout P wl ops) :
    P (run schedStep wl ops) := h ops [] (by simp)

theorem Throughout.tail {P : Wl1271 → Prop} (h : Throughout P wl (op :: ops)) :
    Throughout P (schedStep wl op) ops := by
  intro pre post hsplit
  exact h (op :: pre) post (by rw [hsplit]; rfl)

theorem Throughout.and {P Q : Wl1271 → Prop} (h : Throughout P wl ops) (h' : Throughout Q wl ops) :
    Throughout (fun wl => P wl ∧ Q wl) wl ops :=
  fun pre post hsplit => ⟨h pre post hsplit, h' pre post hsplit⟩

theorem DequeuedAt.cons {P : Wl1271 → Prop} (h : DequeuedAt P (schedStep wl op) ops) :
    DequeuedAt P wl (op :: ops) := by
  obtain ⟨pre, post, hsplit, hp⟩ := h
  exact ⟨op :: pre, post, by rw [hsplit]; rfl, hp⟩

theorem wl1271OpTx_vifLinks (wl : Wl1271) (skb : Skb) :
    (wl1271OpTx wl skb).toVifLinks = wl.toVifLinks := by
  unfold wl1271OpTx
  split <;> rfl

theorem schedStep_keep (wl : Wl1271) (op : SchedOp) : TxKeep wl (schedStep wl op) := by
  cases op with
  | dequeue => exact wl1271SkbDequeue_keep wl
  | opTx skb => exact wl1271OpTx_keep wl skb

/-- Fairness as an invariant: an order `Ahead` that every step keeps unless `Goal` is served, while
`busy` holds. -/
theorem served_or_ahead (Ahead busy Goal : Wl1271 → Prop)
    (hstep : ∀ wl, Ahead wl → busy wl → Goal wl ∨ Ahead (schedStep wl .dequeue))
    (harrive : ∀ wl skb, Ahead wl → Ahead (schedStep wl (.opTx skb))) (hahead : Ahead wl)
    (hbusy : Throughout busy wl ops) : DequeuedAt Goal wl ops ∨ Ahead (run schedStep wl ops) := by
  induction ops generalizing wl with
  | nil => exact Or.inr hahead
  | cons op ops ih =>
    cases op with
    | dequeue =>
      rcases hstep wl hahead hbusy.start with hgoal | hahead'
      · exact Or.inl ⟨[], ops, rfl, hgoal⟩
      · exact (ih hahead' hbusy.tail).imp_left DequeuedAt.cons
    | opTx skb => exact (ih (harrive wl skb hahead) hbusy.tail).imp_left DequeuedAt.cons

/-! ## Vifs -/

theorem LinkServes.vifs (hs : LinkServes wl h skb wl') : wl'.vifs = wl.vifs := by
  obtain ⟨_, _, -, -, rfl⟩ := hs
  rfl

theorem dummySkbDequeue_vifLinks (wl : Wl1271) :
    (dummySkbDequeue wl).2.toVifLinks = wl.toVifLinks := by
  unfold dummySkbDequeue
  split <;> rfl

theorem ServesVif.hasWork (h : ServesVif wl v) : VifHasWork wl v := by
  obtain ⟨k, hfrom⟩ := h
  exact ⟨k, hfrom.link, hfrom.queued⟩

theorem servesVif_unique {u : VifId} (hu : ServesVif wl u) (hv : ServesVif wl v) : u = v := by
  obtain ⟨_, hu⟩ := hu
  obtain ⟨_, hv⟩ := hv
  exact Option.some.inj (hu.last.symm.trans hv.last)

/-- The vif at which the search stops is served. -/
theorem PassServes.servesFrom {vs pre : List VifId} (hserve : PassServes wl vs pre v skb h wl')
    (hr : wl1271SkbDequeue wl = (some (skb, h), wl')) : ServesFrom wl v h := by
  refine ⟨hserve.link, ?_, ⟨skb, by rw [hr]⟩, ?_⟩
  · obtain ⟨_, _, hskip, hvif, -⟩ := hserve.served
    obtain ⟨_, hlink, -⟩ := hvif.served
    exact hskip.hasWork.mp hlink.hasWork
  · rw [hr]
    obtain ⟨_, _, -, -, rfl⟩ := hserve.served
    rfl

/-- The vifs take turns. -/
theorem vif_turn (hsys : SystemIdle wl) {l : VifId} (hl : wl.lastWlvif = some l) :
    ∃ l' served, Turn wl.wlvifList (VifHasWork wl) l l' served ∧
      (wl1271SkbDequeue wl).2.lastWlvif = some l' ∧
      ∀ u ∈ wl.wlvifList, ServesVif wl u ↔ served = some u := by
  have hcase := wl1271SkbDequeue_cases wl
  generalize hr : wl1271SkbDequeue wl = r at hcase
  cases hcase with
  | @vif pre v skb h wl' hserve =>
    have hfrom := hserve.servesFrom hr
    obtain ⟨post, hsplit⟩ := hserve.order
    refine ⟨v, some v, .serve ((searchOrder_last hl).symm.trans hsplit) hserve.idle, ?_, ?_⟩
    · rw [← hr]
      exact hfrom.last
    · intro u hu
      constructor
      · intro hs
        rw [servesVif_unique hs ⟨h, hfrom⟩]
      · intro heq
        obtain rfl := Option.some.inj heq
        exact ⟨h, hfrom⟩
  | system _ hskip hserve => exact absurd (hskip.hasWork.mp hserve.hasWork) hsys
  | @idle wl₁ hidle _ hskip =>
    have hlast : (dummySkbDequeue wl₁).2.lastWlvif = some l := by
      rw [dummySkbDequeue_vifLinks]
      exact hskip.lastWlvif.trans hl
    refine ⟨l, none, .idle, hlast, ?_⟩
    intro u hu
    exact iff_of_false (fun hs => hidle u (mem_searchOrder hu) hs.hasWork) (by simp)

/-- Vif `w` comes before vif `v` in the order of the search. -/
structure VifAhead (w v : VifId) (wl : Wl1271) : Prop where
  nodup : wl.wlvifList.Nodup
  ahead : ∃ l ∈ wl.wlvifList, wl.lastWlvif = some l ∧ [w, v].Sublist (rotation l wl.wlvifList)

theorem VifAhead.mem (h : VifAhead w v wl) : w ∈ wl.wlvifList ∧ v ∈ wl.wlvifList := by
  obtain ⟨l, -, -, hahead⟩ := h.ahead
  exact ⟨mem_of_mem_rotation (hahead.subset (by simp)),
    mem_of_mem_rotation (hahead.subset (by simp))⟩

/-- As long as `w` has work, either it is served or `v` is not and stays behind it. -/
theorem VifAhead.dequeue (h : VifAhead w v wl) (hsys : SystemIdle wl) (hwork : VifHasWork wl w) :
    ServesVif wl w ∨ ¬ ServesVif wl v ∧ VifAhead w v (schedStep wl .dequeue) := by
  obtain ⟨l, hmem, hl, hahead⟩ := h.ahead
  obtain ⟨l', served, hturn, hlast, hserves⟩ := vif_turn hsys hl
  obtain ⟨hw, hv⟩ := h.mem
  by_cases hserved : served = some w
  · exact Or.inl ((hserves w hw).mpr hserved)
  · obtain ⟨hnot, hahead'⟩ := hturn.ahead h.nodup hmem hwork hahead hserved
    have hlist : (schedStep wl .dequeue).wlvifList = wl.wlvifList :=
      (schedStep_keep wl .dequeue).wlvifList
    refine Or.inr ⟨fun hs => hnot ((hserves v hv).mp hs), hlist ▸ h.nodup, l', ?_, hlast, ?_⟩
    · rw [hlist]
      exact hturn.mem hmem
    · rw [hlist]
      exact hahead'

theorem VifAhead.opTx (skb : Skb) (h : VifAhead w v wl) :
    VifAhead w v (schedStep wl (.opTx skb)) := by
  have hlinks : (schedStep wl (.opTx skb)).toVifLinks = wl.toVifLinks := wl1271OpTx_vifLinks wl skb
  constructor
  · rw [hlinks]
    exact h.nodup
  · rw [hlinks]
    exact h.ahead

/-- Right after `v` was served, every other vif comes before it. -/
theorem VifAhead.of_served (hnodup : wl.wlvifList.Nodup) (hv : v ∈ wl.wlvifList)
    (hw : w ∈ wl.wlvifList) (hne : w ≠ v) (hserve : ServesVif wl v) :
    VifAhead w v (schedStep wl .dequeue) := by
  obtain ⟨h, hfrom⟩ := hserve
  have hlist : (schedStep wl .dequeue).wlvifList = wl.wlvifList :=
    (schedStep_keep wl .dequeue).wlvifList
  refine ⟨hlist ▸ hnodup, v, hlist ▸ hv, hfrom.last, ?_⟩
  rw [hlist]
  exact ahead_rotation_self hnodup hv hw hne

/-- Between two frames of vif `v`, every other vif that had work all the time is served. -/
theorem vifs_fair (wl : Wl1271) (ops : List SchedOp) (v w : VifId) (hnodup : wl.wlvifList.Nodup)
    (hsys : Throughout SystemIdle (schedStep wl .dequeue) ops) (hv : v ∈ wl.wlvifList)
    (hw : w ∈ wl.wlvifList) (hne : w ≠ v) (hfirst : ServesVif wl v)
    (hwork : Throughout (VifHasWork · w) (schedStep wl .dequeue) ops)
    (hagain : ServesVif (run schedStep (schedStep wl .dequeue) ops) v) :
    DequeuedAt (ServesVif · w) (schedStep wl .dequeue) ops := by
  have hahead : VifAhead w v (schedStep wl .dequeue) := .of_served hnodup hv hw hne hfirst
  have hrun := served_or_ahead (VifAhead w v) (fun wl => SystemIdle wl ∧ VifHasWork wl w)
    (ServesVif · w) (fun _ h hbusy => (h.dequeue hbusy.1 hbusy.2).imp_right And.right)
    (fun _ skb h => h.opTx skb) hahead (hsys.and hwork)
  rcases hrun with hserved | hend
  · exact hserved
  · -- the last dequeue serves `v`, although `w` has work and comes before it
    exfalso
    rcases hend.dequeue hsys.finish hwork.finish with hserves | ⟨hnot, -⟩
    · exact hne (servesVif_unique hserves hagain)
    · exact hnot hagain

/-! ## Links -/

theorem linkOrder_eq (wl : Wl1271) (v : VifId) :
    linkOrder wl v = rotation (wl.vifs v).lastTxHlid allHlids := by
  have h : ∀ c : Hlid, (allHlids.map fun i => c + 1 + i) = rotation c allHlids := by decide
  exact h _

/-- The link of the vif has work. -/
def LinkBusy (wl : Wl1271) (v : VifId) (h : Hlid) : Prop :=
  (wl.vifs v).linksMap h = true ∧ HasWork wl h

/-- The vif is served from link `h`, the first of its links with work. -/
structure ServedFirst (wl : Wl1271) (v : VifId) (h : Hlid) : Prop where
  served : ServesFrom wl v h
  cursor : ((wl1271SkbDequeue wl).2.vifs v).lastTxHlid = h
  order : ∃ pre post, rotation (wl.vifs v).lastTxHlid allHlids = pre ++ h :: post ∧
    ∀ k ∈ pre, ¬ LinkBusy wl v k

/-- A pass serves a link of the vif that it stops at, and leaves the other vifs with work alone. -/
theorem PassServes.vif_cases {vs pre : List VifId} {u : VifId}
    (hserve : PassServes wl vs pre u skb h wl') (hwork : VifHasWork wl v)
    (hr : wl1271SkbDequeue wl = (some (skb, h), wl')) :
    u = v ∧ ServedFirst wl v h ∨ u ≠ v ∧ wl'.vifs v = wl.vifs v := by
  have hskipped : v ∉ pre := fun hmem => hserve.idle v hmem hwork
  have hfrom := hserve.servesFrom hr
  obtain ⟨wl₁, wl₂, hskip, hvif, rfl⟩ := hserve.served
  obtain ⟨wl₃, hlink, rfl⟩ := hvif.served
  by_cases huv : u = v
  · subst huv
    refine Or.inl ⟨rfl, hfrom, ?_, ?_⟩
    · rw [hr]
      show (update wl₃.vifs u _ u).lastTxHlid = h
      rw [Function.update_self]
    · obtain ⟨hs, post, hsplit, hbefore⟩ := hvif.order
      rw [linkOrder_eq, hskip.others u hskipped] at hsplit
      refine ⟨hs, post, hsplit, ?_⟩
      rintro k hk ⟨hmap, hbusy⟩
      exact hbefore k hk (hskip.keep.vifLinksMap u ▸ hmap) (hskip.hasWork.mpr hbusy)
  · refine Or.inr ⟨huv, ?_⟩
    show update wl₃.vifs u _ v = wl.vifs v
    rw [Function.update_of_ne (Ne.symm huv), hlink.vifs, hskip.others v hskipped]

/-- A vif with work is served from one of its links, or it is left alone. -/
theorem dequeue_vif_cases (hsys : SystemIdle wl) (hv : v ∈ wl.wlvifList) (hwork : VifHasWork wl v) :
    (∃ h, ServedFirst wl v h) ∨ (wl1271SkbDequeue wl).2.vifs v = wl.vifs v ∧ ¬ ServesVif wl v := by
  have hcase := wl1271SkbDequeue_cases wl
  generalize hr : wl1271SkbDequeue wl = r at hcase
  cases hcase with
  | @vif pre u skb h wl' hserve =>
    rcases hserve.vif_cases hwork hr with ⟨-, hfirst⟩ | ⟨hne, hsame⟩
    · exact Or.inl ⟨h, hfirst⟩
    · exact Or.inr ⟨hsame, fun hs => hne (servesVif_unique ⟨h, hserve.servesFrom hr⟩ hs)⟩
  | system _ hskip hserve => exact absurd (hskip.hasWork.mp hserve.hasWork) hsys
  | idle hidle => exact absurd hwork (hidle v (mem_searchOrder hv))

/-- Link `k` of vif `v` comes before its link `h` in the round robin of the vif. -/
structure LinkAhead (v : VifId) (k h : Hlid) (wl : Wl1271) : Prop where
  listed : v ∈ wl.wlvifList
  link : (wl.vifs v).linksMap k = true
  ahead : [k, h].Sublist (rotation (wl.vifs v).lastTxHlid allHlids)

theorem LinkAhead.of_keep (hk : TxKeep wl wl') (ha : LinkAhead v k h wl)
    (hahead : [k, h].Sublist (rotation (wl'.vifs v).lastTxHlid allHlids)) : LinkAhead v k h wl' :=
  ⟨by rw [hk.wlvifList]; exact ha.listed, by rw [hk.vifLinksMap]; exact ha.link, hahead⟩

theorem allHlids_nodup : allHlids.Nodup := List.nodup_finRange 12

theorem mem_allHlids (h : Hlid) : h ∈ allHlids := List.mem_finRange h

theorem servesFrom_unique {u : VifId} (hk : ServesFrom wl u k) (hh : ServesFrom wl v h) :
    k = h := by
  obtain ⟨skb, heq⟩ := hk.frame
  obtain ⟨skb', heq'⟩ := hh.frame
  rw [heq] at heq'
  exact (Prod.mk.inj (Option.some.inj heq')).2

/-- As long as link `k` has work, either it is served or `h` is not and stays behind it. -/
theorem LinkAhead.dequeue (ha : LinkAhead v k h wl) (hsys : SystemIdle wl) (hwork : HasWork wl k) :
    ServesFrom wl v k ∨ ¬ ServesFrom wl v h ∧ LinkAhead v k h (schedStep wl .dequeue) := by
  have hkeep := schedStep_keep wl .dequeue
  rcases dequeue_vif_cases hsys ha.listed ⟨k, ha.link, hwork⟩ with ⟨h', hfirst⟩ | ⟨hsame, hnot⟩
  · obtain ⟨pre, post, horder, hidle⟩ := hfirst.order
    have hturn : Turn allHlids (LinkBusy wl v) (wl.vifs v).lastTxHlid h' (some h') :=
      .serve horder hidle
    by_cases hk : h' = k
    · exact Or.inl (hk ▸ hfirst.served)
    · obtain ⟨hne, hahead⟩ := hturn.ahead allHlids_nodup (mem_allHlids _)
        ⟨ha.link, hwork⟩ ha.ahead (fun heq => hk (Option.some.inj heq))
      refine Or.inr ⟨fun hs => ?_, ha.of_keep hkeep ?_⟩
      · exact hne (congrArg some (servesFrom_unique hfirst.served hs))
      · show [k, h].Sublist (rotation ((wl1271SkbDequeue wl).2.vifs v).lastTxHlid allHlids)
        rw [hfirst.cursor]
        exact hahead
  · refine Or.inr ⟨fun hs => hnot ⟨h, hs⟩, ha.of_keep hkeep ?_⟩
    show [k, h].Sublist (rotation ((wl1271SkbDequeue wl).2.vifs v).lastTxHlid allHlids)
    rw [hsame]
    exact ha.ahead

theorem LinkAhead.opTx (skb : Skb) (ha : LinkAhead v k h wl) :
    LinkAhead v k h (schedStep wl (.opTx skb)) := by
  refine ha.of_keep (schedStep_keep wl (.opTx skb)) ?_
  have hlinks : (schedStep wl (.opTx skb)).toVifLinks = wl.toVifLinks := wl1271OpTx_vifLinks wl skb
  rw [hlinks]
  exact ha.ahead

/-- Right after link `h` was served, every other link of the vif comes before it. -/
theorem LinkAhead.of_served (hsys : SystemIdle wl) (hv : v ∈ wl.wlvifList)
    (hk : (wl.vifs v).linksMap k = true) (hne : k ≠ h) (hserve : ServesFrom wl v h) :
    LinkAhead v k h (schedStep wl .dequeue) := by
  have hkeep := schedStep_keep wl .dequeue
  have hcursor : ((wl1271SkbDequeue wl).2.vifs v).lastTxHlid = h := by
    rcases dequeue_vif_cases hsys hv ⟨h, hserve.link, hserve.queued⟩ with ⟨h', hfirst⟩ | ⟨-, hnot⟩
    · rw [hfirst.cursor, servesFrom_unique hfirst.served hserve]
    · exact absurd ⟨h, hserve⟩ hnot
  refine ⟨by rw [hkeep.wlvifList]; exact hv, by rw [hkeep.vifLinksMap]; exact hk, ?_⟩
  show [k, h].Sublist (rotation ((wl1271SkbDequeue wl).2.vifs v).lastTxHlid allHlids)
  rw [hcursor]
  exact ahead_rotation_self allHlids_nodup (mem_allHlids h) (mem_allHlids k) hne

/-- Between two frames of link `h` of a vif, every other link of the vif that had work all the time
is served. -/
theorem links_fair (wl : Wl1271) (ops : List SchedOp) (v : VifId) (h k : Hlid)
    (hsys : SystemIdle wl) (hsys' : Throughout SystemIdle (schedStep wl .dequeue) ops)
    (hv : v ∈ wl.wlvifList) (hk : (wl.vifs v).linksMap k = true) (hne : k ≠ h)
    (hfirst : ServesFrom wl v h)
    (hwork : Throughout (HasWork · k) (schedStep wl .dequeue) ops)
    (hagain : ServesFrom (run schedStep (schedStep wl .dequeue) ops) v h) :
    DequeuedAt (ServesFrom · v k) (schedStep wl .dequeue) ops := by
  have hahead : LinkAhead v k h (schedStep wl .dequeue) := .of_served hsys hv hk hne hfirst
  have hrun := served_or_ahead (LinkAhead v k h) (fun wl => SystemIdle wl ∧ HasWork wl k)
    (ServesFrom · v k) (fun _ ha hbusy => (ha.dequeue hbusy.1 hbusy.2).imp_right And.right)
    (fun _ skb ha => ha.opTx skb) hahead (hsys'.and hwork)
  rcases hrun with hserved | hend
  · exact hserved
  · exfalso
    rcases hend.dequeue hsys'.finish hwork.finish with hserves | ⟨hnot, -⟩
    · exact hne (servesFrom_unique hserves hagain)
    · exact hnot hagain

/-- The fairness of both round robins, for any list of vifs, any sets of links and any sequence of
dequeues and arrivals that leave the system link without a frame to send. The first dequeue and the
one at the end of `ops` serve the same vif (the same link of the vif); what had work all the time in
between is served in between. -/
theorem dequeue_fair (wl : Wl1271) (ops : List SchedOp) (hnodup : wl.wlvifList.Nodup)
    (hsys : Throughout SystemIdle wl (.dequeue :: ops)) (v : VifId) (hv : v ∈ wl.wlvifList) :
    (∀ w ∈ wl.wlvifList, w ≠ v → ServesVif wl v →
      Throughout (VifHasWork · w) (schedStep wl .dequeue) ops →
      ServesVif (run schedStep (schedStep wl .dequeue) ops) v →
      DequeuedAt (ServesVif · w) (schedStep wl .dequeue) ops) ∧
    ∀ h k, (wl.vifs v).linksMap k = true → k ≠ h → ServesFrom wl v h →
      Throughout (HasWork · k) (schedStep wl .dequeue) ops →
      ServesFrom (run schedStep (schedStep wl .dequeue) ops) v h →
      DequeuedAt (ServesFrom · v k) (schedStep wl .dequeue) ops :=
  ⟨fun w hw hne => vifs_fair wl ops v w hnodup hsys.tail hv hw hne,
    fun h k hk hne => links_fair wl ops v h k hsys.start hsys.tail hv hk hne⟩

/-- Two associated vifs with two frames each. -/
def fourFrames : Wl1271 :=
  [staFrame 1, staFrame 2, { staFrame 3 with vif := some 1 },
    { staFrame 4 with vif := some 1 }].foldl wl1271OpTx twoStaDriver

theorem dequeue_fair_four :
    ServesVif fourFrames 0 ∧
      DequeuedAt (ServesVif · 1) (schedStep fourFrames .dequeue) [.dequeue] := by
  have hfirst : ServesVif fourFrames 0 :=
    ⟨1, by decide +kernel, by decide +kernel, ⟨staFrame 1, by decide +kernel⟩, by decide +kernel⟩
  have hagain : ServesVif (run schedStep (schedStep fourFrames .dequeue) [.dequeue]) 0 :=
    ⟨1, by decide +kernel, by decide +kernel, ⟨staFrame 2, by decide +kernel⟩, by decide +kernel⟩
  have hsys : Throughout SystemIdle fourFrames [.dequeue, .dequeue] := by
    refine throughout_cons ?_ (throughout_cons ?_ (throughout_nil ?_)) <;> unfold SystemIdle <;>
      decide +kernel
  refine ⟨hfirst, (dequeue_fair fourFrames [.dequeue] (by decide +kernel) hsys 0
    (by decide +kernel)).1 1 (by decide +kernel) (by decide) hfirst
    (throughout_cons ?_ (throughout_nil ?_)) hagain⟩ <;> decide +kernel

end TiWlan.Tx
