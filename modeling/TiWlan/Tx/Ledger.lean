import TiWlan.Lib.Tally
import TiWlan.Tx.Keep

/-!
# The ledger of Tx frames

Where the driver keeps frames, counted: `TxQueues.held t s` is the number of copies of the
frame `s` in the link queues, the descriptor slots, the deferred queue and among the frames
given back. Three invariants of the atomic steps:

* `SlotInv`: the bitmap `tx_frames_map`, the array `tx_frames` and `tx_frames_cnt` agree;
* `CountInv`: `tx_queue_count` counts the queued frames and the pending dummy packet;
* `Conserved`: every frame but the dummy packet is held, or in hand, exactly as often as
  `op_tx` has received it.

Main result: `ledger_reach`, all three are preserved by every function of the data path.
-/

namespace TiWlan.Tx

open TiWlan.Lib TiWlan.Driver
open Function (update update_of_ne update_self)

variable {q : Ac} {P : Assume} {l : Hlid} {rest xs : List Skb} {hand : Option Skb} {d skb : Skb}
  {i : TxId} {t : TxQueues} {wl wl' : Wl1271} {n : ℕ}

/-! ## Tallies -/

/-- Copies of a frame in the link queues. -/
def queuedCopies (t : TxQueues) (s : Skb) : ℕ := ∑ h, ∑ q, (t.txQueue h q).count s

/-- Copies of a frame in the descriptor slots. -/
def slotCopies (t : TxQueues) (s : Skb) : ℕ := ∑ i, (t.txFrames i).toList.count s

/-- Copies of a frame anywhere. -/
def heldCopies (t : TxQueues) (s : Skb) : ℕ :=
  queuedCopies t s + slotCopies t s + t.deferredTxQueue.count s + t.returned.count s

/-- The number of frames queued in a category, over all links. -/
def queueLen (t : TxQueues) (q : Ac) : ℕ := ∑ h, (t.txQueue h q).length

/-- The number of descriptors in use. -/
def usedSlots (t : TxQueues) : ℕ := ∑ i, (t.txFramesMap i).toNat

theorem queuedCopies_setQueue (t : TxQueues) (h : Hlid) (q : Ac) (l : List Skb) (s : Skb) :
    queuedCopies (t.setQueue h q l) s + (t.txQueue h q).count s =
      queuedCopies t s + l.count s :=
  sum_sum_update_add t.txQueue h q l fun l => l.count s

theorem queueLen_setQueue (t : TxQueues) (h : Hlid) (q : Ac) (l : List Skb) (q' : Ac) :
    queueLen (t.setQueue h q l) q' + (if q' = q then (t.txQueue h q).length else 0) =
      queueLen t q' + if q' = q then l.length else 0 := by
  have hsum := sum_update_add t.txQueue h (update (t.txQueue h) q l) fun row => (row q').length
  show ∑ h', (update t.txQueue h (update (t.txQueue h) q l) h' q').length + _ = _
  by_cases hq : q' = q
  · subst hq
    simpa [queueLen] using hsum
  · simpa [queueLen, hq, update_of_ne hq] using hsum

/-- A link whose queues are emptied. -/
def clearLink (t : TxQueues) (h : Hlid) : TxQueues :=
  { t with txQueue := update t.txQueue h fun _ => [] }

theorem queuedCopies_clearLink (t : TxQueues) (h : Hlid) (s : Skb) :
    queuedCopies (clearLink t h) s + ∑ q, (t.txQueue h q).count s = queuedCopies t s := by
  have hsum := sum_update_add t.txQueue h (fun _ => []) fun row => ∑ q, (row q).count s
  simpa [queuedCopies, clearLink] using hsum

theorem queueLen_clearLink (t : TxQueues) (h : Hlid) (q : Ac) :
    queueLen (clearLink t h) q + (t.txQueue h q).length = queueLen t q := by
  have hsum := sum_update_add t.txQueue h (fun _ => []) fun row => (row q).length
  simpa [queueLen, clearLink] using hsum

/-! ## Slots -/

/-- `wl1271_alloc_tx_id` on the slots. -/
def allocSlot (t : TxQueues) (i : TxId) (skb : Skb) : TxQueues :=
  { t with
    txFramesMap := update t.txFramesMap i true
    txFrames := update t.txFrames i (some skb)
    txFramesCnt := t.txFramesCnt + 1 }

/-- `wl1271_free_tx_id` on the slots. -/
def freeSlot (t : TxQueues) (i : TxId) : TxQueues :=
  if t.txFramesMap i then
    { t with
      txFramesMap := update t.txFramesMap i false
      txFrames := update t.txFrames i none
      txFramesCnt := t.txFramesCnt - 1 }
  else t

theorem freeTxId_toTxQueues (wl : Wl1271) (i : TxId) :
    (wl1271FreeTxId wl i).toTxQueues = freeSlot wl.toTxQueues i := by
  unfold wl1271FreeTxId freeSlot
  split_ifs <;> rfl

/-- The bitmap, the array and the counter of descriptors agree. -/
structure SlotInv (n : ℕ) (t : TxQueues) : Prop where
  frames : ∀ i, t.txFramesMap i = (t.txFrames i).isSome
  bound : ∀ i, t.txFramesMap i = true → i.val < n
  cnt : t.txFramesCnt = usedSlots t

theorem findFirstZeroBit_some {map : TxId → Bool} (h : findFirstZeroBit map n = some i) :
    i.val < n ∧ map i = false := by
  have := List.find?_some h
  simpa using this

theorem SlotInv.frames_none (h : SlotInv n t) (hi : t.txFramesMap i = false) :
    t.txFrames i = none := by
  have := h.frames i
  rw [hi] at this
  simpa using this.symm

theorem SlotInv.alloc (h : SlotInv n t) (hi : i.val < n ∧ t.txFramesMap i = false) (skb : Skb) :
    SlotInv n (allocSlot t i skb) := by
  refine ⟨fun j => ?_, fun j hj => ?_, ?_⟩
  · by_cases hij : j = i
    · subst hij; simp [allocSlot]
    · simpa [allocSlot, update_of_ne hij] using h.frames j
  · by_cases hij : j = i
    · exact hij ▸ hi.1
    · exact h.bound j (by simpa [allocSlot, update_of_ne hij] using hj)
  · have hsum := sum_update_add t.txFramesMap i true Bool.toNat
    have hcnt := h.cnt
    simp only [hi.2, Bool.toNat_false, Bool.toNat_true] at hsum
    simp only [allocSlot, usedSlots] at hcnt ⊢
    omega

theorem SlotInv.free (h : SlotInv n t) (i : TxId) : SlotInv n (freeSlot t i) := by
  unfold freeSlot
  split_ifs with hi
  · refine ⟨fun j => ?_, fun j hj => ?_, ?_⟩
    · by_cases hij : j = i
      · subst hij; simp
      · simpa [update_of_ne hij] using h.frames j
    · by_cases hij : j = i
      · subst hij; simp at hj
      · exact h.bound j (by simpa [update_of_ne hij] using hj)
    · have hsum := sum_update_add t.txFramesMap i false Bool.toNat
      have hcnt := h.cnt
      simp only [hi, Bool.toNat_false, Bool.toNat_true] at hsum
      simp only [usedSlots] at hcnt ⊢
      omega
  · exact h

/-- A descriptor that is allocated and freed again leaves no trace. -/
theorem SlotInv.free_alloc (h : SlotInv n t) (hi : t.txFramesMap i = false) (skb : Skb) :
    freeSlot (allocSlot t i skb) i = t := by
  have hmap : update t.txFramesMap i false = t.txFramesMap := by
    rw [← hi]
    exact Function.update_eq_self i _
  have hframes : update t.txFrames i none = t.txFrames := by
    rw [← h.frames_none hi]
    exact Function.update_eq_self i _
  have hset : (allocSlot t i skb).txFramesMap i = true := update_self ..
  rw [freeSlot, if_pos hset]
  simp only [allocSlot, Function.update_idem, add_sub_cancel_right, hmap, hframes]

theorem slotCopies_alloc (hi : t.txFrames i = none) (skb s : Skb) :
    slotCopies (allocSlot t i skb) s = slotCopies t s + [skb].count s := by
  have hsum := sum_update_add t.txFrames i (some skb) fun f => f.toList.count s
  simp only [hi, Option.toList_none, List.count_nil, add_zero] at hsum
  exact hsum

theorem slotCopies_free (h : SlotInv n t) (hi : t.txFrames i = some skb) (s : Skb) :
    slotCopies (freeSlot t i) s + [skb].count s = slotCopies t s := by
  have hmap : t.txFramesMap i = true := by simp [h.frames, hi]
  have hsum := sum_update_add t.txFrames i none fun f => f.toList.count s
  simp only [hi, Option.toList_none, List.count_nil, add_zero] at hsum
  rw [freeSlot, if_pos hmap]
  exact hsum

/-! ## Queue counters -/

/-- The pending dummy packet counts as one frame of its category. -/
def pendingDummy (d : Skb) (t : TxQueues) (q : Ac) : ℤ :=
  if t.dummyPacketPending = true ∧ q = d.ac then 1 else 0

theorem pendingDummy_of_ne (hq : q ≠ d.ac) (t : TxQueues) :
    pendingDummy d t q = 0 := if_neg fun h => hq h.2

theorem pendingDummy_of_not_pending (hp : t.dummyPacketPending = false) (d : Skb) (q : Ac) :
    pendingDummy d t q = 0 := if_neg fun h => by simp [hp] at h

/-- `tx_queue_count` counts what is queued; `d` is the dummy packet, which is never queued,
and which is not pending while it is in hand. -/
structure CountInv (d : Skb) (hand : Option Skb) (t : TxQueues) : Prop where
  count : ∀ q, t.txQueueCount q = queueLen t q + pendingDummy d t q
  queued : ∀ h q, ∀ s ∈ t.txQueue h q, s.ac = q ∧ s.id ≠ d.id
  inHand : ∀ s, hand = some s → s.id ≠ d.id ∨ (s = d ∧ t.dummyPacketPending = false)
  warned : t.countWarned = false

namespace CountInv

variable {d : Skb} {hand : Option Skb} {t t' : TxQueues}

/-- The slots, the deferred queue and the ghosts do not matter. -/
theorem congr (h : CountInv d hand t) (hq : t'.txQueue = t.txQueue)
    (hc : t'.txQueueCount = t.txQueueCount) (hp : t'.dummyPacketPending = t.dummyPacketPending)
    (hw : t'.countWarned = t.countWarned) : CountInv d hand t' := by
  refine ⟨fun q => ?_, fun l q => ?_, fun s => ?_, hw ▸ h.warned⟩
  · rw [hc, h.count, queueLen, queueLen, pendingDummy, pendingDummy, hq, hp]
  · rw [hq]; exact h.queued l q
  · rw [hp]; exact h.inHand s

/-- The frame in hand is placed somewhere else than in a queue. -/
theorem placed (h : CountInv d (some skb) t) : CountInv d none t :=
  ⟨h.count, h.queued, fun _ hs => by simp at hs, h.warned⟩

theorem queued_setQueue (h : CountInv d hand t) (hxs : ∀ s ∈ xs, s.ac = q ∧ s.id ≠ d.id) :
    ∀ l' q', ∀ s ∈ (t.setQueue l q xs).txQueue l' q', s.ac = q' ∧ s.id ≠ d.id :=
  forall_setQueue (P := fun _ q s => s.ac = q ∧ s.id ≠ d.id) h.queued hxs

/-- A frame enters a queue of its category, at either end. -/
theorem insert (h : CountInv d hand t) (hskb : skb.id ≠ d.id)
    (hxs : xs.Perm (skb :: t.txQueue l skb.ac)) :
    CountInv d none ((t.setQueue l skb.ac xs).incCount skb.ac) := by
  refine ⟨fun q => ?_, ?_, fun _ hs => by simp at hs, h.warned⟩
  · have hlen := queueLen_setQueue t l skb.ac xs q
    have hcount := h.count q
    rw [hxs.length_eq, List.length_cons] at hlen
    show update t.txQueueCount skb.ac (t.txQueueCount skb.ac + 1) q =
      queueLen (t.setQueue l skb.ac xs) q + pendingDummy d t q
    by_cases hq : q = skb.ac
    · subst hq
      rw [update_self]
      simp only [if_true] at hlen
      omega
    · rw [update_of_ne hq]
      simp only [hq, if_false] at hlen
      omega
  · refine h.queued_setQueue fun s hs => ?_
    rcases List.mem_cons.mp (hxs.mem_iff.mp hs) with rfl | hs
    · exact ⟨rfl, hskb⟩
    · exact h.queued l _ s hs

/-- The head of a queue is taken. -/
theorem take (h : CountInv d none t) (hq : t.txQueue l q = skb :: rest) :
    CountInv d (some skb) ((t.setQueue l q rest).decCount skb.ac) := by
  obtain ⟨rfl, hid⟩ := h.queued l q skb (by rw [hq]; simp)
  have hpos : 0 < t.txQueueCount skb.ac := by
    have hle : (t.txQueue l skb.ac).length ≤ queueLen t skb.ac :=
      Finset.single_le_sum (f := fun l => (t.txQueue l skb.ac).length) (fun _ _ => Nat.zero_le _)
        (Finset.mem_univ l)
    have hcount := h.count skb.ac
    rw [hq, List.length_cons] at hle
    unfold pendingDummy at hcount
    split_ifs at hcount <;> omega
  refine ⟨fun q' => ?_, ?_, fun s hs => ?_, ?_⟩
  · have hlen := queueLen_setQueue t l skb.ac rest q'
    have hcount := h.count q'
    rw [hq, List.length_cons] at hlen
    show update t.txQueueCount skb.ac (t.txQueueCount skb.ac - 1) q' =
      queueLen (t.setQueue l skb.ac rest) q' + pendingDummy d t q'
    by_cases hq' : q' = skb.ac
    · subst hq'
      rw [update_self]
      simp only [if_true] at hlen
      omega
    · rw [update_of_ne hq']
      simp only [hq', if_false] at hlen
      omega
  · exact h.queued_setQueue fun s hs => h.queued l _ s (by rw [hq]; exact List.mem_cons_of_mem _ hs)
  · cases hs
    exact Or.inl hid
  · show (t.countWarned || decide (t.txQueueCount skb.ac ≤ 0)) = false
    simp [h.warned, hpos]

/-- The pending dummy packet is taken. -/
theorem takeDummy (h : CountInv d none t) (hp : t.dummyPacketPending = true) :
    CountInv d (some d) ({ t with dummyPacketPending := false }.decCount d.ac) := by
  have hpos : 0 < t.txQueueCount d.ac := by
    rw [h.count]
    simp only [pendingDummy, hp, and_self, if_true]
    omega
  refine ⟨fun q => ?_, h.queued, fun s hs => ?_, ?_⟩
  · have hcount := h.count q
    show update t.txQueueCount d.ac (t.txQueueCount d.ac - 1) q = queueLen t q + 0
    by_cases hq : q = d.ac
    · subst hq
      rw [update_self]
      simp only [pendingDummy, hp, and_self, if_true] at hcount
      omega
    · rw [update_of_ne hq]
      rw [pendingDummy_of_ne hq] at hcount
      exact hcount
  · cases hs
    exact Or.inr ⟨rfl, rfl⟩
  · show (t.countWarned || decide (t.txQueueCount d.ac ≤ 0)) = false
    simp [h.warned, hpos]

/-- The dummy packet becomes pending. -/
theorem pend (h : CountInv d hand t) (hp : t.dummyPacketPending = false) :
    CountInv d none ({ t with dummyPacketPending := true }.incCount d.ac) := by
  refine ⟨fun q => ?_, h.queued, fun _ hs => by simp at hs, h.warned⟩
  have hcount := h.count q
  show update t.txQueueCount d.ac (t.txQueueCount d.ac + 1) q =
    queueLen t q + (if true = true ∧ q = d.ac then 1 else 0)
  by_cases hq : q = d.ac
  · subst hq
    rw [pendingDummy_of_not_pending hp] at hcount
    rw [update_self, if_pos ⟨rfl, rfl⟩, hcount, add_zero]
  · rw [pendingDummy_of_ne hq] at hcount
    rw [update_of_ne hq, if_neg fun h => hq h.2]
    exact hcount

/-- The queues of a link are emptied. -/
theorem drain (h : CountInv d hand t) (l : Hlid) (r : List Skb) :
    CountInv d hand
      { clearLink t l with
        txQueueCount := fun q => t.txQueueCount q - (t.txQueue l q).length, returned := r } := by
  refine ⟨fun q => ?_, fun l' q s hs => ?_, h.inHand, h.warned⟩
  · have hlen := queueLen_clearLink t l q
    have hcount := h.count q
    show t.txQueueCount q - (t.txQueue l q).length = queueLen (clearLink t l) q + pendingDummy d t q
    omega
  · exact h.queued l' q s ((clear_sublist t.txQueue l l' q).subset hs)

end CountInv

theorem queue_eq_nil_of_queueLen (hlen : queueLen t q = 0) (h : Hlid) : t.txQueue h q = [] := by
  have := Finset.sum_eq_zero_iff.mp hlen h (Finset.mem_univ h)
  exact List.length_eq_zero_iff.mp this

theorem pendingDummy_nonneg (d : Skb) (t : TxQueues) (q : Ac) : 0 ≤ pendingDummy d t q := by
  unfold pendingDummy
  split_ifs <;> decide

theorem count_nonneg (h : CountInv d hand t) (q : Ac) : 0 ≤ t.txQueueCount q := by
  rw [h.count]
  have := pendingDummy_nonneg d t q
  omega

/-- With a total of zero all counters are zero. -/
theorem count_eq_zero_of_total (h : CountInv d hand wl.toTxQueues)
    (htotal : wl1271TxTotalQueueCount wl = 0) (q : Ac) : wl.txQueueCount q = 0 := by
  have h0 := count_nonneg h 0
  have h1 := count_nonneg h 1
  have h2 := count_nonneg h 2
  have h3 := count_nonneg h 3
  unfold wl1271TxTotalQueueCount at htotal
  fin_cases q <;> simp only [Fin.zero_eta, Fin.mk_one, Fin.reduceFinMk] <;> omega

/-- With a total of zero there is nothing in any queue. -/
theorem queue_nil_of_total (h : CountInv d hand wl.toTxQueues)
    (htotal : wl1271TxTotalQueueCount wl = 0) (l : Hlid) (q : Ac) : wl.txQueue l q = [] := by
  have hcount := h.count q
  have hpend := pendingDummy_nonneg d wl.toTxQueues q
  rw [count_eq_zero_of_total h htotal q] at hcount
  exact queue_eq_nil_of_queueLen (by omega) l

/-! ## Conservation -/

/-- Every frame but the dummy packet is held, or in hand, as often as `op_tx` received it. -/
def Conserved (d : Skb) (hand : Option Skb) (t : TxQueues) : Prop :=
  ∀ s, s.id ≠ d.id → heldCopies t s + hand.toList.count s = t.accepted.count s

namespace Conserved

variable {d : Skb} {hand : Option Skb} {t t' : TxQueues}

/-- The counters, the bitmap and the flags do not matter. -/
theorem congr (h : Conserved d hand t) (hq : t'.txQueue = t.txQueue)
    (hf : t'.txFrames = t.txFrames) (hd : t'.deferredTxQueue = t.deferredTxQueue)
    (hr : t'.returned = t.returned) (ha : t'.accepted = t.accepted) : Conserved d hand t' := by
  intro s hs
  have := h s hs
  simpa only [heldCopies, queuedCopies, slotCopies, hq, hf, hd, hr, ha] using this

/-- A frame moves between the hand and a queue. -/
theorem setQueue (h : Conserved d hand t) (hand' : Option Skb)
    (hxs : ∀ s, xs.count s + hand'.toList.count s =
      (t.txQueue l q).count s + hand.toList.count s) :
    Conserved d hand' (t.setQueue l q xs) := by
  intro s hs
  have hold := h s hs
  have hmove := hxs s
  have hqueued := queuedCopies_setQueue t l q xs s
  show queuedCopies (t.setQueue l q xs) s + slotCopies t s + t.deferredTxQueue.count s +
    t.returned.count s + hand'.toList.count s = t.accepted.count s
  unfold heldCopies at hold
  omega

/-- A new frame is received and dropped. -/
theorem refuse (h : Conserved d hand t) (skb : Skb) :
    Conserved d hand { t with accepted := t.accepted ++ [skb], returned := t.returned ++ [skb] } := by
  intro s hs
  have hold := h s hs
  show queuedCopies t s + slotCopies t s + t.deferredTxQueue.count s +
    (t.returned ++ [skb]).count s + hand.toList.count s = (t.accepted ++ [skb]).count s
  rw [List.count_append, List.count_append]
  unfold heldCopies at hold
  omega

/-- A new frame is received and queued. -/
theorem receive (h : Conserved d hand t) (l : Hlid) (skb : Skb) :
    Conserved d hand ({ t with accepted := t.accepted ++ [skb] }.enqueue l skb) := by
  intro s hs
  have hold := h s hs
  have hqueued := queuedCopies_setQueue t l skb.ac (t.txQueue l skb.ac ++ [skb]) s
  show queuedCopies (t.setQueue l skb.ac (t.txQueue l skb.ac ++ [skb])) s + slotCopies t s +
    t.deferredTxQueue.count s + t.returned.count s + hand.toList.count s =
      (t.accepted ++ [skb]).count s
  rw [List.count_append] at hqueued ⊢
  unfold heldCopies at hold
  omega

/-- The frame in hand is given back. -/
theorem giveBack (h : Conserved d (some skb) t) :
    Conserved d none { t with returned := t.returned ++ [skb] } := by
  intro s hs
  have hold := h s hs
  show queuedCopies t s + slotCopies t s + t.deferredTxQueue.count s +
    (t.returned ++ [skb]).count s + 0 = t.accepted.count s
  rw [List.count_append]
  simp only [heldCopies, Option.toList_some] at hold
  omega

/-- The dummy packet is taken or placed. -/
theorem dummy (h : Conserved d hand t) (hand' : Option Skb)
    (hh : ∀ s ∈ hand, s.id = d.id) (hh' : ∀ s ∈ hand', s.id = d.id) : Conserved d hand' t := by
  have hnone {o : Option Skb} (ho : ∀ s ∈ o, s.id = d.id) {s : Skb} (hs : s.id ≠ d.id) :
      o.toList.count s = 0 := by
    refine List.count_eq_zero.mpr fun hmem => hs (ho s ?_)
    simpa using hmem
  intro s hs
  have hold := h s hs
  rw [hnone hh hs] at hold
  rw [hnone hh' hs, hold]

/-- The frame in hand gets a descriptor. -/
theorem alloc (h : Conserved d (some skb) t) (hi : t.txFrames i = none) :
    Conserved d none (allocSlot t i skb) := by
  intro s hs
  have hold := h s hs
  have hslot := slotCopies_alloc hi skb s
  show queuedCopies t s + slotCopies (allocSlot t i skb) s + t.deferredTxQueue.count s +
    t.returned.count s + 0 = t.accepted.count s
  simp only [heldCopies, Option.toList_some] at hold
  omega

/-- The frame of a descriptor is taken out. -/
theorem free (h : Conserved d none t) (hslots : SlotInv n t) (hi : t.txFrames i = some skb) :
    Conserved d (some skb) (freeSlot t i) := by
  intro s hs
  have hold := h s hs
  have hslot := slotCopies_free hslots hi s
  have hmap : t.txFramesMap i = true := by simp [hslots.frames, hi]
  have hrest : heldCopies (freeSlot t i) s = queuedCopies t s + slotCopies (freeSlot t i) s +
      t.deferredTxQueue.count s + t.returned.count s := by
    rw [heldCopies]
    simp only [freeSlot, hmap, if_true]
    rfl
  have hacc : (freeSlot t i).accepted = t.accepted := by simp only [freeSlot, hmap, if_true]
  rw [hrest, hacc]
  simp only [heldCopies, Option.toList_none, List.count_nil, Option.toList_some] at hold ⊢
  omega

/-- The frame in hand waits for `netstack_work`. -/
theorem defer (h : Conserved d (some skb) t) :
    Conserved d none { t with deferredTxQueue := t.deferredTxQueue ++ [skb] } := by
  intro s hs
  have hold := h s hs
  show queuedCopies t s + slotCopies t s + (t.deferredTxQueue ++ [skb]).count s +
    t.returned.count s + 0 = t.accepted.count s
  rw [List.count_append]
  simp only [heldCopies, Option.toList_some] at hold
  omega

/-- The deferred frames are given back. -/
theorem flush (h : Conserved d hand t) :
    Conserved d hand
      { t with deferredTxQueue := [], returned := t.returned ++ t.deferredTxQueue } := by
  intro s hs
  have hold := h s hs
  show queuedCopies t s + slotCopies t s + 0 + (t.returned ++ t.deferredTxQueue).count s +
    hand.toList.count s = t.accepted.count s
  rw [List.count_append]
  unfold heldCopies at hold
  omega

/-- The frames of a link are given back. -/
theorem drain (h : Conserved d hand t) (l : Hlid) (c : Ac → ℤ) :
    Conserved d hand
      { clearLink t l with
        txQueueCount := c
        returned := t.returned ++
          (allAcs.flatMap (t.txQueue l)).filter fun skb => !(d.id == skb.id) } := by
  intro s hs
  have hold := h s hs
  have hqueued := queuedCopies_clearLink t l s
  have hfreed : ((allAcs.flatMap (t.txQueue l)).filter fun skb => !(d.id == skb.id)).count s =
      ∑ q, (t.txQueue l q).count s := by
    rw [List.count_filter (by simpa using fun h => hs h.symm)]
    simp [allAcs, Fin.sum_univ_four, List.count_append, add_assoc]
  show queuedCopies (clearLink t l) s + slotCopies t s + t.deferredTxQueue.count s +
    (t.returned ++ _).count s + hand.toList.count s = t.accepted.count s
  rw [List.count_append, hfreed]
  unfold heldCopies at hold
  omega

end Conserved

/-! ## The ledger -/

/-- The frame is not the dummy packet of the configuration. -/
def NotDummy (c : Conf) (skb : Skb) : Prop := skb.id ≠ c.dummyPacket.id

/-- The three invariants, with the frame in hand. -/
structure Ledger (c : Conf) (s : Option Skb × Wl1271) : Prop where
  conf : s.2.toConf = c
  slots : SlotInv c.numTxDesc s.2.toTxQueues
  counts : CountInv c.dummyPacket s.1 s.2.toTxQueues
  conserved : Conserved c.dummyPacket s.1 s.2.toTxQueues

section
variable {c : Conf} {wl : Wl1271} {skb : Skb}

theorem Ledger.isDummy_iff {s : Option Skb × Wl1271} (h : Ledger c s) :
    wl12xxIsDummyPacket s.2 skb = true ↔ skb.id = c.dummyPacket.id := by
  unfold wl12xxIsDummyPacket
  rw [h.conf, beq_iff_eq, eq_comm]

theorem Ledger.notDummy {s : Option Skb × Wl1271} (h : Ledger c s)
    (hd : wl12xxIsDummyPacket s.2 skb = false) : NotDummy c skb := by
  intro hid
  rw [h.isDummy_iff.mpr hid] at hd
  cases hd

/-- `op_tx` may run while a frame is in hand. -/
theorem ledger_opTx (h : Ledger c (hand, wl)) (hs : NotDummy c skb) :
    Ledger c (hand, wl1271OpTx wl skb) := by
  unfold wl1271OpTx
  split
  · exact ⟨h.conf, ⟨h.slots.frames, h.slots.bound, h.slots.cnt⟩,
      h.counts.congr rfl rfl rfl rfl, h.conserved.refuse skb⟩
  · rename_i l _
    have hcount : CountInv c.dummyPacket none (wl.toTxQueues.enqueue l skb) :=
      h.counts.insert hs (List.perm_append_singleton ..)
    exact ⟨h.conf, ⟨h.slots.frames, h.slots.bound, h.slots.cnt⟩,
      ⟨hcount.count, hcount.queued, h.counts.inHand, hcount.warned⟩, h.conserved.receive l skb⟩

theorem ledger_take (h : Ledger c (none, wl)) (hq : wl.txQueue l q = skb :: rest) :
    Ledger c (some skb,
      { wl with toTxQueues := (wl.toTxQueues.setQueue l q rest).decCount skb.ac }) := by
  refine ⟨h.conf, ⟨h.slots.frames, h.slots.bound, h.slots.cnt⟩, h.counts.take hq, ?_⟩
  refine Conserved.congr (h.conserved.setQueue (some skb) fun s => ?_) rfl rfl rfl rfl rfl
  rw [hq, List.count_cons]
  simp [List.count_cons]

theorem ledger_takeDummy (h : Ledger c (none, wl)) (hp : wl.dummyPacketPending = true) :
    Ledger c (some wl.dummyPacket,
      { wl with
        toTxQueues :=
          { wl.toTxQueues with dummyPacketPending := false }.decCount wl.dummyPacket.ac }) := by
  have hconf : wl.dummyPacket = c.dummyPacket := congrArg Conf.dummyPacket h.conf
  rw [hconf]
  refine ⟨h.conf, ⟨h.slots.frames, h.slots.bound, h.slots.cnt⟩, h.counts.takeDummy hp, ?_⟩
  exact (h.conserved.dummy (some c.dummyPacket) (by simp) (by simp)).congr
    rfl rfl rfl rfl rfl

theorem ledger_putBack (h : Ledger c (some skb, wl))
    (hd : wl12xxIsDummyPacket wl skb = false) (l : Hlid) : Ledger c (none, wl.pushHead l skb) := by
  refine ⟨h.conf, ⟨h.slots.frames, h.slots.bound, h.slots.cnt⟩,
    h.counts.insert (h.notDummy hd) (List.Perm.refl _), ?_⟩
  refine Conserved.congr (h.conserved.setQueue none fun s => ?_) rfl rfl rfl rfl rfl
  simp [List.count_cons]

theorem ledger_pend (h : Ledger c (none, wl)) (hp : wl.dummyPacketPending = false) :
    Ledger c (none, wl.pendDummy wl.dummyPacket) := by
  have hconf : wl.dummyPacket = c.dummyPacket := congrArg Conf.dummyPacket h.conf
  rw [hconf]
  exact ⟨h.conf, ⟨h.slots.frames, h.slots.bound, h.slots.cnt⟩, h.counts.pend hp,
    h.conserved.congr rfl rfl rfl rfl rfl⟩

theorem ledger_pendAgain (h : Ledger c (some skb, wl))
    (hd : wl12xxIsDummyPacket wl skb = true) : Ledger c (none, wl.pendDummy skb) := by
  have hid : skb.id = c.dummyPacket.id := h.isDummy_iff.mp hd
  obtain ⟨rfl, hp⟩ := (h.counts.inHand skb rfl).resolve_left fun hne => hne hid
  refine ⟨h.conf, ⟨h.slots.frames, h.slots.bound, h.slots.cnt⟩, h.counts.pend hp, ?_⟩
  exact (h.conserved.dummy none (by simp) (by simp)).congr rfl rfl rfl rfl rfl

theorem ledger_commit (h : Ledger c (some skb, wl)) {v : Option VifId} {a : TxAlloc}
    (hid : wl1271AllocTxId wl skb = (some a.id, wl')) :
    Ledger c (none, txAllocateCommit wl' v skb l a) := by
  obtain ⟨hfree, rfl⟩ := allocTxId_some hid
  have hnum : wl.numTxDesc = c.numTxDesc := congrArg Conf.numTxDesc h.conf
  have hbit := findFirstZeroBit_some hfree
  rw [hnum] at hbit
  exact ⟨h.conf, h.slots.alloc hbit skb, h.counts.placed.congr rfl rfl rfl rfl,
    h.conserved.alloc (h.slots.frames_none hbit.2)⟩

theorem ledger_release (h : Ledger c (some skb, wl))
    (hid : wl1271AllocTxId wl skb = (some i, wl')) :
    Ledger c (some skb, wl1271FreeTxId wl' i) := by
  obtain ⟨hfree, heq⟩ := allocTxId_some hid
  have hsame : (wl1271FreeTxId wl' i).toTxQueues = wl.toTxQueues := by
    rw [freeTxId_toTxQueues, heq]
    exact h.slots.free_alloc (findFirstZeroBit_some hfree).2 skb
  have hconf : (wl1271FreeTxId wl' i).toConf = c := by
    rw [(wl1271FreeTxId_keep wl' i).conf, heq]
    exact h.conf
  exact ⟨hconf, hsame ▸ h.slots, hsame ▸ h.counts, hsame ▸ h.conserved⟩

theorem ledger_free (h : Ledger c (none, wl)) (hs : wl.txFrames i = some skb) :
    SlotInv c.numTxDesc (wl1271FreeTxId wl i).toTxQueues ∧
      CountInv c.dummyPacket none (wl1271FreeTxId wl i).toTxQueues ∧
      Conserved c.dummyPacket (some skb) (wl1271FreeTxId wl i).toTxQueues := by
  rw [freeTxId_toTxQueues]
  refine ⟨h.slots.free i, ?_, h.conserved.free h.slots hs⟩
  unfold freeSlot
  split_ifs
  · exact h.counts.congr rfl rfl rfl rfl
  · exact h.counts

theorem deferFrame_toTxQueues (wl : Wl1271) (i : TxId) (skb : Skb) :
    (deferFrame wl i skb).toTxQueues =
      { freeSlot wl.toTxQueues i with
        deferredTxQueue := (freeSlot wl.toTxQueues i).deferredTxQueue ++ [skb] } := by
  unfold deferFrame
  rw [freeTxId_toTxQueues]
  unfold freeSlot
  split_ifs <;> rfl

theorem ledger_complete (h : Ledger c (none, wl)) (hs : wl.txFrames i = some skb) :
    Ledger c (none, deferFrame wl i skb) := by
  obtain ⟨hslots, hcounts, hcons⟩ := ledger_free h hs
  rw [freeTxId_toTxQueues] at hslots hcounts hcons
  have hconf : (deferFrame wl i skb).toConf = c := (deferFrame_keep wl i skb).conf.trans h.conf
  refine ⟨hconf, ?_, ?_, ?_⟩ <;> rw [deferFrame_toTxQueues]
  · exact ⟨hslots.frames, hslots.bound, hslots.cnt⟩
  · exact hcounts.congr rfl rfl rfl rfl
  · exact hcons.defer

theorem ledger_completeDummy (h : Ledger c (none, wl)) (hs : wl.txFrames i = some skb)
    (hd : wl12xxIsDummyPacket wl skb = true) : Ledger c (none, wl1271FreeTxId wl i) := by
  obtain ⟨hslots, hcounts, hcons⟩ := ledger_free h hs
  have hid : skb.id = c.dummyPacket.id := h.isDummy_iff.mp hd
  exact ⟨(wl1271FreeTxId_keep wl i).conf.trans h.conf, hslots, hcounts,
    hcons.dummy none (by simpa using hid) (by simp)⟩

theorem ledger_drain (h : Ledger c (hand, wl)) (l : Hlid) :
    Ledger c (hand, drainLinkQueues wl l) := by
  have hid : wl.dummyPacket.id = c.dummyPacket.id := congrArg (fun c => c.dummyPacket.id) h.conf
  refine ⟨h.conf, ⟨h.slots.frames, h.slots.bound, h.slots.cnt⟩, h.counts.drain l _, ?_⟩
  have := h.conserved.drain l fun q => wl.txQueueCount q - (wl.txQueue l q).length
  rw [← hid] at this
  exact this

theorem ledger_flushDeferred (h : Ledger c (none, wl)) :
    Ledger c (none, wl1271FlushDeferredWork wl) :=
  ⟨h.conf, ⟨h.slots.frames, h.slots.bound, h.slots.cnt⟩, h.counts.congr rfl rfl rfl rfl,
    h.conserved.flush⟩

theorem ledger_atom (hP : ∀ skb, P.frame skb → NotDummy c skb) {s s' : Option Skb × Wl1271}
    (hatom : TxAtom P s s') (h : Ledger c s) : Ledger c s' := by
  cases hatom with
  | opTx hp => exact ledger_opTx h (hP _ hp)
  | take hq => exact ledger_take h hq
  | takeDummy hp => exact ledger_takeDummy h hp
  | putBack hd _ => exact ledger_putBack h hd _
  | pendAgain hd => exact ledger_pendAgain h hd
  | pend hp _ => exact ledger_pend h hp
  | drop _ =>
    exact ⟨h.conf, ⟨h.slots.frames, h.slots.bound, h.slots.cnt⟩,
      h.counts.placed.congr rfl rfl rfl rfl, h.conserved.giveBack⟩
  | commit hid _ _ => exact ledger_commit h hid
  | release hid => exact ledger_release h hid
  | busy _ => exact ⟨h.conf, h.slots, h.counts, h.conserved⟩
  | drain l => exact ledger_drain h l
  | complete hs _ => exact ledger_complete h hs
  | completeDummy hs hd => exact ledger_completeDummy h hs hd
  | flushDeferred => exact ledger_flushDeferred h
  | status _ => exact ⟨h.conf, h.slots, h.counts, h.conserved⟩
  | other hk ht _ _ => exact ⟨hk.conf.trans h.conf, ht ▸ h.slots, ht ▸ h.counts, ht ▸ h.conserved⟩

/-- The ledger is kept by every function of the data path. -/
theorem ledger_reach (hP : ∀ skb, P.frame skb → NotDummy c skb) {s s' : Option Skb × Wl1271}
    (hreach : Reach P s s') (h : Ledger c s) : Ledger c s' :=
  hreach.invariant (fun _ _ => ledger_atom hP) h

end

end TiWlan.Tx
