import TiWlan.Tx.Conservation

/-!
# The table of Tx identifiers

`wl1271_alloc_tx_id` and `wl1271_free_tx_id` (`wlcore/tx.c`, lines 61–84) keep a bitmap,
an array of frames and a counter. The ids come back from the firmware in the results of
`wl1271_tx_complete_packet` (lines 838–929) and in the status bytes of
`wl18xx_tx_complete_packet` (`wl18xx/tx.c`, lines 31–93), in any order and
multiplicity; `wl12xx_tx_reset` (lines 1030–1083) empties the table.

A run keeps three lists next to the driver: the frames for which `wl1271_tx_allocate`
succeeded, those that a completion appended to `deferred_tx_queue`, and those that a
reset took out of the table. Everything else in the driver may change between the
operations.

Main results:

* `allocated_table`, `Completion` and `wl12xxTxReset_table`: what each operation
  does to the table;
* `txTable_run`: in every run the bitmap, the array and the counter agree, and each frame
  other than the dummy packet is in as many slots as it was allocated and neither
  completed nor reset.
-/

namespace TiWlan.Tx

open TiWlan.Driver TiWlan.Lib
open Function (update)

variable {skb : Skb} {i : TxId} {t t' : TxQueues} {wl : Wl1271} {n : ℕ}

/-! ## The operations on the table -/

/-- The two states have the same table. -/
structure SameTable (t t' : TxQueues) : Prop where
  map : t'.txFramesMap = t.txFramesMap
  frames : t'.txFrames = t.txFrames
  cnt : t'.txFramesCnt = t.txFramesCnt

theorem SameTable.of_eq (h : t' = t) : SameTable t t' := by
  subst h
  exact ⟨rfl, rfl, rfl⟩

theorem SameTable.slotInv (h : SameTable t t') (hs : SlotInv n t) : SlotInv n t' := by
  refine ⟨?_, ?_, ?_⟩
  · rw [h.map, h.frames]
    exact hs.frames
  · rw [h.map]
    exact hs.bound
  · rw [h.cnt, usedSlots, h.map]
    exact hs.cnt

/-- `wl1271_tx_allocate` puts the frame into a free slot, or leaves the table alone. -/
theorem allocated_table {r : Except Errno TxAlloc × Wl1271} {v : Option VifId} {skb : Skb}
    {extra off : ℕ} {h : Hlid} {gem : Bool} (hpath : TxAllocated wl v skb extra off h gem r)
    (hs : SlotInv wl.numTxDesc wl.toTxQueues) :
    (∃ a wl', r = (.ok a, wl') ∧ (a.id.val < wl.numTxDesc ∧ wl.txFramesMap a.id = false) ∧
        wl'.toTxQueues = allocSlot wl.toTxQueues a.id skb) ∨
      ∃ e wl', r = (.error e, wl') ∧ wl'.toTxQueues = wl.toTxQueues := by
  cases hpath with
  | full | noId => exact Or.inr ⟨_, _, rfl, rfl⟩
  | handed _ hid => exact Or.inl ⟨_, _, rfl, findFirstZeroBit_some hid, rfl⟩
  | noBlocks _ hid =>
    -- the claim of the id is undone
    refine Or.inr ⟨_, _, rfl, ?_⟩
    rw [freeTxId_toTxQueues]
    exact hs.free_alloc (findFirstZeroBit_some hid).2 skb

/-- What a completion does to the frames: nothing, release the dummy packet, or hand the
frame of a slot to `deferred_tx_queue` and free the slot. -/
inductive Completion (d : Skb) (t : TxQueues) : TxQueues → Prop
  | ignored : Completion d t t
  | dummy {i : TxId} {skb : Skb} (hi : t.txFrames i = some skb) (hd : skb.id = d.id) :
      Completion d t (freeSlot t i)
  | deferred {i : TxId} {skb : Skb} (hi : t.txFrames i = some skb) (hd : skb.id ≠ d.id) :
      Completion d t
        (freeSlot { t with deferredTxQueue := t.deferredTxQueue ++ [skb] } i)

theorem Completion.slotInv {d : Skb} (h : Completion d t t') (hs : SlotInv n t) : SlotInv n t' := by
  cases h with
  | ignored => exact hs
  | dummy hi hd => exact hs.free _
  | @deferred i skb hi hd =>
    -- the queue that grows is no part of the table
    have hgrown : SlotInv n { t with deferredTxQueue := t.deferredTxQueue ++ [skb] } :=
      ⟨hs.frames, hs.bound, hs.cnt⟩
    exact hgrown.free i

/-- Both completion functions end the same way once the slot is known. -/
theorem completion_of_slot {wl₁ : Wl1271} (hi : wl.txFrames i = some skb)
    (ht : wl₁.toTxQueues = wl.toTxQueues) :
    Completion wl.dummyPacket wl.toTxQueues
      (if wl12xxIsDummyPacket wl skb then wl1271FreeTxId wl i
        else deferFrame wl₁ i skb).toTxQueues := by
  unfold wl12xxIsDummyPacket
  split
  · rename_i hd
    rw [freeTxId_toTxQueues]
    exact .dummy hi (beq_iff_eq.mp hd).symm
  · rename_i hd
    rw [deferFrame, freeTxId_toTxQueues]
    show Completion _ _ (freeSlot { wl₁.toTxQueues with
      deferredTxQueue := wl₁.toTxQueues.deferredTxQueue ++ [skb] } i)
    rw [ht]
    exact .deferred hi fun heq => hd (beq_iff_eq.mpr heq.symm)

theorem wl1271TxCompletePacket_table (wl : Wl1271) (r : TxResult) :
    Completion wl.dummyPacket wl.toTxQueues (wl1271TxCompletePacket wl r).toTxQueues := by
  unfold wl1271TxCompletePacket
  split
  · exact .ignored
  · rename_i i skb hi
    exact completion_of_slot (completedFrame_some hi) (completeVif_parts wl r skb).1

theorem wl18xxTxCompletePacket_table (wl : Wl1271) (txStatByte : ℕ) :
    Completion wl.dummyPacket wl.toTxQueues
      (wl18xxTxCompletePacket wl txStatByte).toTxQueues := by
  unfold wl18xxTxCompletePacket
  split
  · exact .ignored
  · rename_i i skb hi
    exact completion_of_slot (completedFrame_some hi) rfl

theorem resetSlot_sameTable_of_none {c : Conf} (hi : t.txFrames i = none) :
    resetSlot c t i = t := by
  unfold resetSlot
  rw [hi]
  split <;> rfl

/-- One slot of the reset is freed. -/
theorem resetSlot_sameTable {c : Conf} (hs : SlotInv c.numTxDesc t) (i : TxId) :
    SameTable (freeSlot t i) (resetSlot c t i) := by
  cases hi : t.txFrames i with
  | none =>
    have hmap : t.txFramesMap i = false := by
      rw [hs.frames, hi]
      rfl
    rw [resetSlot_sameTable_of_none hi, freeSlot, hmap]
    exact ⟨rfl, rfl, rfl⟩
  | some skb =>
    have hmap : t.txFramesMap i = true := by
      rw [hs.frames, hi]
      rfl
    unfold resetSlot
    rw [if_pos (hs.bound i hmap), hi]
    dsimp only
    split <;> exact ⟨rfl, rfl, rfl⟩

theorem txFrames_freeSlot (hs : SlotInv n t) (i : TxId) :
    (freeSlot t i).txFrames = update t.txFrames i none := by
  unfold freeSlot
  split
  · rfl
  · rename_i hmap
    have hnone := hs.frames_none (Bool.not_eq_true _ ▸ hmap)
    rw [← hnone, Function.update_eq_self]

/-- The loop of `wl12xx_tx_reset` keeps the table consistent and empties its slots. -/
theorem foldl_txResetSlot_table (is : List TxId) (hs : SlotInv wl.numTxDesc wl.toTxQueues) :
    SlotInv wl.numTxDesc (is.foldl txResetSlot wl).toTxQueues ∧
      ∀ j, j ∈ is ∨ wl.txFrames j = none → (is.foldl txResetSlot wl).txFrames j = none := by
  induction is generalizing wl with
  | nil => exact ⟨hs, fun j hj => hj.resolve_left (by simp)⟩
  | cons i is ih =>
    have hstep : SameTable (freeSlot wl.toTxQueues i) (txResetSlot wl i).toTxQueues := by
      rw [txResetSlot_toTxQueues]
      exact resetSlot_sameTable hs i
    have hnum : (txResetSlot wl i).numTxDesc = wl.numTxDesc :=
      congrArg Conf.numTxDesc (txResetSlot_keep wl i).conf
    obtain ⟨hslots, hnone⟩ := ih (hnum ▸ hstep.slotInv (hs.free i))
    refine ⟨hnum ▸ hslots, fun j hj => hnone j ?_⟩
    have hframes : (txResetSlot wl i).txFrames = update wl.txFrames i none :=
      hstep.frames.trans (txFrames_freeSlot hs i)
    by_cases hji : j = i
    · right
      rw [hframes, hji, Function.update_self]
    · rcases hj with hmem | hj
      · exact Or.inl ((List.mem_cons.mp hmem).resolve_left hji)
      · right
        rw [hframes, Function.update_of_ne hji]
        exact hj

theorem txResetQueues_sameTable (wl : Wl1271) :
    SameTable wl.toTxQueues (txResetQueues wl).toTxQueues := by
  obtain ⟨_, _, _, _, heq⟩ := txResetQueues_frame wl
  rw [heq]
  exact ⟨rfl, rfl, rfl⟩

/-- `wl12xx_tx_reset` empties the table. -/
theorem wl12xxTxReset_table (hs : SlotInv wl.numTxDesc wl.toTxQueues) :
    SlotInv wl.numTxDesc (wl12xxTxReset wl).toTxQueues ∧
      ∀ i, (wl12xxTxReset wl).txFrames i = none := by
  have hnum : (txResetQueues wl).numTxDesc = wl.numTxDesc :=
    congrArg Conf.numTxDesc (txResetQueues_keep wl).conf
  have hlow : SlotInv (wl1271HandleTxLowWatermark (txResetQueues wl)).numTxDesc
      (wl1271HandleTxLowWatermark (txResetQueues wl)).toTxQueues := by
    have := (txResetQueues_sameTable wl).slotInv hs
    rw [← hnum] at this
    exact this
  unfold wl12xxTxReset
  obtain ⟨hslots, hnone⟩ := foldl_txResetSlot_table (List.finRange 32) hlow
  refine ⟨?_, fun i => hnone i (Or.inl (List.mem_finRange i))⟩
  rw [← hnum]
  exact hslots

/-! ## Runs -/

/-- The driver and the frames that entered and left its table. -/
structure TableSys where
  wl : Wl1271
  /-- the frames for which `wl1271_tx_allocate` succeeded -/
  allocated : List Skb
  /-- the frames that a completion appended to `deferred_tx_queue` -/
  completed : List Skb
  /-- the frames that `wl12xx_tx_reset` took out of the table -/
  reset : List Skb

/-- The operations on the table, and any change to the rest of the driver. -/
inductive TableOp
  | txAllocate (wlvif : Option VifId) (skb : Skb) (extra bufOffset : ℕ) (h : Hlid) (isGem : Bool)
  | completePacket (r : TxResult)
  | completePacket18xx (txStatByte : ℕ)
  | txReset
  | other (x : Wl1271)

/-- The frames in the table, by slot. -/
def framesInTable (wl : Wl1271) : List Skb := (List.finRange 32).filterMap wl.txFrames

/-- What a completion appended to `deferred_tx_queue`. -/
def TableSys.complete (s : TableSys) (wl' : Wl1271) : TableSys :=
  { s with
    wl := wl'
    completed := s.completed ++ wl'.deferredTxQueue.drop s.wl.deferredTxQueue.length }

/-- Perform one operation. -/
def tableStep (s : TableSys) : TableOp → TableSys
  | .txAllocate v skb extra off h gem =>
    match wl1271TxAllocate s.wl v skb extra off h gem with
    | (.ok _, wl) => { s with wl := wl, allocated := s.allocated ++ [skb] }
    | (.error _, wl) => { s with wl := wl }
  | .completePacket r => s.complete (wl1271TxCompletePacket s.wl r)
  | .completePacket18xx b => s.complete (wl18xxTxCompletePacket s.wl b)
  | .txReset => { s with wl := wl12xxTxReset s.wl, reset := s.reset ++ framesInTable s.wl }
  | .other x =>
    { s with
      wl := { x with
        toConf := s.wl.toConf
        txFramesMap := s.wl.txFramesMap
        txFrames := s.wl.txFrames
        txFramesCnt := s.wl.txFramesCnt } }

/-- A freshly probed driver. -/
def tableStart (c : Conf) : TableSys :=
  { wl := wlcoreProbe c, allocated := [], completed := [], reset := [] }

/-- The number of times the buffer at address `a` is in a list. -/
def copiesOf (a : ℕ) (l : List Skb) : ℕ := l.countP fun skb => skb.id == a

/-- The number of slots that hold the buffer at address `a`. -/
def slotsOf (t : TxQueues) (a : ℕ) : ℕ := ∑ i, copiesOf a (t.txFrames i).toList

@[simp] theorem copiesOf_nil (a : ℕ) : copiesOf a [] = 0 := rfl

theorem copiesOf_append (a : ℕ) (l l' : List Skb) :
    copiesOf a (l ++ l') = copiesOf a l + copiesOf a l' :=
  List.countP_append

theorem slotsOf_allocSlot (hi : t.txFrames i = none) (skb : Skb) (a : ℕ) :
    slotsOf (allocSlot t i skb) a = slotsOf t a + copiesOf a [skb] := by
  have hsum := sum_update_add t.txFrames i (some skb) fun f => copiesOf a f.toList
  simp only [hi, Option.toList_none, Option.toList_some, copiesOf_nil, add_zero] at hsum
  exact hsum

theorem slotsOf_freeSlot (hs : SlotInv n t) (hi : t.txFrames i = some skb) (a : ℕ) :
    slotsOf (freeSlot t i) a + copiesOf a [skb] = slotsOf t a := by
  have hsum := sum_update_add t.txFrames i none fun f => copiesOf a f.toList
  simp only [hi, Option.toList_none, Option.toList_some, copiesOf_nil, add_zero,
    ← txFrames_freeSlot hs i] at hsum
  exact hsum

theorem slotsOf_eq_framesInTable (wl : Wl1271) (a : ℕ) :
    copiesOf a (framesInTable wl) = slotsOf wl.toTxQueues a := by
  have hlist (is : List TxId) : copiesOf a (is.filterMap wl.txFrames) =
      (is.map fun i => copiesOf a (wl.txFrames i).toList).sum := by
    induction is with
    | nil => rfl
    | cons i is ih =>
      rw [List.map_cons, List.sum_cons, ← ih, List.filterMap_cons]
      cases wl.txFrames i with
      | none => exact (Nat.zero_add _).symm
      | some skb => exact copiesOf_append a [skb] _
  rw [framesInTable, hlist, slotsOf, ← Fin.sum_univ_def]

theorem slotsOf_eq_zero (h : ∀ i, t.txFrames i = none) (a : ℕ) : slotsOf t a = 0 := by
  refine Finset.sum_eq_zero fun i _ => ?_
  rw [h i]
  rfl

/-- The table is consistent, and every frame other than the dummy packet is in as many slots
as it was allocated and neither completed nor reset. -/
structure TableInv (c : Conf) (s : TableSys) : Prop where
  conf : s.wl.toConf = c
  slots : SlotInv c.numTxDesc s.wl.toTxQueues
  balance : ∀ a, a ≠ c.dummyPacket.id →
    slotsOf s.wl.toTxQueues a + copiesOf a s.completed + copiesOf a s.reset =
      copiesOf a s.allocated

theorem tableStart_inv (c : Conf) : TableInv c (tableStart c) where
  conf := rfl
  slots := ⟨fun _ => rfl, fun _ h => Bool.noConfusion h, by
    simp [usedSlots, tableStart, wlcoreProbe]⟩
  balance a _ := by
    rw [slotsOf_eq_zero fun _ => rfl]
    rfl

variable {c : Conf} {s : TableSys}

theorem TableInv.slots' (h : TableInv c s) : SlotInv s.wl.numTxDesc s.wl.toTxQueues := by
  rw [h.conf]
  exact h.slots

theorem TableInv.txAllocate (hinv : TableInv c s) (v : Option VifId) (skb : Skb) (extra off : ℕ)
    (h : Hlid) (gem : Bool) : TableInv c (tableStep s (.txAllocate v skb extra off h gem)) := by
  have hconf := (wl1271TxAllocate_keep s.wl v skb extra off h gem).conf.trans hinv.conf
  rcases allocated_table (wl1271TxAllocate_path s.wl v skb extra off h gem) hinv.slots' with
    ⟨a, wl', heq, hfree, ht⟩ | ⟨e, wl', heq, ht⟩
  · rw [hinv.conf] at hfree
    rw [heq] at hconf
    rw [tableStep, heq]
    refine ⟨hconf, ?_, fun b hb => ?_⟩
    · show SlotInv _ wl'.toTxQueues
      rw [ht]
      exact hinv.slots.alloc hfree skb
    · have hbal := hinv.balance b hb
      have hslots := slotsOf_allocSlot (hinv.slots.frames_none hfree.2) skb b
      show slotsOf wl'.toTxQueues b + _ + _ = copiesOf b (s.allocated ++ [skb])
      rw [ht, copiesOf_append]
      dsimp only
      omega
  · rw [heq] at hconf
    rw [tableStep, heq]
    refine ⟨hconf, ?_, ?_⟩
    · show SlotInv _ wl'.toTxQueues
      rw [ht]
      exact hinv.slots
    · show ∀ b, _ → slotsOf wl'.toTxQueues b + _ + _ = _
      rw [ht]
      exact hinv.balance

/-- A completion moves at most one frame, from its slot to `deferred_tx_queue`. -/
theorem TableInv.complete (h : TableInv c s) {wl' : Wl1271} (hconf : wl'.toConf = c)
    (hc : Completion s.wl.dummyPacket s.wl.toTxQueues wl'.toTxQueues) :
    TableInv c (s.complete wl') := by
  have hid : s.wl.dummyPacket = c.dummyPacket := congrArg Conf.dummyPacket h.conf
  suffices hmove : ∀ a, a ≠ c.dummyPacket.id →
      slotsOf wl'.toTxQueues a +
          copiesOf a (wl'.toTxQueues.deferredTxQueue.drop s.wl.deferredTxQueue.length) =
        slotsOf s.wl.toTxQueues a by
    refine ⟨hconf, hc.slotInv h.slots, fun a ha => ?_⟩
    have hbal := h.balance a ha
    have := hmove a ha
    show _ + copiesOf a (s.completed ++ _) + _ = _
    rw [copiesOf_append]
    dsimp only [TableSys.complete]
    omega
  intro a ha
  generalize wl'.toTxQueues = t at hc
  cases hc with
  | ignored => rw [List.drop_length, copiesOf_nil, add_zero]
  | @dummy i skb hi hd =>
    have hslots := slotsOf_freeSlot h.slots hi a
    have hother : copiesOf a [skb] = 0 := by
      rw [copiesOf, List.countP_singleton, hd, hid, if_neg]
      simpa using ha.symm
    have hdefer : (freeSlot s.wl.toTxQueues i).deferredTxQueue = s.wl.deferredTxQueue := by
      unfold freeSlot
      split <;> rfl
    rw [hdefer, List.drop_length, copiesOf_nil]
    omega
  | @deferred i skb hi hd =>
    have hgrown : SlotInv c.numTxDesc
        { s.wl.toTxQueues with deferredTxQueue := s.wl.deferredTxQueue ++ [skb] } :=
      ⟨h.slots.frames, h.slots.bound, h.slots.cnt⟩
    have hslots := slotsOf_freeSlot hgrown hi a
    have hdefer : (freeSlot { s.wl.toTxQueues with
        deferredTxQueue := s.wl.deferredTxQueue ++ [skb] } i).deferredTxQueue =
          s.wl.deferredTxQueue ++ [skb] := by
      unfold freeSlot
      split <;> rfl
    rw [hdefer, List.drop_left, hslots]
    rfl

theorem TableInv.txReset (h : TableInv c s) : TableInv c (tableStep s .txReset) := by
  obtain ⟨hslots, hnone⟩ := wl12xxTxReset_table h.slots'
  rw [h.conf] at hslots
  refine ⟨(wl12xxTxReset_keep s.wl).conf.trans h.conf, hslots, fun a ha => ?_⟩
  have hbal := h.balance a ha
  show slotsOf (wl12xxTxReset s.wl).toTxQueues a + _ + copiesOf a (s.reset ++ _) = _
  rw [slotsOf_eq_zero hnone, copiesOf_append, slotsOf_eq_framesInTable]
  dsimp only [tableStep]
  omega

/-- Every operation keeps the table invariant. -/
theorem tableStep_inv (h : TableInv c s) (op : TableOp) : TableInv c (tableStep s op) := by
  cases op with
  | txAllocate v skb extra off l gem => exact h.txAllocate v skb extra off l gem
  | completePacket r =>
    exact h.complete ((wl1271TxCompletePacket_keep s.wl r).conf.trans h.conf)
      (wl1271TxCompletePacket_table s.wl r)
  | completePacket18xx b =>
    exact h.complete ((wl18xxTxCompletePacket_keep s.wl b).conf.trans h.conf)
      (wl18xxTxCompletePacket_table s.wl b)
  | txReset => exact h.txReset
  | other x =>
    exact ⟨h.conf, ⟨h.slots.frames, h.slots.bound, h.slots.cnt⟩, h.balance⟩

theorem usedSlots_eq_card (t : TxQueues) :
    usedSlots t = (Finset.univ.filter fun i => t.txFramesMap i = true).card := by
  rw [usedSlots, Finset.card_filter]
  refine Finset.sum_congr rfl fun i _ => ?_
  cases t.txFramesMap i <;> rfl

/-- What holds of the table. A frame other than the dummy packet holds one id for each
allocation that was neither completed nor reset, so that no allocation reuses the id of a
frame in flight; in particular a frame that was allocated once is deferred at most once. -/
structure TableOk (c : Conf) (s : TableSys) : Prop where
  /-- the counter is the number of set bits -/
  cnt : s.wl.txFramesCnt = (Finset.univ.filter fun i => s.wl.txFramesMap i = true).card
  /-- a bit is set exactly if its slot holds a frame -/
  frames : ∀ i, s.wl.txFramesMap i = true ↔ s.wl.txFrames i ≠ none
  /-- only bits below `num_tx_desc` are set -/
  bound : ∀ i, s.wl.txFramesMap i = true → i.val < c.numTxDesc
  ids : ∀ a, a ≠ c.dummyPacket.id →
    slotsOf s.wl.toTxQueues a + copiesOf a s.completed + copiesOf a s.reset =
      copiesOf a s.allocated
  once : ∀ a, a ≠ c.dummyPacket.id → copiesOf a s.allocated ≤ 1 →
    slotsOf s.wl.toTxQueues a + copiesOf a s.completed ≤ 1

/-- The table is in order in every state of a run of allocations, completions with arbitrary
ids and resets. -/
theorem txTable_run (c : Conf) (ops : List TableOp) :
    TableOk c (run tableStep (tableStart c) ops) := by
  have hstep (s : TableSys) (op : TableOp) (_ : op ∈ ops) (h : TableInv c s) :
      TableInv c (tableStep s op) := tableStep_inv h op
  have hinv := run_induction_mem hstep (tableStart_inv c)
  refine ⟨?_, fun i => ?_, hinv.slots.bound, hinv.balance, fun a ha hone => ?_⟩
  · rw [← usedSlots_eq_card]
    exact hinv.slots.cnt
  · rw [hinv.slots.frames, Option.isSome_iff_ne_none]
  · have hbal := hinv.balance a ha
    omega

end TiWlan.Tx
