import TiWlan.Driver.Irq
import TiWlan.Driver.Lifecycle
import TiWlan.Driver.TxRings
import TiWlan.Lib.Ring
import TiWlan.Lib.Run

/-!
# Completions are processed once and in order

For the two completion rings of `Driver/TxRings.lean`:

* `immediateCalls_eq`, `txCompleteLoop_eq`: closed forms of the two loops, with the entries that
  they pass on, and that they are the functions of `Driver/TxStatus.lean`;
* `ReleaseInv`, `ResultInv`: what holds in every state of a run;
* `completions_exactly_once`: the entries passed on are those that the firmware wrote, once and in
  the order in which it wrote them.
-/

namespace TiWlan.Tx

open TiWlan.Driver TiWlan.Lib
open Function (update)

/-! ## wl18xx -/

section
variable {idx : ℕ} {released : ℕ → ℕ}

theorem release_distance {i : ℕ} (hidx : idx < 33) {m : ℕ}
    (hm : (idx + 33 - i) % 33 = m + 1) :
    i ≠ idx ∧ (idx + 33 - (i + 1) % 33) % 33 = m := by
  omega

/-- The loop takes one test for each entry and one to end. -/
theorem releaseWhile_eq (hidx : idx < 33) (m : ℕ) {i fuel : ℕ} (hi : i < 33)
    (hm : (idx + 33 - i) % 33 = m) (hfuel : m < fuel) (wl : Wl1271) :
    wl18xxReleaseWhile idx released fuel i wl =
      some (ringRead 33 released i m, wl18xxReleaseLoop released m i wl) := by
  induction m generalizing i fuel wl with
  | zero =>
    obtain ⟨fuel, rfl⟩ : ∃ k, fuel = k + 1 := ⟨fuel - 1, by omega⟩
    have heq : i = idx := by omega
    rw [wl18xxReleaseWhile, if_pos heq]
    rfl
  | succ m ih =>
    obtain ⟨fuel, rfl⟩ : ∃ k, fuel = k + 1 := ⟨fuel - 1, by omega⟩
    obtain ⟨hne, hnext⟩ := release_distance hidx hm
    have hm' : m < fuel := by omega
    have hrest := ih (Nat.mod_lt (i + 1) (by decide)) hnext hm' (wl18xxRelease wl (released i))
    rw [wl18xxReleaseWhile, if_neg hne, hrest, Option.map_some, ringRead_succ, ringRead_mod,
      Nat.mod_eq_of_lt hi]
    rfl

/-- The entries that `wl18xx_tx_immediate_complete` passes on. -/
def releaseCalls (last idx : ℕ) (released : ℕ → ℕ) : List ℕ :=
  if idx < 33 then ringRead 33 released last ((idx + 33 - last) % 33) else []

/-- Whatever index the firmware reports, 33 tests of the loop are enough. -/
theorem immediateCalls_eq {wl : Wl1271} (hlast : wl.lastFwRlsIdx < 33) (idx : ℕ)
    (released : ℕ → ℕ) :
    wl18xxTxImmediateCalls 33 wl idx released =
      some (releaseCalls wl.lastFwRlsIdx idx released,
        wl18xxTxImmediateComplete wl idx released) := by
  unfold wl18xxTxImmediateCalls wl18xxTxImmediateComplete releaseCalls
  by_cases heq : wl.lastFwRlsIdx = idx
  · have hzero : (idx + 33 - wl.lastFwRlsIdx) % 33 = 0 := by omega
    rw [if_pos heq, if_pos heq, hzero]
    split <;> rfl
  · rw [if_neg heq, if_neg heq]
    by_cases hidx : idx < 33
    · have hdist : (idx + 33 - wl.lastFwRlsIdx) % 33 < 33 := Nat.mod_lt _ (by decide)
      have hvalid : ¬33 ≤ idx := by omega
      rw [if_neg hvalid, if_neg hvalid, if_pos hidx, releaseWhile_eq hidx _ hlast rfl hdist wl]
      rfl
    · have hinvalid : 33 ≤ idx := by omega
      rw [if_pos hinvalid, if_pos hinvalid, if_neg hidx]

theorem immediateComplete_last (wl : Wl1271) (idx : ℕ) (released : ℕ → ℕ) :
    (wl18xxTxImmediateComplete wl idx released).lastFwRlsIdx =
      if idx < 33 then idx else wl.lastFwRlsIdx := by
  unfold wl18xxTxImmediateComplete
  split_ifs with heq hge
  · exact heq
  · rfl
  · omega
  · rfl
  · rfl
  · omega

end

/-- A run of the wl18xx ring that began at position `c`. -/
structure ReleaseInv (c : ℕ) (s : ReleaseRing) : Prop where
  fwIdx : s.fwReleaseIdx = (c + s.written.length) % 33
  ring : RingHolds 33 c s.releasedTxDesc s.written
  read_le : s.writtenAtRead ≤ s.written.length
  le_read : s.written.length ≤ s.writtenAtRead + 32
  lastIdx : s.wl.lastFwRlsIdx = (c + s.writtenAtRead) % 33
  processed : s.processed = s.written.take s.writtenAtRead

theorem start_releaseInv (wl : Wl1271) (c : ℕ) (ring : ℕ → ℕ) :
    ReleaseInv c (ReleaseRing.start wl c ring) :=
  ⟨rfl, .nil, le_rfl, Nat.zero_le _, rfl, rfl⟩

section
variable {c : ℕ} {s : ReleaseRing}

theorem ReleaseInv.release (h : ReleaseInv c s) (txStatByte : ℕ)
    (hfw : s.written.length < s.writtenAtRead + 32) :
    ReleaseInv c (s.step (.release txStatByte)) := by
  have hring := h.ring.write txStatByte
  have hread := h.read_le
  rw [← h.fwIdx] at hring
  constructor
  · show (s.fwReleaseIdx + 1) % 33 = _
    simp only [ReleaseRing.step, List.length_append, List.length_singleton, h.fwIdx]
    omega
  · exact hring
  · simp only [ReleaseRing.step, List.length_append, List.length_singleton]
    omega
  · simp only [ReleaseRing.step, List.length_append, List.length_singleton]
    omega
  · exact h.lastIdx
  · simp only [ReleaseRing.step]
    rw [List.take_append_of_le_length hread]
    exact h.processed

/-- A call processes what was written since the last one. -/
theorem ReleaseInv.complete_eq (h : ReleaseInv c s) :
    s.step .complete = { s with
      wl := wl18xxTxImmediateComplete s.wl s.fwReleaseIdx s.releasedTxDesc
      processed := s.written, writtenAtRead := s.written.length } := by
  have hlast : s.wl.lastFwRlsIdx < 33 := by rw [h.lastIdx]; exact Nat.mod_lt _ (by decide)
  have hidx : s.fwReleaseIdx < 33 := by rw [h.fwIdx]; exact Nat.mod_lt _ (by decide)
  have hle := h.le_read
  have hdist : (s.fwReleaseIdx + 33 - s.wl.lastFwRlsIdx) % 33 =
      s.written.length - s.writtenAtRead := by
    rw [h.fwIdx, h.lastIdx]
    exact ring_distance (by decide) h.read_le (by omega)
  have hcalls : releaseCalls s.wl.lastFwRlsIdx s.fwReleaseIdx s.releasedTxDesc =
      s.written.drop s.writtenAtRead := by
    rw [releaseCalls, if_pos hidx, hdist, h.lastIdx, ringRead_mod]
    exact h.ring.read (by omega)
  have hall : s.processed ++ s.written.drop s.writtenAtRead = s.written := by
    rw [h.processed, List.take_append_drop]
  simp only [ReleaseRing.step, immediateCalls_eq hlast, hcalls, hall]

theorem ReleaseInv.complete (h : ReleaseInv c s) : ReleaseInv c (s.step .complete) := by
  have hidx : s.fwReleaseIdx < 33 := by rw [h.fwIdx]; exact Nat.mod_lt _ (by decide)
  rw [h.complete_eq]
  refine ⟨h.fwIdx, h.ring, le_rfl, Nat.le_add_right _ _, ?_, (List.take_length).symm⟩
  show (wl18xxTxImmediateComplete s.wl s.fwReleaseIdx s.releasedTxDesc).lastFwRlsIdx = _
  rw [immediateComplete_last, if_pos hidx]
  exact h.fwIdx

theorem ReleaseInv.step (h : ReleaseInv c s) {a : ReleaseRing.Act} (ha : s.FwAllowed a) :
    ReleaseInv c (s.step a) := by
  cases a with
  | release txStatByte => exact h.release txStatByte ha
  | complete => exact h.complete
  | other wl => exact ⟨h.fwIdx, h.ring, h.read_le, h.le_read, h.lastIdx, h.processed⟩

end

/-! ## wl12xx -/

section
variable {queue : ℕ → TxResult}

/-- The results passed on from position `n` on, and the counter after them. -/
theorem txCompleteLoop_eq (count n : ℕ) (wl : Wl1271)
    (hwl : wl.txResultsCount = n % 2 ^ 32) :
    (txCompleteLoop queue count wl).1 = ringRead 16 queue n count ∧
      (txCompleteLoop queue count wl).2.txResultsCount = (n + count) % 2 ^ 32 := by
  induction count generalizing n wl with
  | zero => exact ⟨rfl, hwl⟩
  | succ count ih =>
    have hslot : wl.txResultsCount % 16 = n % 16 := by omega
    have hnext : u32 (wl.txResultsCount + 1) = (n + 1) % 2 ^ 32 := by
      unfold u32
      omega
    obtain ⟨hcalls, hcount⟩ := ih (n + 1) { wl1271TxCompletePacket wl
      (queue (wl.txResultsCount % 16)) with txResultsCount := u32 (wl.txResultsCount + 1) } hnext
    constructor
    · rw [txCompleteLoop, ringRead_succ, hcalls, hslot]
    · rw [txCompleteLoop, hcount]
      omega

theorem txCompleteLoop_driver (count : ℕ) (wl : Wl1271) :
    (txCompleteLoop queue count wl).2 = (List.range count).foldl (fun wl _ =>
      let wl' := wl1271TxCompletePacket wl (queue (wl.txResultsCount % 16))
      { wl' with txResultsCount := u32 (wl.txResultsCount + 1) }) wl := by
  rw [List.foldl_const, List.length_range]
  induction count generalizing wl with
  | zero => rfl
  | succ count ih =>
    rw [Function.iterate_succ_apply, ← ih]
    rfl

end

/-- A run of the wl12xx ring that began with the counters at `c`. -/
structure ResultInv (c : ℕ) (s : ResultRing) : Prop where
  fwCounter : s.res.fwCounter = (c + s.written.length) % 2 ^ 32
  ring : RingHolds 16 c s.res.queue s.written
  read_le : s.writtenAtRead ≤ s.written.length
  counter : s.txResultsCounter = (c + s.writtenAtRead) % 256
  count : s.wl.txResultsCount = (c + s.processed.length) % 2 ^ 32
  processed : s.processed <+: s.written
  /-- what the host acknowledged; it is processed unless an access failed -/
  acked : ∃ n, s.res.hostCounter = (c + n) % 2 ^ 32 ∧ n ≤ s.written.length ∧
    s.written.length ≤ n + 16 ∧ (s.failed = false → n = s.processed.length)

theorem start_resultInv (wl : Wl1271) (c : ℕ) (ring : ℕ → TxResult) :
    ResultInv c (ResultRing.start wl c ring) :=
  ⟨rfl, .nil, le_rfl, rfl, rfl, List.nil_prefix, 0, rfl, le_rfl, Nat.zero_le _, fun _ => rfl⟩

section
variable {c : ℕ} {s : ResultRing}

theorem ResultInv.result (h : ResultInv c s) (r : TxResult)
    (hfw : u32 ((s.res.fwCounter : ℤ) - s.res.hostCounter) < 16) :
    ResultInv c (s.step (.result r)) := by
  obtain ⟨n, hhost, hle, hn, hfailed⟩ := h.acked
  have hread := h.read_le
  have hslot : s.res.fwCounter % 16 = (c + s.written.length) % 16 := by
    rw [h.fwCounter]
    omega
  -- the unacknowledged results are those after the first `n`
  have hroom : s.written.length < n + 16 := by
    obtain ⟨d, hd⟩ := Nat.exists_eq_add_of_le hle
    have hdiff := u32_diff (c + n) d (by omega)
    rw [h.fwCounter, hhost, hd, ← Nat.add_assoc, hdiff] at hfw
    omega
  have hring := h.ring.write r
  rw [← hslot] at hring
  constructor
  · show u32 (s.res.fwCounter + 1) = _
    simp only [ResultRing.step, List.length_append, List.length_singleton, h.fwCounter]
    unfold u32
    omega
  · exact hring
  · simp only [ResultRing.step, List.length_append, List.length_singleton]
    omega
  · exact h.counter
  · exact h.count
  · exact h.processed.trans (List.prefix_append _ _)
  · refine ⟨n, hhost, ?_, ?_, hfailed⟩
    · simp only [ResultRing.step, List.length_append, List.length_singleton]
      omega
    · simp only [ResultRing.step, List.length_append, List.length_singleton]
      omega

theorem ResultInv.status (h : ResultInv c s) : ResultInv c (s.step .status) := by
  refine ⟨h.fwCounter, h.ring, le_rfl, ?_, h.count, h.processed, h.acked⟩
  show s.res.fwCounter % 256 = _
  rw [h.fwCounter]
  exact Nat.mod_mod_of_dvd _ (by decide)

/-- Reading the ring processes everything that is not processed yet. -/
theorem ResultInv.complete_eq (h : ResultInv c s) (hok : s.failed = false) :
    s.processed ++ (txCompleteLoop s.res.queue
        (u32 ((s.res.fwCounter : ℤ) - s.wl.txResultsCount)) s.wl).1 = s.written ∧
      (txCompleteLoop s.res.queue
        (u32 ((s.res.fwCounter : ℤ) - s.wl.txResultsCount)) s.wl).2.txResultsCount =
        (c + s.written.length) % 2 ^ 32 := by
  obtain ⟨n, -, hle, hn, hfailed⟩ := h.acked
  obtain rfl := hfailed hok
  obtain ⟨rest, hrest⟩ := h.processed
  have hlen : s.written.length = s.processed.length + rest.length := by
    rw [← hrest, List.length_append]
  have hcount : u32 ((s.res.fwCounter : ℤ) - s.wl.txResultsCount) =
      s.written.length - s.processed.length := by
    have hdiff := u32_diff (c + s.processed.length) rest.length (by omega)
    rw [h.fwCounter, h.count, hlen, ← Nat.add_assoc, hdiff]
    omega
  obtain ⟨hcalls, hend⟩ := txCompleteLoop_eq (s.written.length - s.processed.length) _ _ h.count
  rw [hcount, hcalls, hend]
  constructor
  · rw [h.ring.read hn, ← hrest, List.drop_left]
  · congr 1
    omega

/-- A call that passes nothing on; only if it fails may the host counter have been written. -/
theorem ResultInv.nothing (h : ResultInv c s) (hok : s.failed = false) {host : ℕ} {failed : Bool}
    (hhost : host = s.res.hostCounter ∨ (host = s.res.fwCounter ∧ failed = true)) :
    ResultInv c { s with
      res := { s.res with hostCounter := host }, failed := failed
      processed := s.processed ++ [] } := by
  have hkeep : s.processed ++ [] = s.processed := List.append_nil _
  rw [hkeep]
  refine ⟨h.fwCounter, h.ring, h.read_le, h.counter, h.count, h.processed, ?_⟩
  rcases hhost with hsame | ⟨hacked, hfailed⟩
  · obtain ⟨n, hn⟩ := h.acked
    exact ⟨n, hsame.trans hn.1, hn.2.1, hn.2.2.1, fun _ => hn.2.2.2 hok⟩
  · exact ⟨s.written.length, hacked.trans h.fwCounter, le_rfl, Nat.le_add_right _ _,
      fun hne => by rw [hfailed] at hne; cases hne⟩

theorem ResultInv.delayedCompl (h : ResultInv c s) (env : TxCompleteEnv) :
    ResultInv c (s.step (.delayedCompl env)) := by
  unfold ResultRing.step
  dsimp only
  split
  · exact h
  · rename_i hfailed
    have hok : s.failed = false := by simpa using hfailed
    unfold wl12xxTxDelayedCompl wlcoreTxCompleteCalls
    split_ifs with hsame hread hwrite hack
    · exact h.nothing hok (Or.inl rfl)
    · exact h.nothing hok (Or.inl rfl)
    · exact h.nothing hok (Or.inr ⟨rfl, rfl⟩)
    · exact h.nothing hok (Or.inl rfl)
    · obtain ⟨hall, hcount⟩ := h.complete_eq hok
      dsimp only
      rw [hall]
      exact ⟨h.fwCounter, h.ring, h.read_le, h.counter, hcount, List.prefix_refl _,
        s.written.length, h.fwCounter, le_rfl, Nat.le_add_right _ _, fun _ => rfl⟩

theorem ResultInv.step (h : ResultInv c s) {a : ResultRing.Act} (ha : s.FwAllowed a) :
    ResultInv c (s.step a) := by
  cases a with
  | result r => exact h.result r ha
  | status => exact h.status
  | delayedCompl env => exact h.delayedCompl env
  | other wl =>
    exact ⟨h.fwCounter, h.ring, h.read_le, h.counter, h.count, h.processed, h.acked⟩

/-- A call that succeeds has processed what the firmware had written when the status was read,
although only the low bytes of the counters are compared. -/
theorem ResultInv.delayedCompl_complete (h : ResultInv c s) {env : TxCompleteEnv}
    (hsucc : (s.step (.delayedCompl env)).failed = false) :
    s.writtenAtRead ≤ (s.step (.delayedCompl env)).processed.length := by
  have hread := h.read_le
  have hok : s.failed = false := by
    by_contra hf
    have hstay : s.step (.delayedCompl env) = s := if_pos (by simpa using hf)
    rw [hstay] at hsucc
    exact hf hsucc
  have hstep : s.step (.delayedCompl env) =
      { s with
        wl := (wl12xxTxDelayedCompl s.wl s.txResultsCounter s.res env).wl
        res := (wl12xxTxDelayedCompl s.wl s.txResultsCounter s.res env).res
        failed := !(wl12xxTxDelayedCompl s.wl s.txResultsCounter s.res env).ok
        processed := s.processed ++
          (wl12xxTxDelayedCompl s.wl s.txResultsCounter s.res env).calls } :=
    if_neg (by simp [hok])
  rw [hstep] at hsucc ⊢
  unfold wl12xxTxDelayedCompl wlcoreTxCompleteCalls at hsucc ⊢
  split_ifs at hsucc ⊢ with hsame hbus hwrite
  · -- at most 16 results wait, so equal low bytes mean that none does
    obtain ⟨n, -, hle, hn, hacked⟩ := h.acked
    have hlen := hacked hok
    rw [h.counter, h.count, Nat.mod_mod_of_dvd _ (by decide : 256 ∣ 2 ^ 32)] at hsame
    rw [List.append_nil]
    show s.writtenAtRead ≤ s.processed.length
    by_contra hlt
    exact add_mod_ne (c := c) (n := 256) (Nat.lt_of_not_le hlt) (by omega) hsame.symm
  · cases hsucc
  · cases hsucc
  · cases hsucc
  · dsimp only
    rw [(h.complete_eq hok).1]
    exact hread

end

/-! ## Runs -/

/-- Completion rings are consumed once and in order. On wl18xx the loop ends whatever index the
firmware reports, the driver's index stays below 33, and if the firmware writes at most 32 entries
between two reads then the entries passed on are those written up to the last read. On wl12xx,
with at most 16 unacknowledged results, the results passed on are the first that were written, and
a call that succeeds has passed on all that the status it looks at announces. -/
theorem completions_exactly_once :
    (∀ (wl : Wl1271) (idx : ℕ) (released : ℕ → ℕ), wl.lastFwRlsIdx < 33 →
      ∃ calls wl', wl18xxTxImmediateCalls 33 wl idx released = some (calls, wl') ∧
        wl' = wl18xxTxImmediateComplete wl idx released ∧ wl'.lastFwRlsIdx < 33) ∧
    (∀ (wl : Wl1271) (c : ℕ) (ring : ℕ → ℕ) (acts : List ReleaseRing.Act),
      Along ReleaseRing.step ReleaseRing.FwAllowed (ReleaseRing.start wl c ring) acts →
        let s := run ReleaseRing.step (ReleaseRing.start wl c ring) acts
        s.wl.lastFwRlsIdx < 33 ∧ s.processed <+: s.written ∧
          (s.step .complete).processed = s.written) ∧
    (∀ (wl : Wl1271) (c : ℕ) (ring : ℕ → TxResult) (acts : List ResultRing.Act),
      Along ResultRing.step ResultRing.FwAllowed (ResultRing.start wl c ring) acts →
        let s := run ResultRing.step (ResultRing.start wl c ring) acts
        s.processed <+: s.written ∧
          ∀ env, (s.step (.delayedCompl env)).failed = false →
            s.writtenAtRead ≤ (s.step (.delayedCompl env)).processed.length ∧
              (s.step (.delayedCompl env)).processed <+: s.written) := by
  refine ⟨?_, ?_, ?_⟩
  · intro wl idx released hlast
    refine ⟨_, _, immediateCalls_eq hlast idx released, rfl, ?_⟩
    rw [immediateComplete_last]
    split <;> assumption
  · intro wl c ring acts hfw
    have hstep (s : ReleaseRing) (a : ReleaseRing.Act) (h : ReleaseInv c s) (ha : s.FwAllowed a) :
        ReleaseInv c (s.step a) := h.step ha
    have hinv := Along.induction hstep (start_releaseInv wl c ring) hfw
    refine ⟨?_, ?_, ?_⟩
    · rw [hinv.lastIdx]
      exact Nat.mod_lt _ (by decide)
    · rw [hinv.processed]
      exact List.take_prefix _ _
    · rw [hinv.complete_eq]
  · intro wl c ring acts hfw
    have hstep (s : ResultRing) (a : ResultRing.Act) (h : ResultInv c s) (ha : s.FwAllowed a) :
        ResultInv c (s.step a) := h.step ha
    have hinv := Along.induction hstep (start_resultInv wl c ring) hfw
    refine ⟨hinv.processed, fun env hsucc => ⟨hinv.delayedCompl_complete hsucc, ?_⟩⟩
    have hwritten (s : ResultRing) : (s.step (.delayedCompl env)).written = s.written := by
      unfold ResultRing.step
      dsimp only
      split <;> rfl
    rw [← hwritten]
    exact (hinv.delayedCompl env).processed

/-- Three results, written while the 32-bit counters wrap. -/
def wrapActs : List ResultRing.Act :=
  [.result ⟨7, true, 0⟩, .result ⟨9, false, 0⟩, .result ⟨4, true, 0⟩, .status]

theorem completions_exactly_once_wrap :
    (run ResultRing.step (ResultRing.start (wlcoreProbe (chipConf .wl128x)) (2 ^ 32 - 2)
      fun _ => ⟨0, true, 0⟩) wrapActs).writtenAtRead = 3 ∧
    3 ≤ ((run ResultRing.step (ResultRing.start (wlcoreProbe (chipConf .wl128x)) (2 ^ 32 - 2)
      fun _ => ⟨0, true, 0⟩) wrapActs).step (.delayedCompl {})).processed.length := by
  have hfw : Along ResultRing.step ResultRing.FwAllowed
      (ResultRing.start (wlcoreProbe (chipConf .wl128x)) (2 ^ 32 - 2) fun _ => ⟨0, true, 0⟩)
      wrapActs :=
    ⟨by show u32 _ < 16; decide +kernel, by show u32 _ < 16; decide +kernel,
      by show u32 _ < 16; decide +kernel, trivial, trivial⟩
  have hall := (completions_exactly_once.2.2 _ _ _ _ hfw).2 {} (by decide +kernel)
  have hread : (run ResultRing.step (ResultRing.start (wlcoreProbe (chipConf .wl128x)) (2 ^ 32 - 2)
      fun _ => ⟨0, true, 0⟩) wrapActs).writtenAtRead = 3 := by decide +kernel
  exact ⟨hread, hread ▸ hall.1⟩

end TiWlan.Tx
