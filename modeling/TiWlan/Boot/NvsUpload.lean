import TiWlan.Driver.Boot

/-!
# The calibration file is decoded

The first 468 bytes of the file are a list of bursts (a length, an address and words), ended by a
zero length, and the tables behind it. `wlcore_boot_upload_nvs` (`wlcore/boot.c`, lines 274–425)
walks over the bursts and checks the end of the section before each word and behind each burst, but
not before it reads a header. A header starts inside of the section, so that its three bytes are
inside of the file, which is longer.

Results:

* `BurstList`: the bursts from an offset on, up to the zero length.
* `burstLoop_eq`, `burstLoop_bad`: the words of a burst.
* `burstsLoop_spec`: the loop ends, with the bursts or with `-EILSEQ`.
* `bootUploadNvs_decodes`: what is written to the chip.
-/

namespace TiWlan.Driver

open TiWlan.Lib

variable {io : Io} {env : IoEnv} {e : IoEvent} {bs : List NvsBurst} {part : PartitionSet} {off : ℕ}

/-! ## Bursts -/

/-- A burst: the offset of its first word, the address and the number of its words. -/
structure NvsBurst where
  pos : ℕ
  addr : ℕ
  count : ℕ
  deriving DecidableEq, Repr

/-- The burst whose header is at `off`; the lowest bit of the address is cleared. -/
def burstAt (nvs : ℕ → UInt8) (off : ℕ) : NvsBurst :=
  ⟨off + 3, 2 * (leNat (loadAt nvs (off + 1) 2) / 2), (nvs off).toNat⟩

/-- The end of a burst. -/
def NvsBurst.stop (b : NvsBurst) : ℕ := b.pos + 4 * b.count

/-- The bursts from `off` on, up to the first zero length, which is at `stop`. -/
inductive BurstList (nvs : ℕ → UInt8) : ℕ → List NvsBurst → ℕ → Prop
  | stop {off : ℕ} (hzero : nvs off = 0) : BurstList nvs off [] off
  | burst {off stop : ℕ} {bs : List NvsBurst} (hne : nvs off ≠ 0)
      (rest : BurstList nvs (burstAt nvs off).stop bs stop) :
      BurstList nvs off (burstAt nvs off :: bs) stop

theorem burstAt_stop (nvs : ℕ → UInt8) (off : ℕ) :
    (burstAt nvs off).stop = off + 3 + 4 * (nvs off).toNat := rfl

theorem BurstList.le {nvs : ℕ → UInt8} {stop : ℕ} (h : BurstList nvs off bs stop) :
    off ≤ stop ∧ ∀ b ∈ bs, b.stop ≤ stop := by
  induction h with
  | stop => exact ⟨le_refl _, by simp⟩
  | burst hne rest ih =>
    rw [burstAt_stop] at ih
    refine ⟨by omega, fun b hb => ?_⟩
    rcases List.mem_cons.mp hb with rfl | hb
    · exact ih.1
    · exact ih.2 b hb

theorem BurstList.unique {nvs : ℕ → UInt8} {stop stop' : ℕ} {bs' : List NvsBurst}
    (h : BurstList nvs off bs stop) (h' : BurstList nvs off bs' stop') :
    bs = bs' ∧ stop = stop' := by
  induction h generalizing bs' with
  | stop hzero =>
    cases h' with
    | stop => exact ⟨rfl, rfl⟩
    | burst hne => exact absurd hzero hne
  | burst hne _ ih =>
    cases h' with
    | stop hzero => exact absurd hzero hne
    | burst _ rest => exact (ih rest).imp_left (congrArg (_ :: ·))

/-- The words of a burst, written at increasing addresses of the registers. -/
def NvsBurst.writes (nvs : ℕ → UInt8) (part : PartitionSet) (b : NvsBurst) : List IoEvent :=
  (List.range b.count).map fun i =>
    let addr := s32 (u32 (part.reg.start + b.addr + 4 * i : ℕ))
    .write part addr (wlcoreTranslateAddr part addr) (loadAt nvs (b.pos + 4 * i) 4)

/-- The events that reach the chip. -/
def chipWrites (evs : List IoEvent) : List IoEvent :=
  evs.filter fun
    | .read _ _ => false
    | _ => true

/-- The write of a word. -/
def IoEvent.IsWord (part : PartitionSet) : IoEvent → Prop
  | .read _ _ => True
  | .rawWrite _ _ => False
  | .write part' _ _ data => part' = part ∧ data.length = 4

/-- Clearing the lowest bit. -/
theorem and_fe_toNat (b : UInt8) : (b &&& 0xfe).toNat = 2 * (b.toNat / 2) :=
  forall_uint8 (p := fun b => (b &&& 0xfe).toNat = 2 * (b.toNat / 2)) (by decide +kernel) b

theorem burstAddr_eq (nvs : ℕ → UInt8) (off : ℕ) : burstAddr nvs off = (burstAt nvs off).addr := by
  have hload : loadAt nvs (off + 1) 2 = [nvs (off + 1), nvs (off + 2)] := rfl
  rw [burstAddr, and_fe_toNat, burstAt, hload]
  simp only [leNat]
  omega

/-! ## The words of a burst -/

section
variable {env : IoEnv} {nvs : ℕ → UInt8}

/-- Read and write of the word at `pos`. -/
def wordEvent (nvs : ℕ → UInt8) (part : PartitionSet) (pos addr : ℕ) : List IoEvent :=
  [.read pos 4, .write part (s32 (u32 addr)) (wlcoreTranslateAddr part (s32 (u32 addr)))
    (loadAt nvs pos 4)]

/-- The first `n` words at `pos`, from the address `base` on. -/
def wordEvents (nvs : ℕ → UInt8) (part : PartitionSet) (pos base n : ℕ) : List IoEvent :=
  (List.range n).flatMap fun i => wordEvent nvs part (pos + 4 * i) (base + 4 * i)

theorem wordEvents_succ (part : PartitionSet) (pos base n : ℕ) :
    wordEvents nvs part pos base (n + 1) =
      wordEvent nvs part pos base ++ wordEvents nvs part (pos + 4) (base + 4) n := by
  have hshift (a i : ℕ) : a + 4 * (i + 1) = a + 4 + 4 * i := by omega
  simp only [wordEvents, List.range_succ_eq_map, List.flatMap_cons, List.flatMap_map,
    Nat.succ_eq_add_one, hshift, Nat.mul_zero, Nat.add_zero]

theorem chipWrites_append (evs evs' : List IoEvent) :
    chipWrites (evs ++ evs') = chipWrites evs ++ chipWrites evs' := List.filter_append _ _

theorem chipWrites_wordEvents (part : PartitionSet) (b : NvsBurst) :
    chipWrites (wordEvents nvs part b.pos (part.reg.start + b.addr) b.count) =
      b.writes nvs part := by
  rw [wordEvents, chipWrites, NvsBurst.writes, List.filter_flatMap, List.map_eq_flatMap]
  rfl

theorem wordEvents_isWord {pos base n : ℕ} (he : e ∈ wordEvents nvs part pos base n) :
    e.IsWord part ∧ e.Inside (pos + 4 * n) := by
  obtain ⟨i, hi, he⟩ := List.mem_flatMap.mp he
  rw [List.mem_range] at hi
  simp only [wordEvent, List.mem_cons, List.not_mem_nil, or_false] at he
  rcases he with rfl | rfl
  · exact ⟨trivial, IoEvent.inside_of_le (by omega)⟩
  · exact ⟨⟨rfl, loadAt_length _ _ _⟩, trivial⟩

/-- A word is written, and the loop goes on. -/
theorem burstLoop_succ (henv : env.Succeeds) (hio : io.ioFailed = false) {pos : ℕ}
    (hpos : pos + 3 < nvsSectionSize) (left base : ℕ) :
    burstLoop env nvs (left + 1) pos (u32 base) io =
      burstLoop env nvs left (pos + 4) (u32 (base + 4 : ℕ))
        (io.emit (wordEvent nvs io.currPart pos base)) := by
  have hword : leBytes 4 (leNat (loadAt nvs pos 4)) = loadAt nvs pos 4 := by
    have hself := leBytes_leNat (loadAt nvs pos 4)
    rwa [loadAt_length] at hself
  have hwrap : u32 ((u32 (base : ℤ) : ℤ) + 4) = u32 (base + 4 : ℕ) := by
    unfold u32
    omega
  have hio' : (io.read pos 4).ioFailed = false := hio
  rw [burstLoop, if_neg (by omega), wlcoreWrite32, wlcoreWrite, hword,
    wlcoreRawWrite_eq henv hio', Io.read, Io.emit_emit]
  simp only [lt_irrefl, if_false, hwrap]
  rfl

theorem burstLoop_eq (henv : env.Succeeds) (io : Io) (hio : io.ioFailed = false) (pos n base : ℕ)
    (h : pos + 4 * n ≤ nvsSectionSize) :
    burstLoop env nvs n pos (u32 base) io =
      (.ok (pos + 4 * n), io.emit (wordEvents nvs io.currPart pos base n)) := by
  induction n generalizing pos base io with
  | zero => simp [burstLoop, wordEvents, Io.emit]
  | succ n ih =>
    rw [burstLoop_succ henv hio (by omega), ih _ (Io.emit_up hio _) _ _ (by omega), Io.emit_emit,
      wordEvents_succ,
      show pos + 4 + 4 * n = pos + 4 * (n + 1) by omega]
    rfl

/-- The first word that does not fit into the section ends the upload. -/
theorem burstLoop_bad (henv : env.Succeeds) (io : Io) (hio : io.ioFailed = false) (pos n base : ℕ)
    (h : nvsSectionSize < pos + 4 * n) (hpos : pos ≤ nvsSectionSize + 2)
    (hn : 0 < n ∨ pos ≤ nvsSectionSize) :
    ∃ k, pos + 4 * k ≤ nvsSectionSize + 2 ∧ burstLoop env nvs n pos (u32 base) io =
      (.error (-IoErrno.eilseq.code), io.emit (wordEvents nvs io.currPart pos base k)) := by
  induction n generalizing pos base io with
  | zero => omega
  | succ n ih =>
    by_cases hfit : pos + 3 < nvsSectionSize
    · rw [burstLoop_succ henv hio hfit]
      obtain ⟨k, hk, heq⟩ :=
        ih _ (Io.emit_up hio _) (pos + 4) (base + 4) (by omega) (by omega) (by omega)
      refine ⟨k + 1, by omega, ?_⟩
      rw [heq, Io.emit_emit, wordEvents_succ]
      rfl
    · refine ⟨0, by omega, ?_⟩
      rw [burstLoop, if_pos (by omega)]
      simp [wordEvents, Io.emit]

/-! ## The list of bursts -/

/-- The list goes on behind a burst. -/
theorem BurstList.stop_le {stop : ℕ} (h : BurstList nvs off bs stop) (hne : nvs off ≠ 0) :
    (burstAt nvs off).stop ≤ stop := by
  cases h with
  | stop hzero => exact absurd hzero hne
  | burst _ rest => exact rest.le.1

/-- The reads of a header and the first `k` words behind it. -/
def burstEvents (nvs : ℕ → UInt8) (part : PartitionSet) (off k : ℕ) : List IoEvent :=
  [.read off 1, .read off 3] ++
    wordEvents nvs part (off + 3) (part.reg.start + (burstAt nvs off).addr) k

theorem burstEvents_isWord {k : ℕ} (hoff : off < nvsSectionSize)
    (hk : off + 3 + 4 * k ≤ nvsSectionSize + 2) (he : e ∈ burstEvents nvs part off k) :
    e.IsWord part ∧ e.Inside (nvsSectionSize + 2) := by
  rcases List.mem_append.mp he with he | he
  · simp only [List.mem_cons, List.not_mem_nil, or_false] at he
    rcases he with rfl | rfl
    · exact ⟨trivial, IoEvent.inside_of_le (by omega)⟩
    · exact ⟨trivial, IoEvent.inside_of_le (by omega)⟩
  · obtain ⟨hword, hinside⟩ := wordEvents_isWord he
    exact ⟨hword, hinside.mono hk⟩

theorem chipWrites_burstEvents (part : PartitionSet) (off : ℕ) :
    chipWrites (burstEvents nvs part off (nvs off).toNat) = (burstAt nvs off).writes nvs part := by
  rw [← chipWrites_wordEvents]
  rfl

/-- What a pass does with a burst. -/
theorem burstsLoop_succ (fuel off : ℕ) (io : Io) (hne : nvs off ≠ 0) :
    burstsLoop env nvs (fuel + 1) off io =
      match burstLoop env nvs (nvs off).toNat (off + 3)
          (u32 (io.currPart.reg.start + (burstAt nvs off).addr : ℕ))
          (io.emit [.read off 1, .read off 3]) with
      | (.error ret, io) => some (.error ret, io)
      | (.ok nvsPtr, io) =>
        if nvsSectionSize ≤ nvsPtr then some (.error (-IoErrno.eilseq.code), io)
        else burstsLoop env nvs fuel nvsPtr io := by
  have hbase : u32 (burstAddr nvs off + (io.read off 1).currPart.reg.start) =
      u32 (io.currPart.reg.start + (burstAt nvs off).addr : ℕ) := by
    rw [burstAddr_eq, add_comm]
    push_cast
    rfl
  have hread : (io.read off 1).read off 3 = io.emit [.read off 1, .read off 3] :=
    Io.emit_emit _ _ _
  rw [burstsLoop]
  simp only [if_neg hne, hbase, hread] <;> rfl

theorem burstsLoop_next (henv : env.Succeeds) (fuel off : ℕ) (hio : io.ioFailed = false)
    (hne : nvs off ≠ 0) (hstop : (burstAt nvs off).stop < nvsSectionSize) :
    burstsLoop env nvs (fuel + 1) off io =
      burstsLoop env nvs fuel (burstAt nvs off).stop
        (io.emit (burstEvents nvs io.currPart off (nvs off).toNat)) := by
  rw [burstAt_stop] at hstop ⊢
  rw [burstsLoop_succ _ _ _ hne, burstLoop_eq henv _ (Io.emit_up hio _) _ _ _ hstop.le,
    Io.emit_emit]
  simp only [if_neg (not_le.mpr hstop)]
  rfl

/-- A burst that reaches the end of the section. -/
theorem burstsLoop_bad (henv : env.Succeeds) (fuel : ℕ) (hio : io.ioFailed = false)
    (hne : nvs off ≠ 0) (hoff : off < nvsSectionSize)
    (hstop : nvsSectionSize ≤ (burstAt nvs off).stop) :
    ∃ k, off + 3 + 4 * k ≤ nvsSectionSize + 2 ∧ burstsLoop env nvs (fuel + 1) off io =
      some (.error (-IoErrno.eilseq.code), io.emit (burstEvents nvs io.currPart off k)) := by
  have hcount : 0 < (nvs off).toNat := by
    rw [Nat.pos_iff_ne_zero, ne_eq, ← UInt8.toNat_zero, UInt8.toNat_inj]
    exact hne
  rw [burstAt_stop] at hstop
  rw [burstsLoop_succ _ _ _ hne]
  rcases Nat.eq_or_lt_of_le hstop with hend | hlong
  · refine ⟨(nvs off).toNat, by omega, ?_⟩
    rw [burstLoop_eq henv _ (Io.emit_up hio _) _ _ _ hend.ge, Io.emit_emit]
    simp only [if_pos hend.le]
    rfl
  · obtain ⟨k, hk, heq⟩ := burstLoop_bad henv _ (Io.emit_up hio [.read off 1, .read off 3])
      (off + 3) (nvs off).toNat (io.currPart.reg.start + (burstAt nvs off).addr) hlong (by omega)
      (Or.inl hcount)
    rw [heq, Io.emit_emit]
    exact ⟨k, hk, rfl⟩

/-- The loop over the bursts ends: at the zero length, with the words of all bursts, or with
`-EILSEQ`, if there is none in the section. -/
theorem burstsLoop_spec (nvs : ℕ → UInt8) (henv : env.Succeeds) (fuel : ℕ) (io : Io)
    (hio : io.ioFailed = false) (off : ℕ) (hoff : off < nvsSectionSize)
    (hfuel : nvsSectionSize ≤ off + fuel) :
    ∃ evs, (∀ e ∈ evs, e.IsWord io.currPart ∧ e.Inside (nvsSectionSize + 2)) ∧
      ((∃ bs stop, BurstList nvs off bs stop ∧ stop < nvsSectionSize ∧
          burstsLoop env nvs fuel off io = some (.ok stop, io.emit evs) ∧
          chipWrites evs = bs.flatMap (NvsBurst.writes nvs io.currPart)) ∨
        ((∀ bs stop, BurstList nvs off bs stop → nvsSectionSize ≤ stop) ∧
          burstsLoop env nvs fuel off io = some (.error (-IoErrno.eilseq.code), io.emit evs))) := by
  induction fuel generalizing off io with
  | zero => omega
  | succ fuel ih =>
    by_cases hzero : nvs off = 0
    · refine ⟨[.read off 1], fun e he => ?_, Or.inl ⟨[], off, .stop hzero, hoff, ?_, rfl⟩⟩
      · rw [List.mem_singleton] at he
        subst he
        exact ⟨trivial, IoEvent.inside_of_le (by omega)⟩
      · rw [burstsLoop]
        simp only [if_pos hzero]
        rfl
    · by_cases hstop : (burstAt nvs off).stop < nvsSectionSize
      · have hnext := burstsLoop_next henv fuel off hio hzero hstop
        rw [hnext]
        have hlater := burstAt_stop nvs off
        obtain ⟨evs, hevs, hcases⟩ := ih _ (Io.emit_up hio _) _ hstop (by omega)
        rw [Io.emit_emit] at hcases
        refine ⟨burstEvents nvs io.currPart off (nvs off).toNat ++ evs, fun e he => ?_,
          hcases.imp ?_ ?_⟩
        · exact (List.mem_append.mp he).elim (burstEvents_isWord hoff (by omega)) (hevs e)
        · rintro ⟨bs, stop, hlist, hlt, heq, hwrites⟩
          refine ⟨burstAt nvs off :: bs, stop, .burst hzero hlist, hlt, heq, ?_⟩
          rw [chipWrites_append, hwrites, chipWrites_burstEvents]
          rfl
        · rintro ⟨hnone, heq⟩
          refine ⟨fun bs stop hlist => ?_, heq⟩
          cases hlist with
          | stop h => exact absurd h hzero
          | burst _ rest => exact hnone _ _ rest
      · obtain ⟨k, hk, heq⟩ := burstsLoop_bad henv fuel hio hzero hoff (not_lt.mp hstop)
        exact ⟨_, fun e he => burstEvents_isWord hoff hk he, Or.inr
          ⟨fun bs stop hlist => (not_lt.mp hstop).trans (hlist.stop_le hzero), heq⟩⟩

/-- More passes do not change the result. -/
theorem burstsLoop_mono {fuel fuel' : ℕ} (hle : fuel ≤ fuel') {r : Except ℤ ℕ × Io}
    (h : burstsLoop env nvs fuel off io = some r) : burstsLoop env nvs fuel' off io = some r := by
  induction fuel generalizing fuel' off io with
  | zero => cases h
  | succ fuel ih =>
    obtain ⟨fuel', rfl⟩ : ∃ k, fuel' = k + 1 := ⟨fuel' - 1, by omega⟩
    by_cases hzero : nvs off = 0
    · rw [burstsLoop] at h ⊢
      simp only [if_pos hzero] at h ⊢
      exact h
    · rw [burstsLoop_succ _ _ _ hzero] at h ⊢
      generalize burstLoop env nvs (nvs off).toNat (off + 3)
        (u32 (io.currPart.reg.start + (burstAt nvs off).addr : ℕ))
        (io.emit [.read off 1, .read off 3]) = r₁ at h ⊢
      obtain ⟨ret | nvsPtr, io₁⟩ := r₁
      · exact h
      · simp only at h ⊢
        split at h
        · rw [if_pos ‹_›]
          exact h
        · rw [if_neg ‹_›]
          exact ih (by omega) h

end

/-! ## The tables -/

/-- The events for the tables from `p` on. -/
def tableEvents (nvs : ℕ → UInt8) (work : PartitionSet) (cmdMboxAddress : ℤ) (p : ℕ) :
    List IoEvent :=
  partitionWrites work ++ [.read p (nvsSectionSize - p),
    .write work cmdMboxAddress (wlcoreTranslateAddr work cmdMboxAddress)
      (loadAt nvs p (nvsSectionSize - p))]

/-- The tables are uploaded through the windows of `PART_WORK`. -/
theorem uploadTables_eq (henv : env.Succeeds) (nvs : ℕ → UInt8) (work : PartitionSet)
    (cmdMboxAddress : ℤ) {stop : ℕ} (hstop : alignUp (stop + 7) 4 < nvsSectionSize)
    (hio : io.ioFailed = false) :
    ∃ io', uploadTables env nvs work cmdMboxAddress stop io = (0, io') ∧
      io'.log = io.log ++ tableEvents nvs work cmdMboxAddress (alignUp (stop + 7) 4) := by
  have hset := wlcoreSetPartition_works henv hio work
  obtain ⟨hlog, hpart⟩ := wlcoreSetPartition_logged work hset.ret.ge
  have hup : ((wlcoreSetPartition env work io).2.read (alignUp (stop + 7) 4)
      (nvsSectionSize - alignUp (stop + 7) 4)).ioFailed = false := hset.up
  rw [uploadTables, if_neg (not_le.mpr hstop), proceed_of_nonneg hset.ret.ge,
    if_neg (by simp [henv.kmalloc]), wlcoreWrite, wlcoreRawWrite_eq henv hup]
  refine ⟨_, rfl, ?_⟩
  simp only [Io.emit, Io.read, hlog, hpart, tableEvents, List.append_assoc, List.singleton_append]

/-- The bursts end with a zero length, and the tables behind them start inside of the section. -/
structure NvsWellFormed (nvs : ℕ → UInt8) (bs : List NvsBurst) (stop : ℕ) : Prop where
  bursts : BurstList nvs 0 bs stop
  table : alignUp (stop + 7) 4 < nvsSectionSize

theorem NvsWellFormed.stop_lt {nvs : ℕ → UInt8} {stop : ℕ} (h : NvsWellFormed nvs bs stop) :
    stop < nvsSectionSize := by
  have hle : stop + 7 ≤ alignUp (stop + 7) 4 := le_alignUp _ (by decide)
  have htable := h.table
  omega

/-- What an upload has written to the chip. -/
inductive NvsOutcome (nvs : ℕ → UInt8) (part work : PartitionSet) (cmdMboxAddress : ℤ)
    (evs : List IoEvent) : ℤ → Prop
  /-- the words of all bursts, which are inside of the section, and the tables -/
  | decoded {bs : List NvsBurst} {stop : ℕ} (wellFormed : NvsWellFormed nvs bs stop)
      (inside : ∀ b ∈ bs, b.stop ≤ nvsSectionSize)
      (writes : chipWrites evs = bs.flatMap (NvsBurst.writes nvs part) ++ partitionWrites work ++
        [.write work cmdMboxAddress (wlcoreTranslateAddr work cmdMboxAddress)
          (loadAt nvs (alignUp (stop + 7) 4) (nvsSectionSize - alignUp (stop + 7) 4))]) :
      NvsOutcome nvs part work cmdMboxAddress evs 0
  /-- words only -/
  | malformed (notWellFormed : ¬∃ bs stop, NvsWellFormed nvs bs stop)
      (words : ∀ e ∈ evs, e.IsWord part) :
      NvsOutcome nvs part work cmdMboxAddress evs (-IoErrno.eilseq.code)

theorem tableEvents_inside (nvs : ℕ → UInt8) (work : PartitionSet) (cmdMboxAddress : ℤ) {p : ℕ}
    (hp : p < nvsSectionSize) (he : e ∈ tableEvents nvs work cmdMboxAddress p) :
    e.Inside nvsSectionSize := by
  simp only [tableEvents, partitionWrites, List.cons_append, List.nil_append, List.mem_cons,
    List.not_mem_nil, or_false] at he
  rcases he with rfl | rfl | rfl | rfl | rfl | rfl | rfl | rfl | rfl
  case inr.inr.inr.inr.inr.inr.inr.inl => exact IoEvent.inside_of_le (by omega)
  all_goals trivial

theorem uploadNvs_spec (henv : env.Succeeds) (nvs : ℕ → UInt8) (work : PartitionSet)
    (cmdMboxAddress : ℤ) (hio : io.ioFailed = false) :
    ∃ ret io' evs, (∀ fuel ≥ nvsSectionSize,
        uploadNvs fuel env nvs work cmdMboxAddress io = some (ret, io')) ∧
      io'.log = io.log ++ evs ∧ (∀ e ∈ evs, e.Inside (nvsSectionSize + 2)) ∧
      NvsOutcome nvs io.currPart work cmdMboxAddress evs ret := by
  obtain ⟨evs, hevs, hcases⟩ := burstsLoop_spec nvs henv nvsSectionSize io hio 0
    (by decide) (by omega)
  rcases hcases with ⟨bs, stop, hlist, hlt, heq, hwrites⟩ | ⟨hnone, heq⟩
  · by_cases htable : alignUp (stop + 7) 4 < nvsSectionSize
    · obtain ⟨io', hup, hlog⟩ := uploadTables_eq henv nvs work cmdMboxAddress htable
        (Io.emit_up hio evs)
      refine ⟨0, io', evs ++ tableEvents nvs work cmdMboxAddress (alignUp (stop + 7) 4),
        fun fuel hfuel => ?_, ?_, fun e he => ?_, .decoded ⟨hlist, htable⟩ ?_ ?_⟩
      · rw [uploadNvs, burstsLoop_mono hfuel heq]
        simp only [hup]
      · rw [hlog, Io.emit, List.append_assoc]
      · rcases List.mem_append.mp he with he | he
        · exact (hevs e he).2
        · exact (tableEvents_inside nvs work cmdMboxAddress htable he).mono (by omega)
      · exact fun b hb => (hlist.le.2 b hb).trans hlt.le
      · rw [chipWrites_append, hwrites, List.append_assoc]
        rfl
    · refine ⟨_, io.emit evs, evs, fun fuel hfuel => ?_, rfl, fun e he => (hevs e he).2,
        .malformed ?_ fun e he => (hevs e he).1⟩
      · rw [uploadNvs, burstsLoop_mono hfuel heq]
        simp only [uploadTables, if_pos (not_lt.mp htable)]
      · rintro ⟨bs', stop', hwf⟩
        rw [(hlist.unique hwf.bursts).2] at htable
        exact htable hwf.table
  · refine ⟨_, io.emit evs, evs, fun fuel hfuel => ?_, rfl, fun e he => (hevs e he).2,
      .malformed ?_ fun e he => (hevs e he).1⟩
    · rw [uploadNvs, burstsLoop_mono hfuel heq]
    · rintro ⟨bs, stop, hwf⟩
      exact absurd hwf.stop_lt (not_lt.mpr (hnone bs stop hwf.bursts))

theorem NvsOutcome.read {nvs : ℕ → UInt8} {work : PartitionSet} {cmdMboxAddress ret : ℤ}
    {evs : List IoEvent} (h : NvsOutcome nvs part work cmdMboxAddress evs ret) (p n : ℕ) :
    NvsOutcome nvs part work cmdMboxAddress (.read p n :: evs) ret := by
  cases h with
  | decoded hwf hinside hwrites => exact .decoded hwf hinside hwrites
  | malformed hnot hwords =>
    refine .malformed hnot fun e he => ?_
    rcases List.mem_cons.mp he with rfl | he
    · trivial
    · exact hwords e he

/-- A file of the right size contains the section, the bytes behind it and `dual_mode_select`. -/
theorem nvsSizeOk_spec {legacyNvs enable11a : Bool} {nvsLen : ℕ}
    (h : nvsSizeOk legacyNvs enable11a nvsLen) :
    knownNvsSize legacyNvs nvsLen ∧ nvsSectionSize + 2 ≤ nvsLen ∧
      dualModeSelect legacyNvs + 1 ≤ nvsLen := by
  unfold nvsSizeOk at h
  unfold knownNvsSize dualModeSelect
  cases legacyNvs with
  | true =>
    simp only [if_true] at h ⊢
    rcases h with rfl | ⟨rfl, -⟩
    · decide
    · decide
  | false =>
    simp only [Bool.false_eq_true, if_false] at h ⊢
    subst h
    decide

/-- The upload of a file of the right size. The loop ends and reads only bytes of the file. If the
file is well-formed, then the words of its bursts and the tables are written, otherwise the result
is `-EILSEQ` and no table was written. -/
theorem bootUploadNvs_decodes (env : IoEnv) (henv : env.Succeeds) (behind : ℕ → UInt8)
    (wl : NvsState) (hio : wl.ioFailed = false) (file : List UInt8) (hnvs : wl.nvs = some file)
    (hsize : nvsSizeOk wl.legacyNvs (lookupDualMode file wl).enable11a file.length) :
    ∃ ret wl' evs, (∀ fuel ≥ nvsSectionSize,
        wlcoreBootUploadNvs fuel env behind wl = some (ret, wl')) ∧
      wl'.log = wl.log ++ evs ∧ (∀ e ∈ evs, e.Inside file.length) ∧
      NvsOutcome (memoryOf (updateMac wl.addr file) behind) wl.currPart wl.work wl.cmdMboxAddress
        evs ret := by
  obtain ⟨hknown, hsection, hdual⟩ := nvsSizeOk_spec hsize
  obtain ⟨enable11a, hlookup⟩ : ∃ b, lookupDualMode file wl =
      { wl with toIo := wl.toIo.read (dualModeSelect wl.legacyNvs) 1, enable11a := b } := by
    unfold lookupDualMode
    rw [if_pos hknown]
    exact ⟨_, rfl⟩
  rw [hlookup] at hsize
  obtain ⟨ret, io', evs, hret, hlog, hinside, houtcome⟩ := uploadNvs_spec henv
    (memoryOf (updateMac wl.addr file) behind) wl.work wl.cmdMboxAddress
    (show (wl.toIo.read (dualModeSelect wl.legacyNvs) 1).ioFailed = false from hio)
  refine ⟨ret, { wl with
      nvs := some (updateMac wl.addr file), enable11a := enable11a, toIo := io' },
    .read (dualModeSelect wl.legacyNvs) 1 :: evs, fun fuel hfuel => ?_, ?_, fun e he => ?_,
    houtcome.read _ _⟩
  · rw [wlcoreBootUploadNvs, hnvs]
    simp only [hlookup]
    rw [if_neg (not_not.mpr hsize), hret fuel hfuel]
    rfl
  · rw [hlog, Io.read, Io.emit, List.append_assoc, List.singleton_append]
  · rcases List.mem_cons.mp he with rfl | he
    · exact IoEvent.inside_of_le hdual
    · exact (hinside e he).mono hsection

/-- A file with one burst of a word, and with the tables behind it. -/
theorem bootUploadNvs_decodes_one :
    let file : List UInt8 :=
      [1, 0x6d, 0x54, 0, 0, 0, 0, 0] ++ List.replicate 1105 0
    let wl : NvsState :=
      { bootIo with
        nvs := some file, legacyNvs := false, enable11a := false, addr := fun _ => 2,
        work := wl18xxPartWork, cmdMboxAddress := 0xb007b4 }
    ∃ ret wl' evs, (∀ fuel ≥ nvsSectionSize,
        wlcoreBootUploadNvs fuel okEnv (fun _ => 0) wl = some (ret, wl')) ∧
      wl'.log = wl.log ++ evs ∧ (∀ e ∈ evs, e.Inside file.length) ∧
      NvsOutcome (memoryOf (updateMac wl.addr file) fun _ => 0) wl.currPart wl.work
        wl.cmdMboxAddress evs ret := by
  intro file wl
  exact bootUploadNvs_decodes okEnv okEnv_succeeds (fun _ => 0) wl rfl file rfl (by decide +kernel)

end TiWlan.Driver
