import TiWlan.Driver.Boot

/-!
# Reads of the firmware's image

`wlcore_boot_upload_firmware` (`wlcore/boot.c`, lines 240–271) walks over the image with the counts
and lengths that it finds there, and never looks at `fw_len`. So the reads stay inside of the image
if and only if the image itself is complete: the headers and the data of its chunks are there, up
to a chunk whose length is refused.

Results:

* `fetchFirmware_sound`: the image that was fetched has the length `fw_len`, a multiple of four.
* `uploadChunk_extends`: an upload of a chunk reads its data and nothing else.
* `uploadImageLoop_extends`: complete chunks are read inside of the image.
* `uploadImageLoop_complete`: if nothing fails, then all of the chunks are read.
* `uploadFirmware_inside_iff`: exactly the complete images are read inside.
-/

namespace TiWlan.Driver

open TiWlan.Lib

/-! ## Images -/

/-- An image belongs to its length. -/
structure FwImage.Sound (wl : FwImage) : Prop where
  fetched : wl.fwType ≠ .none →
    ∃ blob, wl.fw = some blob ∧ wl.fwLen = blob.length ∧ blob.length % 4 = 0 ∧ blob ≠ []

/-- Before the first fetch. -/
theorem FwImage.sound_of_none {wl : FwImage} (h : wl.fwType = .none) : wl.Sound :=
  ⟨fun hne => absurd h hne⟩

theorem neededFirmware_ne_none (plt : Bool) (wl : FwImage) :
    (neededFirmware plt wl).1 ≠ .none := by
  unfold neededFirmware
  split
  · exact fun h => by cases h
  · split
    · split <;> exact fun h => by cases h
    · exact fun h => by cases h

/-- A fetch that succeeds leaves an image that belongs to its length, and so does every other. -/
theorem fetchFirmware_sound (requestFirmware : String → Except ℕ+ (List UInt8))
    (vmalloc : ℕ → Bool) (plt : Bool) {wl : FwImage} (h : wl.Sound) :
    (wl12xxFetchFirmware requestFirmware vmalloc plt wl).2.Sound ∧
      ((wl12xxFetchFirmware requestFirmware vmalloc plt wl).1 = 0 →
        (wl12xxFetchFirmware requestFirmware vmalloc plt wl).2.fwType ≠ .none) := by
  have hneeded := neededFirmware_ne_none plt wl
  rw [wl12xxFetchFirmware]
  generalize neededFirmware plt wl = needed at hneeded ⊢
  by_cases hsame : wl.fwType = needed.1
  · rw [if_pos hsame]
    exact ⟨h, fun _ => hsame ▸ hneeded⟩
  · rw [if_neg hsame]
    cases requestFirmware needed.2 with
    | error errno => exact ⟨h, fun hret => absurd hret (by simp)⟩
    | ok data =>
      by_cases hmod : data.length % 4 = 0
      · simp only [hmod, ne_eq, not_true, if_false]
        by_cases hmem : data.length = 0 ∨ vmalloc data.length = false
        · rw [if_pos hmem]
          exact ⟨FwImage.sound_of_none rfl, fun hret => absurd hret (show ¬(-12 : ℤ) = 0 by decide)⟩
        · rw [if_neg hmem]
          have hne : data ≠ [] := fun hnil => hmem (Or.inl (by rw [hnil]; rfl))
          exact ⟨⟨fun _ => ⟨data, rfl, rfl, hmod, hne⟩⟩, fun _ => hneeded⟩
      · simp only [hmod, ne_eq, not_false_iff, if_true]
        exact ⟨h, fun hret => absurd hret (show ¬(-84 : ℤ) = 0 by decide)⟩

/-- The number at `pos` of an image. -/
def imageBe32 (blob : List UInt8) (pos : ℕ) : ℕ := be32 (memoryOf blob fun _ => 0) pos

/-- The chunks from `fw` on are inside of the image, up to one whose length is refused. -/
def ChunksComplete (blob : List UInt8) : ℕ → ℕ → Prop
  | 0, _ => True
  | chunks + 1, fw =>
    fw + 8 ≤ blob.length ∧
      (300000 < imageBe32 blob (fw + 4) ∨ imageBe32 blob (fw + 4) % 4 ≠ 0 ∨
        (fw + 8 + imageBe32 blob (fw + 4) ≤ blob.length ∧
          ChunksComplete blob chunks (fw + 8 + imageBe32 blob (fw + 4))))

instance ChunksComplete.decidable (blob : List UInt8) :
    ∀ chunks fw, Decidable (ChunksComplete blob chunks fw)
  | 0, _ => isTrue trivial
  | chunks + 1, fw =>
    have := ChunksComplete.decidable blob chunks (fw + 8 + imageBe32 blob (fw + 4))
    inferInstanceAs (Decidable (_ ∧ (_ ∨ _ ∨ (_ ∧ ChunksComplete blob chunks
      (fw + 8 + imageBe32 blob (fw + 4))))))

/-- The number of chunks and the chunks are inside of the image. -/
def ImageComplete (blob : List UInt8) : Prop :=
  4 ≤ blob.length ∧ ChunksComplete blob (imageBe32 blob 0) 4

instance (blob : List UInt8) : Decidable (ImageComplete blob) := by
  unfold ImageComplete
  infer_instance

/-- What lies behind the image does not matter inside of it. -/
theorem be32_memoryOf {blob : List UInt8} {pos : ℕ} (h : pos + 4 ≤ blob.length)
    (behind : ℕ → UInt8) : be32 (memoryOf blob behind) pos = imageBe32 blob pos := by
  rw [imageBe32, be32, be32]
  congr 2
  refine loadAt_congr fun i hi => ?_
  have hlt : pos + i < blob.length := by omega
  rw [memoryOf_of_lt hlt, memoryOf_of_lt hlt]

/-! ## What is read -/

section
variable {env : IoEnv} {down : PartitionSet} {image : ℕ → UInt8} {pos dest : ℕ}
  {P : IoEvent → Prop}

theorem updatePartition_extends (hP : OfWrites P) (chunkNum : ℕ) (partitionLimit : ℤ) (io : Io) :
    Extends Io.log P io (updatePartition env down dest chunkNum partitionLimit io).2 := by
  rw [updatePartition]
  split
  · exact wlcoreSetPartition_extends hP _
  · exact Extends.refl io

theorem uploadLoop_extends (hP : OfWrites P) (left chunkNum : ℕ) (partitionLimit : ℤ) (io : Io)
    (hread : ∀ i < left, P (.read (pos + (chunkNum + i) * chunkSize) chunkSize)) :
    Extends Io.log P io (uploadLoop env down image pos dest left chunkNum partitionLimit io).2 := by
  induction left generalizing chunkNum partitionLimit io with
  | zero => exact Extends.refl io
  | succ left ih =>
    rw [uploadLoop]
    refine (updatePartition_extends hP _ _ _).proceed fun io => ?_
    refine (wlcoreWrite_extends hP (hread 0 (by omega)) _ _).proceed fun io => ?_
    refine ih _ _ _ fun i hi => ?_
    rw [show chunkNum + 1 + i = chunkNum + (i + 1) by omega]
    exact hread (i + 1) (by omega)

/-- An upload of a chunk reads its data and nothing else. -/
theorem uploadChunk_extends (hP : OfWrites P) {len : ℕ} (io : Io)
    (hread : ∀ p n, pos ≤ p → p + n ≤ pos + len → P (.read p n)) :
    Extends Io.log P io (wl1271BootUploadFirmwareChunk env down image pos len dest io).2 := by
  have hdiv : len / chunkSize * chunkSize + len % chunkSize = len := Nat.div_add_mod' _ _
  rw [wl1271BootUploadFirmwareChunk]
  split
  · exact Extends.refl io
  · split
    · exact Extends.refl io
    · refine (wlcoreSetPartition_extends hP _).proceed fun io => ?_
      refine (uploadLoop_extends hP _ _ _ _ fun i hi => hread _ _ (by omega) ?_).proceed
        fun io => ?_
      · have hle : (0 + i + 1) * chunkSize ≤ len / chunkSize * chunkSize :=
          Nat.mul_le_mul_right _ (by omega)
        rw [Nat.add_mul _ 1, Nat.one_mul] at hle
        omega
      · exact wlcoreWrite_extends hP (hread _ _ (by omega) (by omega)) _ _

variable (down image pos dest)

/-- If nothing fails, a pass reads its block. -/
theorem uploadLoop_pass (henv : env.Succeeds) (left chunkNum : ℕ) (partitionLimit : ℤ) {io : Io}
    (hio : io.ioFailed = false) :
    ∃ io', io'.ioFailed = false ∧ .read (pos + chunkNum * chunkSize) chunkSize ∈ io'.log ∧
      uploadLoop env down image pos dest (left + 1) chunkNum partitionLimit io =
        uploadLoop env down image pos dest left (chunkNum + 1)
          (updateLimit down dest chunkNum partitionLimit) io' := by
  have hmove : Works (updatePartition env down dest chunkNum partitionLimit io) := by
    rw [updatePartition]
    split
    · exact wlcoreSetPartition_works henv hio _
    · exact ⟨rfl, hio⟩
  obtain ⟨hwrite, hmem⟩ := wlcoreWrite_works henv hmove.up (pos + chunkNum * chunkSize) chunkSize
    (s32 (dest + chunkNum * chunkSize : ℕ)) (loadAt image (pos + chunkNum * chunkSize) chunkSize)
  refine ⟨_, hwrite.up, hmem, ?_⟩
  rw [uploadLoop, proceed_of_nonneg hmove.ret.ge, proceed_of_nonneg hwrite.ret.ge]

/-- If nothing fails, the loop reads each of its blocks. -/
theorem uploadLoop_works (henv : env.Succeeds) (left chunkNum : ℕ) (partitionLimit : ℤ) {io : Io}
    (hio : io.ioFailed = false) :
    Works (uploadLoop env down image pos dest left chunkNum partitionLimit io) ∧
      ∀ i < left, .read (pos + (chunkNum + i) * chunkSize) chunkSize ∈
        (uploadLoop env down image pos dest left chunkNum partitionLimit io).2.log := by
  induction left generalizing chunkNum partitionLimit io with
  | zero => exact ⟨⟨rfl, hio⟩, fun i hi => absurd hi (Nat.not_lt_zero i)⟩
  | succ left ih =>
    obtain ⟨io', hio', hread, heq⟩ := uploadLoop_pass down image pos dest henv left chunkNum
      partitionLimit hio
    rw [heq]
    obtain ⟨hworks, hreads⟩ :=
      ih (chunkNum + 1) (updateLimit down dest chunkNum partitionLimit) hio'
    refine ⟨hworks, fun i hi => ?_⟩
    cases i with
    | zero =>
      have hgrown : Extends Io.log (fun _ => True) io' (uploadLoop env down image pos dest left
          (chunkNum + 1) (updateLimit down dest chunkNum partitionLimit) io').2 :=
        uploadLoop_extends OfWrites.true _ _ _ _ fun _ _ => trivial
      exact hgrown.mem_of_mem hread
    | succ i =>
      rw [show chunkNum + (i + 1) = chunkNum + 1 + i by omega]
      exact hreads i (by omega)

/-- If nothing fails, the last byte of a chunk is read. -/
theorem uploadChunk_works (henv : env.Succeeds) {len : ℕ} (hfour : len % 4 = 0) {io : Io}
    (hio : io.ioFailed = false) :
    Works (wl1271BootUploadFirmwareChunk env down image pos len dest io) ∧
      (0 < len → ∃ p n, 0 < n ∧ p + n = pos + len ∧
        .read p n ∈ (wl1271BootUploadFirmwareChunk env down image pos len dest io).2.log) := by
  have hdiv : len / chunkSize * chunkSize + len % chunkSize = len := Nat.div_add_mod' _ _
  have hset := wlcoreSetPartition_works henv hio (down.moveMem dest)
  obtain ⟨hloop, hreads⟩ := uploadLoop_works down image pos dest henv (len / chunkSize) 0
    (s32 down.mem.size) hset.up
  obtain ⟨hlast, hmem⟩ := wlcoreWrite_works henv hloop.up (pos + len / chunkSize * chunkSize)
    (len % chunkSize) (s32 (dest + len / chunkSize * chunkSize : ℕ))
    (loadAt image (pos + len / chunkSize * chunkSize) (len % chunkSize))
  rw [wl1271BootUploadFirmwareChunk, if_neg (by omega), if_neg (by simp [henv.kmalloc]),
    proceed_of_nonneg hset.ret.ge, proceed_of_nonneg hloop.ret.ge]
  refine ⟨hlast, fun hlen => ?_⟩
  by_cases hrest : len % chunkSize = 0
  · -- the last block is a whole one
    have hblocks : 0 < len / chunkSize := by
      by_contra hzero
      rw [Nat.eq_zero_of_not_pos hzero, Nat.zero_mul] at hdiv
      omega
    refine ⟨_, chunkSize, chunkSize_pos, ?_, (wlcoreWrite_extends OfWrites.true trivial _
      _).mem_of_mem (hreads (len / chunkSize - 1) (by omega))⟩
    have hmul : (len / chunkSize - 1) * chunkSize + chunkSize = len / chunkSize * chunkSize := by
      rw [← Nat.succ_mul, Nat.succ_eq_add_one, Nat.sub_add_cancel hblocks]
    rw [Nat.zero_add]
    omega
  · exact ⟨_, _, Nat.pos_of_ne_zero hrest, by omega, hmem⟩

end

/-! ## The walk -/

section
variable (env : IoEnv) (down : PartitionSet) (blob : List UInt8) (behind : ℕ → UInt8)

/-- Complete chunks are read inside of the image, whatever fails. -/
theorem uploadImageLoop_extends {chunks fw : ℕ} (h : ChunksComplete blob chunks fw) (io : Io) :
    Extends Io.log (IoEvent.Inside blob.length) io
      (uploadImageLoop env down (memoryOf blob behind) chunks fw io).2 := by
  induction chunks generalizing fw io with
  | zero => exact Extends.refl io
  | succ chunks ih =>
    obtain ⟨hheader, hrest⟩ := h
    have hwrites := IoEvent.inside_ofWrites blob.length
    have hread : Extends Io.log (IoEvent.Inside blob.length) io ((io.read fw 4).read (fw + 4) 4) :=
      (Extends.of_log_append rfl (IoEvent.inside_of_le (by omega))).trans
        (Extends.of_log_append rfl (IoEvent.inside_of_le (by omega)))
    rw [uploadImageLoop, be32_memoryOf (show fw + 4 + 4 ≤ blob.length by omega)]
    refine hread.trans ?_
    generalize (io.read fw 4).read (fw + 4) 4 = io
    generalize imageBe32 blob (fw + 4) = len at hrest
    simp only
    split
    · exact Extends.refl io
    · rename_i hlong
      rcases hrest with hbad | hbad | ⟨hdata, hchunks⟩
      · exact absurd hbad hlong
      · -- the length is refused before the data is looked at
        have hrefused : wl1271BootUploadFirmwareChunk env down (memoryOf blob behind) (fw + 8) len
            (be32 (memoryOf blob behind) fw) io = (-IoErrno.eio.code, io) := by
          rw [wl1271BootUploadFirmwareChunk, if_pos hbad]
        rw [hrefused, if_pos (show -IoErrno.eio.code ≠ 0 by decide)]
        exact Extends.refl io
      · have hchunk : Extends Io.log (IoEvent.Inside blob.length) io
            (wl1271BootUploadFirmwareChunk env down (memoryOf blob behind) (fw + 8) len
              (be32 (memoryOf blob behind) fw) io).2 :=
          uploadChunk_extends hwrites io fun p n _ hle => IoEvent.inside_of_le (by omega)
        split
        · exact hchunk
        · exact hchunk.trans (ih hchunks _)

/-- The walk goes on behind the reads of a header. -/
theorem uploadImageLoop_grows (image : ℕ → UInt8) (chunks fw : ℕ) (io : Io) :
    Extends Io.log (fun _ => True) io (uploadImageLoop env down image chunks fw io).2 ∧
      (0 < chunks → .read (fw + 4) 4 ∈ (uploadImageLoop env down image chunks fw io).2.log) := by
  induction chunks generalizing fw io with
  | zero => exact ⟨Extends.refl io, fun h => absurd h (Nat.lt_irrefl 0)⟩
  | succ chunks ih =>
    have hread : Extends Io.log (fun _ => True) io ((io.read fw 4).read (fw + 4) 4) :=
      (Extends.of_log_append rfl trivial).trans (Extends.of_log_append rfl trivial)
    have hmem : IoEvent.read (fw + 4) 4 ∈ ((io.read fw 4).read (fw + 4) 4).log :=
      List.mem_append_right _ (List.mem_singleton.mpr rfl)
    rw [uploadImageLoop]
    generalize (io.read fw 4).read (fw + 4) 4 = io₁ at hread hmem ⊢
    have hchunk : Extends Io.log (fun _ => True) io₁ (wl1271BootUploadFirmwareChunk env down image
        (fw + 8) (be32 image (fw + 4)) (be32 image fw) io₁).2 :=
      uploadChunk_extends OfWrites.true io₁ fun _ _ _ _ => trivial
    simp only
    split
    · exact ⟨hread, fun _ => hmem⟩
    · split
      · exact ⟨hread.trans hchunk, fun _ => hchunk.mem_of_mem hmem⟩
      · have hrest := hchunk.trans (ih (fw + 8 + be32 image (fw + 4)) _).1
        exact ⟨hread.trans hrest, fun _ => hrest.mem_of_mem hmem⟩

variable {env}

/-- If nothing fails and all of the reads are inside of the image, then the chunks are
complete. -/
theorem uploadImageLoop_complete (henv : env.Succeeds) {chunks fw : ℕ} {io : Io}
    (hio : io.ioFailed = false)
    (h : ∀ e ∈ (uploadImageLoop env down (memoryOf blob behind) chunks fw io).2.log,
      IoEvent.Inside blob.length e) : ChunksComplete blob chunks fw := by
  induction chunks generalizing fw io with
  | zero => trivial
  | succ chunks ih =>
    have hread : IoEvent.read (fw + 4) 4 ∈ (uploadImageLoop env down (memoryOf blob behind)
        (chunks + 1) fw io).2.log := (uploadImageLoop_grows env down _ _ _ _).2 (Nat.succ_pos _)
    have hheader : fw + 4 + 4 ≤ blob.length := IoEvent.le_of_inside (h _ hread) (by decide)
    refine ⟨by omega, ?_⟩
    rw [uploadImageLoop, be32_memoryOf hheader] at h
    have hio' : ((io.read fw 4).read (fw + 4) 4).ioFailed = false := hio
    generalize (io.read fw 4).read (fw + 4) 4 = io at h hio'
    generalize imageBe32 blob (fw + 4) = len at h ⊢
    by_cases hlong : 300000 < len
    · exact Or.inl hlong
    · by_cases hmod : len % 4 = 0
      · obtain ⟨hworks, hlast⟩ := uploadChunk_works down (memoryOf blob behind) (fw + 8)
          (be32 (memoryOf blob behind) fw) henv hmod hio'
        simp only [if_neg hlong, hworks.ret, ne_eq, not_true, if_false] at h
        refine Or.inr (Or.inr ⟨?_, ih hworks.up h⟩)
        rcases Nat.eq_zero_or_pos len with rfl | hpos
        · omega
        · obtain ⟨p, n, hn, hend, hmem⟩ := hlast hpos
          have hinside := h _ ((uploadImageLoop_grows env down _ _ _ _).1.mem_of_mem hmem)
          have hle := IoEvent.le_of_inside hinside hn
          omega
      · exact Or.inr (Or.inl hmod)

end

/-- The image that was fetched is read inside of `fw_len`, whatever lies behind it and whatever
fails, exactly if its chunks are complete. -/
theorem uploadFirmware_inside_iff (requestFirmware : String → Except ℕ+ (List UInt8))
    (vmalloc : ℕ → Bool) (plt : Bool) (wl wl' : FwImage) (hsound : wl.Sound)
    (hfetch : wl12xxFetchFirmware requestFirmware vmalloc plt wl = (0, wl'))
    (down : PartitionSet) :
    ∃ blob, wl'.fw = some blob ∧ wl'.fwLen = blob.length ∧ blob.length % 4 = 0 ∧
      ((∀ env behind io, Extends Io.log (IoEvent.Inside wl'.fwLen) io
          (wlcoreBootUploadFirmware env down (memoryOf blob behind) io).2) ↔
        ImageComplete blob) := by
  have hfetched := fetchFirmware_sound requestFirmware vmalloc plt hsound
  rw [hfetch] at hfetched
  obtain ⟨blob, hfw, hlen, hmod, hne⟩ := hfetched.1.fetched (hfetched.2 rfl)
  have hfour : 4 ≤ blob.length := by
    have hpos := List.length_pos_iff.mpr hne
    omega
  refine ⟨blob, hfw, hlen, hmod, ?_⟩
  rw [hlen]
  constructor
  · intro h
    obtain ⟨evs, hlog, hinside⟩ := h okEnv (fun _ => 0) bootIo
    refine ⟨hfour, uploadImageLoop_complete down blob (fun _ => 0) okEnv_succeeds
      (show (bootIo.read 0 4).ioFailed = false from rfl) ?_⟩
    rw [wlcoreBootUploadFirmware, show bootIo.log = [] by rfl, List.nil_append] at hlog
    rw [imageBe32, hlog]
    exact hinside
  · rintro ⟨-, hchunks⟩ env behind io
    have hread : Extends Io.log (IoEvent.Inside blob.length) io (io.read 0 4) :=
      Extends.of_log_append rfl (IoEvent.inside_of_le (by omega))
    rw [wlcoreBootUploadFirmware, be32_memoryOf (by omega)]
    exact hread.trans (uploadImageLoop_extends env down blob behind hchunks _)

/-- The state before the first fetch, with the files of the wl18xx. -/
def unfetched : FwImage := ⟨.none, none, 0, 1, "ti-connectivity/wl18xx-fw-mc.bin",
  "ti-connectivity/wl18xx-fw-mc.bin", none⟩

/-- An image with one chunk of four bytes. -/
theorem uploadFirmware_inside_one :
    ImageComplete [0, 0, 0, 1, 0, 0, 0x80, 0, 0, 0, 0, 4, 1, 2, 3, 4] ∧
      ∀ env behind io, Extends Io.log (IoEvent.Inside 16) io
        (wlcoreBootUploadFirmware env wl18xxPartDown
          (memoryOf [0, 0, 0, 1, 0, 0, 0x80, 0, 0, 0, 0, 4, 1, 2, 3, 4] behind) io).2 := by
  have hcomplete : ImageComplete [0, 0, 0, 1, 0, 0, 0x80, 0, 0, 0, 0, 4, 1, 2, 3, 4] := by
    decide +kernel
  obtain ⟨blob, hfw, hlen, -, hiff⟩ := uploadFirmware_inside_iff
    (fun _ => .ok [0, 0, 0, 1, 0, 0, 0x80, 0, 0, 0, 0, 4, 1, 2, 3, 4]) (fun _ => true) false
    unfetched _ (FwImage.sound_of_none rfl) (by rfl) wl18xxPartDown
  cases hfw
  exact ⟨hcomplete, hiff.mpr hcomplete⟩

/-- An image that announces a chunk and ends: its header is read behind it. -/
theorem uploadFirmware_outside :
    ∃ wl',
      wl12xxFetchFirmware (fun _ => .ok [0, 0, 0, 1]) (fun _ => true) false unfetched = (0, wl') ∧
      wl'.fw = some [0, 0, 0, 1] ∧ wl'.fwLen = 4 ∧
      .read 4 4 ∈ (wlcoreBootUploadFirmware okEnv wl18xxPartDown
        (memoryOf [0, 0, 0, 1] fun _ => 0) bootIo).2.log ∧
      (wlcoreBootUploadFirmware okEnv wl18xxPartDown (memoryOf [0, 0, 0, 1] fun _ => 0)
        bootIo).1 = 0 := by
  refine ⟨_, rfl, rfl, rfl, ?_, ?_⟩
  · decide +kernel
  · decide +kernel

end TiWlan.Driver
