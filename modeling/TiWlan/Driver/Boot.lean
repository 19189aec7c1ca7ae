import TiWlan.Driver.Io
import TiWlan.Lib.Memory

/-!
# Uploads at boot

Model of the upload of the firmware (`wlcore/boot.c`, lines 165–271), of the fetch of its image
(`wl12xx_fetch_firmware`, `wlcore/main.c`, lines 697–758) and of the upload of the calibration file
(`wlcore_boot_upload_nvs`, `wlcore/boot.c`, lines 274–425).

Images are read from memory that goes on behind them, with any bytes. Every read of an image is
logged with its position, whether or not it is inside of the image.
-/

namespace TiWlan.Driver

open TiWlan.Lib

/-- A read is inside of the first `n` bytes. -/
def IoEvent.Inside (n : ℕ) : IoEvent → Prop
  | .read pos len => ∀ i, pos ≤ i → i < pos + len → i < n
  | _ => True

theorem IoEvent.inside_of_le {n pos len : ℕ} (h : pos + len ≤ n) :
    IoEvent.Inside n (.read pos len) := fun _ _ hi => lt_of_lt_of_le hi h

theorem IoEvent.le_of_inside {n pos len : ℕ} (h : IoEvent.Inside n (.read pos len))
    (hlen : 0 < len) : pos + len ≤ n := by
  have hlast := h (pos + len - 1) (by omega) (by omega)
  omega

theorem IoEvent.Inside.mono {n m : ℕ} {e : IoEvent} (h : e.Inside n) (hnm : n ≤ m) :
    e.Inside m := by
  cases e with
  | read pos len => exact fun i hi hi' => lt_of_lt_of_le (h i hi hi') hnm
  | rawWrite => trivial
  | write => trivial

theorem IoEvent.inside_ofWrites (n : ℕ) : OfWrites (IoEvent.Inside n) :=
  ⟨fun _ _ => trivial, fun _ _ _ _ => trivial⟩

/-! ## Chunks of the firmware -/

/-- `CHUNK_SIZE`. -/
@[irreducible] def chunkSize : ℕ := 16384

theorem chunkSize_pos : 0 < chunkSize := by
  unfold chunkSize
  decide

/-- `wl18xx_ptable[PART_DOWN]` (`wl18xx/main.c`, line 545). -/
def wl18xxPartDown : PartitionSet :=
  ⟨⟨0x14000, 0⟩, ⟨0xbfff, 0x810000⟩, ⟨0, 0⟩, ⟨0, 0⟩⟩

/-- `wl18xx_ptable[PART_WORK]` (`wl18xx/main.c`, line 557). -/
def wl18xxPartWork : PartitionSet :=
  ⟨⟨0x50fc, 0x800000⟩, ⟨0x1000, 0xb00404⟩, ⟨0x400, 0xc00000⟩, ⟨0, 0⟩⟩

/-- A bus on which every write succeeds, with enough memory. -/
def okEnv : IoEnv := ⟨fun _ => 0, fun _ => true⟩

theorem okEnv_succeeds : okEnv.Succeeds := ⟨fun _ => rfl, fun _ => rfl⟩

/-- The state in which the firmware is uploaded (`wl->state` is still off). -/
def bootIo : Io := ⟨wl18xxPartDown, .off, false, []⟩

/-- `PART_DOWN` with another start of the memory window. -/
def PartitionSet.moveMem (p : PartitionSet) (start : ℕ) : PartitionSet :=
  { p with mem := { p.mem with start := start } }

section
variable (env : IoEnv) (down : PartitionSet) (image : ℕ → UInt8)

/-- The test for a new window (boot.c:205). The numbers of the chunks are small, so that only the
sums with `dest` and with the size of the window can wrap. -/
def needsMove (dest chunkNum : ℕ) (partitionLimit : ℤ) : Prop :=
  partitionLimit < s32 (dest + (chunkNum + 2) * chunkSize : ℕ)

instance (dest chunkNum : ℕ) (partitionLimit : ℤ) :
    Decidable (needsMove dest chunkNum partitionLimit) := by
  unfold needsMove
  infer_instance

/-- "10.2 update partition, if needed" (boot.c:205–213). -/
def updatePartition (dest chunkNum : ℕ) (partitionLimit : ℤ) (io : Io) : ℤ × Io :=
  if needsMove dest chunkNum partitionLimit then
    wlcoreSetPartition env (down.moveMem (u32 (s32 (dest + chunkNum * chunkSize : ℕ)))) io
  else (0, io)

/-- `partition_limit` behind it. -/
def updateLimit (dest chunkNum : ℕ) (partitionLimit : ℤ) : ℤ :=
  if needsMove dest chunkNum partitionLimit then
    s32 (chunkNum * chunkSize + down.mem.size : ℕ)
  else partitionLimit

/-- The loop of `wl1271_boot_upload_firmware_chunk` (boot.c:202) for the data at `pos`, with `left`
passes to go. -/
def uploadLoop (pos dest : ℕ) : ℕ → ℕ → ℤ → Io → ℤ × Io
  | 0, _, _, io => (0, io)
  | left + 1, chunkNum, partitionLimit, io =>
    let p := pos + chunkNum * chunkSize
    proceed (updatePartition env down dest chunkNum partitionLimit io) fun io =>
    -- 10.3 upload the chunk
    proceed (wlcoreWrite env (s32 (dest + chunkNum * chunkSize : ℕ)) (loadAt image p chunkSize)
      (io.read p chunkSize)) fun io =>
    uploadLoop pos dest left (chunkNum + 1) (updateLimit down dest chunkNum partitionLimit) io

/-- `wl1271_boot_upload_firmware_chunk` (boot.c:165) for the data at `pos`. -/
def wl1271BootUploadFirmwareChunk (pos fwDataLen dest : ℕ) (io : Io) : ℤ × Io :=
  if fwDataLen % 4 ≠ 0 then (-IoErrno.eio.code, io)
  else if env.kmalloc io.log = false then (-IoErrno.enomem.code, io)
  else
    let chunkNum := fwDataLen / chunkSize
    let p := pos + chunkNum * chunkSize
    let rest := fwDataLen % chunkSize
    proceed (wlcoreSetPartition env (down.moveMem dest) io) fun io =>
    proceed (uploadLoop env down image pos dest chunkNum 0 (s32 down.mem.size) io) fun io =>
    -- 10.4 upload the last chunk
    wlcoreWrite env (s32 (dest + chunkNum * chunkSize : ℕ)) (loadAt image p rest) (io.read p rest)

/-! ## The image of the firmware -/

/-- `be32_to_cpup`. -/
def be32 (pos : ℕ) : ℕ := leNat (loadAt image pos 4).reverse

/-- The loop of `wlcore_boot_upload_firmware` (boot.c:252). -/
def uploadImageLoop : ℕ → ℕ → Io → ℤ × Io
  | 0, _, io => (0, io)
  | chunks + 1, fw, io =>
    let io := (io.read fw 4).read (fw + 4) 4
    let len := be32 image (fw + 4)
    if 300000 < len then (-IoErrno.einval.code, io)
    else
      let r := wl1271BootUploadFirmwareChunk env down image (fw + 8) len (be32 image fw) io
      if r.1 ≠ 0 then r
      else uploadImageLoop chunks (fw + 8 + len) r.2

/-- `wlcore_boot_upload_firmware` (boot.c:240). -/
def wlcoreBootUploadFirmware (io : Io) : ℤ × Io :=
  uploadImageLoop env down image (be32 image 0) 4 (io.read 0 4)

end

/-! ## Fetching it -/

/-- `enum wl12xx_fw_type`. -/
inductive FwType
  | none | normal | multi | plt
  deriving DecidableEq, Repr

/-- The fields of `struct wl1271` about the image. -/
structure FwImage where
  fwType : FwType
  fw : Option (List UInt8)
  fwLen : ℕ
  lastVifCount : ℕ
  pltFwName : String
  srFwName : String
  mrFwName : Option String

/-- The image that is needed (main.c:704–719). -/
def neededFirmware (plt : Bool) (wl : FwImage) : FwType × String :=
  if plt then (.plt, wl.pltFwName)
  else match wl.mrFwName with
    | some name => if 1 < wl.lastVifCount then (.multi, name) else (.normal, wl.srFwName)
    | .none => (.normal, wl.srFwName)

/-- `wl12xx_fetch_firmware` (main.c:697). `requestFirmware` has the files, or a number `errno`;
`vmalloc` says whether memory is found, and there is never a block of 0 bytes. -/
def wl12xxFetchFirmware (requestFirmware : String → Except ℕ+ (List UInt8)) (vmalloc : ℕ → Bool)
    (plt : Bool) (wl : FwImage) : ℤ × FwImage :=
  if wl.fwType = (neededFirmware plt wl).1 then (0, wl)
  else match requestFirmware (neededFirmware plt wl).2 with
    | .error errno => (-(errno : ℤ), wl)
    | .ok data =>
      if data.length % 4 ≠ 0 then (-IoErrno.eilseq.code, wl)
      else if data.length = 0 ∨ vmalloc data.length = false then
        (-IoErrno.enomem.code, { wl with fwType := .none, fwLen := data.length, fw := .none })
      else
        (0, { wl with
          fwType := (neededFirmware plt wl).1, fwLen := data.length, fw := some data })

/-! ## The calibration file -/

/-- `sizeof(nvs->nvs)` of both files. -/
def nvsSectionSize : ℕ := 468

/-- `sizeof(struct wl1271_nvs_file)`. -/
def wl1271NvsFileSize : ℕ := 912

/-- `WL1271_INI_LEGACY_NVS_FILE_SIZE`. -/
def legacyNvsFileSize : ℕ := 800

/-- `sizeof(struct wl128x_nvs_file)`. -/
def wl128xNvsFileSize : ℕ := 1113

/-- The offset of `general_params.dual_mode_select` in `struct wl1271_nvs_file`. -/
def wl1271DualModeSelect : ℕ := 472

/-- The offset of `general_params.dual_mode_select` in `struct wl128x_nvs_file`. -/
def wl128xDualModeSelect : ℕ := 477

/-- The fields of `struct wl1271` that the upload of the file uses. -/
structure NvsState extends Io where
  nvs : Option (List UInt8)
  /-- `WLCORE_QUIRK_LEGACY_NVS` -/
  legacyNvs : Bool
  enable11a : Bool
  /-- `addresses[0].addr` -/
  addr : Fin 6 → UInt8
  /-- `ptable[PART_WORK]` -/
  work : PartitionSet
  /-- `rtable[REG_CMD_MBOX_ADDRESS]` -/
  cmdMboxAddress : ℤ

/-- "update current MAC address to NVS" (boot.c:335). -/
def updateMac (addr : Fin 6 → UInt8) (nvs : List UInt8) : List UInt8 :=
  (((((nvs.set 11 (addr 0)).set 10 (addr 1)).set 6 (addr 2)).set 5 (addr 3)).set 4 (addr 4)).set 3
    (addr 5)

section
variable (env : IoEnv) (nvs : ℕ → UInt8)

/-- The loop over the words of a burst (boot.c:367), with `left` words to go: the offset behind
them. -/
def burstLoop : ℕ → ℕ → ℕ → Io → Except ℤ ℕ × Io
  | 0, nvsPtr, _, io => (.ok nvsPtr, io)
  | left + 1, nvsPtr, destAddr, io =>
    if nvsSectionSize ≤ nvsPtr + 3 then (.error (-IoErrno.eilseq.code), io)
    else
      let r := wlcoreWrite32 env (s32 destAddr) (leNat (loadAt nvs nvsPtr 4)) (io.read nvsPtr 4)
      if r.1 < 0 then (.error r.1, r.2)
      else burstLoop left (nvsPtr + 4) (u32 (destAddr + 4)) r.2

/-- `dest_addr` without the start of the registers (boot.c:355). -/
def burstAddr (nvsPtr : ℕ) : ℕ := (nvs (nvsPtr + 1) &&& 0xfe).toNat + 256 * (nvs (nvsPtr + 2)).toNat

/-- The loop over the bursts (boot.c:353), with the number of passes bounded by `fuel`: the offset
of the byte that ends them. -/
def burstsLoop : ℕ → ℕ → Io → Option (Except ℤ ℕ × Io)
  | 0, _, _ => none
  | fuel + 1, nvsPtr, io =>
    let io := io.read nvsPtr 1
    if nvs nvsPtr = 0 then some (.ok nvsPtr, io)
    else
      let destAddr := u32 (burstAddr nvs nvsPtr + io.currPart.reg.start)
      match burstLoop env nvs (nvs nvsPtr).toNat (nvsPtr + 3) destAddr (io.read nvsPtr 3) with
      | (.error ret, io) => some (.error ret, io)
      | (.ok nvsPtr, io) =>
        if nvsSectionSize ≤ nvsPtr then some (.error (-IoErrno.eilseq.code), io)
        else burstsLoop fuel nvsPtr io

end

/-- The tables behind the bursts (boot.c:389–419). -/
def uploadTables (env : IoEnv) (nvs : ℕ → UInt8) (work : PartitionSet) (cmdMboxAddress : ℤ)
    (stop : ℕ) (io : Io) : ℤ × Io :=
  let nvsPtr := alignUp (stop + 7) 4
  if nvsSectionSize ≤ nvsPtr then (-IoErrno.eilseq.code, io)
  else
    let nvsLen := nvsSectionSize - nvsPtr
    proceed (wlcoreSetPartition env work io) fun io =>
    if env.kmalloc io.log = false then (-IoErrno.enomem.code, io)
    else wlcoreWrite env cmdMboxAddress (loadAt nvs nvsPtr nvsLen) (io.read nvsPtr nvsLen)

/-- The upload of a file of the right size (boot.c:334–424). -/
def uploadNvs (fuel : ℕ) (env : IoEnv) (nvs : ℕ → UInt8) (work : PartitionSet)
    (cmdMboxAddress : ℤ) (io : Io) : Option (ℤ × Io) :=
  match burstsLoop env nvs fuel 0 io with
  | none => none
  | some (.error ret, io) => some (ret, io)
  | some (.ok stop, io) => some (uploadTables env nvs work cmdMboxAddress stop io)

/-- The sizes of a file in which `dual_mode_select` is looked up (boot.c:298, 321). -/
def knownNvsSize (legacyNvs : Bool) (nvsLen : ℕ) : Prop :=
  if legacyNvs then nvsLen = wl1271NvsFileSize ∨ nvsLen = legacyNvsFileSize
  else nvsLen = wl128xNvsFileSize

instance (legacyNvs : Bool) (nvsLen : ℕ) : Decidable (knownNvsSize legacyNvs nvsLen) := by
  unfold knownNvsSize
  infer_instance

/-- `nvs->general_params.dual_mode_select` of the file that is expected. -/
def dualModeSelect (legacyNvs : Bool) : ℕ :=
  if legacyNvs then wl1271DualModeSelect else wl128xDualModeSelect

/-- The size is as expected (boot.c:304, 320). -/
def nvsSizeOk (legacyNvs enable11a : Bool) (nvsLen : ℕ) : Prop :=
  if legacyNvs then
    nvsLen = wl1271NvsFileSize ∨ (nvsLen = legacyNvsFileSize ∧ enable11a = false)
  else nvsLen = wl128xNvsFileSize

instance (legacyNvs enable11a : Bool) (nvsLen : ℕ) :
    Decidable (nvsSizeOk legacyNvs enable11a nvsLen) := by
  unfold nvsSizeOk
  infer_instance

/-- The lookup of `dual_mode_select` (boot.c:298, 320). -/
def lookupDualMode (nvs : List UInt8) (wl : NvsState) : NvsState :=
  if knownNvsSize wl.legacyNvs nvs.length then
    { wl with
      toIo := wl.toIo.read (dualModeSelect wl.legacyNvs) 1
      enable11a := wl.enable11a || nvs.getD (dualModeSelect wl.legacyNvs) 0 != 0 }
  else wl

/-- `wlcore_boot_upload_nvs` (boot.c:274), with the bytes `behind` the file and a bound of the
number of bursts. -/
def wlcoreBootUploadNvs (fuel : ℕ) (env : IoEnv) (behind : ℕ → UInt8) (wl : NvsState) :
    Option (ℤ × NvsState) :=
  match wl.nvs with
  | none => some (-IoErrno.enodev.code, wl)
  | some nvs =>
    let wl := lookupDualMode nvs wl
    if ¬nvsSizeOk wl.legacyNvs wl.enable11a nvs.length then
      some (-IoErrno.eilseq.code, { wl with nvs := none })
    else
      let nvs := updateMac wl.addr nvs
      (uploadNvs fuel env (memoryOf nvs behind) wl.work wl.cmdMboxAddress wl.toIo).map fun r =>
        (r.1, { wl with nvs := some nvs, toIo := r.2 })

end TiWlan.Driver
