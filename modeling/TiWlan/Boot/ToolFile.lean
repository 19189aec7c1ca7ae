import TiWlan.Boot.NvsUpload
import TiWlan.Nvs.Layout

/-!
# The driver takes the files of the tool

`ti-utils/nvs.c` writes the file that `wlcore_boot_upload_nvs` (`wlcore/boot.c`, lines 274–425)
uploads. The 24 bytes before the TLVs are two bursts of one word with the address, the zero length
behind them, and padding up to where the driver looks for the tables.

* `updateMac_file`: the driver changes the file into that of the same content with its own address;
* `bootUploadNvs_toolFile`: it writes this address, and the TLVs as the tables.
-/

namespace TiWlan.Nvs

open TiWlan.Driver TiWlan.Lib

section
variable {arch : Arch} {env : IoEnv} {io : Io}

-- The numerals of `Fin 6` rest on this.
instance (priority := 2000) neZero_six : NeZero 6 := ⟨by decide⟩

/-- `addresses[0].addr` as an address of the tool. -/
def macOf (addr : Fin 6 → UInt8) : Mac := ⟨addr 0, addr 1, addr 2, addr 3, addr 4, addr 5⟩

theorem updateMac_file (addr : Fin 6 → UInt8) (c : Content arch) :
    updateMac addr c.file = { c with mac := macOf addr }.file := rfl

/-- A register is written in a burst. -/
def regWrite (part : PartitionSet) (reg : ℕ) (data : List UInt8) : IoEvent :=
  let addr := s32 (u32 (part.reg.start + reg : ℕ))
  .write part addr (wlcoreTranslateAddr part addr) data

/-- The writes of an upload. -/
def toolWrites (c : Content arch) (part work : PartitionSet) (cmdMboxAddress : ℤ) :
    List IoEvent :=
  [regWrite part 0x546c [c.mac.b5, c.mac.b4, c.mac.b3, c.mac.b2],
    regWrite part 0x5470 [c.mac.b1, c.mac.b0, 0, 0]] ++ partitionWrites work ++
    [.write work cmdMboxAddress (wlcoreTranslateAddr work cmdMboxAddress) c.tlvs]

variable (c : Content arch) (behind : ℕ → UInt8)

/-- The tables begin where the TLVs do. -/
theorem loadAt_tables : loadAt (memoryOf c.file behind) 24 444 = c.tlvs := by
  have hfile : Holds (memoryOf c.file behind) 0 c.file :=
    List.ext_getElem (by simp) fun i hi hi' => by simp [loadAt, memoryOf, hi']
  have hlen := c.nvsPart_length
  rw [Content.nvsPart, List.length_append, show (preParameters c.mac).length = 24 from rfl] at hlen
  rw [Content.file, holds_append, Content.nvsPart, holds_append] at hfile
  have htlvs := hfile.1.2
  rw [Holds, show c.tlvs.length = 444 by omega] at htlvs
  exact htlvs

/-- The file starts with two bursts of one word. -/
theorem burstList_file :
    BurstList (memoryOf c.file behind) 0 [⟨3, 0x546c, 1⟩, ⟨10, 0x5470, 1⟩] 14 := by
  have hburst {off addr : ℕ} (haddr : burstAddr (memoryOf c.file behind) off = addr)
      (hlen : memoryOf c.file behind off = 1) :
      burstAt (memoryOf c.file behind) off = ⟨off + 3, addr, 1⟩ := by
    rw [← haddr, burstAddr_eq, burstAt, hlen]
    rfl
  have haddr : burstAddr (memoryOf c.file behind) 0 = 0x546c ∧
      burstAddr (memoryOf c.file behind) 7 = 0x5470 := by
    simp [burstAddr, memoryOf, Content.file, Content.nvsPart, preParameters]
  have hone : (1 : UInt8) ≠ 0 := by decide
  rw [← hburst haddr.1 rfl, ← hburst haddr.2 rfl]
  exact .burst hone (.burst hone (.stop rfl))

theorem uploadNvs_file (henv : env.Succeeds) (work : PartitionSet) (cmdMboxAddress : ℤ)
    (hio : io.ioFailed = false) :
    ∃ io' evs, (∀ fuel ≥ nvsSectionSize, uploadNvs fuel env (memoryOf c.file behind) work
        cmdMboxAddress io = some (0, io')) ∧ io'.log = io.log ++ evs ∧
      chipWrites evs = toolWrites c io.currPart work cmdMboxAddress := by
  obtain ⟨ret, io', evs, hret, hlog, -, hout⟩ := uploadNvs_spec henv (memoryOf c.file behind) work
    cmdMboxAddress hio
  cases hout with
  | decoded hwf _ hwrites =>
    obtain ⟨rfl, rfl⟩ := (burstList_file c behind).unique hwf.bursts
    rw [show alignUp (14 + 7) 4 = 24 from rfl, show nvsSectionSize - 24 = 444 from rfl,
      loadAt_tables] at hwrites
    exact ⟨io', evs, hret, hlog, hwrites⟩
  | malformed hnot => exact absurd ⟨_, _, burstList_file c behind, by decide⟩ hnot

end

/-- The file that any commands have made of a new one: the driver accepts it, whatever its address
is, writes this address to the registers of the chip and the TLVs as the tables, and keeps the file
with this address. -/
theorem bootUploadNvs_toolFile (env : IoEnv) (henv : env.Succeeds) (behind : ℕ → UInt8)
    (wl : NvsState) (hio : wl.ioFailed = false) (arch : Arch) (ini stack : ℕ → UInt8)
    (cmds : List (Cmd × (ℕ → UInt8)))
    (hnvs : wl.nvs = runCmds arch (createNvsFile (cfgNvsOps arch) ini stack).2 cmds)
    (hlegacy : wl.legacyNvs = decide (arch = .wl1271)) :
    let c : Content arch :=
      { (cmds.map Prod.fst).foldl Content.apply (newContent arch ini) with mac := macOf wl.addr }
    ∃ wl' evs, (∀ fuel ≥ nvsSectionSize,
        wlcoreBootUploadNvs fuel env behind wl = some (0, wl')) ∧
      wl'.nvs = some c.file ∧ wl'.log = wl.log ++ evs ∧
      chipWrites evs = toolWrites c wl.currPart wl.work wl.cmdMboxAddress := by
  rw [createNvsFile_file, runCmds_file] at hnvs
  generalize (cmds.map Prod.fst).foldl Content.apply (newContent arch ini) = c₀ at hnvs ⊢
  have hsize (enable11a : Bool) : nvsSizeOk wl.legacyNvs enable11a c₀.file.length := by
    rw [hlegacy, c₀.file_length, iniSize_eq]
    by_cases harch : arch = .wl1271
    · simp [nvsSizeOk, harch, wl1271NvsFileSize]
    · simp [nvsSizeOk, harch, wl128xNvsFileSize]
  have hknown := (nvsSizeOk_spec (hsize false)).1
  intro c
  obtain ⟨io', evs, hret, hlog, hwrites⟩ := uploadNvs_file c behind henv wl.work wl.cmdMboxAddress
    (show (wl.toIo.read (dualModeSelect wl.legacyNvs) 1).ioFailed = false from hio)
  refine ⟨{ lookupDualMode c₀.file wl with nvs := some c.file, toIo := io' },
    .read (dualModeSelect wl.legacyNvs) 1 :: evs, fun fuel hfuel => ?_, rfl, ?_, hwrites⟩
  · rw [wlcoreBootUploadNvs, hnvs]
    simp only [lookupDualMode, if_pos hknown, hsize, not_true, if_false, updateMac_file]
    rw [hret fuel hfuel]
    rfl
  · rw [hlog, Io.read, Io.emit, List.append_assoc, List.singleton_append]

/-- A new file that no command has changed. -/
def newFileState : NvsState :=
  { bootIo with
    nvs := runCmds .wl128x (createNvsFile (cfgNvsOps .wl128x) (fun _ => 0) fun _ => 0).2 []
    legacyNvs := false
    enable11a := false
    addr := fun _ => 2
    work := wl18xxPartWork
    cmdMboxAddress := 0xb007b4 }

theorem bootUploadNvs_toolFile_new : ∃ wl', ∀ fuel ≥ nvsSectionSize,
    wlcoreBootUploadNvs fuel okEnv (fun _ => 0) newFileState = some (0, wl') := by
  obtain ⟨wl', _, hret, _⟩ := bootUploadNvs_toolFile okEnv okEnv_succeeds (fun _ => 0) newFileState
    rfl .wl128x (fun _ => 0) (fun _ => 0) [] rfl rfl
  exact ⟨wl', hret⟩

end TiWlan.Nvs
