import TiWlan.Lib.Bytes
import TiWlan.Lib.MachInt
import TiWlan.Lib.Memory

/-!
# The NVS file

Model of the functions of `ti-utils/nvs.c` that write the file with the calibration data of a
chip: `create_nvs_file`, `update_nvs_file`, `set_nvs_file_autofem`, `set_nvs_file_fem_manuf`,
`prepare_nvs_file` and `nvs_set_mac`, with `nvs_parse_data` (lines 65–251, 312–882), and of
`nvs_get_arch` (`ini.c`, lines 1093–1116). The layout is that of `plt.h`, lines 14–113.

A file is the list of its bytes, the file operations succeed, and the host is little-endian. The
functions read a file into a buffer on the stack that is not initialised: what is there before is
the argument `stack`. The text of a MAC address and of an INI file is parsed elsewhere.
-/

namespace TiWlan.Nvs

open TiWlan.Lib

/-- The contents of a file. -/
abbrev File := List UInt8

/-- `enum wl12xx_arch`. -/
inductive Arch
  | unknown | wl1271 | wl128x
  deriving DecidableEq, Repr

/-! ## The INI part

The sizes of the packed structures of `ini.h`, lines 30–212, field by field; only two fields are
written on their own. -/

/-- `sizeof(struct wl1271_ini)`: general, 2.4 GHz and 5 GHz parameters, each with its padding. -/
def sizeofWl1271Ini : ℕ :=
  let general := 9 + 3 * 16
  let band2 := 1 + 1 + 15
  let fem2 := 2 + 1 + 1 + 3 * 6 + 2 * 14 + 6 + 6 + 1 + 1 + 1
  let band5 := 7 + 7 + 15
  let fem5 := 2 * 7 + 7 + 7 + 3 * 6 + 35 + 6 + 6 + 7 + 1 + 1
  general + 1 + band2 + 1 + 2 * (fem2 + 1) + band5 + 1 + 2 * (fem5 + 1)

/-- `sizeof(struct wl128x_ini)`. -/
def sizeofWl128xIni : ℕ :=
  let general := 12 + 4 + 1 + 3 * 16
  let band2 := 1 + 14 + 15
  let fem2 := 2 + 1 + 1 + 3 * 7 + 2 * 14 + 7 + 8 + 14 + 2 + 1 + 1 + 1
  let band5 := 7 + 35 + 15
  let fem5 := 2 * 7 + 7 + 7 + 3 * 7 + 35 + 7 + 7 + 35 + 14 + 7 + 1 + 1
  general + 1 + band2 + 1 + 2 * (fem2 + 1) + band5 + 1 + 2 * (fem5 + 1)

/-- `struct wl12xx_nvs_ops`: what depends on the chip. -/
structure NvsOps where
  iniSize : ℕ
  /-- the offset of `tx_bip_fem_auto_detect` -/
  autoDetect : ℕ
  /-- the offset of `tx_bip_fem_manufacturer` -/
  manufacturer : ℕ

def wl1271NvsOps : NvsOps := ⟨sizeofWl1271Ini, 5, 6⟩

def wl128xNvsOps : NvsOps := ⟨sizeofWl128xIni, 10, 11⟩

/-- `cfg_nvs_ops` (nvs.c:312). -/
def cfgNvsOps : Arch → NvsOps
  | .wl1271 => wl1271NvsOps
  | _ => wl128xNvsOps

/-- `nvs_get_arch` (ini.c:1093); `none` is an error. -/
def nvsGetArch (fileSize : ℕ) (cmnArch : Arch) : Option Arch :=
  let arch := if fileSize = 912 then .wl1271 else if fileSize = 1113 then .wl128x else .unknown
  if cmnArch ≠ .unknown ∧ cmnArch ≠ arch then none else some arch

/-! ## Reading -/

/-- `read(fd, buf, size)` from the start of a file. -/
def readInto (file : File) (size : ℕ) (stack : ℕ → UInt8) : ℕ → UInt8 :=
  storeAt stack 0 (file.take size)

/-- `BUF_SIZE_4_NVS_FILE`. -/
def bufSize4NvsFile : ℕ := 2048

/-- `read_nvs` (nvs.c:348). -/
def readNvs (file : File) (stack : ℕ → UInt8) : ℕ → UInt8 := readInto file bufSize4NvsFile stack

/-- `nvs_size` of `read_nvs`. -/
def nvsSize (file : File) : ℕ := min bufSize4NvsFile file.length

/-- The part of `struct wl1271_cmd_cal_p2g` that is in the file. -/
structure CalP2g where
  type : UInt8 := 0
  len : ℕ := 0
  buf : ℕ → UInt8 := fun _ => 0

/-- What `nvs_parse_data` fills in: `pdata[0]`, `pdata[1]` and `*pver`. -/
structure NvsData where
  tx : CalP2g := {}
  rx : CalP2g := {}
  ver : ℕ := 0

/-- `NVS_TOTAL_LENGTH`. -/
def nvsTotalLength : ℕ := 500

/-- The length of the TLV at `bufIdx`. -/
def tlvLen (buf : ℕ → UInt8) (bufIdx : ℕ) : ℕ :=
  (buf (bufIdx + 2)).toNat * 256 + (buf (bufIdx + 1)).toNat

/-- The data of the TLV at `bufIdx` (nvs.c:419–430), as far as they are in the buffer. -/
def parseTlv (buf : ℕ → UInt8) (bufIdx : ℕ) (old : CalP2g) : CalP2g :=
  { type := buf bufIdx
    len := tlvLen buf bufIdx
    buf := storeAt old.buf 0
      (loadAt buf (bufIdx + 3) (min (tlvLen buf bufIdx) (nvsTotalLength - (bufIdx + 3)))) }

/-- The version in the TLV at `bufIdx` (nvs.c:399–408). -/
def parseVersion (buf : ℕ → UInt8) (bufIdx : ℕ) : ℕ :=
  (buf (bufIdx + 3)).toNat * 2 ^ 16 + (buf (bufIdx + 4)).toNat * 2 ^ 8 + (buf (bufIdx + 5)).toNat

/-- The loop of `nvs_parse_data` (nvs.c:386–434). The index is a `u16` and may wrap around, so the
loop need not end; `none` means that the fuel was used up. -/
def nvsParseLoop (buf : ℕ → UInt8) : ℕ → ℕ → NvsData → Option NvsData
  | 0, _, _ => none
  | fuel + 1, bufIdx, d =>
    if bufIdx < nvsTotalLength then
      let next := u16 (bufIdx + (3 + tlvLen buf bufIdx) : ℕ)
      match (buf bufIdx).toNat with
      -- `eNVS_RADIO_TX_PARAMETERS`
      | 1 => nvsParseLoop buf fuel next { d with tx := parseTlv buf bufIdx d.tx }
      -- `eNVS_RADIO_RX_PARAMETERS`
      | 2 => nvsParseLoop buf fuel next { d with rx := parseTlv buf bufIdx d.rx }
      -- `eNVS_VERSION`
      | 0xaa => nvsParseLoop buf fuel next { d with ver := parseVersion buf bufIdx }
      -- `eTLV_LAST` and the rest
      | _ => some d
    else some d

/-- `nvs_parse_data` (nvs.c:373). An iteration depends on the index only, so that a loop that has
not ended when every index below `NVS_TOTAL_LENGTH` may have been seen does not end at all. -/
def nvsParseData (buf : ℕ → UInt8) (d : NvsData) : Option NvsData :=
  nvsParseLoop buf (nvsTotalLength + 1) 0 d

/-! ## Writing -/

/-- A MAC address, first byte first. -/
structure Mac where
  b0 : UInt8
  b1 : UInt8
  b2 : UInt8
  b3 : UInt8
  b4 : UInt8
  b5 : UInt8
  deriving DecidableEq, Repr

/-- The bytes before the TLVs, as `nvs_fill_nvs_part` (nvs.c:509–540) and `prepare_nvs_file`
(lines 605–637) write them. -/
def preParameters (mac : Mac) : List UInt8 :=
  [0x1, 0x6d, 0x54, mac.b5, mac.b4, mac.b3, mac.b2, 0x1, 0x71, 0x54, mac.b1, mac.b0, 0x0, 0x0] ++
    -- `NVS_END_BURST_TRANSACTION_LENGTH` and `NVS_ALING_TLV_START_ADDRESS_LENGTH`
    List.replicate 7 0x0 ++ List.replicate 3 0x0

/-- The bytes after the TLVs. -/
def endOfNvs : List UInt8 := [0xff, 0xff, 0x0, 0x0]

/-- `NVS_TX_PARAM_LENGTH`. -/
def nvsTxParamLength : ℕ := 0x199

/-- `NVS_RX_PARAM_LENGTH`. -/
def nvsRxParamLength : ℕ := 19

/-- `fill_nvs_def_rx_params` (nvs.c:354); `DEFAULT_EFUSE_VALUE` is 0. -/
def fillNvsDefRxParams : List UInt8 :=
  [2] ++ leBytes 2 nvsRxParamLength ++ List.replicate nvsRxParamLength 0

/-- `nvs_fill_version` (nvs.c:437). -/
def nvsFillVersion (ver : ℕ) : List UInt8 :=
  [0xaa] ++ leBytes 2 3 ++
    [UInt8.ofNat (ver / 2 ^ 16), UInt8.ofNat (ver / 2 ^ 8), UInt8.ofNat ver]

/-- `nvs_fill_old_rx_data` (nvs.c:458). -/
def nvsFillOldRxData (buf : ℕ → UInt8) (len : ℕ) : List UInt8 :=
  [2] ++ leBytes 2 len ++ loadAt buf 0 len

/-- The address in a file without calibration. -/
def defaultMac : Mac := ⟨0x0b, 0xad, 0xde, 0xad, 0xbe, 0xef⟩

/-- `nvs_fill_nvs_part` (nvs.c:486). -/
def nvsFillNvsPart : List UInt8 :=
  preParameters defaultMac ++
    ([1] ++ leBytes 2 nvsTxParamLength ++ List.replicate nvsTxParamLength 0) ++
    fillNvsDefRxParams ++ nvsFillVersion 0 ++ endOfNvs

/-- `nvs_upd_nvs_part` (nvs.c:477). -/
def nvsUpdNvsPart (buf : ℕ → UInt8) : List UInt8 := loadAt buf 0 0x1d4

/-- `nvs_fill_radio_prms`: the image in memory, or the one that was in the file (nvs.c:118–169). -/
def nvsFillRadioPrms (ops : NvsOps) (ini : Option (ℕ → UInt8)) (buf : ℕ → UInt8) : List UInt8 :=
  match ini with
  | some ini => loadAt ini 0 ops.iniSize
  | none => loadAt buf 0x1d4 ops.iniSize

/-- `nvs_set_autofem` and `nvs_set_fem_manuf` (nvs.c:171–251): a byte of the INI part. -/
def nvsSetIniByte (ops : NvsOps) (offset : ℕ) (buf : ℕ → UInt8) (val : UInt8) : List UInt8 :=
  loadAt (storeAt buf (0x1d4 + offset) [val]) 0x1d4 ops.iniSize

/-! ## The commands

A command returns its result and the file afterwards. -/

/-- `create_nvs_file` (nvs.c:694). -/
def createNvsFile (ops : NvsOps) (ini : ℕ → UInt8) (stack : ℕ → UInt8) : ℕ × File :=
  (0, nvsFillNvsPart ++ nvsFillRadioPrms ops (some ini) stack)

/-- `update_nvs_file` (nvs.c:727) in place. -/
def updateNvsFile (file : File) (ops : NvsOps) (ini : ℕ → UInt8) (stack : ℕ → UInt8) : ℕ × File :=
  let buf := readNvs file stack
  (0, nvsUpdNvsPart buf ++ nvsFillRadioPrms ops (some ini) buf)

/-- `set_nvs_file_autofem` and `set_nvs_file_fem_manuf` (nvs.c:785–882). -/
def setNvsFileByte (offset : NvsOps → ℕ) (file : File) (val : UInt8) (cmnArch : Arch)
    (stack : ℕ → UInt8) : ℕ × File :=
  let buf := readNvs file stack
  match nvsGetArch (nvsSize file) cmnArch with
  | none => (1, file)
  | some arch =>
    let ops := cfgNvsOps arch
    (0, nvsUpdNvsPart buf ++ nvsSetIniByte ops (offset ops) buf val)

/-- `set_nvs_file_autofem` (nvs.c:785). -/
def setNvsFileAutofem : File → UInt8 → Arch → (ℕ → UInt8) → ℕ × File :=
  setNvsFileByte (·.autoDetect)

/-- `set_nvs_file_fem_manuf` (nvs.c:831). -/
def setNvsFileFemManuf : File → UInt8 → Arch → (ℕ → UInt8) → ℕ × File :=
  setNvsFileByte (·.manufacturer)

/-- `nvs_set_mac` (nvs.c:65). -/
def nvsSetMac (file : File) (mac : Mac) (stack : ℕ → UInt8) : ℕ × File :=
  let macBuff := readInto file 12 stack
  let macBuff := storeAt macBuff 10 [mac.b1, mac.b0]
  let macBuff := storeAt macBuff 3 [mac.b5, mac.b4, mac.b3, mac.b2]
  (0, loadAt macBuff 0 12 ++ file.drop 12)

/-- The result of a calibration, `struct wl1271_cmd_cal_p2g`. -/
structure Calibration where
  ver : ℕ
  len : ℕ
  buf : ℕ → UInt8

/-- `prepare_nvs_file` (nvs.c:561); `mac` is what `get_mac_addr` gives. `none` means that the
command does not return. -/
def prepareNvsFile (file : File) (cal : Calibration) (mac : Option Mac) (stack : ℕ → UInt8) :
    Option (ℕ × File) :=
  let buf := readNvs file stack
  -- `NVS_FILE_SIZE_127X` and `NVS_FILE_SIZE_128X`
  let arch : Option Arch :=
    if nvsSize file = 0x390 then some .wl1271
    else if nvsSize file = 0x459 then some .wl128x
    else none
  match arch, mac with
  | none, _ => some (1, file)
  -- the file has been truncated by then
  | some _, none => some (1, [0x1, 0x6d, 0x54])
  | some arch, some mac =>
    (nvsParseData (fun i => buf (24 + i)) {}).map fun old =>
      (0, preParameters mac ++ ([1] ++ leBytes 2 cal.len ++ loadAt cal.buf 0 cal.len) ++
        nvsFillOldRxData old.rx.buf old.rx.len ++ nvsFillVersion cal.ver ++ endOfNvs ++
        nvsFillRadioPrms (cfgNvsOps arch) none buf)

end TiWlan.Nvs
