import TiWlan.Nvs.File

/-!
# NVS files stay well formed

`Content` says what an NVS file is for: an address, calibration data for transmission and
reception, their version, and the INI part. `Content.file` is the file that holds it: 24 bytes
with the address, three TLVs and their end in 0x1d4 bytes altogether, and the INI part.

The commands of `ti-utils/nvs.c` build the file up byte by byte, and `prepare_nvs_file` parses
what it was. Each of them does to the file what `Content.apply` says it is for:

* `parse_file`: `nvs_parse_data` finds the calibration data of a file;
* `exec_file`: a command turns the file of a content into that of the changed content;
* `nvs_wellFormed`: the result for all sequences of commands.
-/

namespace TiWlan.Nvs

open TiWlan.Lib

variable {arch : Arch} {data l : List UInt8} {type : UInt8}

/-! ## Contents -/

/-- What an NVS file holds. -/
structure Content (arch : Arch) where
  mac : Mac
  tx : List UInt8
  rx : List UInt8
  ver : ℕ
  ini : List UInt8
  tx_length : tx.length = nvsTxParamLength
  rx_length : rx.length = nvsRxParamLength
  ini_length : ini.length = (cfgNvsOps arch).iniSize

/-- A TLV. -/
def tlv (type : UInt8) (data : List UInt8) : List UInt8 := [type] ++ leBytes 2 data.length ++ data

namespace Content

variable {arch : Arch}

/-- The three TLVs and their end. -/
def tlvs (c : Content arch) : List UInt8 :=
  tlv 1 c.tx ++ (tlv 2 c.rx ++ (nvsFillVersion c.ver ++ endOfNvs))

/-- The part of the file before the INI part. -/
def nvsPart (c : Content arch) : List UInt8 := preParameters c.mac ++ c.tlvs

/-- The file. -/
def file (c : Content arch) : File := c.nvsPart ++ c.ini

theorem nvsPart_length (c : Content arch) : c.nvsPart.length = 0x1d4 := by
  simp [nvsPart, tlvs, tlv, preParameters, nvsFillVersion, endOfNvs, c.tx_length, c.rx_length,
    nvsTxParamLength, nvsRxParamLength]

theorem file_length (c : Content arch) : c.file.length = 0x1d4 + (cfgNvsOps arch).iniSize := by
  rw [file, List.length_append, nvsPart_length, c.ini_length]

end Content

theorem iniSize_eq (arch : Arch) :
    (cfgNvsOps arch).iniSize = if arch = .wl1271 then 444 else 645 := by
  cases arch <;> rfl

/-! ## Buffers -/

/-- The buffer holds `l` from position `k` on. -/
def Holds (buf : ℕ → UInt8) (k : ℕ) (l : List UInt8) : Prop := loadAt buf k l.length = l

section
variable {buf : ℕ → UInt8} {k : ℕ}

theorem holds_append {l' : List UInt8} :
    Holds buf k (l ++ l') ↔ Holds buf k l ∧ Holds buf (k + l.length) l' := by
  unfold Holds
  rw [List.length_append, loadAt_add]
  constructor
  · intro h
    exact List.append_inj h (loadAt_length ..)
  · rintro ⟨h, h'⟩
    rw [h, h']

theorem holds_cons {b : UInt8} : Holds buf k (b :: l) ↔ buf k = b ∧ Holds buf (k + 1) l := by
  have happ : Holds buf k ([b] ++ l) ↔ Holds buf k [b] ∧ Holds buf (k + [b].length) l :=
    holds_append
  have hsingle : Holds buf k [b] ↔ buf k = b := by
    simp [Holds, loadAt]
  rw [hsingle] at happ
  exact happ

/-- A file that fits is in the buffer. -/
theorem holds_readInto (file : File) {size : ℕ} (hsize : file.length ≤ size)
    (stack : ℕ → UInt8) : Holds (readInto file size stack) 0 file := by
  rw [readInto, List.take_of_length_le hsize]
  exact loadAt_storeAt_self stack 0 file

theorem Holds.shift {d : ℕ} (h : Holds buf (d + k) l) : Holds (fun i => buf (d + i)) k l := by
  unfold Holds loadAt at h ⊢
  simpa [Nat.add_assoc] using h

/-! ## Parsing -/

theorem tlv_length (type : UInt8) (data : List UInt8) :
    (tlv type data).length = 3 + data.length := by
  simp [tlv]
  omega

/-- A TLV in the buffer. -/
theorem Holds.tlv (h : Holds buf k (tlv type data)) (hdata : data.length < 2 ^ 16) :
    buf k = type ∧ tlvLen buf k = data.length ∧ Holds buf (k + 3) data := by
  unfold Nvs.tlv at h
  rw [List.append_assoc, holds_append, holds_append] at h
  obtain ⟨htype, hlen, hval⟩ := h
  refine ⟨(holds_cons.mp htype).1, ?_, hval⟩
  obtain ⟨hlow, hhigh⟩ := holds_cons.mp hlen
  replace hhigh := (holds_cons.mp hhigh).1
  have hnat := leNat_leBytes 2 data.length
  simp only [leBytes, leNat] at hnat
  unfold tlvLen
  rw [show k + 2 = k + [type].length + 1 from rfl, hhigh,
    show k + 1 = k + [type].length from rfl, hlow]
  omega

theorem parseTlv_data (h : Holds buf k (tlv type data))
    (hdata : k + 3 + data.length ≤ nvsTotalLength) (old : CalP2g) :
    (parseTlv buf k old).len = data.length ∧
      loadAt (parseTlv buf k old).buf 0 data.length = data := by
  have hsmall : data.length < 2 ^ 16 := by
    unfold nvsTotalLength at hdata
    omega
  obtain ⟨-, hlen, hval⟩ := h.tlv hsmall
  refine ⟨hlen, ?_⟩
  show loadAt (storeAt old.buf 0 _) 0 data.length = data
  rw [hlen, min_eq_left (by omega), show loadAt buf (k + 3) data.length = data from hval]
  exact loadAt_storeAt_self old.buf 0 data

/-- The version TLV is one of three bytes. -/
theorem Holds.version {ver : ℕ} (h : Holds buf k (nvsFillVersion ver)) :
    buf k = 0xaa ∧ tlvLen buf k = 3 ∧ parseVersion buf k = ver % 2 ^ 24 := by
  have htlv : Holds buf k (Nvs.tlv 0xaa [UInt8.ofNat (ver / 2 ^ 16), UInt8.ofNat (ver / 2 ^ 8),
    UInt8.ofNat ver]) := h
  obtain ⟨htype, hlen, hval⟩ := htlv.tlv (by simp)
  refine ⟨htype, hlen, ?_⟩
  obtain ⟨h0, hval⟩ := holds_cons.mp hval
  obtain ⟨h1, hval⟩ := holds_cons.mp hval
  obtain ⟨h2, -⟩ := holds_cons.mp hval
  have hbyte (x : ℕ) : (UInt8.ofNat x).toNat = x % 256 := UInt8.toNat_ofNat'
  unfold parseVersion
  rw [h0, show k + 4 = k + 3 + 1 from rfl, h1, show k + 5 = k + 3 + 1 + 1 from rfl, h2, hbyte,
    hbyte, hbyte]
  omega

section
variable {fuel : ℕ} {d : NvsData}

theorem parseLoop_tx (hk : k < nvsTotalLength) (htype : buf k = 1) :
    nvsParseLoop buf (fuel + 1) k d = nvsParseLoop buf fuel (u16 (k + (3 + tlvLen buf k) : ℕ))
      { d with tx := parseTlv buf k d.tx } := by
  rw [nvsParseLoop, if_pos hk, htype]
  rfl

theorem parseLoop_rx (hk : k < nvsTotalLength) (htype : buf k = 2) :
    nvsParseLoop buf (fuel + 1) k d = nvsParseLoop buf fuel (u16 (k + (3 + tlvLen buf k) : ℕ))
      { d with rx := parseTlv buf k d.rx } := by
  rw [nvsParseLoop, if_pos hk, htype]
  rfl

theorem parseLoop_version (hk : k < nvsTotalLength) (htype : buf k = 0xaa) :
    nvsParseLoop buf (fuel + 1) k d = nvsParseLoop buf fuel (u16 (k + (3 + tlvLen buf k) : ℕ))
      { d with ver := parseVersion buf k } := by
  rw [nvsParseLoop, if_pos hk, htype]
  rfl

theorem parseLoop_end (hk : k < nvsTotalLength) (htype : buf k = 0xff) :
    nvsParseLoop buf (fuel + 1) k d = some d := by
  rw [nvsParseLoop, if_pos hk, htype]
  rfl

end

/-- What `nvs_parse_data` finds in the TLVs of a content. -/
structure Parsed {arch : Arch} (c : Content arch) (d : NvsData) : Prop where
  tx_len : d.tx.len = nvsTxParamLength
  tx : loadAt d.tx.buf 0 nvsTxParamLength = c.tx
  rx_len : d.rx.len = nvsRxParamLength
  rx : loadAt d.rx.buf 0 nvsRxParamLength = c.rx
  ver : d.ver = c.ver % 2 ^ 24

theorem parse_tlvs {c : Content arch} (h : Holds buf 0 c.tlvs) (d : NvsData) :
    ∃ d', nvsParseData buf d = some d' ∧ Parsed c d' := by
  unfold Content.tlvs at h
  rw [holds_append, holds_append, holds_append, tlv_length, tlv_length, c.tx_length,
    c.rx_length] at h
  obtain ⟨htx, hrx, hver, hend⟩ := h
  obtain ⟨htxType, htxLen, -⟩ := htx.tlv (by rw [c.tx_length]; decide)
  obtain ⟨hrxType, hrxLen, -⟩ := hrx.tlv (by rw [c.rx_length]; decide)
  obtain ⟨hverType, hverLen, hverVal⟩ := hver.version
  have hendType := (holds_cons.mp hend).1
  obtain ⟨htxL, htxD⟩ := parseTlv_data htx (by rw [c.tx_length]; decide) d.tx
  obtain ⟨hrxL, hrxD⟩ := parseTlv_data hrx (by rw [c.rx_length]; decide) d.rx
  rw [c.tx_length] at htxLen htxL htxD
  rw [c.rx_length] at hrxLen hrxL hrxD
  have hafterTx : u16 (0 + (3 + nvsTxParamLength) : ℕ) = 0 + (3 + nvsTxParamLength) := by decide
  have hafterRx : u16 (0 + (3 + nvsTxParamLength) + (3 + nvsRxParamLength) : ℕ) =
      0 + (3 + nvsTxParamLength) + (3 + nvsRxParamLength) := by decide
  have hafterVer : u16 (0 + (3 + nvsTxParamLength) + (3 + nvsRxParamLength) + (3 + 3) : ℕ) =
      0 + (3 + nvsTxParamLength) + (3 + nvsRxParamLength) + (nvsFillVersion c.ver).length := rfl
  refine ⟨⟨parseTlv buf 0 d.tx, parseTlv buf (0 + (3 + nvsTxParamLength)) d.rx,
    parseVersion buf (0 + (3 + nvsTxParamLength) + (3 + nvsRxParamLength))⟩, ?_, htxL, htxD, hrxL,
    hrxD, hverVal⟩
  show nvsParseLoop buf (497 + 1 + 1 + 1 + 1) 0 d = _
  rw [parseLoop_tx (by decide) htxType, htxLen, hafterTx, parseLoop_rx (by decide) hrxType, hrxLen,
    hafterRx, parseLoop_version (by decide) hverType, hverLen, hafterVer,
    parseLoop_end (show _ < nvsTotalLength by simp [nvsFillVersion]; decide) hendType]

/-! ## The commands on the file of a content -/

variable {arch : Arch} (c : Content arch)

theorem file_fits : c.file.length ≤ bufSize4NvsFile := by
  have hini := iniSize_eq arch
  rw [c.file_length]
  unfold bufSize4NvsFile
  split at hini <;> omega

/-- `read_nvs` gets the whole file. -/
theorem holds_readNvs (stack : ℕ → UInt8) :
    Holds (readNvs c.file stack) 0 c.nvsPart ∧ Holds (readNvs c.file stack) 0x1d4 c.ini := by
  have h := holds_readInto c.file (file_fits c) stack
  rw [Content.file, holds_append, c.nvsPart_length] at h
  exact h

theorem nvsUpdNvsPart_file (stack : ℕ → UInt8) :
    nvsUpdNvsPart (readNvs c.file stack) = c.nvsPart := by
  have h := (holds_readNvs c stack).1
  unfold Holds at h
  rwa [c.nvsPart_length] at h

theorem nvsSize_file : nvsSize c.file = 0x1d4 + (cfgNvsOps arch).iniSize := by
  rw [nvsSize, min_eq_right (file_fits c), c.file_length]

/-- `nvs_parse_data` on the file of a content, from byte 24 on. -/
theorem parse_file (stack : ℕ → UInt8) (d : NvsData) :
    ∃ d', nvsParseData (fun i => readNvs c.file stack (24 + i)) d = some d' ∧ Parsed c d' := by
  have h := (holds_readNvs c stack).1
  rw [Content.nvsPart, holds_append] at h
  exact parse_tlvs (Holds.shift h.2) d

/-- The size of a file tells its architecture, as far as the INI part goes. -/
theorem nvsSize_cases : (nvsSize c.file = 0x390 ∧ cfgNvsOps .wl1271 = cfgNvsOps arch) ∨
    (nvsSize c.file = 0x459 ∧ cfgNvsOps .wl128x = cfgNvsOps arch) := by
  rw [nvsSize_file]
  cases arch with
  | unknown => exact Or.inr ⟨rfl, rfl⟩
  | wl1271 => exact Or.inl ⟨rfl, rfl⟩
  | wl128x => exact Or.inr ⟨rfl, rfl⟩

theorem nvsGetArch_file :
    ∃ arch', nvsGetArch (nvsSize c.file) .unknown = some arch' ∧
      cfgNvsOps arch' = cfgNvsOps arch := by
  rcases nvsSize_cases c with ⟨hsize, hops⟩ | ⟨hsize, hops⟩ <;> rw [hsize]
  · exact ⟨.wl1271, rfl, hops⟩
  · exact ⟨.wl128x, rfl, hops⟩

/-- A byte of the INI part is set. -/
theorem nvsSetIniByte_file (offset : ℕ) (stack : ℕ → UInt8) (val : UInt8) :
    nvsSetIniByte (cfgNvsOps arch) offset (readNvs c.file stack) val = c.ini.set offset val := by
  have hini := (holds_readNvs c stack).2
  unfold Holds at hini
  rw [c.ini_length] at hini
  rw [nvsSetIniByte, loadAt_storeAt_singleton, hini]

end

/-! ## Sequences of commands -/

/-- A command on a file, without its name: the architecture is unknown before the file is read,
and a calibration has the length that the layout needs. -/
inductive Cmd where
  | setMac (mac : Mac)
  | setAutofem (val : UInt8)
  | setFemManuf (val : UInt8)
  | update (ini : ℕ → UInt8)
  | prepare (ver : ℕ) (buf : ℕ → UInt8) (mac : Mac)

/-- The command in place; `none` means that it does not return. -/
def Cmd.exec (arch : Arch) (stack : ℕ → UInt8) (file : File) : Cmd → Option (ℕ × File)
  | .setMac mac => some (nvsSetMac file mac stack)
  | .setAutofem val => some (setNvsFileAutofem file val .unknown stack)
  | .setFemManuf val => some (setNvsFileFemManuf file val .unknown stack)
  | .update ini => some (updateNvsFile file (cfgNvsOps arch) ini stack)
  | .prepare ver buf mac => prepareNvsFile file ⟨ver, nvsTxParamLength, buf⟩ (some mac) stack

/-- What a command is for. -/
def Content.apply {arch : Arch} (c : Content arch) : Cmd → Content arch
  | .setMac mac => { c with mac := mac }
  | .setAutofem val =>
    { c with
      ini := c.ini.set (cfgNvsOps arch).autoDetect val
      ini_length := by rw [List.length_set, c.ini_length] }
  | .setFemManuf val =>
    { c with
      ini := c.ini.set (cfgNvsOps arch).manufacturer val
      ini_length := by rw [List.length_set, c.ini_length] }
  | .update ini =>
    { c with ini := loadAt ini 0 (cfgNvsOps arch).iniSize, ini_length := loadAt_length .. }
  | .prepare ver buf mac =>
    { c with
      mac := mac
      tx := loadAt buf 0 nvsTxParamLength
      ver := ver
      tx_length := loadAt_length .. }

section
variable {arch : Arch} (c : Content arch) (stack : ℕ → UInt8)

/-- Both bytes of the FEM are set in the same way. -/
theorem setNvsFileByte_file (offset : NvsOps → ℕ) (val : UInt8) :
    setNvsFileByte offset c.file val .unknown stack =
      (0, c.nvsPart ++ c.ini.set (offset (cfgNvsOps arch)) val) := by
  obtain ⟨arch', harch, hops⟩ := nvsGetArch_file c
  simp only [setNvsFileByte, harch, hops, nvsUpdNvsPart_file, nvsSetIniByte_file]

theorem updateNvsFile_file (ini : ℕ → UInt8) :
    updateNvsFile c.file (cfgNvsOps arch) ini stack = (0, (c.apply (.update ini)).file) := by
  rw [updateNvsFile, nvsUpdNvsPart_file]
  rfl

theorem nvsSetMac_file (mac : Mac) :
    nvsSetMac c.file mac stack = (0, (c.apply (.setMac mac)).file) := by
  have htake : c.file.take 12 = [0x1, 0x6d, 0x54, c.mac.b5, c.mac.b4, c.mac.b3, c.mac.b2, 0x1,
    0x71, 0x54, c.mac.b1, c.mac.b0] := rfl
  rw [nvsSetMac, readInto, htake]
  rfl

theorem prepareNvsFile_file (ver : ℕ) (buf : ℕ → UInt8) (mac : Mac) :
    prepareNvsFile c.file ⟨ver, nvsTxParamLength, buf⟩ (some mac) stack =
      some (0, (c.apply (.prepare ver buf mac)).file) := by
  obtain ⟨old, hparse, hold⟩ := parse_file c stack {}
  have hini := (holds_readNvs c stack).2
  unfold Holds at hini
  rw [c.ini_length] at hini
  obtain ⟨arch', harch, hops⟩ : ∃ arch', (if nvsSize c.file = 0x390 then some Arch.wl1271
      else if nvsSize c.file = 0x459 then some Arch.wl128x else none) = some arch' ∧
        cfgNvsOps arch' = cfgNvsOps arch := by
    rcases nvsSize_cases c with ⟨hsize, hops⟩ | ⟨hsize, hops⟩ <;> rw [hsize]
    · exact ⟨.wl1271, rfl, hops⟩
    · exact ⟨.wl128x, rfl, hops⟩
  unfold prepareNvsFile
  simp only [harch, hparse, Option.map_some, nvsFillOldRxData, hold.rx_len, hold.rx,
    nvsFillRadioPrms, hops, hini]
  simp only [Content.file, Content.nvsPart, Content.tlvs, Content.apply, tlv, loadAt_length,
    c.rx_length, List.append_assoc]

/-- A command does to the file what it is for, and returns 0. -/
theorem exec_file (cmd : Cmd) : cmd.exec arch stack c.file = some (0, (c.apply cmd).file) := by
  cases cmd with
  | setMac mac => exact congrArg some (nvsSetMac_file c stack mac)
  | setAutofem val => exact congrArg some (setNvsFileByte_file c stack (·.autoDetect) val)
  | setFemManuf val => exact congrArg some (setNvsFileByte_file c stack (·.manufacturer) val)
  | update ini => exact congrArg some (updateNvsFile_file c stack ini)
  | prepare ver buf mac => exact prepareNvsFile_file c stack ver buf mac

end

/-- A sequence of commands, each with what is on its stack; `none` if one of them does not return
0. -/
def runCmds (arch : Arch) : File → List (Cmd × (ℕ → UInt8)) → Option File
  | file, [] => some file
  | file, (cmd, stack) :: cmds =>
    match cmd.exec arch stack file with
    | some (0, file) => runCmds arch file cmds
    | _ => none

theorem runCmds_file (c : Content arch) (cmds : List (Cmd × (ℕ → UInt8))) :
    runCmds arch c.file cmds = some ((cmds.map Prod.fst).foldl Content.apply c).file := by
  induction cmds generalizing c with
  | nil => rfl
  | cons cmd cmds ih =>
    obtain ⟨cmd, stack⟩ := cmd
    rw [runCmds, exec_file]
    exact ih (c.apply cmd)

/-- The content of a new file. -/
def newContent (arch : Arch) (ini : ℕ → UInt8) : Content arch where
  mac := defaultMac
  tx := List.replicate nvsTxParamLength 0
  rx := List.replicate nvsRxParamLength 0
  ver := 0
  ini := loadAt ini 0 (cfgNvsOps arch).iniSize
  tx_length := List.length_replicate
  rx_length := List.length_replicate
  ini_length := loadAt_length ..

theorem createNvsFile_file (arch : Arch) (ini stack : ℕ → UInt8) :
    createNvsFile (cfgNvsOps arch) ini stack = (0, (newContent arch ini).file) := by
  simp only [createNvsFile, nvsFillNvsPart, fillNvsDefRxParams, nvsFillRadioPrms, Content.file,
    Content.nvsPart, Content.tlvs, newContent, tlv, List.length_replicate, List.append_assoc]

theorem apply_rx (c : Content arch) (cmds : List Cmd) : (cmds.foldl Content.apply c).rx = c.rx := by
  induction cmds generalizing c with
  | nil => rfl
  | cons cmd cmds ih =>
    rw [List.foldl_cons, ih]
    cases cmd <;> rfl

theorem file_mac (c : Content arch) :
    [3, 4, 5, 6, 10, 11].map (c.file.getD · 0) =
      [c.mac.b5, c.mac.b4, c.mac.b3, c.mac.b2, c.mac.b1, c.mac.b0] := rfl

/-- After every sequence of commands on a new file: all of them have returned 0, the file has the
size of its architecture, `nvs_parse_data` finds the data and the version of the last calibration
and the reception data of the new file, the INI part is the last image with the FEM settings made
since, and the address is the last one that was written. -/
theorem nvs_wellFormed (arch : Arch) (ini stack : ℕ → UInt8)
    (cmds : List (Cmd × (ℕ → UInt8))) :
    let c := (cmds.map Prod.fst).foldl Content.apply (newContent arch ini)
    ∃ file, runCmds arch (createNvsFile (cfgNvsOps arch) ini stack).2 cmds = some file ∧
      file.length = (if arch = .wl1271 then 912 else 1113) ∧
      (∀ stack d, ∃ d', nvsParseData (fun i => readNvs file stack (24 + i)) d = some d' ∧
        d'.tx.len = nvsTxParamLength ∧ loadAt d'.tx.buf 0 nvsTxParamLength = c.tx ∧
        d'.rx.len = nvsRxParamLength ∧
        loadAt d'.rx.buf 0 nvsRxParamLength = List.replicate nvsRxParamLength 0 ∧
        d'.ver = c.ver % 2 ^ 24) ∧
      file.drop 0x1d4 = c.ini ∧
      [3, 4, 5, 6, 10, 11].map (file.getD · 0) =
        [c.mac.b5, c.mac.b4, c.mac.b3, c.mac.b2, c.mac.b1, c.mac.b0] := by
  intro c
  refine ⟨c.file, ?_, ?_, ?_, ?_, file_mac c⟩
  · rw [createNvsFile_file]
    exact runCmds_file (newContent arch ini) cmds
  · rw [c.file_length, iniSize_eq]
    split <;> rfl
  · intro stack d
    obtain ⟨d', hparse, hd'⟩ := parse_file c stack d
    have hrx : c.rx = List.replicate nvsRxParamLength 0 := apply_rx (newContent arch ini) _
    exact ⟨d', hparse, hd'.tx_len, hd'.tx, hd'.rx_len, hd'.rx.trans hrx, hd'.ver⟩
  · rw [Content.file, ← c.nvsPart_length, List.drop_left]

end TiWlan.Nvs
