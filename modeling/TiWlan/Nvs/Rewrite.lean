import TiWlan.Nvs.Layout

/-!
# Rewriting any file

`TiWlan.Nvs.Layout` follows the commands on files that `nvs.c` has written itself. Here the file is
any file: what is lost of it, and what `nvs_parse_data` makes of it.

* `setNvsFile_oneByte_iff`: setting a FEM byte is safe for the two sizes of an NVS file only; with
  an unknown architecture `nvs_get_arch` accepts every size, and the file is rewritten as one of a
  wl128x, with bytes of the stack where it was too short;
* `nvsParseData_safe_iff`: `nvs_parse_data` walks through the TLVs, provided that its 16-bit index
  does not wrap, and finds no more reception data than there are if the last TLV with such data ends
  within `NVS_TOTAL_LENGTH`;
* `prepareNvsFile_safe_iff`: `prepare_nvs_file` keeps an NVS file usable if the address is found and
  the new and the old calibration data fill their place exactly.
-/

namespace TiWlan.Nvs

open TiWlan.Lib

variable {buf : ℕ → UInt8} {file : File} {arch : Arch}

/-- The size of the file is that of an NVS file for the architecture. -/
def HasSize (file : File) (arch : Arch) : Prop :=
  arch = .wl1271 ∧ file.length = 912 ∨ arch = .wl128x ∧ file.length = 1113

theorem exists_hasSize : (∃ arch, HasSize file arch) ↔ file.length = 912 ∨ file.length = 1113 := by
  constructor
  · rintro ⟨_, ⟨-, h⟩ | ⟨-, h⟩⟩
    · exact Or.inl h
    · exact Or.inr h
  · rintro (h | h)
    · exact ⟨.wl1271, Or.inl ⟨rfl, h⟩⟩
    · exact ⟨.wl128x, Or.inr ⟨rfl, h⟩⟩

theorem HasSize.length (h : HasSize file arch) :
    file.length = 0x1d4 + (cfgNvsOps arch).iniSize ∧ nvsSize file = file.length := by
  unfold nvsSize bufSize4NvsFile
  rcases h with ⟨rfl, h⟩ | ⟨rfl, h⟩ <;> exact ⟨h, by omega⟩

/-- The two parts of a file of the right size, as they are read. -/
theorem HasSize.parts (h : HasSize file arch) (stack : ℕ → UInt8) :
    file = nvsUpdNvsPart (readNvs file stack) ++
      loadAt (readNvs file stack) 0x1d4 (cfgNvsOps arch).iniSize := by
  obtain ⟨hlen, hsize⟩ := h.length
  have hfits : file.length ≤ bufSize4NvsFile := by
    rw [← hsize]
    exact min_le_left ..
  have hholds := holds_readInto file hfits stack
  unfold Holds at hholds
  rw [hlen, loadAt_add, Nat.zero_add] at hholds
  exact hholds.symm

/-! ## The bytes of the FEM -/

/-- A command has changed one byte of an NVS file, or it has failed and changed nothing. -/
def OneByte (offset : NvsOps → ℕ) (file : File) (r : ℕ × File) : Prop :=
  (r.1 ≠ 0 ∧ r.2 = file) ∨
    r.1 = 0 ∧ r.2.length = file.length ∧ ∃ arch, HasSize file arch ∧
      ∀ i, i ≠ 0x1d4 + offset (cfgNvsOps arch) → r.2[i]? = file[i]?

theorem setNvsFileByte_zero (offset : NvsOps → ℕ) (file : File) (val : UInt8) (stack : ℕ → UInt8) :
    (setNvsFileByte offset file val .unknown stack).1 = 0 := rfl

theorem setNvsFileByte_eq (h : HasSize file arch) (offset : NvsOps → ℕ) (val : UInt8)
    (stack : ℕ → UInt8) :
    (setNvsFileByte offset file val .unknown stack).2 =
      file.set (0x1d4 + offset (cfgNvsOps arch)) val := by
  have harch : nvsGetArch (nvsSize file) .unknown = some arch := by
    rw [h.length.2]
    rcases h with ⟨rfl, h⟩ | ⟨rfl, h⟩ <;> rw [h] <;> rfl
  have hset := List.set_append_right (s := nvsUpdNvsPart (readNvs file stack))
    (t := loadAt (readNvs file stack) 0x1d4 (cfgNvsOps arch).iniSize)
    (0x1d4 + offset (cfgNvsOps arch)) val (by simp [nvsUpdNvsPart])
  rw [← h.parts stack] at hset
  simp only [setNvsFileByte, harch, nvsSetIniByte, loadAt_storeAt_singleton, hset]
  simp [nvsUpdNvsPart]

theorem oneByte_iff (offset : NvsOps → ℕ) (file : File) (val : UInt8) (stack : ℕ → UInt8) :
    OneByte offset file (setNvsFileByte offset file val .unknown stack) ↔
      ∃ arch, HasSize file arch := by
  constructor
  · rintro (⟨hret, -⟩ | ⟨-, -, arch, h, -⟩)
    · exact absurd (setNvsFileByte_zero ..) hret
    · exact ⟨arch, h⟩
  · rintro ⟨arch, h⟩
    refine Or.inr ⟨setNvsFileByte_zero .., ?_, arch, h, fun i hi => ?_⟩
    · rw [setNvsFileByte_eq h, List.length_set]
    · rw [setNvsFileByte_eq h, List.getElem?_set_ne (Ne.symm hi)]

/-- Setting a FEM byte of any file, the architecture being unknown before. -/
theorem setNvsFile_oneByte_iff (file : File) (val : UInt8) (stack : ℕ → UInt8) :
    (OneByte (·.autoDetect) file (setNvsFileAutofem file val .unknown stack) ∧
      OneByte (·.manufacturer) file (setNvsFileFemManuf file val .unknown stack)) ↔
    file.length = 912 ∨ file.length = 1113 := by
  unfold setNvsFileAutofem setNvsFileFemManuf
  rw [oneByte_iff, oneByte_iff, and_self, exists_hasSize]

/-- An empty file becomes one of 1113 bytes. -/
theorem setNvsFile_grows :
    (setNvsFileAutofem [] 1 .unknown fun _ => 0).1 = 0 ∧
      (setNvsFileAutofem [] 1 .unknown fun _ => 0).2.length = 1113 ∧
      ¬OneByte (·.autoDetect) [] (setNvsFileAutofem [] 1 .unknown fun _ => 0) := by
  refine ⟨rfl, by decide +kernel, fun h => ?_⟩
  rcases h with ⟨hret, -⟩ | ⟨-, hlen, -⟩
  · exact hret rfl
  · revert hlen
    decide +kernel

/-! ## Parsing -/

/-- Where the TLVs begin that the format has from position `i` on. -/
def tlvStarts (buf : ℕ → UInt8) (i : ℕ) : List ℕ :=
  if i < nvsTotalLength ∧ (buf i).toNat ∈ [1, 2, 0xaa] then
    i :: tlvStarts buf (i + (3 + tlvLen buf i))
  else []
termination_by nvsTotalLength - i

/-- What one TLV adds to the data. -/
def parseOne (buf : ℕ → UInt8) (d : NvsData) (i : ℕ) : NvsData :=
  match (buf i).toNat with
  | 1 => { d with tx := parseTlv buf i d.tx }
  | 2 => { d with rx := parseTlv buf i d.rx }
  | _ => { d with ver := parseVersion buf i }

/-- No TLV is so long that the index wraps. -/
def NoWrap (buf : ℕ → UInt8) : Prop :=
  ∀ i ∈ tlvStarts buf 0, i + (3 + tlvLen buf i) < 2 ^ 16

/-- The last TLV with reception data. -/
def lastRx (buf : ℕ → UInt8) : Option ℕ :=
  (tlvStarts buf 0).reverse.find? fun i => (buf i).toNat = 2

/-- The bytes that are stored for the TLV at `i`. -/
def stored (buf : ℕ → UInt8) (i : ℕ) : ℕ :=
  min (tlvLen buf i) (nvsTotalLength - (i + 3))

/-- `nvs_parse_data` on the buffer from byte 24 on, with whatever `pdata[].buf` holds: it ends after
at most 167 TLVs, its result depends on bytes of the buffer only, nothing is stored from
`MAX_TLV_LENGTH` on, and `pdata[Rx].len` is at most the number of bytes stored. -/
def ParseSafe (buf tx rx : ℕ → UInt8) : Prop :=
  ∃ d, nvsParseLoop buf (167 + 1) 0 ⟨{ buf := tx }, { buf := rx }, 0⟩ = some d ∧
    (∀ buf', (∀ i < bufSize4NvsFile - 24, buf' i = buf i) →
      nvsParseLoop buf' (167 + 1) 0 ⟨{ buf := tx }, { buf := rx }, 0⟩ = some d) ∧
    (∀ i, 500 ≤ i → d.tx.buf i = tx i ∧ d.rx.buf i = rx i) ∧
    d.rx.len ≤ (lastRx buf).elim 0 (stored buf)

theorem tlvStarts_length (buf : ℕ → UInt8) (i : ℕ) :
    3 * (tlvStarts buf i).length ≤ nvsTotalLength - i + 2 := by
  fun_induction tlvStarts buf i with
  | case1 i h ih =>
    rw [List.length_cons]
    omega
  | case2 i h => simp

theorem nvsParseLoop_eq {i n : ℕ} {d : NvsData}
    (hwrap : ∀ j ∈ tlvStarts buf i, j + (3 + tlvLen buf j) < 2 ^ 16)
    (hn : (tlvStarts buf i).length < n) :
    nvsParseLoop buf n i d = some ((tlvStarts buf i).foldl (parseOne buf) d) := by
  induction n generalizing i d with
  | zero => omega
  | succ n ih =>
    rw [tlvStarts] at hwrap hn ⊢
    by_cases h : i < nvsTotalLength ∧ (buf i).toNat ∈ [1, 2, 0xaa]
    · rw [if_pos h] at hwrap hn ⊢
      have hnext : u16 (i + (3 + tlvLen buf i) : ℕ) = i + (3 + tlvLen buf i) := by
        have hlt := hwrap i (List.mem_cons_self ..)
        unfold u16
        omega
      have hrest (d : NvsData) := ih (i := i + (3 + tlvLen buf i)) (d := d)
        (fun j hj => hwrap j (List.mem_cons_of_mem _ hj)) (by simpa using hn)
      obtain ⟨hi, htype⟩ := h
      simp only [List.mem_cons, List.not_mem_nil, or_false] at htype
      rw [nvsParseLoop, if_pos hi, hnext]
      rcases htype with h | h | h <;> simp only [h, hrest, List.foldl_cons, parseOne]
    · rw [if_neg h, nvsParseLoop]
      simp only [List.mem_cons, List.not_mem_nil, or_false] at h
      split
      · split <;> first | rfl | omega
      · rfl

theorem parseOne_rx (buf : ℕ → UInt8) (d : NvsData) (i : ℕ) :
    (parseOne buf d i).rx.len = if (buf i).toNat = 2 then tlvLen buf i else d.rx.len := by
  unfold parseOne
  split
  · rename_i h
    simp [h]
  · rename_i h
    simp [h, parseTlv]
  · rename_i h
    rw [if_neg h]

/-- The length that is kept is that of the last TLV. -/
theorem parseOne_rx_len (buf : ℕ → UInt8) (l : List ℕ) (d : NvsData) :
    (l.foldl (parseOne buf) d).rx.len =
      (l.reverse.find? fun i => (buf i).toNat = 2).elim d.rx.len (tlvLen buf) := by
  induction l using List.reverseRecOn with
  | nil => rfl
  | append_singleton l i ih =>
    rw [List.foldl_concat, List.reverse_concat, List.find?_cons, parseOne_rx, ih]
    by_cases h : (buf i).toNat = 2 <;> simp [h]

/-- Nothing is stored behind the data. -/
theorem parseOne_buf (buf : ℕ → UInt8) (l : List ℕ) (d : NvsData) {k : ℕ} (hk : 500 ≤ k) :
    (l.foldl (parseOne buf) d).tx.buf k = d.tx.buf k ∧
      (l.foldl (parseOne buf) d).rx.buf k = d.rx.buf k := by
  have hstore (i : ℕ) (old : CalP2g) : (parseTlv buf i old).buf k = old.buf k := by
    show storeAt old.buf 0 _ k = old.buf k
    refine storeAt_of_le _ ?_
    rw [loadAt_length]
    unfold nvsTotalLength
    omega
  induction l generalizing d with
  | nil => exact ⟨rfl, rfl⟩
  | cons i l ih =>
    rw [List.foldl_cons, (ih _).1, (ih _).2]
    unfold parseOne
    split
    · exact ⟨hstore i d.tx, rfl⟩
    · exact ⟨rfl, hstore i d.rx⟩
    · exact ⟨rfl, rfl⟩

/-- The loop reads a few bytes behind `NVS_TOTAL_LENGTH` at most. -/
theorem nvsParseLoop_congr {buf' : ℕ → UInt8} (h : ∀ i < nvsTotalLength + 6, buf' i = buf i)
    (n i : ℕ) (d : NvsData) : nvsParseLoop buf' n i d = nvsParseLoop buf n i d := by
  induction n generalizing i d with
  | zero => rfl
  | succ n ih =>
    rw [nvsParseLoop, nvsParseLoop]
    by_cases hi : i < nvsTotalLength
    · have hlen : tlvLen buf' i = tlvLen buf i := by
        rw [tlvLen, tlvLen, h (i + 1) (by omega), h (i + 2) (by omega)]
      have htlv (old : CalP2g) : parseTlv buf' i old = parseTlv buf i old := by
        have hload : loadAt buf' (i + 3) (min (tlvLen buf i) (nvsTotalLength - (i + 3))) =
            loadAt buf (i + 3) (min (tlvLen buf i) (nvsTotalLength - (i + 3))) :=
          loadAt_congr fun j hj => h _ (by omega)
        rw [parseTlv, parseTlv, hlen, hload, h i (by omega)]
      have hver : parseVersion buf' i = parseVersion buf i := by
        rw [parseVersion, parseVersion, h (i + 3) (by omega), h (i + 4) (by omega),
          h (i + 5) (by omega)]
      simp only [hi, if_true, h i (by omega), hlen, htlv, hver, ih]
    · rw [if_neg hi, if_neg hi]

/-- As long as the index does not wrap, `nvs_parse_data` is safe if and only if the last TLV with
reception data ends within `NVS_TOTAL_LENGTH`. -/
theorem nvsParseData_safe_iff (buf tx rx : ℕ → UInt8) (hwrap : NoWrap buf) :
    ParseSafe buf tx rx ↔
      ∀ i, lastRx buf = some i → tlvLen buf i ≤ nvsTotalLength - (i + 3) := by
  have hlength := tlvStarts_length buf 0
  have hrun (d : NvsData) := nvsParseLoop_eq (n := 167 + 1) (d := d) hwrap
    (by unfold nvsTotalLength at hlength; omega)
  have hlen (d : NvsData) := parseOne_rx_len buf (tlvStarts buf 0) d
  unfold ParseSafe
  constructor
  · rintro ⟨d, hd, -, -, hle⟩ i hi
    rw [hrun, Option.some_inj] at hd
    rw [← hd, hlen] at hle
    unfold lastRx at hi hle
    rw [hi] at hle
    exact (le_min_iff.mp hle).2
  · intro hfits
    refine ⟨_, hrun _, fun buf' hbuf' => ?_, fun i hi => parseOne_buf buf _ _ hi, ?_⟩
    · rw [nvsParseLoop_congr fun i hi => hbuf' i (by
        unfold nvsTotalLength at hi
        unfold bufSize4NvsFile
        omega)]
      exact hrun _
    · rw [hlen]
      show (lastRx buf).elim 0 (tlvLen buf) ≤ _
      cases hlast : lastRx buf with
      | none => exact le_rfl
      | some i => exact le_min le_rfl (hfits i hlast)

/-- An Rx TLV of 19 bytes and the end. -/
theorem nvsParseData_safe_default :
    let buf : ℕ → UInt8 := fun i => [2, 19, 0].getD i 0
    NoWrap buf ∧ ParseSafe buf (fun _ => 0) fun _ => 0 := by
  intro buf
  have hstarts : tlvStarts buf 0 = [0] := by
    rw [tlvStarts, if_pos (by decide), tlvStarts, if_neg (by decide)]
  have hwrap : NoWrap buf := by
    unfold NoWrap
    rw [hstarts]
    decide
  refine ⟨hwrap, (nvsParseData_safe_iff buf _ _ hwrap).mpr fun i hi => ?_⟩
  rw [lastRx, hstarts] at hi
  obtain rfl : 0 = i := by simpa [buf] using hi
  decide

/-- A TLV of 0xfffd bytes takes the index back to 0. -/
theorem nvsParseData_endless :
    let buf : ℕ → UInt8 := fun i => [1, 0xfd, 0xff].getD i 0
    (¬∃ n d, nvsParseLoop buf n 0 d ≠ none) ∧ ¬ParseSafe buf (fun _ => 0) fun _ => 0 := by
  intro buf
  have hnone (n : ℕ) (d : NvsData) : nvsParseLoop buf n 0 d = none := by
    induction n generalizing d with
    | zero => rfl
    | succ n ih =>
      have hnext : u16 (0 + (3 + tlvLen buf 0) : ℕ) = 0 := by decide
      rw [parseLoop_tx (by decide) rfl, hnext]
      exact ih _
  constructor
  · rintro ⟨n, d, hd⟩
    exact hd (hnone n d)
  · rintro ⟨d, hd, -⟩
    rw [hnone] at hd
    cases hd

/-! ## Writing a calibration -/

/-- A failed `prepare_nvs_file` leaves the file alone; one that succeeds, with calibration data of
at most `MAX_TLV_LENGTH` bytes, leaves an NVS file with the old radio parameters. -/
def PrepareSafe (file : File) (cal : Calibration) (mac : Option Mac) (stack : ℕ → UInt8) : Prop :=
  ∀ ret file', prepareNvsFile file cal mac stack = some (ret, file') →
    (ret ≠ 0 → file' = file) ∧
    (ret = 0 → cal.len ≤ 500 →
      (file'.length = 912 ∨ file'.length = 1113) ∧ file'.drop 0x1d4 = file.drop 0x1d4)

/-- What `nvs_parse_data` finds in the file. -/
def oldData (file : File) (stack : ℕ → UInt8) : Option NvsData :=
  nvsParseData (fun i => readNvs file stack (24 + i)) {}

/-- The part of the new file before the radio parameters. -/
def calibratedPart (cal : Calibration) (mac : Mac) (old : NvsData) : List UInt8 :=
  preParameters mac ++ ([1] ++ leBytes 2 cal.len ++ loadAt cal.buf 0 cal.len) ++
    nvsFillOldRxData old.rx.buf old.rx.len ++ nvsFillVersion cal.ver ++ endOfNvs

theorem calibratedPart_length (cal : Calibration) (mac : Mac) (old : NvsData) :
    (calibratedPart cal mac old).length = 40 + (cal.len + old.rx.len) := by
  simp [calibratedPart, preParameters, nvsFillOldRxData, nvsFillVersion, endOfNvs]
  omega

theorem prepareNvsFile_of_size (h : HasSize file arch) (cal : Calibration) (mac : Option Mac)
    (stack : ℕ → UInt8) :
    prepareNvsFile file cal mac stack =
      match mac with
      | none => some (1, [0x1, 0x6d, 0x54])
      | some mac => (oldData file stack).map fun old =>
        (0, calibratedPart cal mac old ++ file.drop 0x1d4) := by
  have hini : file.drop 0x1d4 = loadAt (readNvs file stack) 0x1d4 (cfgNvsOps arch).iniSize := by
    conv_lhs => rw [h.parts stack]
    exact List.drop_left' (loadAt_length ..)
  obtain ⟨-, hsize⟩ := h.length
  unfold prepareNvsFile oldData
  simp only [nvsFillRadioPrms, hini, hsize]
  rcases h with ⟨rfl, h⟩ | ⟨rfl, h⟩ <;> simp only [h] <;> cases mac <;> rfl

theorem prepareNvsFile_of_not_size (h : ¬∃ arch, HasSize file arch) (cal : Calibration)
    (mac : Option Mac) (stack : ℕ → UInt8) :
    prepareNvsFile file cal mac stack = some (1, file) := by
  have hsize : nvsSize file ≠ 0x390 ∧ nvsSize file ≠ 0x459 := by
    unfold nvsSize bufSize4NvsFile
    rw [exists_hasSize] at h
    omega
  unfold prepareNvsFile
  simp only [hsize.1, hsize.2, if_false]

/-- `prepare_nvs_file` is safe for an NVS file if and only if the address is found, and the data of
the calibration and the reception data of the file have 428 bytes together. -/
theorem prepareNvsFile_safe_iff (file : File) (cal : Calibration) (mac : Option Mac)
    (stack : ℕ → UInt8) :
    PrepareSafe file cal mac stack ↔
      (file.length = 912 ∨ file.length = 1113 →
        mac ≠ none ∧ ∀ old, oldData file stack = some old → cal.len ≤ 500 →
          cal.len + old.rx.len = 428) := by
  rw [← exists_hasSize]
  by_cases h : ∃ arch, HasSize file arch
  · obtain ⟨arch, h⟩ := h
    have hlen := exists_hasSize.mp ⟨arch, h⟩
    unfold PrepareSafe
    rw [prepareNvsFile_of_size h]
    cases mac with
    | none =>
      refine iff_of_false (fun hsafe => ?_) fun hcond => (hcond ⟨arch, h⟩).1 rfl
      have hfile := (hsafe 1 _ rfl).1 (by decide)
      rw [← hfile] at hlen
      revert hlen
      decide
    | some mac =>
      cases oldData file stack with
      | none => simp
      | some old =>
        have hnvs := calibratedPart_length cal mac old
        constructor
        · refine fun hsafe _ => ⟨by simp, ?_⟩
          rintro _ ⟨⟩ hcal
          have hdrop := congrArg List.length ((hsafe 0 _ rfl).2 rfl hcal).2
          rw [List.length_drop, List.length_append, List.length_drop, hnvs] at hdrop
          omega
        · rintro hcond ret file' ⟨⟩
          refine ⟨fun hret => absurd rfl hret, fun _ hcal => ?_⟩
          rw [(hcond ⟨arch, h⟩).2 old rfl hcal] at hnvs
          rw [List.drop_left' hnvs, List.length_append, List.length_drop, hnvs]
          exact ⟨by omega, rfl⟩
  · refine iff_of_true ?_ fun hex => absurd hex h
    intro ret file' hrun
    rw [prepareNvsFile_of_not_size h] at hrun
    cases hrun
    exact ⟨fun _ => rfl, fun hret => by cases hret⟩

/-- The address is not found, and an NVS file of 912 bytes is left with three. -/
theorem prepareNvsFile_truncates :
    let file : File := List.replicate 912 0
    let cal : Calibration := ⟨0, 409, fun _ => 0⟩
    prepareNvsFile file cal none (fun _ => 0) = some (1, [0x1, 0x6d, 0x54]) ∧
      ¬PrepareSafe file cal none fun _ => 0 := by
  intro file cal
  have hsize : HasSize file .wl1271 := Or.inl ⟨rfl, List.length_replicate⟩
  have hrun := prepareNvsFile_of_size hsize cal none fun _ => 0
  refine ⟨hrun, fun hsafe => ?_⟩
  have hfile := congrArg List.length ((hsafe 1 _ hrun).1 (by decide))
  rw [List.length_replicate] at hfile
  revert hfile
  decide

end TiWlan.Nvs
