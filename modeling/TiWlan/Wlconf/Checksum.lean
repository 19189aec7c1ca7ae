import TiWlan.Wlconf.Header

/-!
# Bursts and the checksum

`calc_crc32` (`ti-utils/wlconf/crc32.c`, lines 26–103) works on half bytes, but takes the
remainders from a table for whole bytes: `table[crc & 15]` is the remainder of the half byte moved
eight places, and not four. One step, `(crc >> 4) ^ table[crc & 15]`, is linear in exclusive or, as
for every CRC, but it is not invertible, because entries 4, 8 and 12 of the table have a leading
zero digit. So there are changes of four bytes that the checksum does not see.

Results:

* `crcNibble_xor`: a step is linear.
* `crcStep_eq_zero_iff`: the two steps for a byte lose 15 values, `blindBursts`.
* `crcStep_iterate_eq_zero_iff`: further bytes lose no more.
* `calcCrc32_burst_iff`: a change of at most four consecutive bytes changes the checksum exactly if
  it is not one of these.
* `checksum_bursts_iff`: the same with what `read_input` accepts.
-/

namespace TiWlan.Wlconf

open TiWlan.Lib

variable (crc : UInt32) (x : UInt32) (post : List UInt8) (byte : UInt8) (bytes : List UInt8)

/-! ## One step -/

/-- The two steps of `calc_crc32` for a byte. -/
def crcStep (crc : UInt32) : UInt32 := crcNibble (crcNibble crc)

theorem crcNibble_eq : crcNibble x = x >>> 4 ^^^ crcTable.getD (x.toNat % 16) 0 := by
  have hlow : (x &&& 15).toNat = x.toNat % 16 := by
    rw [UInt32.toNat_and]
    exact Nat.and_two_pow_sub_one_eq_mod x.toNat 4
  rw [crcNibble, hlow]

theorem crcTable_xor : ∀ i < 16, ∀ j < 16,
    crcTable.getD (i ^^^ j) 0 = crcTable.getD i 0 ^^^ crcTable.getD j 0 := by
  decide +kernel

/-- A step is linear. -/
theorem crcNibble_xor (y : UInt32) : crcNibble (x ^^^ y) = crcNibble x ^^^ crcNibble y := by
  have hlow : (x ^^^ y).toNat % 16 = x.toNat % 16 ^^^ y.toNat % 16 := by
    rw [UInt32.toNat_xor]
    exact Nat.xor_mod_two_pow (n := 4)
  rw [crcNibble_eq, crcNibble_eq, crcNibble_eq, hlow, UInt32.shiftRight_xor,
    crcTable_xor _ (Nat.mod_lt _ (by decide)) _ (Nat.mod_lt _ (by decide))]
  ac_rfl

theorem crcStep_xor (y : UInt32) : crcStep (x ^^^ y) = crcStep x ^^^ crcStep y := by
  rw [crcStep, crcNibble_xor, crcNibble_xor, crcStep, crcStep]

theorem crcStep_zero : crcStep 0 = 0 := by decide

/-! ## What a step loses -/

/-- The number that a step takes to `y`, if its lowest digit is `i`. -/
def nibbleSource (y : UInt32) (i : ℕ) : ℕ := 16 * (y ^^^ crcTable.getD i 0).toNat + i

theorem eq_nibbleSource : x.toNat = nibbleSource (crcNibble x) (x.toNat % 16) := by
  have hshift : crcNibble x ^^^ crcTable.getD (x.toNat % 16) 0 = x >>> 4 := by
    rw [crcNibble_eq, UInt32.xor_assoc, UInt32.xor_self, UInt32.xor_zero]
  have hdiv : (x >>> 4).toNat = x.toNat / 16 := by
    rw [UInt32.toNat_shiftRight]
    exact Nat.shiftRight_eq_div_pow x.toNat 4
  rw [nibbleSource, hshift, hdiv]
  omega

/-- The number that the steps for a byte take to `y`, if `j` and `i` are the lowest digits on the
way. -/
def stepSource (y : UInt32) (j i : ℕ) : ℕ := nibbleSource (UInt32.ofNat (nibbleSource y j)) i

theorem exists_stepSource : ∃ j < 16, ∃ i < 16,
    nibbleSource (crcStep x) j < 2 ^ 32 ∧ x.toNat = stepSource (crcStep x) j i := by
  refine ⟨(crcNibble x).toNat % 16, Nat.mod_lt _ (by decide), x.toNat % 16,
    Nat.mod_lt _ (by decide), ?_, ?_⟩
  · rw [crcStep, ← eq_nibbleSource]
    exact (crcNibble x).toNat_lt
  · rw [stepSource, crcStep, ← eq_nibbleSource, UInt32.ofNat_toNat, ← eq_nibbleSource]

/-- The values, other than 0, that the steps for a byte take to 0. -/
def blindBursts : List ℕ :=
  [0x1db71021, 0x26d93063, 0x3b6e2042, 0x4db261d6, 0x500571f7, 0x6b6b51b5, 0x76dc4194, 0x86d3d29d,
    0x9b64c2bc, 0xa00ae2fe, 0xbdbdf2df, 0xcb61b34b, 0xd6d6a36a, 0xedb88328, 0xf00f9309]

/-- By evaluation: entries 0, 4, 8 and 12 of the table have a leading zero digit, they lead from
`blindBursts` to 0, and nothing leads to `blindBursts`. -/
theorem blindBursts_spec :
    (∀ j < 16, nibbleSource 0 j < 2 ^ 32 → j ∈ [0, 4, 8, 12]) ∧
    (∀ j ∈ [0, 4, 8, 12], ∀ i < 16, stepSource 0 j i < 2 ^ 32 →
      stepSource 0 j i = 0 ∨ stepSource 0 j i ∈ blindBursts) ∧
    (∀ n ∈ blindBursts, crcStep (UInt32.ofNat n) = 0) ∧
    ∀ n ∈ blindBursts, ∀ j < 16, ∀ i < 16,
      nibbleSource (UInt32.ofNat n) j < 2 ^ 32 → ¬stepSource (UInt32.ofNat n) j i < 2 ^ 32 := by
  decide +kernel

/-- What the steps for a byte take to 0. -/
theorem crcStep_eq_zero_iff : crcStep x = 0 ↔ x = 0 ∨ x.toNat ∈ blindBursts := by
  constructor
  · intro h
    obtain ⟨j, hj, i, hi, hlt, hx⟩ := exists_stepSource x
    rw [h] at hlt hx
    obtain ⟨hentry, hsource, -⟩ := blindBursts_spec
    have hmem := hsource j (hentry j hj hlt) i hi (hx ▸ x.toNat_lt)
    rw [← hx] at hmem
    exact hmem.imp_left fun h0 => UInt32.toNat_inj.mp h0
  · rintro (rfl | h)
    · exact crcStep_zero
    · have hzero := blindBursts_spec.2.2.1 x.toNat h
      rwa [UInt32.ofNat_toNat] at hzero

/-- The steps for a byte never lead to one of the values that the next byte loses. -/
theorem crcStep_crcStep_eq_zero {x : UInt32} (h : crcStep (crcStep x) = 0) : crcStep x = 0 := by
  rcases (crcStep_eq_zero_iff (crcStep x)).mp h with hzero | hblind
  · exact hzero
  · exfalso
    obtain ⟨j, hj, i, hi, hlt, hx⟩ := exists_stepSource x
    have hnot := blindBursts_spec.2.2.2 _ hblind j hj i hi
    rw [UInt32.ofNat_toNat] at hnot
    exact hnot hlt (hx ▸ x.toNat_lt)

theorem crcStep_iterate_eq_zero_iff (n : ℕ) (x : UInt32) :
    crcStep^[n + 1] x = 0 ↔ x = 0 ∨ x.toNat ∈ blindBursts := by
  induction n generalizing x with
  | zero => exact crcStep_eq_zero_iff x
  | succ n ih =>
    rw [Function.iterate_succ_apply, ih, ← crcStep_eq_zero_iff, ← crcStep_eq_zero_iff]
    refine ⟨crcStep_crcStep_eq_zero, fun h => ?_⟩
    rw [h, crcStep_zero]

/-! ## Bytes -/

/-- The checksum from the remainder `crc` on. -/
def crcFrom (crc : UInt32) (bytes : List UInt8) : UInt32 :=
  bytes.foldl (fun crc byte => crcStep (crc ^^^ byte.toUInt32)) crc

theorem crcFrom_cons :
    crcFrom crc (byte :: bytes) = crcFrom (crcStep (crc ^^^ byte.toUInt32)) bytes := rfl

theorem crcFrom_append (a b : List UInt8) :
    crcFrom crc (a ++ b) = crcFrom (crcFrom crc a) b := List.foldl_append

theorem calcCrc32_eq : calcCrc32 bytes = crcFrom 0 bytes := rfl

/-- The difference of two checksums is the checksum of the difference. -/
theorem crcFrom_xor (crc' : UInt32) {a b : List UInt8} (h : a.length = b.length) :
    crcFrom crc a ^^^ crcFrom crc' b = crcFrom (crc ^^^ crc') (List.zipWith (· ^^^ ·) a b) := by
  induction a generalizing b crc crc' with
  | nil =>
    obtain rfl : b = [] := List.length_eq_zero_iff.mp h.symm
    rfl
  | cons x a ih =>
    cases b with
    | nil => cases h
    | cons y b =>
      rw [crcFrom_cons, crcFrom_cons, List.zipWith_cons_cons, crcFrom_cons,
        ih _ _ (by simpa using h), ← crcStep_xor, UInt8.toUInt32_xor]
      congr 2
      ac_rfl

/-- The same bytes behind a difference. -/
theorem crcFrom_same (crc' : UInt32) (bytes : List UInt8) :
    crcFrom crc bytes ^^^ crcFrom crc' bytes = crcStep^[bytes.length] (crc ^^^ crc') := by
  induction bytes generalizing crc crc' with
  | nil => rfl
  | cons byte bytes ih =>
    have hcancel : crc ^^^ byte.toUInt32 ^^^ (crc' ^^^ byte.toUInt32) = crc ^^^ crc' := by
      rw [UInt32.xor_comm crc', UInt32.xor_assoc crc, ← UInt32.xor_assoc _ _ crc', UInt32.xor_self,
        UInt32.zero_xor]
    rw [crcFrom_cons, crcFrom_cons, ih, ← crcStep_xor, hcancel, List.length_cons,
      Function.iterate_succ_apply]

/-- A byte in front of a number. -/
theorem ofNat_add_mul (l : ℕ) :
    UInt32.ofNat (byte.toNat + 256 * l) = byte.toUInt32 ^^^ UInt32.ofNat (256 * l) := by
  have hxor : byte.toNat + 256 * l = byte.toNat ^^^ 256 * l := by
    refine Nat.eq_of_testBit_eq fun k => ?_
    rw [Nat.add_comm, show 256 = 2 ^ 8 by rfl, Nat.testBit_two_pow_mul_add _ byte.toNat_lt,
      Nat.testBit_xor, Nat.testBit_two_pow_mul]
    by_cases hk : k < 8
    · have hnot : ¬8 ≤ k := by omega
      simp [hk, hnot]
    · have hle : 8 ≤ k := by omega
      have hlt : byte.toNat < 2 ^ k :=
        lt_of_lt_of_le byte.toNat_lt (Nat.pow_le_pow_right (by decide) hle)
      simp [hk, hle, Nat.testBit_lt_two_pow hlt]
  have hbyte : byte.toUInt32 = UInt32.ofNat byte.toNat := by
    rw [← UInt8.toNat_toUInt32, UInt32.ofNat_toNat]
  rw [hxor, UInt32.ofNat_xor, hbyte]

theorem crcNibble_shift {m : ℕ} (h : 16 * m < 2 ^ 32) :
    crcNibble (UInt32.ofNat (16 * m)) = UInt32.ofNat m := by
  have hval : (UInt32.ofNat (16 * m)).toNat = 16 * m := UInt32.toNat_ofNat_of_lt' h
  rw [crcNibble_eq, hval, Nat.mul_mod_right]
  refine UInt32.toNat_inj.mp ?_
  show (UInt32.ofNat (16 * m) >>> 4 ^^^ 0).toNat = _
  rw [UInt32.xor_zero, UInt32.toNat_shiftRight, hval,
    UInt32.toNat_ofNat_of_lt' (show m < 2 ^ 32 by omega)]
  show (16 * m) >>> 4 = m
  rw [Nat.shiftRight_eq_div_pow]
  omega

theorem crcStep_shift {l : ℕ} (h : 256 * l < 2 ^ 32) :
    crcStep (UInt32.ofNat (256 * l)) = UInt32.ofNat l := by
  rw [crcStep, show 256 * l = 16 * (16 * l) by ring, crcNibble_shift (by omega),
    crcNibble_shift (by omega)]

/-- Up to four bytes are one number that all of the steps are applied to. -/
theorem crcFrom_eq_iterate {bytes : List UInt8} (h : bytes.length ≤ 4) :
    crcFrom crc bytes = crcStep^[bytes.length] (crc ^^^ UInt32.ofNat (leNat bytes)) := by
  induction bytes generalizing crc with
  | nil =>
    show crc = crc ^^^ 0
    rw [UInt32.xor_zero]
  | cons byte bytes ih =>
    rw [List.length_cons] at h
    have hlt : 256 * leNat bytes < 2 ^ 32 := by
      have hbytes := leNat_lt bytes
      have hpow : 256 ^ bytes.length ≤ 256 ^ 3 := Nat.pow_le_pow_right (by decide) (by omega)
      omega
    rw [crcFrom_cons, ih _ (by omega), List.length_cons, Function.iterate_succ_apply, leNat,
      ofNat_add_mul, ← UInt32.xor_assoc, crcStep_xor _ (UInt32.ofNat _), crcStep_shift hlt]

theorem leNat_eq_zero_iff : leNat bytes = 0 ↔ ∀ b ∈ bytes, b = 0 := by
  induction bytes with
  | nil => simp [leNat]
  | cons b bytes ih =>
    rw [leNat, Nat.add_eq_zero_iff, Nat.mul_eq_zero, List.forall_mem_cons, ← ih]
    simp [← UInt8.toNat_inj]

/-- How two windows differ, as a number. -/
def burst (w w' : List UInt8) : ℕ := leNat (List.zipWith (· ^^^ ·) w w')

theorem burst_eq_zero_iff {w w' : List UInt8} (h : w.length = w'.length) :
    burst w w' = 0 ↔ w = w' := by
  rw [burst, leNat_eq_zero_iff]
  induction w generalizing w' with
  | nil =>
    obtain rfl : w' = [] := List.length_eq_zero_iff.mp h.symm
    simp
  | cons x w ih =>
    cases w' with
    | nil => cases h
    | cons y w' =>
      rw [List.zipWith_cons_cons, List.forall_mem_cons, ih (by simpa using h),
        UInt8.xor_eq_zero_iff, List.cons.injEq]

/-- A change of at most four consecutive bytes changes the checksum exactly if the difference is
not one of `blindBursts`. -/
theorem calcCrc32_burst_iff (pre post : List UInt8) {w w' : List UInt8}
    (hlen : w.length = w'.length)
    (hfour : w.length ≤ 4) (hne : w ≠ w') :
    calcCrc32 (pre ++ w ++ post) ≠ calcCrc32 (pre ++ w' ++ post) ↔
      burst w w' ∉ blindBursts := by
  have hpos : 0 < w.length := by
    rw [List.length_pos_iff]
    rintro rfl
    exact hne (List.length_eq_zero_iff.mp hlen.symm).symm
  have hzip : (List.zipWith (· ^^^ ·) w w').length = w.length := by
    rw [List.length_zipWith, ← hlen, Nat.min_self]
  have hdiff : calcCrc32 (pre ++ w ++ post) ^^^ calcCrc32 (pre ++ w' ++ post) =
      crcStep^[post.length + w.length] (UInt32.ofNat (burst w w')) := by
    rw [calcCrc32_eq, calcCrc32_eq, crcFrom_append, crcFrom_append, crcFrom_append, crcFrom_append,
      crcFrom_same, crcFrom_xor _ _ hlen, UInt32.xor_self, crcFrom_eq_iterate 0 (by omega), hzip,
      UInt32.zero_xor, Function.iterate_add_apply]
    rfl
  have hlt : burst w w' < 2 ^ 32 := by
    have hbytes := leNat_lt (List.zipWith (· ^^^ ·) w w')
    have hpow : 256 ^ w.length ≤ 256 ^ 4 := Nat.pow_le_pow_right (by decide) hfour
    rw [hzip] at hbytes
    exact lt_of_lt_of_le hbytes hpow
  have hzero : UInt32.ofNat (burst w w') ≠ 0 := by
    intro h0
    have hval := congrArg UInt32.toNat h0
    rw [UInt32.toNat_ofNat_of_lt' hlt] at hval
    exact hne ((burst_eq_zero_iff hlen).mp hval)
  obtain ⟨n, hn⟩ : ∃ n, post.length + w.length = n + 1 := ⟨post.length + w.length - 1, by omega⟩
  rw [ne_eq, ← UInt32.xor_eq_zero_iff, hdiff, hn, crcStep_iterate_eq_zero_iff,
    UInt32.toNat_ofNat_of_lt' hlt, or_iff_right hzero]

/-! ## Corrupted files -/

/-- Two buffers that differ in one window have the same checksum exactly if the burst is not
seen. -/
theorem bufferChecksum_burst_iff (b b' : Buffer) {size p k : ℕ} (hsize : p + k ≤ size)
    (hsame : ∀ i, ¬(p ≤ i ∧ i < p + k) → b i = b' i) (hfour : k ≤ 4)
    (hne : loadAt b p k ≠ loadAt b' p k) :
    bufferChecksum b size ≠ bufferChecksum b' size ↔
      burst (loadAt b p k) (loadAt b' p k) ∉ blindBursts := by
  have hsplit (c : Buffer) : loadAt c 0 size =
      loadAt c 0 p ++ loadAt c p k ++ loadAt c (p + k) (size - (p + k)) := by
    conv_lhs => rw [show size = p + k + (size - (p + k)) by omega]
    rw [loadAt_add, loadAt_add, Nat.zero_add, Nat.zero_add]
  have hpre : loadAt b 0 p = loadAt b' 0 p := loadAt_congr fun i hi => hsame _ (by omega)
  have hpost : loadAt b (p + k) (size - (p + k)) = loadAt b' (p + k) (size - (p + k)) :=
    loadAt_congr fun i hi => hsame _ (by omega)
  have hcrc := calcCrc32_burst_iff (loadAt b 0 p) (loadAt b (p + k) (size - (p + k))) (by simp)
    (by simpa using hfour)
    hne
  rw [← hcrc, ← hsplit, hpre, hpost, ← hsplit, bufferChecksum, bufferChecksum, ne_eq, ne_eq,
    not_iff_not, ← UInt32.toNat_inj]
  have hlt := (calcCrc32 (loadAt b 0 size)).toNat_lt
  have hlt' := (calcCrc32 (loadAt b' 0 size)).toNat_lt
  unfold s32
  omega

section
variable {pre w w' : List UInt8} {size : ℕ}

/-- The buffers of two files that differ in one window differ there only. -/
theorem bufferOf_window (size : ℕ) (hlen : w.length = w'.length) {i : ℕ}
    (hi : ¬(pre.length ≤ i ∧ i < pre.length + w.length)) :
    bufferOf ((pre ++ w ++ post).take size) i = bufferOf ((pre ++ w' ++ post).take size) i := by
  rw [bufferOf, bufferOf, List.getD_eq_getElem?_getD, List.getD_eq_getElem?_getD,
    List.getElem?_take, List.getElem?_take]
  congr 1
  split
  · by_cases hlt : i < pre.length
    · rw [List.append_assoc, List.append_assoc, List.getElem?_append_left hlt,
        List.getElem?_append_left hlt]
    · rw [List.getElem?_append_right (by rw [List.length_append]; omega),
        List.getElem?_append_right (by rw [List.length_append]; omega), List.length_append,
        List.length_append, hlen]
  · rfl

theorem loadAt_window (hsize : pre.length + w.length ≤ size) :
    loadAt (bufferOf ((pre ++ w ++ post).take size)) pre.length w.length = w := by
  apply List.ext_getElem (by simp)
  intro i hi hi'
  simp only [loadAt, List.getElem_map, List.getElem_range]
  rw [bufferOf, List.getD_eq_getElem?_getD, List.getElem?_take_of_lt (by omega),
    List.append_assoc, List.getElem?_append_right (by omega), Nat.add_sub_cancel_left,
    List.getElem?_append_left hi', List.getElem?_eq_getElem hi', Option.getD_some]

end

/-- A change of at most four consecutive bytes changes the checksum exactly if it is not one of
`blindBursts`. If the bytes belong to a configuration file that `read_input` accepts, but not to
its checksum, then the changed file is rejected exactly if it is not one of these or if the magic
or the version is no longer the right one. -/
theorem checksum_bursts_iff (pre w w' post : List UInt8) (hlen : w.length = w'.length)
    (hfour : w.length ≤ 4) (hne : w ≠ w') :
    (calcCrc32 (pre ++ w ++ post) ≠ calcCrc32 (pre ++ w' ++ post) ↔
      burst w w' ∉ blindBursts) ∧
    ∀ (f : StructFile) (s : Structure), RootLaid f.structures s → HasHeader f.structures s →
      pre.length + w.length ≤ s.size →
      (∀ pc, IntAt f.structures s chksumElement pc →
        pre.length + w.length ≤ pc ∨ pc + 4 ≤ pre.length) →
      ∀ buf, readInput f s false (pre ++ w ++ post) = .ok buf →
      ((∀ buf', readInput f s false (pre ++ w' ++ post) ≠ .ok buf') ↔
        burst w w' ∉ blindBursts ∨
        getValueInt f.structures s (bufferOf ((pre ++ w' ++ post).take s.size)) magicElement ≠
          .ok f.magic ∨
        getValueInt f.structures s (bufferOf ((pre ++ w' ++ post).take s.size)) versionElement ≠
          .ok f.version) := by
  refine ⟨calcCrc32_burst_iff pre post hlen hfour hne,
    fun f s hlaid hheader hsize hapart buf hread => ?_⟩
  obtain ⟨pm, pv, pc, hat⟩ := hheader.exists_at hlaid
  have hpc := hapart pc hat.chksum
  obtain ⟨hfile, -, -, rfl, hsum⟩ := (readInput_eq_ok hat false _ _).mp hread
  have hlen' : (pre ++ w' ++ post).length = (pre ++ w ++ post).length := by simp [hlen]
  have hwin := loadAt_window post hsize
  have hwin' : loadAt (bufferOf ((pre ++ w' ++ post).take s.size)) pre.length w.length = w' := by
    rw [hlen] at hsize ⊢
    exact loadAt_window post hsize
  have hsame (i : ℕ) (hi : ¬(pre.length ≤ i ∧ i < pre.length + w.length)) :=
    bufferOf_window post s.size hlen hi
  generalize bufferOf ((pre ++ w ++ post).take s.size) = b at hsum hwin hsame
  generalize hb' : bufferOf ((pre ++ w' ++ post).take s.size) = b' at hwin' hsame
  have hzero (c : Buffer) : loadAt (storeAt c pc (int32Bytes 0)) pre.length w.length =
      loadAt c pre.length w.length := loadAt_storeAt_apart (by simpa using hpc)
  have hstored : loadAt b pc 4 = loadAt b' pc 4 := loadAt_congr fun i hi => hsame _ (by omega)
  have hburst := bufferChecksum_burst_iff (storeAt b pc (int32Bytes 0))
    (storeAt b' pc (int32Bytes 0)) hsize
    (fun i hi => by rw [storeAt, storeAt, hsame i hi]) hfour
    (by rw [hzero, hzero, hwin, hwin']; exact hne)
  rw [hzero, hzero, hwin, hwin'] at hburst
  have hsum' : bufferChecksum (storeAt b pc (int32Bytes 0)) s.size =
      s32 (leNat (loadAt b' pc 4)) := by
    rw [← hstored]
    exact hsum.resolve_left (by decide)
  rw [← hburst, hat.magic.getValueInt, hat.version.getValueInt]
  have haccept (buf' : Buffer) := readInput_eq_ok hat false (pre ++ w' ++ post) buf'
  simp only [hb', hlen', hfile, true_and, ← hsum', Bool.false_eq_true, false_or] at haccept
  constructor
  · intro hreject
    by_contra hall
    simp only [not_or, not_not, ne_eq, Except.ok.injEq] at hall
    exact hreject _ ((haccept _).mpr ⟨hall.2.1.symm, hall.2.2.symm, rfl, hall.1.symm⟩)
  · rintro h buf' hok
    obtain ⟨hm, hv, rfl, hcheck⟩ := (haccept buf').mp hok
    rcases h with h | h | h
    · exact h hcheck.symm
    · exact h (congrArg _ hm.symm)
    · exact h (congrArg _ hv.symm)

theorem exists_ok_of_isOk {ε α : Type} {x : Except ε α} (h : x.isOk = true) : ∃ a, x = .ok a := by
  cases x with
  | error => cases h
  | ok a => exact ⟨a, rfl⟩

/-- Another last byte. -/
theorem checksum_bursts_byte :
    let pre : List UInt8 :=
      [202, 0, 225, 16, 7, 0, 0, 0, 5, 120, 119, 126, 0, 0, 0, 0, 0, 0, 0, 0]
    calcCrc32 (pre ++ [2] ++ []) ≠ calcCrc32 (pre ++ [3] ++ []) ∧
      (∃ buf, readInput sampleFile sampleRoot false (pre ++ [2] ++ []) = .ok buf) ∧
      ∀ buf', readInput sampleFile sampleRoot false (pre ++ [3] ++ []) ≠ .ok buf' := by
  intro pre
  obtain ⟨hcrc, hfile⟩ := checksum_bursts_iff pre [2] [3] [] rfl (by decide) (by decide)
  obtain ⟨buf, hread⟩ : ∃ buf, readInput sampleFile sampleRoot false (pre ++ [2] ++ []) = .ok buf :=
    exists_ok_of_isOk (by decide +kernel)
  refine ⟨hcrc.mpr (by decide), ⟨buf, hread⟩, ?_⟩
  refine (hfile sampleFile sampleRoot sampleRoot_laid sampleRoot_header (by decide) ?_ buf
    hread).mpr (Or.inl (by decide))
  rintro pc ⟨e, hfind, -⟩
  have hat : findElement sampleTable sampleRoot chksumElement =
      .ok (8, ⟨str "checksum", 0, 1, 8⟩) := by decide
  rw [show sampleFile.structures = sampleTable by rfl, hat] at hfind
  cases hfind
  decide

/-- Bytes 12 to 15 changed by `0x76dc4194`: both files are accepted. -/
theorem checksum_burst_missed :
    let file (w : List UInt8) : List UInt8 :=
      [202, 0, 225, 16, 7, 0, 0, 0, 5, 120, 119, 126] ++ w ++ [0, 0, 0, 0, 2]
    calcCrc32 [0, 0, 0, 0] = calcCrc32 [0x94, 0x41, 0xdc, 0x76] ∧
      (∃ buf, readInput sampleFile sampleRoot false (file [0, 0, 0, 0]) = .ok buf) ∧
      ∃ buf, readInput sampleFile sampleRoot false (file [0x94, 0x41, 0xdc, 0x76]) = .ok buf := by
  intro file
  exact ⟨by decide +kernel, exists_ok_of_isOk (by decide +kernel),
    exists_ok_of_isOk (by decide +kernel)⟩

end TiWlan.Wlconf
