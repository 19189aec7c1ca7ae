import TiWlan.Wlconf.Main
import TiWlan.Wlconf.TextWrites

/-!
# The header of a configuration file

A configuration starts with a magic number, a version and a checksum, which is computed with the
checksum itself set to zero (`ti-utils/wlconf/main.c`, lines 876–985).

* `IntAt`: a path to a number, with what `get_value_int` and `set_value_int` do there;
* `readInput_eq_ok`: what `read_input` accepts;
* `readInput_writeOutput`: a buffer with the right magic and version, in which the checksum is
  zero, is written to a file that `read_input` accepts.
-/

namespace TiWlan.Wlconf

open TiWlan.Lib

variable {ignoreChecksum : Bool} {b buf : Buffer} {file : List UInt8} {T : Table} {k size : ℕ}

/-! ## Numbers -/

/-- The path leads to a number at `pos` that is not an array. -/
def IntAt (T : Table) (s : Structure) (path : CStr) (pos : ℕ) : Prop :=
  ∃ e, findElement T s path = .ok (pos, e) ∧ e.isInt T ∧ e.arraySize = 1

theorem isInt_size {e : Element} (h : e.isInt T) : e.type < structBase ∧ typeSize e.type = 4 := by
  have hu32 : getType T (str "u32") = 0 := by
    rw [getType, show (types.findIdx? fun t => t.1 == str "u32") = some 0 by decide]
    rfl
  have hle32 : getType T (str "__le32") = 6 := by
    rw [getType, show (types.findIdx? fun t => t.1 == str "__le32") = some 6 by decide]
    rfl
  rcases h with h | h
  · rw [h, hu32]
    decide
  · rw [h, hle32]
    decide

namespace IntAt

variable {T : Table} {s : Structure} {path path' : CStr} {pos pos' i : ℕ}

theorem getValueInt (h : IntAt T s path pos) (buf : Buffer) :
    getValueInt T s buf path = .ok (s32 (leNat (loadAt buf pos 4))) := by
  obtain ⟨e, hfind, hint, -⟩ := h
  rw [Wlconf.getValueInt, hfind]
  simp only [not_true, hint, if_false]

theorem setValueInt (h : IntAt T s path pos) (buf : Buffer) (value : ℤ) :
    setValueInt T s buf value path = .ok (storeAt buf pos (int32Bytes value)) := by
  obtain ⟨e, hfind, hint, -⟩ := h
  rw [Wlconf.setValueInt, hfind]
  simp only [not_true, hint, if_false]

theorem elementSize_eq (h : IntAt T s path pos) :
    ∃ e, findElement T s path = .ok (pos, e) ∧ elementSize T e = 4 := by
  obtain ⟨e, hfind, hint, harray⟩ := h
  obtain ⟨htype, hfour⟩ := isInt_size hint
  refine ⟨e, hfind, ?_⟩
  rw [elementSize, harray, if_pos htype, hfour]
  rfl

theorem resolves (h : IntAt T s path pos) (hlaid : Laid T i) (hs : T[i]? = some s)
    (hsize : s.size < 2 ^ 31) :
    ∃ e, Resolves T s (pathTokens path) pos e ∧ elementSize T e = 4 := by
  obtain ⟨e, hfind, hfour⟩ := h.elementSize_eq
  exact ⟨e, (findElement_eq_ok hlaid hs hsize path pos e).mp hfind, hfour⟩

theorem le_size (h : IntAt T s path pos) (hlaid : Laid T i) (hs : T[i]? = some s)
    (hsize : s.size < 2 ^ 31) : pos + 4 ≤ s.size := by
  obtain ⟨e, hres, hfour⟩ := h.resolves hlaid hs hsize
  have hle := hres.le_size hlaid hs
  omega

/-- Numbers whose paths part do not overlap. -/
theorem disjoint (h : IntAt T s path pos) (h' : IntAt T s path' pos') (hlaid : Laid T i)
    (hs : T[i]? = some s) (hsize : s.size < 2 ^ 31) (hne : ¬pathTokens path <+: pathTokens path')
    (hne' : ¬pathTokens path' <+: pathTokens path) : pos + 4 ≤ pos' ∨ pos' + 4 ≤ pos := by
  obtain ⟨e, hres, hfour⟩ := h.resolves hlaid hs hsize
  obtain ⟨e', hres', hfour'⟩ := h'.resolves hlaid hs hsize
  have hdis := hres.disjoint hres' hlaid hs hne hne'
  omega

end IntAt

/-! ## Headers -/

/-- The three numbers of the header. -/
structure HasHeader (T : Table) (s : Structure) : Prop where
  magic : ∃ pos, IntAt T s magicElement pos
  version : ∃ pos, IntAt T s versionElement pos
  chksum : ∃ pos, IntAt T s chksumElement pos

/-- The header lies at `pm`, `pv` and `pc`. -/
structure HeaderAt (T : Table) (s : Structure) (pm pv pc : ℕ) : Prop where
  magic : IntAt T s magicElement pm
  version : IntAt T s versionElement pv
  chksum : IntAt T s chksumElement pc
  magic_le : pm + 4 ≤ s.size
  version_le : pv + 4 ≤ s.size
  chksum_le : pc + 4 ≤ s.size
  magic_version : pm + 4 ≤ pv ∨ pv + 4 ≤ pm
  magic_chksum : pm + 4 ≤ pc ∨ pc + 4 ≤ pm
  version_chksum : pv + 4 ≤ pc ∨ pc + 4 ≤ pv
  /-- an element whose path does not start with `header` is apart -/
  apart : ∀ names off e, Resolves T s names off e → names.head? ≠ some (str "header") →
    ∀ p ∈ [pm, pv, pc], off + elementSize T e ≤ p ∨ p + 4 ≤ off

theorem HasHeader.exists_at {s : Structure} (h : HasHeader T s) (hlaid : RootLaid T s) :
    ∃ pm pv pc, HeaderAt T s pm pv pc := by
  obtain ⟨i, -, hs, hlaid', hsize⟩ := hlaid.exists_index
  obtain ⟨pm, hm⟩ := h.magic
  obtain ⟨pv, hv⟩ := h.version
  obtain ⟨pc, hc⟩ := h.chksum
  have hapart : ∀ path p, IntAt T s path p → (pathTokens path).head? = some (str "header") →
      ∀ names off e, Resolves T s names off e → names.head? ≠ some (str "header") →
        off + elementSize T e ≤ p ∨ p + 4 ≤ off := by
    intro path p hp hhead names off e hres hne
    obtain ⟨e', hres', hfour⟩ := hp.resolves hlaid' hs hsize
    have hdis := hres.disjoint_of_head hres' hlaid' hs (by rwa [hhead])
    omega
  refine ⟨pm, pv, pc, hm, hv, hc, hm.le_size hlaid' hs hsize, hv.le_size hlaid' hs hsize,
    hc.le_size hlaid' hs hsize, hm.disjoint hv hlaid' hs hsize (by decide) (by decide),
    hm.disjoint hc hlaid' hs hsize (by decide) (by decide),
    hv.disjoint hc hlaid' hs hsize (by decide) (by decide), ?_⟩
  intro names off e hres hne p hp
  simp only [List.mem_cons, List.not_mem_nil, or_false] at hp
  rcases hp with rfl | rfl | rfl
  · exact hapart _ _ hm (by decide) names off e hres hne
  · exact hapart _ _ hv (by decide) names off e hres hne
  · exact hapart _ _ hc (by decide) names off e hres hne

/-! ## Reading and writing -/

/-- Reading back what was written. -/
theorem bufferOf_loadAt (hk : k < size) : bufferOf ((loadAt b 0 size).take size) k = b k := by
  rw [List.take_of_length_le (by rw [loadAt_length]), bufferOf, getD_loadAt hk, Nat.zero_add]

theorem loadAt_bufferOf {pos n : ℕ} (h : pos + n ≤ size) :
    loadAt (bufferOf ((loadAt b 0 size).take size)) pos n = loadAt b pos n :=
  loadAt_congr fun k hk => bufferOf_loadAt (by omega)

theorem storeAt_int32Bytes {pos : ℕ} (h : ¬(pos ≤ k ∧ k < pos + 4)) (x : ℤ) :
    storeAt b pos (int32Bytes x) k = b k := by
  have hnot : ¬Covers (pos, int32Bytes x) k := by simpa [Covers] using h
  exact storeAt_of_not_covers hnot

theorem bufferChecksum_congr {b' : Buffer} (h : ∀ k < size, b k = b' k) :
    bufferChecksum b size = bufferChecksum b' size := by
  have hload : loadAt b 0 size = loadAt b' 0 size := by
    refine loadAt_congr fun k hk => ?_
    rw [Nat.zero_add]
    exact h k hk
  rw [bufferChecksum, bufferChecksum, hload]

section
variable {f : StructFile} {s : Structure} {pm pv pc : ℕ}

/-- What `read_input` accepts. -/
theorem readInput_eq_ok (h : HeaderAt f.structures s pm pv pc) (ignoreChecksum : Bool)
    (file : List UInt8) (buf : Buffer) :
    readInput f s ignoreChecksum file = .ok buf ↔
      s.size ≤ file.length ∧
      f.magic = s32 (leNat (loadAt (bufferOf (file.take s.size)) pm 4)) ∧
      f.version = s32 (leNat (loadAt (bufferOf (file.take s.size)) pv 4)) ∧
      buf = storeAt (bufferOf (file.take s.size)) pc (int32Bytes 0) ∧
      (ignoreChecksum = true ∨ bufferChecksum buf s.size =
        s32 (leNat (loadAt (bufferOf (file.take s.size)) pc 4))) := by
  have hpos : s.size ≠ 0 := by
    have := h.magic_le
    omega
  by_cases hlen : file.length < s.size
  · have hread : readFile file s.size = .error .error := by
      rw [readFile, if_pos hpos, if_pos hlen]
    rw [readInput, hread]
    constructor
    · intro h
      cases h
    · intro h
      omega
  · have hread : readFile file s.size = .ok (file.take s.size) := by
      rw [readFile, if_pos hpos, if_neg hlen]
    rw [readInput, hread]
    simp only [bind, Except.bind, h.magic.getValueInt, h.version.getValueInt, h.chksum.getValueInt,
      h.chksum.setValueInt]
    generalize bufferOf (file.take s.size) = b
    constructor
    · intro hok
      split_ifs at hok with hbad hsum
      cases hok
      refine ⟨by omega, by_contra fun hm => hbad (Or.inl hm), by_contra fun hv => hbad (Or.inr hv),
        rfl, ?_⟩
      by_contra hboth
      rw [not_or, Bool.not_eq_true] at hboth
      exact hsum hboth
    · rintro ⟨-, hm, hv, rfl, hsum⟩
      rw [if_neg (by simp [← hm, ← hv])]
      rw [if_neg]
      · rfl
      · rintro ⟨hcheck, hne⟩
        rcases hsum with hsum | hsum
        · exact absurd (hcheck.symm.trans hsum) (by decide)
        · exact hne hsum

/-- The numbers of the header in a buffer that `read_input` returns. -/
theorem readInput_header (h : HeaderAt f.structures s pm pv pc)
    (hread : readInput f s ignoreChecksum file = .ok buf) :
    s32 (leNat (loadAt buf pm 4)) = f.magic ∧ s32 (leNat (loadAt buf pv 4)) = f.version ∧
      loadAt buf pc 4 = int32Bytes 0 := by
  obtain ⟨-, hmagic, hversion, rfl, -⟩ := (readInput_eq_ok h ignoreChecksum file buf).mp hread
  refine ⟨?_, ?_, loadAt_storeAt_self _ pc (int32Bytes 0)⟩
  · rw [loadAt_storeAt_apart (by simpa using h.magic_chksum), hmagic]
  · rw [loadAt_storeAt_apart (by simpa using h.version_chksum), hversion]

/-- The other bytes are those of the file. -/
theorem readInput_byte (h : HeaderAt f.structures s pm pv pc)
    (hread : readInput f s ignoreChecksum file = .ok buf) (hk : k < s.size)
    (hnot : ¬(pc ≤ k ∧ k < pc + 4)) : file[k]? = some (buf k) := by
  obtain ⟨hlen, -, -, rfl, -⟩ := (readInput_eq_ok h ignoreChecksum file buf).mp hread
  rw [storeAt_int32Bytes hnot, bufferOf, List.getD_eq_getElem?_getD, List.getElem?_take_of_lt hk,
    List.getElem?_eq_getElem (by omega), Option.getD_some]

/-- A buffer with the right magic and version, in which the checksum is zero, is written to a file
that `read_input` accepts. -/
theorem readInput_writeOutput (h : HeaderAt f.structures s pm pv pc)
    (hmagic : s32 (leNat (loadAt b pm 4)) = f.magic)
    (hversion : s32 (leNat (loadAt b pv 4)) = f.version) (hzero : loadAt b pc 4 = int32Bytes 0) :
    ∃ output, writeOutput f s b = .ok output ∧
      output = loadAt (storeAt b pc (int32Bytes (bufferChecksum b s.size))) 0 s.size ∧
      ∃ buf, readInput f s false output = .ok buf := by
  generalize hsum : bufferChecksum b s.size = sum
  refine ⟨_, ?_, rfl, storeAt (bufferOf ((loadAt (storeAt b pc (int32Bytes sum)) 0 s.size).take
    s.size)) pc (int32Bytes 0), (readInput_eq_ok h false _ _).mpr ⟨?_, ?_, ?_, rfl, Or.inr ?_⟩⟩
  · rw [writeOutput, h.chksum.setValueInt, hsum]
    rfl
  · rw [loadAt_length]
  · rw [loadAt_bufferOf h.magic_le,
      loadAt_storeAt_apart (by simpa using h.magic_chksum), hmagic]
  · rw [loadAt_bufferOf h.version_le,
      loadAt_storeAt_apart (by simpa using h.version_chksum), hversion]
  · have hback : loadAt (storeAt b pc (int32Bytes sum)) pc 4 = int32Bytes sum := by
      have hself := loadAt_storeAt_self b pc (int32Bytes sum)
      rwa [int32Bytes_length] at hself
    have hrange : -2 ^ 31 ≤ sum ∧ sum < 2 ^ 31 := by
      rw [← hsum]
      unfold bufferChecksum s32
      omega
    rw [loadAt_bufferOf h.chksum_le, hback, s32_leNat_int32Bytes hrange.1 hrange.2, ← hsum]
    refine bufferChecksum_congr fun k hk => ?_
    by_cases hcov : pc ≤ k ∧ k < pc + 4
    · have hcov' : Covers (pc, int32Bytes 0) k := by simpa [Covers] using hcov
      refine storeAt_of_covers hcov' ?_
      simp only
      rw [← hzero, loadAt, List.getElem?_map, List.getElem?_range (by omega), Option.map_some,
        show pc + (k - pc) = k by omega]
    · rw [storeAt_int32Bytes hcov, bufferOf_loadAt hk, storeAt_int32Bytes hcov]

end

/-- The small table with a magic and a version. -/
def sampleFile : StructFile := ⟨0x10e100ca, 7, 0, sampleTable⟩

theorem sampleRoot_header : HasHeader sampleTable sampleRoot where
  magic := ⟨0, _, rfl, by decide, by decide⟩
  version := ⟨4, _, rfl, by decide, by decide⟩
  chksum := ⟨8, _, rfl, by decide, by decide⟩

end TiWlan.Wlconf
