import Mathlib.Data.List.TakeWhile
import TiWlan.Lib.Reader
import TiWlan.Wlconf.Table

/-!
# The structure file

`generate_struct` writes the structure table to a file and `read_binary_struct` reads it back
(`ti-utils/wlconf/main.c`, lines 711–874, `wlconf.h`, lines 116–125). Both are nested loops over
structures and elements, with numbers as 32-bit integers and strings behind their lengths.

Memory for what is read is available, unless its size is negative as a number; `size_t` has 32
bits. A file that ends too early has no defined result.

* `reads_element`, `reads_struct`: each reader inverts its writer;
* `readBinaryStruct_generateStruct`: the round trip.
-/

namespace TiWlan.Wlconf

open TiWlan.Lib

/-- The global variables that are in the file. -/
structure StructFile where
  magic : ℤ
  version : ℤ
  structChksum : ℤ
  structures : Table
  deriving DecidableEq, Repr

/-- The bytes of a C string up to its NUL. -/
def cBytes (s : CStr) : CStr := s.takeWhile (· ≠ 0)

/-! ## Writing -/

/-- A string behind its length. -/
def writeName (name : CStr) : List UInt8 := int32Bytes (cBytes name).length ++ cBytes name

/-- `write_element` (main.c:711). -/
def writeElement (e : Element) : List UInt8 :=
  writeName e.name ++ (int32Bytes e.type ++ (int32Bytes e.arraySize ++ int32Bytes e.position))

/-- `write_struct` (main.c:724). -/
def writeStruct (s : Structure) : List UInt8 :=
  writeName s.name ++ (int32Bytes s.elements.length ++ (int32Bytes s.size ++
    s.elements.flatMap writeElement))

/-- `generate_struct` (main.c:744). -/
def generateStruct (f : StructFile) : List UInt8 :=
  int32Bytes f.magic ++ (int32Bytes f.version ++ (int32Bytes f.structChksum ++
    (int32Bytes f.structures.length ++ f.structures.flatMap writeStruct)))

/-! ## Reading -/

/-- A size for `malloc`. -/
def allocSize (n : ℤ) : Reader ℕ := if n < 0 then failure else return n.toNat

/-- A string behind its length. -/
def readName : Reader CStr := do
  let nameLen ← readInt32
  let n ← allocSize nameLen
  let bytes ← readBytes n
  return cBytes bytes

/-- `read_element` (main.c:772). -/
def readElement : Reader Element := do
  let name ← readName
  let type ← readInt32
  let arraySize ← readInt32
  let position ← readInt32
  return ⟨name, type, arraySize, u32 position⟩

/-- `read_struct` (main.c:798). -/
def readStruct : Reader Structure := do
  let name ← readName
  let nElements ← readInt32
  let size ← readInt32
  let n ← allocSize nElements
  let elements ← readMany readElement n
  return ⟨name, elements, u32 size⟩

/-- `read_binary_struct` (main.c:838). -/
def readBinaryStruct : Reader StructFile := do
  let magic ← readInt32
  let version ← readInt32
  let structChksum ← readInt32
  let nStructs ← readInt32
  let n ← allocSize nStructs
  let structures ← readMany readStruct n
  return ⟨magic, version, structChksum, structures⟩

/-! ## Tables that fit -/

/-- A string without NUL whose length fits into an `int32_t`. -/
structure NameFits (name : CStr) : Prop where
  noNul : 0 ∉ name
  length : name.length < 2 ^ 31

structure ElementFits (e : Element) : Prop where
  name : NameFits e.name
  type : 0 ≤ e.type ∧ e.type < 2 ^ 31
  arraySize : 0 ≤ e.arraySize ∧ e.arraySize < 2 ^ 31
  position : e.position < 2 ^ 31

structure StructFits (s : Structure) : Prop where
  name : NameFits s.name
  nElements : s.elements.length < 2 ^ 31
  size : s.size < 2 ^ 31
  elements : ∀ e ∈ s.elements, ElementFits e

/-- All numbers of the table fit into an `int32_t`, and those that are counts or sizes are not
negative. -/
structure FileFits (f : StructFile) : Prop where
  magic : -2 ^ 31 ≤ f.magic ∧ f.magic < 2 ^ 31
  version : -2 ^ 31 ≤ f.version ∧ f.version < 2 ^ 31
  structChksum : -2 ^ 31 ≤ f.structChksum ∧ f.structChksum < 2 ^ 31
  nStructs : f.structures.length < 2 ^ 31
  structures : ∀ s ∈ f.structures, StructFits s

/-! ## Round trips -/

theorem cBytes_of_noNul {s : CStr} (h : 0 ∉ s) : cBytes s = s := by
  unfold cBytes
  rw [List.takeWhile_eq_self_iff]
  intro b hb
  simp only [decide_eq_true_eq]
  rintro rfl
  exact h hb

theorem reads_nat {n : ℕ} (h : n < 2 ^ 31) : Reads readInt32 (int32Bytes n) n :=
  Reads.readInt32 (by omega) (by exact_mod_cast h)

theorem reads_allocSize (n : ℕ) : Reads (allocSize n) [] n := by
  rw [allocSize, if_neg (by omega)]
  exact Reads.pure n

theorem u32_int {n : ℕ} (h : n < 2 ^ 31) : u32 (n : ℤ) = n := u32_of_lt (by omega)

theorem reads_name {name : CStr} (h : NameFits name) : Reads readName (writeName name) name := by
  unfold writeName
  rw [cBytes_of_noNul h.noNul]
  refine (reads_nat h.length).bind ?_
  refine (reads_allocSize name.length).bind ?_
  have hbytes := (Reads.readBytes name).map (f := cBytes)
  rwa [cBytes_of_noNul h.noNul] at hbytes

theorem reads_element {e : Element} (h : ElementFits e) : Reads readElement (writeElement e) e := by
  refine (reads_name h.name).bind ?_
  refine (Reads.readInt32 (by have := h.type; omega) h.type.2).bind ?_
  refine (Reads.readInt32 (by have := h.arraySize; omega) h.arraySize.2).bind ?_
  have hpos := (reads_nat h.position).map
    (f := fun position => (⟨e.name, e.type, e.arraySize, u32 position⟩ : Element))
  rwa [u32_int h.position] at hpos

theorem reads_struct {s : Structure} (h : StructFits s) : Reads readStruct (writeStruct s) s := by
  refine (reads_name h.name).bind ?_
  refine (reads_nat h.nElements).bind ?_
  refine (reads_nat h.size).bind ?_
  have helems : Reads (readMany readElement s.elements.length)
      (s.elements.flatMap writeElement) s.elements :=
    Reads.readMany fun e he => reads_element (h.elements e he)
  have hmap := helems.map (f := fun elements => (⟨s.name, elements, u32 (s.size : ℤ)⟩ : Structure))
  have hs : (⟨s.name, s.elements, u32 (s.size : ℤ)⟩ : Structure) = s := by rw [u32_int h.size]
  rw [hs] at hmap
  exact (reads_allocSize s.elements.length).bind hmap

theorem reads_file {f : StructFile} (h : FileFits f) :
    Reads readBinaryStruct (generateStruct f) f := by
  refine (Reads.readInt32 h.magic.1 h.magic.2).bind ?_
  refine (Reads.readInt32 h.version.1 h.version.2).bind ?_
  refine (Reads.readInt32 h.structChksum.1 h.structChksum.2).bind ?_
  refine (reads_nat h.nStructs).bind ?_
  have hstructs : Reads (readMany readStruct f.structures.length)
      (f.structures.flatMap writeStruct) f.structures :=
    Reads.readMany fun s hs => reads_struct (h.structures s hs)
  have hmap := hstructs.map
    (f := fun structures => (⟨f.magic, f.version, f.structChksum, structures⟩ : StructFile))
  exact (reads_allocSize f.structures.length).bind hmap

/-- Reading the structure file that was written gives the same magic, version, checksum and
table, and no byte is left over. -/
theorem readBinaryStruct_generateStruct (f : StructFile) (h : FileFits f) :
    readBinaryStruct.run (generateStruct f) = some (f, []) := by
  have hread := reads_file h []
  rwa [List.append_nil] at hread

/-- Two structures, the second with an array of the first and a checksum above `2 ^ 31 - 1`. -/
theorem readBinaryStruct_generateStruct_nested :
    let f : StructFile := ⟨0x7eadbeef, 5, -2, [⟨str "head", [⟨str "magic", 0, 1, 0⟩], 4⟩,
      ⟨str "root", [⟨str "head", 1000, 2, 0⟩, ⟨str "x", 2, 3, 8⟩], 11⟩]⟩
    readBinaryStruct.run (generateStruct f) = some (f, []) :=
  readBinaryStruct_generateStruct _
    { magic := by decide
      version := by decide
      structChksum := by decide
      nStructs := by decide
      structures := by
        simp only [List.forall_mem_cons]
        refine ⟨⟨⟨by decide, by decide⟩, by decide, by decide, ?_⟩,
          ⟨⟨by decide, by decide⟩, by decide, by decide, ?_⟩, by simp⟩
        · simp only [List.forall_mem_cons]
          exact ⟨⟨⟨by decide, by decide⟩, by decide, by decide, by decide⟩, by simp⟩
        · simp only [List.forall_mem_cons]
          exact ⟨⟨⟨by decide, by decide⟩, by decide, by decide, by decide⟩,
            ⟨⟨by decide, by decide⟩, by decide, by decide, by decide⟩, by simp⟩ }

end TiWlan.Wlconf
