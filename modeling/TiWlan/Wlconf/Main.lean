import TiWlan.Wlconf.StructFile
import TiWlan.Wlconf.TextFiles

/-!
# Configuration files

Model of `read_input`, `create_default` and the commands `-s`, `-C` and `-I` of `main`
(`ti-utils/wlconf/main.c`, lines 510–580, 932–985, 1274–1322 and 1499–1570) with `calc_crc32`
(`crc32.c`, lines 93–103). Of the table of `crc32.c` only the first 16 entries are ever used.

The files exist and can be written. `create_default` fills a buffer that comes from `malloc`
without being set to anything; its content is a parameter.
-/

namespace TiWlan.Wlconf

open TiWlan.Lib

/-! ## Checksums -/

/-- `table[0]` to `table[15]`. -/
def crcTable : List UInt32 :=
  [0x00000000, 0x77073096, 0xee0e612c, 0x990951ba, 0x076dc419, 0x706af48f, 0xe963a535, 0x9e6495a3,
    0x0edb8832, 0x79dcb8a4, 0xe0d5e91e, 0x97d2d988, 0x09b64c2b, 0x7eb17cbd, 0xe7b82d07, 0x90bf1d91]

/-- `crc = (crc >> 4) ^ table[crc & 15]`. -/
def crcNibble (crc : UInt32) : UInt32 := (crc >>> 4) ^^^ crcTable.getD (crc &&& 15).toNat 0

/-- `calc_crc32` (crc32.c:93). -/
def calcCrc32 (bytes : List UInt8) : UInt32 :=
  bytes.foldl (fun crc byte => crcNibble (crcNibble (crc ^^^ byte.toUInt32))) 0

/-- The checksum of a buffer, as an `int`. -/
def bufferChecksum (buf : Buffer) (size : ℕ) : ℤ := s32 (calcCrc32 (loadAt buf 0 size)).toNat

/-! ## The header of a configuration -/

/-- `DEFAULT_MAGIC_ELEMENT`. -/
def magicElement : CStr := str "header.magic"

/-- `DEFAULT_VERSION_ELEMENT`. -/
def versionElement : CStr := str "header.version"

/-- `DEFAULT_CHKSUM_ELEMENT`. -/
def chksumElement : CStr := str "header.checksum"

/-! ## Files -/

/-- `read_file` (main.c:510): the whole file if no size is given. -/
def readFile (file : List UInt8) (size : ℕ) : Except Err (List UInt8) :=
  let bufSize := if size ≠ 0 then size else file.length
  if file.length < bufSize then .error .error else .ok (file.take bufSize)

/-- A buffer with these bytes. -/
def bufferOf (bytes : List UInt8) : Buffer := fun i => bytes.getD i 0

section
variable (ulongBits : ℕ) (f : StructFile) (s : Structure)

/-- `read_input` (main.c:932). -/
def readInput (ignoreChecksum : Bool) (file : List UInt8) : Except Err Buffer := do
  let bytes ← readFile file s.size
  let buf := bufferOf bytes
  let inputMagic ← getValueInt f.structures s buf magicElement
  let inputVersion ← getValueInt f.structures s buf versionElement
  let inputChecksum ← getValueInt f.structures s buf chksumElement
  let buf ← setValueInt f.structures s buf 0 chksumElement
  let checksum := bufferChecksum buf s.size
  if f.magic ≠ inputMagic ∨ f.version ≠ inputVersion then .error .error
  else if ignoreChecksum = false ∧ checksum ≠ inputChecksum then .error .error
  else return buf

/-- The commands that edit a configuration, with their argument or the content of their files. -/
inductive Edit
  /-- `-s` -/
  | set (argument : CStr)
  /-- `-C` -/
  | parseTextConf (text : List UInt8)
  /-- `-I`, with the dictionary -/
  | parseIni (dict text : List UInt8)

/-- What a command does between reading and writing. -/
def applyEdit (buf : Buffer) : Edit → Except Err Buffer
  | .set argument => setValue ulongBits f.structures s buf argument
  | .parseTextConf text => parseTextFile ulongBits f.structures s .conf [] buf text
  | .parseIni dict text => do
    let dict ← parseDict dict
    parseTextFile ulongBits f.structures s .ini dict buf text

/-- The checksum is set, and the buffer is the content of the output file. -/
def writeOutput (buf : Buffer) : Except Err (List UInt8) := do
  let buf ← setValueInt f.structures s buf (bufferChecksum buf s.size) chksumElement
  return loadAt buf 0 s.size

/-- `main` for a command that edits: the output file (main.c:1499–1570). -/
def runEdit (ignoreChecksum : Bool) (file : List UInt8) (edit : Edit) :
    Except Err (List UInt8) := do
  let buf ← readInput f s ignoreChecksum file
  let buf ← applyEdit ulongBits f s buf edit
  writeOutput f s buf

/-- `create_default` (main.c:1274): the output file. -/
def createDefault (fresh : Buffer) (text : List UInt8) : Except Err (List UInt8) := do
  let buf ← setValueInt f.structures s fresh f.magic magicElement
  let buf ← setValueInt f.structures s buf f.version versionElement
  let buf ← parseTextFile ulongBits f.structures s .conf [] buf text
  writeOutput f s buf

end

end TiWlan.Wlconf
