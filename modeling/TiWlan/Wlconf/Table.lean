import TiWlan.Lib.CString

/-!
# Structure tables

The data of `wlconf`: `struct element`, `struct structure` and `types[]`
(`ti-utils/wlconf/wlconf.h`, lines 23–61), with `get_type` and `get_struct` (`main.c`, lines
75–92 and 139–148). A table describes the packed structure of a configuration file; it is the
global variable `structures`.

The field `value` of an element is not used by the program.
-/

namespace TiWlan.Wlconf

open TiWlan.Lib

/-- `struct element`. -/
structure Element where
  name : CStr
  type : ℤ
  arraySize : ℤ
  position : ℕ
  deriving DecidableEq, Repr

/-- `struct structure`; `n_elements` is the number of elements. -/
structure Structure where
  name : CStr
  elements : List Element
  size : ℕ
  deriving DecidableEq, Repr

/-- `structures` and `n_structs`. -/
abbrev Table := List Structure

/-- `types[]`: the names and sizes of the base types. -/
def types : List (CStr × ℕ) :=
  [(str "u32", 4), (str "u16", 2), (str "u8", 1), (str "s32", 4), (str "s16", 2), (str "s8", 1),
    (str "__le32", 4), (str "__le16", 2)]

/-- `STRUCT_BASE`. -/
def structBase : ℤ := 1000

/-- `types[type].size`, for a base type. -/
def typeSize (type : ℤ) : ℕ := ((types[type.toNat]?).map Prod.snd).getD 0

/-- `get_type` (main.c:75). -/
def getType (T : Table) (typeStr : CStr) : ℤ :=
  match types.findIdx? fun t => t.1 == typeStr with
  | some i => i
  | none =>
    match T.findIdx? fun s => s.name == typeStr with
    | some i => structBase + i
    | none => -1

/-- `get_struct` (main.c:139). -/
def getStruct (T : Table) (name : CStr) : Option Structure := T.find? fun s => s.name == name

/-- `DEFAULT_ROOT_STRUCT`. -/
def defaultRootStruct : CStr := str "wlcore_conf_file"

end TiWlan.Wlconf
