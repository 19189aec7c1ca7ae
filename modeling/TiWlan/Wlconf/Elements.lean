import TiWlan.Lib.Memory
import TiWlan.Lib.Reader
import TiWlan.Wlconf.Table

/-!
# Elements of a configuration

Finding, printing and setting elements of a configuration buffer (`ti-utils/wlconf/main.c`, lines
389–508, 582–709 and 876–930). The host is little-endian and its `unsigned long` has `ulongBits`
bits; a type that is not in `types[]` has size 0, which is the case "Unsupported data size".

A function that can fail returns `Err.error` for a negative return value and `Err.undefined` where
the source goes on with a pointer to nothing. What is printed to `stderr` is not modelled.
-/

namespace TiWlan.Wlconf

open TiWlan.Lib

/-- A configuration buffer. -/
abbrev Buffer := ℕ → UInt8

inductive Err
  | error
  | undefined
  deriving DecidableEq, Repr

/-! ## Positions -/

/-- The loop of `get_element_pos` over the tokens; the element is `none` for `NULL`. -/
def walkPath (T : Table) (currStruct : Structure) (currElement : Option Element) (pos : ℤ) :
    List CStr → Except Err (ℤ × Option Element)
  | [] => .ok (pos, currElement)
  | str :: strs =>
    match currStruct.elements.find? fun e => e.name == str with
    | none => .ok (-1, currElement)
    | some e =>
      if strs = [] then .ok (s32 (pos + e.position), some e)
      -- "element is not a struct"
      else if e.type < structBase then .ok (-1, some e)
      else
        match T[(e.type - structBase).toNat]? with
        | none => .error .undefined
        | some currStruct => walkPath T currStruct (some e) (s32 (pos + e.position)) strs

/-- The tokens of a dotted path. -/
def pathTokens (path : CStr) : List CStr := strtokAll (· == chr '.') path

/-- `get_element_pos` (main.c:582). -/
def getElementPos (T : Table) (s : Structure) (argument : CStr) :
    Except Err (ℤ × Option Element) :=
  walkPath T s none 0 (pathTokens argument)

/-- `get_element_pos` with what all its callers do next: a negative position is an error, and then
the element is used. -/
def findElement (T : Table) (s : Structure) (path : CStr) : Except Err (ℕ × Element) :=
  match getElementPos T s path with
  | .error err => .error err
  | .ok (pos, element) =>
    if pos < 0 then .error .error
    else
      match element with
      | none => .error .undefined
      | some e => .ok (pos.toNat, e)

/-! ## Printing -/

/-- One value, as `0x%02x`, `0x%04x` or `0x%08x`. -/
def printValue (size value : ℕ) : CStr :=
  if size = 0 then [] else str "0x" ++ hexDigits (2 * size) value

/-- The loop of `print_data` with `n` values left. -/
def printValues (buf : Buffer) (size : ℕ) : ℕ → ℕ → CStr
  | _, 0 => []
  | pos, 1 => printValue size (leNat (loadAt buf pos size))
  | pos, n + 2 =>
    printValue size (leNat (loadAt buf pos size)) ++ str ", " ++
      printValues buf size (pos + size) (n + 1)

/-- `print_data` (main.c:389). -/
def printData (e : Element) (buf : Buffer) (pos : ℕ) : CStr :=
  printValues buf (typeSize e.type) pos e.arraySize.toNat ++ str "\n"

/-- The size of an element with all its copies, as `print_element` adds it to its offset. -/
def elementSize (T : Table) (e : Element) : ℕ :=
  e.arraySize.toNat * if e.type < structBase then typeSize e.type
    else ((T[(e.type - structBase).toNat]?).map Structure.size).getD 0

/-- The name that `print_element` gives an element. -/
def currName (T : Table) (e : Element) : Option CStr → Option CStr
  | some parent => some (parent ++ str "." ++ e.name)
  | none => if e.type ≠ getType T defaultRootStruct then some e.name else none

/-- The loop of `print_element` over the elements of a structure. -/
def printElements (T : Table) (print : Element → ℕ → Option CStr) :
    List Element → ℕ → Option CStr
  | [], _ => some []
  | e :: es, pos =>
    match print e pos, printElements T print es (pos + elementSize T e) with
    | some first, some rest => some (first ++ rest)
    | _, _ => none

/-- `print_element` (main.c:445); the data are a buffer with an offset, or `none` for `NULL`. The
fuel bounds the nesting of elements, and `none` means that it was used up. -/
def printElement (T : Table) (buf : Option Buffer) :
    ℕ → Element → Option CStr → ℕ → Option CStr
  | 0, _, _, _ => none
  | fuel + 1, e, parent, pos =>
    let name := currName T e parent
    if e.type < structBase then
      match buf with
      | some buf => some (name.getD [] ++ str " = " ++ printData e buf pos)
      | none => some (str "\t" ++ ((types[e.type.toNat]?).map Prod.fst).getD [] ++ str " " ++
          e.name ++ str "[" ++ str (toString e.arraySize) ++ str "]\n")
    else
      match T[(e.type - structBase).toNat]? with
      | none => none
      | some sub =>
        let body := printElements T (fun e => printElement T buf fuel e name) sub.elements pos
        match buf with
        | some _ => body
        | none => body.map fun body => str "struct " ++ sub.name ++ str " \x7b\n" ++ body ++
            str "\x7d /* " ++ sub.name ++ str " */\n"

/-- What is before the last dot of a path. -/
def parentPath (argument : CStr) : Option CStr :=
  if chr '.' ∈ argument then
    some (argument.reverse.dropWhile (· ≠ chr '.')).tail.reverse
  else none

/-- `get_value` (main.c:625): the text it prints. -/
def getValue (T : Table) (s : Structure) (buf : Option Buffer) :
    Option CStr → Except Err CStr
  | some argument =>
    match findElement T s argument with
    | .error .undefined => .error .undefined
    -- "couldn't find"
    | .error .error => .ok []
    | .ok (pos, e) =>
      match printElement T buf (T.length + 1) e (parentPath argument) pos with
      | none => .error .undefined
      | some text => .ok text
  | none =>
    match printElement T buf (T.length + 1) ⟨[], getType T defaultRootStruct, 1, 0⟩ none 0 with
    | none => .error .undefined
    | some text => .ok text

/-! ## Setting -/

/-- `set_data` (main.c:425). -/
def setData (e : Element) (buf : Buffer) (pos value : ℕ) : Buffer :=
  storeAt buf pos (leBytes (typeSize e.type) value)

/-- `set_value` (main.c:664). -/
def setValue (ulongBits : ℕ) (T : Table) (s : Structure) (buf : Buffer) (argument : CStr) :
    Except Err Buffer :=
  if chr '=' ∉ argument then .error .error
  else
    let elementStr := argument.takeWhile (· ≠ chr '=')
    let valueStr := (argument.dropWhile (· ≠ chr '=')).tail
    match findElement T s elementStr with
    | .error err => .error err
    | .ok (pos, e) =>
      if 1 < e.arraySize then .error .error
      else if structBase ≤ e.type then .error .error
      else .ok (setData e buf pos (u32 (strtoul ulongBits valueStr)))

/-- `element->type` is that of `u32` or `__le32`. -/
def Element.isInt (T : Table) (e : Element) : Prop :=
  e.type = getType T (str "u32") ∨ e.type = getType T (str "__le32")

instance (T : Table) (e : Element) : Decidable (e.isInt T) := inferInstanceAs (Decidable (_ ∨ _))

/-- `get_value_int` (main.c:876). -/
def getValueInt (T : Table) (s : Structure) (buf : Buffer) (elementStr : CStr) : Except Err ℤ :=
  match findElement T s elementStr with
  | .error err => .error err
  | .ok (pos, e) =>
    if ¬e.isInt T then .error .error else .ok (s32 (leNat (loadAt buf pos 4)))

/-- `set_value_int` (main.c:904). -/
def setValueInt (T : Table) (s : Structure) (buf : Buffer) (value : ℤ) (elementStr : CStr) :
    Except Err Buffer :=
  match findElement T s elementStr with
  | .error err => .error err
  | .ok (pos, e) =>
    if ¬e.isInt T then .error .error else .ok (storeAt buf pos (int32Bytes value))

end TiWlan.Wlconf
