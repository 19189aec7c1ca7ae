import TiWlan.Lib.Regex
import TiWlan.Wlconf.Elements

/-!
# Text files

Model of `parse_text_file`, `translate_ini` and `parse_dict` (`ti-utils/wlconf/main.c`, lines
987–1272) with the patterns of `wlconf.h` (lines 98–105): a text file sets one element in each
line, as `name = value, …` or, in an INI file, as `name = value …` with names that a dictionary
translates.

A file is its content; `regexec` is that of POSIX, and memory is available.
-/

namespace TiWlan.Wlconf

open TiWlan.Lib

/-- `enum text_file_type`. -/
inductive TextFileType
  | ini
  | conf
  deriving DecidableEq, Repr

/-! ## Lines -/

/-- The lines that `getline` returns, without their ends and their comments; what is behind a NUL
is not seen. -/
def textLines (text : List UInt8) : List CStr :=
  (text.splitOn (chr '\n')).map fun line => line.takeWhile fun c => c ≠ 0 && c ≠ chr '#'

/-! ## Patterns -/

/-- `[\t ]` -/
def isBlank (c : UInt8) : Bool := c = chr '\t' || c = chr ' '

def isDigit (c : UInt8) : Bool := chr '0' ≤ c && c ≤ chr '9'

/-- `[A-Za-z_]` -/
def isIdentStart (c : UInt8) : Bool :=
  (chr 'A' ≤ c && c ≤ chr 'Z') || (chr 'a' ≤ c && c ≤ chr 'z') || c = chr '_'

/-- `[A-Za-z0-9_]` -/
def isIdent (c : UInt8) : Bool := isIdentStart c || isDigit c

/-- `[A-Za-z0-9_.]` -/
def isPath (c : UInt8) : Bool := isIdent c || c = chr '.'

/-- `[A-Za-z0-9_, \t]` -/
def isConfValue (c : UInt8) : Bool := isIdent c || c = chr ',' || isBlank c

/-- `[0-9A-Fa-f \t]` -/
def isIniValue (c : UInt8) : Bool :=
  isDigit c || (chr 'A' ≤ c && c ≤ chr 'F') || (chr 'a' ≤ c && c ≤ chr 'f') || isBlank c

/-- `^[\t ]*([A-Za-z_]name*)[\t ]*=[\t ]*(value+)` -/
def assignPattern (name value : UInt8 → Bool) : List (Piece UInt8) :=
  [.star isBlank, .one isIdentStart, .star name, .star isBlank, .one (· = chr '='),
    .star isBlank, .plus value]

/-- `TEXT_CONF_PATTERN` and `TEXT_INI_PATTERN`. -/
def TextFileType.pattern : TextFileType → List (Piece UInt8)
  | .conf => assignPattern isPath isConfValue
  | .ini => assignPattern isIdent isIniValue

/-- `DICT_PATTERN`. -/
def dictPattern : List (Piece UInt8) :=
  [.star isBlank, .one isIdentStart, .star isIdent, .plus isBlank, .one isIdentStart, .star isPath]

/-- The two groups of an assignment. -/
def matchAssign (type : TextFileType) (line : CStr) : Option (CStr × CStr) :=
  match matchPieces type.pattern line with
  | some [_, first, rest, _, _, _, value] => some (first ++ rest, value)
  | _ => none

/-- The two groups of a line of the dictionary. -/
def matchDict (line : CStr) : Option (CStr × CStr) :=
  match matchPieces dictPattern line with
  | some [_, first, rest, _, first', rest'] => some (first ++ rest, first' ++ rest')
  | _ => none

/-! ## Dictionaries -/

/-- `dict`: pairs of an INI name and an element. -/
abbrev Dict := List (CStr × CStr)

/-- `parse_dict` (main.c:1054). -/
def parseDict (text : List UInt8) : Except Err Dict :=
  match ((textLines text).filter (· ≠ [])).mapM matchDict with
  | none => .error .error
  | some dict => .ok dict

/-- The loop of `translate_ini` over the dictionary; a translated name is looked up again in the
rest of it. -/
def translateName (dict : Dict) (elementStr : CStr) : CStr :=
  dict.foldl (fun name entry => if entry.1 = name then entry.2 else name) elementStr

/-- The loop of `translate_ini` over the values; `MAX_VALUE_STR_LEN` is 256 and
`MAX_ARRAY_STR_LEN` is 4096. -/
def translateValues (translatedArray : CStr) : List CStr → Except Err CStr
  | [] => .ok translatedArray
  | value :: values =>
    let translatedValue := str "0x" ++ value ++ str ","
    if 256 ≤ translatedValue.length then .error .error
    else if 4096 ≤ translatedValue.length + translatedArray.length then .error .error
    else translateValues (translatedArray ++ translatedValue) values

/-- `translate_ini` (main.c:987). Without a value there is no last comma to remove. -/
def translateIni (dict : Dict) (elementStr valueArray : CStr) : Except Err (CStr × CStr) :=
  match translateValues [] (strtokAll isBlank valueArray) with
  | .error err => .error err
  | .ok [] => .error .undefined
  | .ok array => .ok (translateName dict elementStr, array.dropLast)

/-! ## Setting the elements -/

/-- The element and the values that a line names. -/
def lineNames (type : TextFileType) (dict : Dict) (line : CStr) : Except Err (CStr × CStr) :=
  match matchAssign type line with
  | none => .error .error
  | some (elementStr, valueArray) =>
    match type with
    | .conf => .ok (elementStr, valueArray)
    | .ini => translateIni dict elementStr valueArray

/-- The loop of `parse_text_file` over the values of a line, and its counter. -/
def setValues (ulongBits : ℕ) (e : Element) : Buffer → ℕ → ℤ → List CStr → Buffer × ℤ
  | buf, _, i, [] => (buf, i)
  | buf, pos, i, value :: values =>
    if e.arraySize < i + 1 then (buf, i + 1)
    else
      setValues ulongBits e (setData e buf pos (strtoul ulongBits value)) (pos + typeSize e.type)
        (i + 1) values

section
variable (ulongBits : ℕ) (T : Table) (s : Structure)

/-- What a line sets: a position, an element that is no structure and the values. -/
def lineTarget (type : TextFileType) (dict : Dict) (line : CStr) :
    Except Err (ℕ × Element × List CStr) :=
  match lineNames type dict line with
  | .error err => .error err
  | .ok (elementStr, valueArray) =>
    match findElement T s elementStr with
    | .error err => .error err
    | .ok (pos, e) =>
      if structBase ≤ e.type then .error .error
      else .ok (pos, e, strtokAll (· == chr ',') valueArray)

/-- One line of `parse_text_file`: the buffer and the number of errors. -/
def parseLine (type : TextFileType) (dict : Dict) (buf : Buffer) (line : CStr) :
    Except Err (Buffer × ℕ) :=
  if line = [] then .ok (buf, 0)
  else
    match lineTarget T s type dict line with
    | .error .undefined => .error .undefined
    | .error .error => .ok (buf, 1)
    | .ok (pos, e, values) =>
      let (buf, i) := setValues ulongBits e buf pos 0 values
      .ok (buf, if i = e.arraySize then 0 else 1)

/-- The loop of `parse_text_file` over the lines, with `parse_errors`. -/
def parseLines (type : TextFileType) (dict : Dict) :
    Buffer × ℕ → List CStr → Except Err (Buffer × ℕ)
  | r, [] => .ok r
  | (buf, parseErrors), line :: lines =>
    match parseLine ulongBits T s type dict buf line with
    | .error err => .error err
    | .ok (buf, n) => parseLines type dict (buf, parseErrors + n) lines

/-- `parse_text_file` (main.c:1141). -/
def parseTextFile (type : TextFileType) (dict : Dict) (buf : Buffer) (text : List UInt8) :
    Except Err Buffer :=
  match parseLines ulongBits T s type dict (buf, 0) (textLines text) with
  | .error err => .error err
  | .ok (buf, parseErrors) => if parseErrors ≠ 0 then .error .error else .ok buf

end

end TiWlan.Wlconf
