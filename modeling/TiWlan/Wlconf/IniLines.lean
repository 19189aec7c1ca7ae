import TiWlan.Wlconf.TextFiles

/-!
# The values of INI lines

`translate_ini` (`ti-utils/wlconf/main.c`, lines 987–1052) turns the blank-separated values of an
INI line into a comma-separated list of hexadecimal numbers. It prints each value into
`translated_value`, appends it to `translated_array` and cuts off the last comma at the end:
`translated_array[strlen(translated_array) - 1] = '\0'`. The pattern of INI lines also accepts
values that consist of blanks only, and then there is no comma, the string is empty and the byte
in front of the array is written.

The model here repeats the loop of `translateValues` with all accesses to the two buffers.

Results:

* `valuesLoop_snd`: the loop with its accesses is the loop of `translateValues`.
* `valuesLoop_inside`: the accesses of the loop are inside of the buffers.
* `translateValues_cases`: the loop fails or appends every value with its prefix and a comma.
* `iniLine_translated_iff`: a line is translated safely and correctly exactly if its value has a
  character that is not a blank.
-/

namespace TiWlan.Wlconf

open TiWlan.Lib

/-! ## Accesses -/

/-- `translated_array` and `translated_value`. -/
inductive IniBuffer
  | array
  | value
  deriving DecidableEq, Repr

/-- `MAX_ARRAY_STR_LEN` and `MAX_VALUE_STR_LEN`. -/
def IniBuffer.size : IniBuffer → ℕ
  | .array => 4096
  | .value => 256

/-- An access to `len` bytes of a buffer, from the index `start` on. -/
structure Access where
  buffer : IniBuffer
  start : ℤ
  len : ℕ
  deriving DecidableEq, Repr

/-- The bytes belong to the buffer. -/
def Access.Inside (a : Access) : Prop := 0 ≤ a.start ∧ a.start + a.len ≤ a.buffer.size

instance (a : Access) : Decidable a.Inside := inferInstanceAs (Decidable (_ ∧ _))

/-- The loop of `translate_ini` over the values (main.c:1014) with its accesses. -/
def valuesLoop (array : CStr) : List CStr → List Access × Except Err CStr
  | [] => ([], .ok array)
  | value :: values =>
    let translatedValue := str "0x" ++ value ++ str ","
    let len := translatedValue.length
    -- `snprintf` writes what fits, with a NUL
    let printed : List Access := [⟨.value, 0, min (len + 1) 256⟩]
    if 256 ≤ len then (printed, .error .error)
    else
      let measured : List Access := [⟨.value, 0, len + 1⟩, ⟨.array, 0, array.length + 1⟩]
      if 4096 ≤ len + array.length then (printed ++ measured, .error .error)
      else
        -- `strncat` looks for the end of the array and copies there
        let appended : List Access :=
          [⟨.array, 0, array.length + 1⟩, ⟨.value, 0, len + 1⟩, ⟨.array, array.length, len + 1⟩]
        let rest := valuesLoop (array ++ translatedValue) values
        (printed ++ measured ++ appended ++ rest.1, rest.2)

/-- The accesses of `translate_ini` to its buffers (main.c:1012–1038); the index of the last comma
is one less than the length, also if that is 0. -/
def iniAccesses (valueArray : CStr) : List Access :=
  let loop := valuesLoop [] (strtokAll isBlank valueArray)
  ⟨.array, 0, 1⟩ :: loop.1 ++
    match loop.2 with
    | .error _ => []
    | .ok array =>
      [⟨.array, 0, array.length + 1⟩, ⟨.array, array.length - 1, 1⟩,
        ⟨.array, 0, array.length - 1 + 1⟩]

theorem valuesLoop_snd (array : CStr) (values : List CStr) :
    (valuesLoop array values).2 = translateValues array values := by
  induction values generalizing array with
  | nil => rfl
  | cons value values ih =>
    rw [valuesLoop, translateValues]
    simp only
    split
    · rfl
    · split
      · rfl
      · exact ih _

/-- The accesses of the loop are inside of the buffers, and so is the string it leaves. -/
theorem valuesLoop_inside (array : CStr) (harray : array.length < 4096) (values : List CStr) :
    (∀ a ∈ (valuesLoop array values).1, a.Inside) ∧
      ∀ array', (valuesLoop array values).2 = .ok array' → array'.length < 4096 := by
  induction values generalizing array with
  | nil =>
    refine ⟨by simp [valuesLoop], fun array' h => ?_⟩
    cases h
    exact harray
  | cons value values ih =>
    rw [valuesLoop]
    simp only
    generalize str "0x" ++ value ++ str "," = translatedValue
    split
    · refine ⟨fun a ha => ?_, fun array' h => by cases h⟩
      rw [List.mem_singleton] at ha
      subst ha
      simp only [Access.Inside, IniBuffer.size]
      omega
    · rename_i hvalue
      split
      · refine ⟨fun a ha => ?_, fun array' h => by cases h⟩
        simp only [List.cons_append, List.nil_append, List.mem_cons, List.not_mem_nil,
          or_false] at ha
        rcases ha with rfl | rfl | rfl <;> simp only [Access.Inside, IniBuffer.size] <;> omega
      · rename_i htotal
        have hlen : (array ++ translatedValue).length < 4096 := by
          rw [List.length_append]
          omega
        obtain ⟨hrest, hlast⟩ := ih _ hlen
        refine ⟨fun a ha => ?_, hlast⟩
        rcases List.mem_append.mp ha with ha | ha
        · simp only [List.cons_append, List.nil_append, List.mem_cons, List.not_mem_nil,
            or_false] at ha
          rcases ha with rfl | rfl | rfl | rfl | rfl | rfl <;>
            simp only [Access.Inside, IniBuffer.size] <;> omega
        · exact hrest a ha

/-- All accesses are inside of the buffers if there is a comma to remove. -/
theorem iniAccesses_inside {value : CStr}
    (hne : translateValues [] (strtokAll isBlank value) ≠ .ok []) :
    ∀ a ∈ iniAccesses value, a.Inside := by
  obtain ⟨hinside, hshort⟩ := valuesLoop_inside [] (by decide) (strtokAll isBlank value)
  rw [← valuesLoop_snd] at hne
  intro a ha
  rw [iniAccesses] at ha
  rcases List.mem_append.mp ha with ha | ha
  · rcases List.mem_cons.mp ha with rfl | ha
    · decide
    · exact hinside a ha
  · cases hend : (valuesLoop [] (strtokAll isBlank value)).2 with
    | error err =>
      simp only [hend] at ha
      cases ha
    | ok array =>
      have hlen := hshort array hend
      have hpos : 0 < array.length := by
        rw [List.length_pos_iff]
        rintro rfl
        exact hne hend
      simp only [hend, List.mem_cons, List.not_mem_nil, or_false] at ha
      rcases ha with rfl | rfl | rfl <;> simp only [Access.Inside, IniBuffer.size] <;> omega

/-! ## The result -/

/-- The comma-separated list of the values, each with the prefix of a hexadecimal number. -/
def iniList (valueArray : CStr) : CStr :=
  List.intercalate (str ",") ((strtokAll isBlank valueArray).map (str "0x" ++ ·))

/-- The loop fails, or it appends every value with its prefix and a comma. -/
theorem translateValues_cases (array : CStr) (values : List CStr) :
    translateValues array values = .error .error ∨
      translateValues array values =
        .ok (array ++ values.flatMap fun value => str "0x" ++ value ++ str ",") := by
  induction values generalizing array with
  | nil => exact Or.inr (by simp [translateValues])
  | cons value values ih =>
    rw [translateValues, List.flatMap_cons]
    generalize str "0x" ++ value ++ str "," = translatedValue
    split
    · exact Or.inl rfl
    · split
      · exact Or.inl rfl
      · have hrest := ih (array ++ translatedValue)
        rwa [List.append_assoc] at hrest

/-- Without the last comma, values that each end in a comma are a comma-separated list. -/
theorem dropLast_flatMap_comma (value : CStr) (values : List CStr) :
    ((value :: values).flatMap fun value => str "0x" ++ value ++ str ",").dropLast =
      List.intercalate (str ",") ((value :: values).map (str "0x" ++ ·)) := by
  induction values generalizing value with
  | nil =>
    have hlast : str "0x" ++ value ++ str "," ++ [] = (str "0x" ++ value) ++ [chr ','] := by
      rw [List.append_nil]
      rfl
    rw [List.flatMap_cons, List.flatMap_nil, hlast, List.dropLast_concat, List.map_cons,
      List.map_nil, List.intercalate_singleton]
  | cons next values ih =>
    have hne : ((next :: values).flatMap fun value => str "0x" ++ value ++ str ",") ≠ [] := by
      simp [str]
    rw [List.flatMap_cons, List.dropLast_append_of_ne_nil hne, ih, List.map_cons, List.map_cons,
      List.map_cons, List.intercalate_cons_cons]

/-- A hexadecimal digit. -/
def isHexDigit (c : UInt8) : Bool :=
  isDigit c || (chr 'A' ≤ c && c ≤ chr 'F') || (chr 'a' ≤ c && c ≤ chr 'f')

/-- A line with this name and this value is translated: the buffers are only accessed inside, and
the result is the list of the hexadecimal numbers of the value, unless the function fails. -/
structure IniTranslated (dict : Dict) (name value : CStr) : Prop where
  inside : ∀ a ∈ iniAccesses value, a.Inside
  result : translateIni dict name value = .error .error ∨
    translateIni dict name value = .ok (translateName dict name, iniList value)
  hex : ∀ token ∈ strtokAll isBlank value, ∀ c ∈ token, isHexDigit c = true

/-! ## Lines -/

/-- What an INI line has for a value are hexadecimal digits and blanks. -/
theorem matchAssign_ini_value {line name value : CStr}
    (h : matchAssign .ini line = some (name, value)) : ∀ c ∈ value, isIniValue c = true := by
  rw [matchAssign] at h
  split at h
  · rename_i hmatch
    cases h
    have hall := matchPieces_classes hmatch
    simp only [TextFileType.pattern, assignPattern, List.forall₂_cons] at hall
    obtain ⟨-, -, -, -, -, -, ⟨-, hvalue⟩, -⟩ := hall
    exact hvalue
  · cases h

theorem isHexDigit_of_ini {c : UInt8} (h : isIniValue c = true) (hblank : isBlank c = false) :
    isHexDigit c = true := by
  rw [isIniValue, hblank, Bool.or_false] at h
  exact h

/-- A line that matches `TEXT_INI_PATTERN` is translated without an access outside of the buffers
and to the list of its values exactly if its value does not consist of blanks only. -/
theorem iniLine_translated_iff (dict : Dict) (line name value : CStr)
    (hmatch : matchAssign .ini line = some (name, value)) :
    IniTranslated dict name value ↔ ∃ c ∈ value, isBlank c = false := by
  constructor
  · intro h
    by_contra hnone
    have hblank : ∀ c ∈ value, isBlank c = true := by
      intro c hc
      by_contra hc'
      exact hnone ⟨c, hc, Bool.eq_false_iff.mpr hc'⟩
    -- without a token the comma is looked for in front of the array
    have htokens := strtokAll_eq_nil_iff.mpr hblank
    have hbefore := h.inside ⟨.array, -1, 1⟩ (by simp [iniAccesses, htokens, valuesLoop])
    exact absurd hbefore.1 (by decide)
  · rintro ⟨c, hc, hnot⟩
    have htokens : strtokAll isBlank value ≠ [] := by
      intro hnil
      rw [strtokAll_eq_nil_iff.mp hnil c hc] at hnot
      cases hnot
    obtain ⟨first, rest, hcons⟩ := List.exists_cons_of_ne_nil htokens
    have hcases := translateValues_cases [] (strtokAll isBlank value)
    rw [List.nil_append] at hcases
    refine ⟨iniAccesses_inside ?_, ?_, fun token htoken x hx => ?_⟩
    · rcases hcases with hfail | hok
      · simp [hfail]
      · rw [hok, hcons]
        simp [str]
    · rw [translateIni, iniList]
      rcases hcases with hfail | hok
      · exact Or.inl (by rw [hfail])
      · refine Or.inr ?_
        rw [hok, hcons, ← dropLast_flatMap_comma]
        rfl
    · obtain ⟨hmem, hnb⟩ := mem_of_mem_strtokAll htoken hx
      exact isHexDigit_of_ini (matchAssign_ini_value hmatch x hmem) hnb

/-- A line with two values, behind two blanks. -/
theorem iniLine_translated_two :
    matchAssign .ini (str "Rate =  1f 02") = some (str "Rate", str "1f 02") ∧
      IniTranslated [] (str "Rate") (str "1f 02") := by
  have hmatch : matchAssign .ini (str "Rate =  1f 02") = some (str "Rate", str "1f 02") := by
    decide +kernel
  exact ⟨hmatch, (iniLine_translated_iff [] _ _ _ hmatch).mpr ⟨chr 'f', by decide, by decide⟩⟩

/-- The line `Mode = ` has one blank for its value: the byte in front of the array is written. -/
theorem iniLine_blank :
    matchAssign .ini (str "Mode = ") = some (str "Mode", str " ") ∧
      ⟨.array, -1, 1⟩ ∈ iniAccesses (str " ") ∧ ¬(⟨.array, -1, 1⟩ : Access).Inside := by
  decide +kernel

end TiWlan.Wlconf
