import TiWlan.Wlconf.Layout

/-!
# What a text file writes

`parse_text_file` looks the elements up in the table and never in the buffer. So the stores of an
accepted file are the same for every buffer (`parseTextFile_writes`): one for each line that is not
empty, with all the bytes of the element that it names.
-/

namespace TiWlan.Wlconf

open TiWlan.Lib

variable {buf buf' : Buffer} {e : Element} {values : List CStr} {ulongBits : ℕ}

/-- The bytes that the values of a line are stored as. -/
def valueBytes (ulongBits : ℕ) (e : Element) (values : List CStr) : List UInt8 :=
  values.flatMap fun value => leBytes (typeSize e.type) (strtoul ulongBits value)

theorem valueBytes_length (ulongBits : ℕ) (e : Element) (values : List CStr) :
    (valueBytes ulongBits e values).length = values.length * typeSize e.type := by
  simp [valueBytes]

/-- The right number of values is stored as one block. -/
theorem setValues_eq {i : ℤ} (h : i + values.length = e.arraySize) (buf : Buffer) (pos : ℕ) :
    setValues ulongBits e buf pos i values =
      (storeAt buf pos (valueBytes ulongBits e values), e.arraySize) := by
  induction values generalizing i buf pos with
  | nil =>
    have hi : i = e.arraySize := by simpa using h
    rw [setValues, hi, valueBytes, List.flatMap_nil, storeAt_nil]
  | cons value values ih =>
    rw [List.length_cons] at h
    rw [setValues, if_neg (by omega), ih (by omega), setData]
    have happend := storeAt_append buf pos (leBytes (typeSize e.type) (strtoul ulongBits value))
      (valueBytes ulongBits e values)
    rw [leBytes_length] at happend
    rw [happend]
    rfl

/-- The counter tells whether the number of values is right. -/
theorem setValues_count {i : ℤ} {pos : ℕ} (hi : i ≤ e.arraySize)
    (h : (setValues ulongBits e buf pos i values).2 = e.arraySize) :
    i + values.length = e.arraySize := by
  induction values generalizing i buf pos with
  | nil => simpa [setValues] using h
  | cons value values ih =>
    rw [setValues] at h
    split_ifs at h with hlt
    · simp only at h
      omega
    · have hrest := ih (by omega) h
      rw [List.length_cons]
      omega

section
variable {ulongBits : ℕ} {T : Table} {s : Structure} {type : TextFileType} {dict : Dict}

/-- A store of the line: it fills the element that the line names. -/
def LineStores (T : Table) (s : Structure) (type : TextFileType) (dict : Dict) (line : CStr)
    (w : ℕ × List UInt8) : Prop :=
  ∃ e values, lineTarget T s type dict line = .ok (w.1, e, values) ∧
    w.2.length = e.arraySize.toNat * typeSize e.type

/-- The stores of a line without errors. -/
theorem parseLine_writes {line : CStr}
    (hsize : ∀ pos e values, lineTarget T s type dict line = .ok (pos, e, values) →
      0 ≤ e.arraySize)
    (h : parseLine ulongBits T s type dict buf line = .ok (buf', 0)) :
    ∃ ws, (∀ w ∈ ws, LineStores T s type dict line w) ∧
      (line ≠ [] → ∃ w ∈ ws, LineStores T s type dict line w) ∧
      ∀ m, parseLine ulongBits T s type dict m line = .ok (storeAll m ws, 0) := by
  by_cases hline : line = []
  · refine ⟨[], by simp, fun hne => absurd hline hne, fun m => ?_⟩
    rw [parseLine, if_pos hline]
    rfl
  · rw [parseLine, if_neg hline] at h
    match htarget : lineTarget T s type dict line with
    | .error .undefined => simp [htarget] at h
    | .error .error => simp [htarget] at h
    | .ok (pos, e, values) =>
      simp only [htarget, Except.ok.injEq, Prod.mk.injEq] at h
      have hcount : (setValues ulongBits e buf pos 0 values).2 = e.arraySize := by
        by_contra hne
        rw [if_neg hne] at h
        exact absurd h.2 (by decide)
      have hlen := setValues_count (hsize pos e values htarget) hcount
      have hstores : LineStores T s type dict line (pos, valueBytes ulongBits e values) := by
        refine ⟨e, values, htarget, ?_⟩
        rw [valueBytes_length, show e.arraySize.toNat = values.length by omega]
      refine ⟨[(pos, valueBytes ulongBits e values)], ?_, fun _ => ?_, fun m => ?_⟩
      · intro w hw
        rw [List.mem_singleton] at hw
        subst hw
        exact hstores
      · exact ⟨_, List.mem_singleton.mpr rfl, hstores⟩
      · rw [parseLine, if_neg hline, htarget]
        simp only [setValues_eq hlen, if_true]
        rfl

/-- The stores of lines without errors. -/
theorem parseLines_writes {lines : List CStr} {n : ℕ}
    (hsize : ∀ line pos e values, lineTarget T s type dict line = .ok (pos, e, values) →
      0 ≤ e.arraySize)
    (h : parseLines ulongBits T s type dict (buf, n) lines = .ok (buf', 0)) :
    n = 0 ∧ ∃ ws, (∀ w ∈ ws, ∃ line ∈ lines, LineStores T s type dict line w) ∧
      (∀ line ∈ lines, line ≠ [] → ∃ w ∈ ws, LineStores T s type dict line w) ∧
      ∀ m, parseLines ulongBits T s type dict (m, 0) lines = .ok (storeAll m ws, 0) := by
  induction lines generalizing buf n with
  | nil =>
    simp only [parseLines, Except.ok.injEq, Prod.mk.injEq] at h
    exact ⟨h.2, [], by simp, by simp, fun m => rfl⟩
  | cons line lines ih =>
    rw [parseLines] at h
    match hline : parseLine ulongBits T s type dict buf line with
    | .error err => simp [hline] at h
    | .ok (buf₁, n₁) =>
      simp only [hline] at h
      obtain ⟨hn, ws, hws, hall, hrun⟩ := ih h
      obtain ⟨rfl, rfl⟩ : n = 0 ∧ n₁ = 0 := by omega
      obtain ⟨ws₁, hws₁, hall₁, hrun₁⟩ := parseLine_writes (hsize line) hline
      refine ⟨rfl, ws₁ ++ ws, ?_, ?_, fun m => ?_⟩
      · intro w hw
        rcases List.mem_append.mp hw with hw | hw
        · exact ⟨line, List.mem_cons_self .., hws₁ w hw⟩
        · obtain ⟨line', hmem, hw'⟩ := hws w hw
          exact ⟨line', List.mem_cons_of_mem _ hmem, hw'⟩
      · intro line' hmem hne
        rcases List.mem_cons.mp hmem with rfl | hmem
        · obtain ⟨w, hw, hst⟩ := hall₁ hne
          exact ⟨w, List.mem_append_left _ hw, hst⟩
        · obtain ⟨w, hw, hst⟩ := hall line' hmem hne
          exact ⟨w, List.mem_append_right _ hw, hst⟩
      · rw [parseLines, hrun₁]
        simp only [Nat.add_zero]
        rw [hrun, storeAll, storeAll, storeAll, List.foldl_append]

/-- An accepted text file stores the same into every buffer. -/
theorem parseTextFile_writes {text : List UInt8}
    (hsize : ∀ line pos e values, lineTarget T s type dict line = .ok (pos, e, values) →
      0 ≤ e.arraySize)
    (h : parseTextFile ulongBits T s type dict buf text = .ok buf') :
    ∃ ws, (∀ w ∈ ws, ∃ line ∈ textLines text, LineStores T s type dict line w) ∧
      (∀ line ∈ textLines text, line ≠ [] → ∃ w ∈ ws, LineStores T s type dict line w) ∧
      ∀ m, parseTextFile ulongBits T s type dict m text = .ok (storeAll m ws) := by
  rw [parseTextFile] at h
  match hlines : parseLines ulongBits T s type dict (buf, 0) (textLines text) with
  | .error err => simp [hlines] at h
  | .ok (buf₁, n) =>
    simp only [hlines] at h
    split_ifs at h with hn
    have hn0 : n = 0 := by omega
    subst hn0
    obtain ⟨-, ws, hws, hall, hrun⟩ := parseLines_writes hsize hlines
    refine ⟨ws, hws, hall, fun m => ?_⟩
    rw [parseTextFile, hrun]
    rfl

end

end TiWlan.Wlconf
