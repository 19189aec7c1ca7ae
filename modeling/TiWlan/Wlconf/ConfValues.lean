import Mathlib.Data.List.DropRight
import TiWlan.Wlconf.DumpImport

/-!
# The values of configuration lines

A line `element = v1, …, vk` of a text configuration sets an element of `k` values
(`parse_text_file`, `ti-utils/wlconf/main.c`, lines 1141–1272). The values are what `strtoul` reads
from the pieces between the commas, and neither the end of the number nor its size is looked at.
`TEXT_CONF_PATTERN` is not anchored at its end, so that what follows the last character of a value
is ignored as well. The only check is that the number of pieces is right.

Results:

* `matchAssign_conf`: the groups that the pattern finds in such a line.
* `parseLine_confLine`: what the line stores, and when it counts as an error.
* `strtoul_confInteger`: a complete integer is read as it is written.
* `confLine_exact_iff`: a line stores its values as they are written, or counts as an error,
  exactly if all of them are integers of the element's type or the number of pieces is wrong.
-/

namespace TiWlan.Wlconf

open TiWlan.Lib

/-! ## The pattern -/

/-- The second group of `TEXT_CONF_PATTERN` in a line with `text` behind the `=`. Blanks in front
belong to it only if there is nothing else. -/
def valueGroup (text : CStr) : CStr :=
  let run := text.takeWhile isConfValue
  run.drop (min (run.takeWhile isBlank).length (run.length - 1))

theorem isBlank_spec : ∀ c : UInt8, isBlank c = true →
    isConfValue c = true ∧ isIdentStart c = false ∧ isPath c = false ∧ c ≠ chr '=' ∧ c ≠ chr ',' ∧
      isSpace c = true ∧ digitVal c = none := by
  exact forall_uint8 (by decide +kernel)

/-- A line `path = text` with blanks around the path. -/
def confLine (ws path ws' text : CStr) : CStr := ws ++ (path ++ (ws' ++ chr '=' :: text))

/-- `[A-Za-z_][A-Za-z0-9_.]*` -/
structure IsPathText (path : CStr) : Prop where
  start : ∃ c rest, path = c :: rest ∧ isIdentStart c = true
  chars : ∀ c ∈ path, isPath c = true

section
variable {ws ws' path : CStr}

theorem head_any_isPath (hws' : ∀ c ∈ ws', isBlank c = true) (text : CStr) :
    (ws' ++ chr '=' :: text).head?.any isPath = false := by
  cases ws' with
  | nil => exact show isPath (chr '=') = false by decide
  | cons c ws' => exact (isBlank_spec c (hws' c (by simp))).2.2.1

/-- The groups of a line. -/
theorem matchAssign_conf (hws : ∀ c ∈ ws, isBlank c = true) (hpath : IsPathText path)
    (hws' : ∀ c ∈ ws', isBlank c = true) (text : CStr) :
    matchAssign .conf (confLine ws path ws' text) =
      if text.takeWhile isConfValue = [] then none else some (path, valueGroup text) := by
  obtain ⟨c, rest, rfl, hc⟩ := hpath.start
  have hrest : ∀ x ∈ rest, isPath x = true := fun x hx => hpath.chars x (by simp [hx])
  have hstop : isBlank c = false := by
    by_contra hb
    have hnot := (isBlank_spec c (by simpa using hb)).2.1
    rw [hc] at hnot
    cases hnot
  have hvalue := matchPieces_star_plus (fun x hx => (isBlank_spec x hx).1) text rfl rfl
  -- the pieces from the right to the left: each one has to take all it can
  have hequal : matchPieces [.one (· = chr '='), .star isBlank, .plus isConfValue]
      (chr '=' :: text) =
      (matchPieces [.star isBlank, .plus isConfValue] text).map ([chr '='] :: ·) :=
    matchPieces_one _ _ _ _
  have hgap := matchPieces_star_forced [.one (· = chr '='), .star isBlank, .plus isConfValue] hws'
    (show (chr '=' :: text).head?.any isBlank = false from rfl) (by
      intro x hx t
      have hne := (isBlank_spec x (hws' x hx)).2.2.2.1
      rw [matchPieces_one, if_neg (by simpa using hne)])
  have hname := matchPieces_star_forced [.star isBlank, .one (· = chr '='), .star isBlank,
    .plus isConfValue] hrest (head_any_isPath hws' text) (by
      intro x hx t
      have hx' := hrest x hx
      have hb : isBlank x = false := (isPath_spec hx').2.2.2
      have hne : x ≠ chr '=' := by
        rintro rfl
        exact absurd hx' (by decide)
      have hnil := matchPieces_star_forced [.one (· = chr '='), .star isBlank, .plus isConfValue]
        (w := []) (by simp) (show (x :: t).head?.any isBlank = false from hb) (by simp)
      rw [List.nil_append] at hnil
      rw [hnil, matchPieces_one, if_neg (by simpa using hne), Option.map_none])
  have hfirst := matchPieces_star_forced [.one isIdentStart, .star isPath, .star isBlank,
    .one (· = chr '='), .star isBlank, .plus isConfValue] hws
    (show (c :: (rest ++ (ws' ++ chr '=' :: text))).head?.any isBlank = false from hstop) (by
      intro x hx t
      have hnot := (isBlank_spec x (hws x hx)).2.1
      rw [matchPieces_one, if_neg (by simp [hnot])])
  rw [matchAssign, confLine, TextFileType.pattern, assignPattern, List.cons_append, hfirst,
    matchPieces_one, if_pos hc, hname, hgap, hequal, hvalue]
  by_cases hrun : text.takeWhile isConfValue = []
  · simp [hrun]
  · simp [hrun, valueGroup]

/-- The pieces between the commas of the second group. -/
def linePieces (text : CStr) : List CStr := strtokAll (· == chr ',') (valueGroup text)

theorem linePieces_of_no_run {text : CStr} (h : text.takeWhile isConfValue = []) :
    linePieces text = [] := by
  simp [linePieces, valueGroup, h, strtokAll]

/-- A line sets its element if it has the right number of pieces. -/
theorem parseLine_confLine (ulongBits : ℕ) {T : Table} {s : Structure} {pos : ℕ} {e : Element}
    (hws : ∀ c ∈ ws, isBlank c = true) (hpath : IsPathText path)
    (hws' : ∀ c ∈ ws', isBlank c = true) (hfind : findElement T s path = .ok (pos, e))
    (htype : e.type < structBase) {k : ℕ} (hk : e.arraySize = k) (hpos : 0 < k) (text : CStr)
    (buf : Buffer) :
    if (linePieces text).length = k then
      parseLine ulongBits T s .conf [] buf (confLine ws path ws' text) =
        .ok (storeAt buf pos (valueBytes ulongBits e (linePieces text)), 0)
    else
      ∃ buf', parseLine ulongBits T s .conf [] buf (confLine ws path ws' text) = .ok (buf', 1) := by
  have hne : confLine ws path ws' text ≠ [] := by simp [confLine]
  have hmatch := matchAssign_conf hws hpath hws' text
  rw [parseLine, if_neg hne, lineTarget, lineNames, hmatch]
  by_cases hrun : text.takeWhile isConfValue = []
  · rw [if_pos hrun, linePieces_of_no_run hrun, List.length_nil, if_neg (by omega)]
    exact ⟨buf, rfl⟩
  · rw [if_neg hrun]
    simp only [hfind, if_neg (show ¬structBase ≤ e.type by omega)]
    by_cases hlen : (linePieces text).length = k
    · rw [if_pos hlen]
      have hset : setValues ulongBits e buf pos 0 (linePieces text) =
          (storeAt buf pos (valueBytes ulongBits e (linePieces text)), e.arraySize) :=
        setValues_eq (by omega) buf pos
      rw [linePieces] at hset
      simp only [hset, if_true]
      rfl
    · rw [if_neg hlen]
      have hcount : (setValues ulongBits e buf pos 0
          (strtokAll (· == chr ',') (valueGroup text))).2 ≠ e.arraySize := by
        intro heq
        have hlen' := setValues_count (by omega) heq
        exact hlen (by rw [linePieces]; omega)
      rw [if_neg hcount]
      exact ⟨_, rfl⟩

end

/-! ## Integers -/

/-- The types `s32`, `s16` and `s8`. -/
def isSigned (type : ℤ) : Bool :=
  ((types[type.toNat]?).map fun t => t.1.head? == some (chr 's')).getD false

/-- How many bits a number of the type has besides its sign. -/
def valueBits (type : ℤ) : ℕ := 8 * typeSize type - if isSigned type then 1 else 0

/-- A text without the blanks around it. -/
def trim (v : CStr) : CStr := (v.dropWhile isBlank).rdropWhile isBlank

/-- The number that a value stands for: a complete decimal, octal or hexadecimal integer that the
type of the element can represent. -/
def confInteger (e : Element) (v : CStr) : Option ℕ :=
  (literal (trim v)).filter (· < 2 ^ valueBits e.type)

theorem eq_append_trim (v : CStr) : ∃ ws t, v = ws ++ trim v ++ t ∧
    (∀ c ∈ ws, isBlank c = true) ∧ ∀ c ∈ t, isBlank c = true := by
  refine ⟨v.takeWhile isBlank, (v.dropWhile isBlank).rtakeWhile isBlank, ?_, ?_, ?_⟩
  · rw [trim, List.append_assoc, List.rdropWhile_append_rtakeWhile, List.takeWhile_append_dropWhile]
  · exact fun c hc => List.mem_takeWhile_imp hc
  · exact fun c hc => List.mem_rtakeWhile_imp hc

theorem valueBits_le {t : ℤ} (h0 : 0 ≤ t) (h1 : t < types.length) :
    valueBits t ≤ 8 * typeSize t ∧ valueBits t ≤ 32 := by
  have hsize := typeSize_cases h0 h1
  unfold valueBits
  omega

section
variable {e : Element} {v : CStr} {n ulongBits : ℕ}

theorem confInteger_eq_some (h : confInteger e v = some n) :
    literal (trim v) = some n ∧ n < 2 ^ valueBits e.type := by
  rw [confInteger, Option.filter_eq_some_iff] at h
  exact ⟨h.1, by simpa using h.2⟩

/-- A complete integer is read as it is written. -/
theorem strtoul_confInteger (hbits : valueBits e.type ≤ ulongBits) (h : confInteger e v = some n) :
    strtoul ulongBits v = n := by
  obtain ⟨hliteral, hlt⟩ := confInteger_eq_some h
  obtain ⟨ws, t, hv, hws, ht⟩ := eq_append_trim v
  rw [hv]
  refine strtoul_literal (fun c hc => (isBlank_spec c (hws c hc)).2.2.2.2.2.1) hliteral
    (fun c hc => (isBlank_spec c (ht c hc)).2.2.2.2.2.2) ?_
  exact lt_of_lt_of_le hlt (Nat.pow_le_pow_right (by decide) hbits)

theorem confInteger_dropWhile (e : Element) (v : CStr) :
    confInteger e (v.dropWhile isBlank) = confInteger e v := by
  rw [confInteger, confInteger, trim, trim, List.dropWhile_idempotent]

theorem digitVal_isConfValue : ∀ c : UInt8, digitVal c ≠ none →
    isConfValue c = true ∧ isBlank c = false := by
  exact forall_uint8 (by decide +kernel)

/-- An integer consists of characters of values and has one that is not a blank. -/
theorem confInteger_chars (h : confInteger e v = some n) :
    (∀ c ∈ v, isConfValue c = true) ∧ v.dropWhile isBlank ≠ [] := by
  obtain ⟨hliteral, -⟩ := confInteger_eq_some h
  obtain ⟨hne, hdigits⟩ := literal_chars hliteral
  obtain ⟨ws, t, hv, hws, ht⟩ := eq_append_trim v
  constructor
  · intro c hc
    rw [hv] at hc
    simp only [List.mem_append] at hc
    rcases hc with (hc | hc) | hc
    · exact (isBlank_spec c (hws c hc)).1
    · exact (digitVal_isConfValue c (hdigits c hc)).1
    · exact (isBlank_spec c (ht c hc)).1
  · intro hnil
    rw [trim, hnil] at hne
    exact hne rfl

end

/-! ## Lines of integers -/

/-- `v1, …, vk` -/
def commaList (vs : List CStr) : CStr := List.intercalate [chr ','] vs

theorem commaList_cons (vs : List CStr) :
    ∃ tail, ∀ v, commaList (v :: vs) = v ++ tail := by
  cases vs with
  | nil => exact ⟨[], fun v => by rw [commaList, List.intercalate_singleton, List.append_nil]⟩
  | cons w vs =>
    refine ⟨[chr ','] ++ commaList (w :: vs), fun v => ?_⟩
    rw [commaList, List.intercalate_cons_cons, List.append_assoc]
    rfl

/-- The characters of a list are those of its values and commas. -/
theorem mem_commaList {vs : List CStr} (hne : vs ≠ []) (hcomma : ∀ v ∈ vs, chr ',' ∉ v) {c : UInt8}
    (hc : c ∈ commaList vs) : c = chr ',' ∨ ∃ v ∈ vs, c ∈ v := by
  by_cases heq : c = chr ','
  · exact Or.inl heq
  · refine Or.inr ?_
    have hsplit : (commaList vs).splitOnP (· == chr ',') = vs :=
      List.splitOn_intercalate _ hcomma hne
    have hmem : c ∈ (commaList vs).filter (!(· == chr ',') ·) :=
      List.mem_filter.mpr ⟨hc, by simpa using heq⟩
    rw [← flatten_splitOnP, hsplit] at hmem
    exact List.mem_flatten.mp hmem

section
variable {e : Element} {v : CStr} {vs : List CStr}

/-- The pieces of a list of integers are its values, the first one without blanks in front. -/
theorem linePieces_commaList (hcomma : ∀ w ∈ v :: vs, chr ',' ∉ w)
    (h : ∀ w ∈ v :: vs, confInteger e w ≠ none) :
    linePieces (commaList (v :: vs)) = v.dropWhile isBlank :: vs := by
  have hspec (w : CStr) (hw : w ∈ v :: vs) :
      (∀ c ∈ w, isConfValue c = true) ∧ w.dropWhile isBlank ≠ [] := by
    obtain ⟨n, hn⟩ := Option.ne_none_iff_exists'.mp (h w hw)
    exact confInteger_chars hn
  have hall : ∀ c ∈ commaList (v :: vs), isConfValue c = true := by
    intro c hc
    rcases mem_commaList (by simp) hcomma hc with rfl | ⟨w, hw, hcw⟩
    · decide
    · exact (hspec w hw).1 c hcw
  obtain ⟨tail, htail⟩ := commaList_cons vs
  obtain ⟨d, ds, hd⟩ := List.exists_cons_of_ne_nil (hspec v (by simp)).2
  have hdb : isBlank d = false := by
    have hhead := List.head_dropWhile_not isBlank (hspec v (by simp)).2
    simpa [hd] using hhead
  have htext : commaList (v :: vs) = v.takeWhile isBlank ++ (d :: ds ++ tail) := by
    rw [htail, ← List.append_assoc, ← hd, List.takeWhile_append_dropWhile]
  have hblanks : (v.takeWhile isBlank ++ (d :: ds ++ tail)).takeWhile isBlank =
      v.takeWhile isBlank := takeWhile_append_stop (fun c hc => List.mem_takeWhile_imp hc) hdb
  have hgroup : valueGroup (commaList (v :: vs)) = commaList (v.dropWhile isBlank :: vs) := by
    rw [valueGroup, List.takeWhile_eq_self_iff.mpr hall, htail (v.dropWhile isBlank), hd, htext,
      hblanks, Nat.min_eq_left, List.drop_left]
    simp only [List.length_append, List.length_cons]
    omega
  rw [linePieces, hgroup]
  refine strtokAll_intercalate (by simp) fun w hw => ?_
  rcases List.mem_cons.mp hw with rfl | hw
  · refine ⟨fun hmem => hcomma v (by simp) ?_, (hspec v (by simp)).2⟩
    exact (List.dropWhile_suffix isBlank).subset hmem
  · refine ⟨hcomma w (by simp [hw]), fun hnil => (hspec w (by simp [hw])).2 ?_⟩
    rw [hnil]
    rfl

/-- A list of integers is stored as it is written. -/
theorem valueBytes_commaList {ulongBits : ℕ} (hbits : valueBits e.type ≤ ulongBits)
    (hcomma : ∀ w ∈ v :: vs, chr ',' ∉ w) (h : ∀ w ∈ v :: vs, confInteger e w ≠ none) :
    valueBytes ulongBits e (linePieces (commaList (v :: vs))) =
      valueBytes ulongBits e (v :: vs) := by
  obtain ⟨n, hn⟩ := Option.ne_none_iff_exists'.mp (h v (by simp))
  have hfirst : strtoul ulongBits (v.dropWhile isBlank) = strtoul ulongBits v := by
    rw [strtoul_confInteger hbits hn,
      strtoul_confInteger hbits ((confInteger_dropWhile e v).trans hn)]
  rw [linePieces_commaList hcomma h, valueBytes, valueBytes, List.flatMap_cons, List.flatMap_cons,
    hfirst]

end

/-- The line stores its values as they are written, or it counts as an error. -/
structure LineExact (ulongBits : ℕ) (T : Table) (s : Structure) (line : CStr) (pos : ℕ)
    (e : Element) (vs : List CStr) : Prop where
  stored : ∀ buf buf', parseLine ulongBits T s .conf [] buf line = .ok (buf', 0) →
    ∃ ns, List.Forall₂ (fun v n => confInteger e v = some n) vs ns ∧
      buf' = storeAt buf pos (ns.flatMap (leBytes (typeSize e.type)))
  rejected : (∃ v ∈ vs, confInteger e v = none) → ∀ buf, ∃ buf',
    parseLine ulongBits T s .conf [] buf line = .ok (buf', 1)

/-- A line `element = v1, …, vk` for an element with `k` values of a base type stores the integers
that it has, and counts as an error if it has others, exactly if all its values are integers that
the type can represent, or if the number of pieces that are found is not `k` anyway. -/
theorem confLine_exact_iff (ulongBits : ℕ) (hbits : 32 ≤ ulongBits) (T : Table) (s : Structure)
    (ws path ws' : CStr) (hws : ∀ c ∈ ws, isBlank c = true) (hpath : IsPathText path)
    (hws' : ∀ c ∈ ws', isBlank c = true) (pos : ℕ) (e : Element)
    (hfind : findElement T s path = .ok (pos, e)) (hleaf : 0 ≤ e.type ∧ e.type < types.length)
    (vs : List CStr) (hne : vs ≠ []) (hcount : e.arraySize = vs.length)
    (hcomma : ∀ v ∈ vs, chr ',' ∉ v) :
    LineExact ulongBits T s (confLine ws path ws' (commaList vs)) pos e vs ↔
      (∀ v ∈ vs, confInteger e v ≠ none) ∨ (linePieces (commaList vs)).length ≠ vs.length := by
  have hparse := parseLine_confLine ulongBits hws hpath hws' hfind
    (base_lt hleaf.2) hcount (List.length_pos_iff.mpr hne) (commaList vs)
  constructor
  · intro h
    by_contra hnot
    simp only [not_or, not_forall, not_not] at hnot
    obtain ⟨⟨v, hv, hinvalid⟩, hlen⟩ := hnot
    -- the right number of pieces is accepted, whatever they are
    obtain ⟨buf', hone⟩ := h.rejected ⟨v, hv, hinvalid⟩ fun _ => 0
    have hzero := hparse fun _ => 0
    rw [if_pos hlen, hone] at hzero
    cases hzero
  · intro h
    by_cases hvalid : ∀ v ∈ vs, confInteger e v ≠ none
    · refine ⟨fun buf buf' hok => ?_, fun ⟨v, hv, hnone⟩ => absurd hnone (hvalid v hv)⟩
      obtain ⟨v, rest, rfl⟩ := List.exists_cons_of_ne_nil hne
      have hbits' : valueBits e.type ≤ ulongBits := by
        have := (valueBits_le hleaf.1 hleaf.2).2
        omega
      refine ⟨(v :: rest).map (strtoul ulongBits), ?_, ?_⟩
      · rw [List.forall₂_map_right_iff, List.forall₂_same]
        intro w hw
        obtain ⟨n, hn⟩ := Option.ne_none_iff_exists'.mp (hvalid w hw)
        rw [strtoul_confInteger hbits' hn, hn]
      · have hzero := hparse buf
        have hlen : (linePieces (commaList (v :: rest))).length = (v :: rest).length := by
          rw [linePieces_commaList hcomma hvalid]
          rfl
        rw [if_pos hlen, hok, valueBytes_commaList hbits' hcomma hvalid] at hzero
        cases hzero
        rw [List.flatMap_map]
        rfl
    · have hlen := h.resolve_left hvalid
      have hone (buf : Buffer) := hparse buf
      simp only [if_neg hlen] at hone
      refine ⟨fun buf buf' hok => ?_, fun _ => hone⟩
      obtain ⟨buf₁, hbuf₁⟩ := hone buf
      rw [hok] at hbuf₁
      cases hbuf₁

/-- An octal and a decimal number for an array of two bytes. -/
theorem confLine_exact_two :
    let e : Element := ⟨str "flags", 2, 2, 2⟩
    let vs := [str " 010", str " 255"]
    findElement sampleTable sampleRoot (str "rates.flags") = .ok (14, e) ∧
      confLine [] (str "rates.flags") (str " ") (commaList vs) = str "rates.flags = 010, 255" ∧
      LineExact 32 sampleTable sampleRoot (str "rates.flags = 010, 255") 14 e vs := by
  intro e vs
  have hfind : findElement sampleTable sampleRoot (str "rates.flags") = .ok (14, e) := by decide
  have hline : confLine [] (str "rates.flags") (str " ") (commaList vs) =
      str "rates.flags = 010, 255" := by decide
  refine ⟨hfind, hline, hline ▸ (confLine_exact_iff 32 (le_refl 32) sampleTable sampleRoot []
    (str "rates.flags") (str " ") (by simp) ⟨⟨_, _, rfl, by decide⟩, ?_⟩ ?_ 14 e hfind (by decide)
    vs
    (by decide) rfl ?_).mpr (Or.inl ?_)⟩
  · exact forall_mem_of_all (by decide)
  · exact forall_mem_of_all (by decide)
  · decide
  · decide +kernel

/-- Numbers out of range, negative numbers, words and trailing characters are stored as something
else, and no error is counted. -/
theorem confLine_garbage :
    let e : Element := ⟨str "mode", 2, 1, 20⟩
    findElement sampleTable sampleRoot (str "mode") = .ok (20, e) ∧
      ([str " 300", str " -1", str " up", str " 7x"].map fun v =>
        (confInteger e v,
          (parseLine 32 sampleTable sampleRoot .conf [] (fun _ => 255)
            (confLine [] (str "mode") (str " ") (commaList [v]))).map fun r => (r.1 20, r.2))) =
      [(none, .ok (44, 0)), (none, .ok (0, 0)), (none, .ok (0, 0)), (none, .ok (7, 0))] := by
  decide +kernel

end TiWlan.Wlconf
